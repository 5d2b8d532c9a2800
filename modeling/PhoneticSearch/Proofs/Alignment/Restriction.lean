import PhoneticSearch.Proofs.Alignment.Matching
import PhoneticSearch.Proofs.Transcription.Subsection

/-!
# Alignments of parts

The alignment of a part of each transcription has what the pairs of the whole have in the parts,
counted from where these start (`AlignedPair.restrict`).  A pair that has one position in its part
is kept with that position alone, and a pair that has none is left out.  What is kept matches the
phones of the parts (`Matches.restrict`), so that two positions of the parts are partners if and
only if they are partners in the whole (`Matches.partner?_restrict`).
-/

namespace PhoneticSearch

/-! ### Positions of parts -/

/-- A span has the positions behind its start that are less than its length away. -/
theorem Span.contains_iff_exists {s : Span} {i : Nat} :
    s.contains i = true ↔ ∃ k, k < s.length ∧ i = s.start + k := by
  rw [mem_iff, length]
  constructor
  · rintro ⟨hle, hlt⟩
    exact ⟨i - s.start, by omega, by omega⟩
  · rintro ⟨k, hk, rfl⟩
    omega

/-- The phones of a part are those of the whole behind its start. -/
theorem Transcription.phoneAt?_subsection {t : Transcription} {s : Span} {k : Nat}
    (h : k < s.length) : (t.subsection s).phoneAt? k = t.phoneAt? (s.start + k) := by
  have hlt : s.start + k < s.stop := by
    rw [Span.length] at h
    omega
  rw [phoneAt?, phoneAt?, subsection, List.getElem?_drop, List.getElem?_take_of_lt hlt]

namespace AlignedPair

/-- What a pair has in parts, counted from where these start. -/
def restrict (r : Side → Span) (p : AlignedPair) : AlignedPair :=
  ⟨(p.target.filter (r .target).contains).map (· - (r .target).start),
    (p.actual.filter (r .actual).contains).map (· - (r .actual).start)⟩

theorem at_restrict (r : Side → Span) (p : AlignedPair) (side : Side) :
    (p.restrict r).at side =
      ((p.at side).filter (r side).contains).map (· - (r side).start) := by
  cases side <;> rfl

theorem at_restrict_eq_some {r : Side → Span} {p : AlignedPair} {side : Side} {k : Nat} :
    (p.restrict r).at side = some k ↔
      k < (r side).length ∧ p.at side = some ((r side).start + k) := by
  simp only [at_restrict, Option.map_eq_some_iff, Option.filter_eq_some_iff,
    Span.contains_iff_exists]
  constructor
  · rintro ⟨_, ⟨hi, k, hk, rfl⟩, rfl⟩
    rw [Nat.add_sub_cancel_left]
    exact ⟨hk, hi⟩
  · rintro ⟨hk, hi⟩
    exact ⟨_, ⟨hi, k, hk, rfl⟩, Nat.add_sub_cancel_left _ _⟩

theorem eq_empty_iff {p : AlignedPair} : p = ⟨none, none⟩ ↔ ∀ side, p.at side = none := by
  obtain ⟨target, actual⟩ := p
  simp only [mk.injEq]
  exact ⟨fun h side => side.casesOn h.1 h.2, fun h => ⟨h .target, h .actual⟩⟩

end AlignedPair

namespace Alignment

variable {a : Alignment} {t : Side → Transcription} {r : Side → Span} {side : Side}

/-- The alignment of parts has what is left of the pairs, as far as that is something. -/
theorem pairs_restrict (a : Alignment) (r : Side → Span) :
    (a.restrict (r .target) (r .actual)).pairs =
      (a.pairs.map (·.restrict r)).filter (· ≠ ⟨none, none⟩) := by
  rw [List.filter_map, ← List.filterMap_eq_filter, List.map_filterMap, restrict]
  refine List.filterMap_congr fun p _ => ?_
  obtain ⟨target, actual⟩ := p
  cases h : target.filter (r .target).contains <;>
    cases h' : actual.filter (r .actual).contains <;>
      simp [AlignedPair.restrict, Option.guard, h, h']

theorem positions_restrict (a : Alignment) (r : Side → Span) (side : Side) :
    (a.restrict (r .target) (r .actual)).positions side =
      ((a.positions side).filter (r side).contains).map (· - (r side).start) := by
  have hkept : ∀ pairs : List AlignedPair,
      (pairs.filter (· ≠ ⟨none, none⟩)).filterMap (·.at side) = pairs.filterMap (·.at side) := by
    intro pairs
    rw [List.filterMap_filter]
    refine List.filterMap_congr fun p _ => ?_
    by_cases hp : p = ⟨none, none⟩
    · simp [hp, AlignedPair.eq_empty_iff.mp rfl side]
    · simp [hp]
  rw [positions, pairs_restrict, hkept, List.filterMap_map, positions, List.filter_filterMap,
    List.map_filterMap]
  exact congrArg (List.filterMap · a.pairs) (funext fun p => p.at_restrict r side)

/-- The alignment of parts matches their phones. -/
theorem Matches.restrict (h : a.Matches t) (r : Side → Span) :
    (a.restrict (r .target) (r .actual)).Matches fun side => (t side).subsection (r side) where
  nodup side := by
    rw [positions_restrict]
    refine ((h.nodup side).filter _).map_on fun i hi j hj heq => ?_
    have hi := Span.mem_iff.mp (List.mem_filter.mp hi).2
    have hj := Span.mem_iff.mp (List.mem_filter.mp hj).2
    omega
  phones side k hk := by
    rw [positions_restrict] at hk
    obtain ⟨i, hi, rfl⟩ := List.mem_map.mp hk
    obtain ⟨hi, hin⟩ := List.mem_filter.mp hi
    obtain ⟨k, hlt, rfl⟩ := Span.contains_iff_exists.mp hin
    rw [Transcription.mem_phonePositions, Nat.add_sub_cancel_left,
      Transcription.phoneAt?_subsection hlt]
    exact Transcription.mem_phonePositions.mp (h.phones side _ hi)

/-- Positions of parts are partners if and only if they are so in the whole. -/
theorem Matches.partner?_restrict (h : a.Matches t) {k l : Nat} :
    (a.restrict (r .target) (r .actual)).partner? side k = some l ↔
      k < (r side).length ∧ l < (r side.other).length ∧
        a.partner? side ((r side).start + k) = some ((r side.other).start + l) := by
  have hpairs : ∀ q, q ∈ (a.restrict (r .target) (r .actual)).pairs ↔
      q ≠ ⟨none, none⟩ ∧ ∃ p ∈ a.pairs, p.restrict r = q := by
    intro q
    rw [pairs_restrict, List.mem_filter, List.mem_map, and_comm, decide_eq_true_eq]
  simp only [(h.restrict r).partner?_eq_some, h.partner?_eq_some, hpairs]
  constructor
  · rintro ⟨_, ⟨-, p, hp, rfl⟩, hk, hl⟩
    obtain ⟨hk, hi⟩ := AlignedPair.at_restrict_eq_some.mp hk
    obtain ⟨hl, hj⟩ := AlignedPair.at_restrict_eq_some.mp hl
    exact ⟨hk, hl, p, hp, hi, hj⟩
  · rintro ⟨hk, hl, p, hp, hi, hj⟩
    have hk := AlignedPair.at_restrict_eq_some.mpr ⟨hk, hi⟩
    refine ⟨_, ⟨fun hempty => ?_, p, hp, rfl⟩, hk, AlignedPair.at_restrict_eq_some.mpr ⟨hl, hj⟩⟩
    rw [AlignedPair.eq_empty_iff.mp hempty side] at hk
    cases hk

end Alignment

end PhoneticSearch
