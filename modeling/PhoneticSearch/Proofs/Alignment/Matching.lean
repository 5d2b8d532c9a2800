import Mathlib.Data.List.Nodup
import PhoneticSearch.Alignment
import PhoneticSearch.Proofs.Outcome

/-!
# Alignments match phones with phones

The positions of an alignment are those of phones, and none is in two pairs (`Matches`).
Two positions are then partners of each other (`Matches.partner?_comm`), and when the two
transcriptions are exchanged, so are the sides (`partner?_exchanged`).
-/

namespace PhoneticSearch

namespace Side

/-- What belongs to each of the two sides. -/
def choose {α : Type} (target actual : α) : Side → α
  | .target => target
  | .actual => actual

end Side

namespace Transcription

/-! ### The positions of phones -/

theorem mem_phonePositionsFrom {t : Transcription} : ∀ {offset i : Nat},
    i ∈ phonePositionsFrom offset t ↔ ∃ k p, i = offset + k ∧ t.phoneAt? k = some p := by
  induction t with
  | nil => intro offset i; simp [phonePositionsFrom, phoneAt?]
  | cons e t ih =>
    intro offset i
    -- The phones behind the first element are those of the rest, one position further on.
    have hrest : i ∈ phonePositionsFrom (offset + 1) t ↔
        ∃ k p, i = offset + (k + 1) ∧ phoneAt? (e :: t) (k + 1) = some p := by
      rw [ih]
      simp only [phoneAt?, List.getElem?_cons_succ, Nat.add_assoc, Nat.add_comm 1]
    have hsplit : (∃ k p, i = offset + k ∧ phoneAt? (e :: t) k = some p) ↔
        (i = offset ∧ e.isPhone = true) ∨ i ∈ phonePositionsFrom (offset + 1) t := by
      rw [hrest]
      constructor
      · rintro ⟨k, p, hi, hp⟩
        cases k with
        | zero =>
          refine .inl ⟨hi, ?_⟩
          cases e with
          | phone _ => rfl
          | stress _ | syllableBoundary | wordBoundary | pause _ => cases hp
        | succ k => exact .inr ⟨k, p, hi, hp⟩
      · rintro (⟨rfl, he⟩ | ⟨k, p, hi, hp⟩)
        · cases e with
          | phone p => exact ⟨0, p, rfl, rfl⟩
          | _ => cases he
        · exact ⟨k + 1, p, hi, hp⟩
    rw [hsplit, phonePositionsFrom]
    cases he : e.isPhone <;> simp

theorem mem_phonePositions {t : Transcription} {i : Nat} :
    i ∈ t.phonePositions ↔ ∃ p, t.phoneAt? i = some p := by
  simp [phonePositions, mem_phonePositionsFrom]

/-- The phones at their positions are the phones in order. -/
theorem filterMap_phonePositionsFrom : ∀ t before : Transcription,
    (phonePositionsFrom before.length t).filterMap (phoneAt? (before ++ t)) = t.phones := by
  intro t
  induction t with
  | nil => intro before; rfl
  | cons e t ih =>
    intro before
    have hrest : (phonePositionsFrom (before.length + 1) t).filterMap
        (phoneAt? (before ++ e :: t)) = phones t := by
      rw [← ih (before ++ [e]), List.length_append, List.append_assoc]
      rfl
    have hhead : phoneAt? (before ++ e :: t) before.length = e.phone? := by
      simp [phoneAt?]
    cases e with
    | phone p => exact (List.filterMap_cons_some hhead).trans (congrArg (p :: ·) hrest)
    | stress _ | syllableBoundary | wordBoundary | pause _ => exact hrest

theorem filterMap_phonePositions (t : Transcription) :
    t.phonePositions.filterMap t.phoneAt? = t.phones :=
  filterMap_phonePositionsFrom t []

theorem length_phonePositions (t : Transcription) : t.phonePositions.length = t.phones.length := by
  have hfrom : ∀ (t : Transcription) (offset : Nat),
      (phonePositionsFrom offset t).length = t.phones.length := by
    intro t
    induction t with
    | nil => intro offset; rfl
    | cons e t ih =>
      intro offset
      cases e with
      | phone p => exact congrArg (· + 1) (ih (offset + 1))
      | stress _ | syllableBoundary | wordBoundary | pause _ => exact ih (offset + 1)
  exact hfrom t 0

theorem phonePositionsFrom_pairwise {t : Transcription} : ∀ {offset : Nat},
    (phonePositionsFrom offset t).Pairwise (· < ·) := by
  induction t with
  | nil => intro offset; exact .nil
  | cons e t ih =>
    intro offset
    rw [phonePositionsFrom]
    split
    · refine List.pairwise_cons.mpr ⟨fun i hi => ?_, ih⟩
      obtain ⟨k, p, rfl, -⟩ := mem_phonePositionsFrom.mp hi
      omega
    · exact ih

theorem phonePositions_nodup (t : Transcription) : t.phonePositions.Nodup :=
  phonePositionsFrom_pairwise.imp Nat.ne_of_lt

end Transcription

/-! ### Exchanging the sides -/

/-- A pair with its sides exchanged. -/
def AlignedPair.exchanged (p : AlignedPair) : AlignedPair := ⟨p.actual, p.target⟩

@[simp] theorem AlignedPair.at_exchanged (p : AlignedPair) (side : Side) :
    p.exchanged.at side = p.at side.other := by
  cases side <;> rfl

namespace Alignment

/-- An alignment with the sides of each pair exchanged. -/
def exchanged (a : Alignment) : Alignment := ⟨a.pairs.map AlignedPair.exchanged⟩

@[simp] theorem exchanged_exchanged (a : Alignment) : a.exchanged.exchanged = a := by
  obtain ⟨pairs⟩ := a
  simp [exchanged, Function.comp_def, AlignedPair.exchanged]

@[simp] theorem partner?_exchanged (a : Alignment) (side : Side) (i : Nat) :
    a.exchanged.partner? side i = a.partner? side.other i := by
  simp only [partner?, exchanged, List.find?_map, Function.comp_def, AlignedPair.at_exchanged]
  cases a.pairs.find? (·.at side.other == some i) with
  | none => rfl
  | some p => exact p.at_exchanged side.other

theorem partners_exchanged (a : Alignment) (side : Side) (span : Span) :
    a.exchanged.partners side.other span = a.partners side span := by
  simp only [partners, exchanged, List.filterMap_map, Function.comp_def, AlignedPair.at_exchanged,
    Side.other_other]

@[simp] theorem project_exchanged (a : Alignment) (side : Side) (span : Span) :
    a.exchanged.project side.other span = a.project side span := by
  simp only [project, partners_exchanged]

/-! ### Matchings -/

/-- The positions of one side in the pairs of an alignment. -/
def positions (a : Alignment) (side : Side) : List Nat := a.pairs.filterMap (·.at side)

/-- Whether an alignment matches phones of two transcriptions with each other. -/
structure Matches (a : Alignment) (t : Side → Transcription) : Prop where
  nodup : ∀ side, (a.positions side).Nodup
  phones : ∀ side, ∀ i ∈ a.positions side, i ∈ (t side).phonePositions

theorem positions_exchanged (a : Alignment) (side : Side) :
    a.exchanged.positions side = a.positions side.other := by
  simp only [positions, exchanged, List.filterMap_map, Function.comp_def, AlignedPair.at_exchanged]

theorem Matches.exchanged {a : Alignment} {t : Side → Transcription} (h : a.Matches t) :
    a.exchanged.Matches fun side => t side.other where
  nodup side := by
    rw [positions_exchanged]
    exact h.nodup side.other
  phones side i hi := by
    rw [positions_exchanged] at hi
    exact h.phones side.other i hi

/-- Only one pair has a position on a side. -/
theorem eq_of_at_eq {a : Alignment} {side : Side} (h : (a.positions side).Nodup) :
    ∀ p ∈ a.pairs, ∀ q ∈ a.pairs, ∀ i, p.at side = some i → q.at side = some i → p = q := by
  have hpairs := List.pairwise_filterMap.mp h
  refine List.Pairwise.forall_of_forall_of_flip (fun _ _ _ _ _ => rfl) (hpairs.imp ?_)
    (hpairs.imp ?_)
  · intro p q hne i hp hq
    exact absurd rfl (hne i hp i hq)
  · intro p q hne i hq hp
    exact absurd rfl (hne i hp i hq)

variable {a : Alignment} {t : Side → Transcription}

/-- Partners are the two positions of a pair. -/
theorem Matches.partner?_eq_some (h : a.Matches t) {side : Side} {i j : Nat} :
    a.partner? side i = some j ↔
      ∃ p ∈ a.pairs, p.at side = some i ∧ p.at side.other = some j := by
  have hfound : ∀ {p : AlignedPair}, a.pairs.find? (·.at side == some i) = some p →
      p ∈ a.pairs ∧ p.at side = some i :=
    fun hfind => ⟨List.mem_of_find?_eq_some hfind, by simpa using List.find?_some hfind⟩
  rw [partner?, Option.bind_eq_some_iff]
  constructor
  · rintro ⟨p, hfind, hj⟩
    exact ⟨p, (hfound hfind).1, (hfound hfind).2, hj⟩
  · rintro ⟨p, hp, hi, hj⟩
    have hsome : (a.pairs.find? (·.at side == some i)).isSome = true :=
      List.find?_isSome.mpr ⟨p, hp, by simpa using hi⟩
    obtain ⟨q, hfind⟩ := Option.isSome_iff_exists.mp hsome
    have hpq : p = q := eq_of_at_eq (h.nodup side) p hp q (hfound hfind).1 i hi (hfound hfind).2
    exact ⟨q, hfind, hpq ▸ hj⟩

/-- The partner of a position has that position as its partner. -/
theorem Matches.partner?_comm (h : a.Matches t) {side : Side} {i j : Nat} :
    a.partner? side i = some j ↔ a.partner? side.other j = some i := by
  rw [h.partner?_eq_some, h.partner?_eq_some, Side.other_other]
  simp only [and_comm]

/-- Partners are phones. -/
theorem Matches.partner?_phone (h : a.Matches t) {side : Side} {i j : Nat}
    (hpartner : a.partner? side i = some j) : ∃ p, (t side.other).phoneAt? j = some p := by
  obtain ⟨p, hp, -, hj⟩ := h.partner?_eq_some.mp hpartner
  exact Transcription.mem_phonePositions.mp
    (h.phones side.other j (List.mem_filterMap.mpr ⟨p, hp, hj⟩))

end Alignment

end PhoneticSearch
