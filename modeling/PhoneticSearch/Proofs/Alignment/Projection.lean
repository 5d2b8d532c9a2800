import PhoneticSearch.Proofs.Alignment.Matching
import PhoneticSearch.Proofs.Span

/-!
# Projections are hulls

The projection of a span is the hull of the partners of its positions: the least span with all of
them, which starts and ends with one of them (`Matches.isHull_project`).  That it grows with the
span (`Matches.project_mono`) and that it leads back to every position with a partner
(`Matches.exists_project_other`) is read off what a hull is.

Where positions are words the projection is found in one pass, which starts from the greatest word
and tells by it that there were no partners (`projectWord_eq_foldl`).  In transcriptions that are
shorter than there are words this is the same projection (`Matches.projectWord_eq_project`).
-/

namespace PhoneticSearch

/-! ### Hulls -/

namespace Span

/-- Whether a span has all positions of a kind and starts and ends with one of them. -/
structure IsHull (s : Span) (P : Nat → Prop) : Prop where
  covers : ∀ i, P i → s.contains i = true
  first : P s.start
  last : ∃ i, P i ∧ s.stop = i + 1

variable {s s' : Span} {P P' : Nat → Prop}

/-- No smaller span has all the positions. -/
theorem IsHull.least (h : s.IsHull P) (hcovers : ∀ i, P i → s'.contains i = true) :
    s'.encloses s = true := by
  obtain ⟨i, hi, hstop⟩ := h.last
  have hstart := mem_iff.mp (hcovers _ h.first)
  have hend := mem_iff.mp (hcovers i hi)
  rw [encloses_iff]
  omega

theorem IsHull.mono (h : s.IsHull P) (h' : s'.IsHull P') (hP : ∀ i, P i → P' i) :
    s'.encloses s = true :=
  h.least fun i hi => h'.covers i (hP i hi)

theorem IsHull.congr (h : s.IsHull P) (hP : ∀ i, P i ↔ P' i) : s.IsHull P' where
  covers i hi := h.covers i ((hP i).mpr hi)
  first := (hP _).mp h.first
  last := h.last.imp fun i => And.imp_left (hP i).mp

end Span

namespace Alignment

variable {a : Alignment} {t : Side → Transcription} {side : Side} {span s : Span} {i j : Nat}

/-! ### Partners -/

/-- Whether a position is the partner of a position in a span. -/
def PartnerOf (a : Alignment) (side : Side) (span : Span) (j : Nat) : Prop :=
  ∃ i, span.contains i = true ∧ a.partner? side i = some j

theorem Matches.mem_partners (h : a.Matches t) :
    j ∈ a.partners side span ↔ a.PartnerOf side span j := by
  simp only [partners, List.mem_filterMap, Option.ite_none_right_eq_some, Option.any_eq_true,
    PartnerOf, h.partner?_eq_some]
  constructor
  · rintro ⟨p, hp, ⟨i, hi, hin⟩, hj⟩
    exact ⟨i, hin, p, hp, hi, hj⟩
  · rintro ⟨i, hin, p, hp, hi, hj⟩
    exact ⟨p, hp, ⟨i, hi, hin⟩, hj⟩

theorem project_eq_none_iff : a.project side span = none ↔ a.partners side span = [] := by
  rw [project]
  split <;> simp [*]

/-- A projection runs from the least partner to the greatest one. -/
theorem project_eq_some_iff : a.project side span = some s ↔
    (a.partners side span).min? = some s.start ∧
      (a.partners side span).max?.map (· + 1) = some s.stop := by
  rw [project]
  split
  · next hnone => simp [hnone]
  · next i rest hsome =>
    obtain ⟨start, stop⟩ := s
    rw [hsome, List.min?_cons', List.max?_cons']
    simp

theorem isHull_partners (h : a.project side span = some s) :
    s.IsHull (· ∈ a.partners side span) := by
  obtain ⟨hmin, hmax⟩ := project_eq_some_iff.mp h
  obtain ⟨greatest, hmax, hstop⟩ := Option.map_eq_some_iff.mp hmax
  obtain ⟨hfirst, hleast⟩ := List.min?_eq_some_iff.mp hmin
  obtain ⟨hlast, hgreatest⟩ := List.max?_eq_some_iff.mp hmax
  refine ⟨fun j hj => Span.mem_iff.mpr ⟨hleast j hj, ?_⟩, hfirst, greatest, hlast, hstop.symm⟩
  rw [← hstop]
  exact Nat.lt_succ_of_le (hgreatest j hj)

/-! ### Projections -/

/-- There is no projection if and only if no position of the span has a partner. -/
theorem Matches.project_eq_none (h : a.Matches t) : a.project side span = none ↔
    ∀ i, span.contains i = true → a.partner? side i = none := by
  rw [project_eq_none_iff, List.eq_nil_iff_forall_not_mem]
  simp only [h.mem_partners, PartnerOf, Option.eq_none_iff_forall_ne_some]
  exact ⟨fun hnone i hi j hj => hnone j ⟨i, hi, hj⟩, fun hnone j ⟨i, hi, hj⟩ => hnone i hi j hj⟩

theorem Matches.isHull_project (h : a.Matches t) (hs : a.project side span = some s) :
    s.IsHull (a.PartnerOf side span) :=
  (isHull_partners hs).congr fun _ => h.mem_partners

/-- Where a position of the span has a partner there is a projection, and it has the partner. -/
theorem Matches.exists_project (h : a.Matches t) (hi : span.contains i = true)
    (hj : a.partner? side i = some j) :
    ∃ s, a.project side span = some s ∧ s.contains j = true := by
  cases hs : a.project side span with
  | none =>
    rw [h.project_eq_none.mp hs i hi] at hj
    cases hj
  | some s => exact ⟨s, rfl, (h.isHull_project hs).covers j ⟨i, hi, hj⟩⟩

/-- A projection is a part of the other transcription. -/
theorem Matches.project_stop_le (h : a.Matches t) (hs : a.project side span = some s) :
    s.stop ≤ (t side.other).length := by
  obtain ⟨j, ⟨i, -, hj⟩, hstop⟩ := (h.isHull_project hs).last
  obtain ⟨p, hp⟩ := h.partner?_phone hj
  obtain ⟨hlt, -⟩ := List.getElem?_eq_some_iff.mp (Transcription.phoneAt?_eq_some.mp hp)
  exact hstop ▸ hlt

/-- The projection of a span with more positions encloses that of the span. -/
theorem Matches.project_mono (h : a.Matches t) {span' : Span}
    (hle : ∀ i, span.contains i = true → span'.contains i = true)
    (hs : a.project side span = some s) :
    ∃ s', a.project side span' = some s' ∧ s'.encloses s = true := by
  have hhull := h.isHull_project hs
  obtain ⟨i, hi, hj⟩ := hhull.first
  obtain ⟨s', hs', -⟩ := h.exists_project (hle i hi) hj
  exact ⟨s', hs', hhull.mono (h.isHull_project hs') fun _ ⟨i, hi, hj⟩ => ⟨i, hle i hi, hj⟩⟩

/-- The projection of a projection has every position of the span that has a partner. -/
theorem Matches.exists_project_other (h : a.Matches t) (hs : a.project side span = some s)
    (hi : span.contains i = true) (hj : a.partner? side i = some j) :
    ∃ s', a.project side.other s = some s' ∧ s'.contains i = true :=
  h.exists_project ((h.isHull_project hs).covers j ⟨i, hi, hj⟩) (h.partner?_comm.mp hj)

/-! ### Positions that are words -/

theorem Matches.projectWord_eq_project (h : a.Matches t)
    (hlength : (t side.other).length < Span.wordCount) :
    a.projectWord side span = a.project side span := by
  refine Alignment.projectWord_eq_project fun s hs => ?_
  have hlt : s.start < s.stop := (Span.mem_iff.mp ((isHull_partners hs).covers _
    (isHull_partners hs).first)).2
  have hle := h.project_stop_le hs
  omega

/-- The least and the greatest of some positions, found in one pass that starts from the greatest
word and from 0. -/
def extremes (positions : List Nat) : Nat × Nat :=
  positions.foldl (fun (low, high) i => (min low i, max high i)) (Span.wordCount - 1, 0)

theorem extremes_eq (positions : List Nat) : extremes positions =
    (positions.foldl min (Span.wordCount - 1), positions.foldl max 0) := by
  have hfrom : ∀ (positions : List Nat) (low high : Nat),
      positions.foldl (fun (low, high) i => (min low i, max high i)) (low, high) =
        (positions.foldl min low, positions.foldl max high) := by
    intro positions
    induction positions with
    | nil => exact fun _ _ => rfl
    | cons i positions ih => exact fun low high => ih (min low i) (max high i)
  exact hfrom positions _ _

/-- The least position is the greatest word if there are none. -/
theorem projectWord_eq_foldl (h : ∀ j ∈ a.partners side span, j < Span.wordCount) :
    a.projectWord side span =
      let (low, high) := extremes (a.partners side span)
      if low ≠ Span.wordCount - 1 then some ⟨low, (high + 1) % Span.wordCount⟩ else none := by
  have hpos : 0 < Span.wordCount := Nat.two_pow_pos 64
  rw [projectWord, project, extremes_eq]
  split
  · next hnone => simp [hnone]
  · next i rest hsome =>
    have hi : i < Span.wordCount := h i (hsome ▸ List.mem_cons_self)
    have hmin : (i :: rest).min? = some (rest.foldl min i) := List.min?_cons'
    have hle : rest.foldl min i ≤ i := (List.min?_eq_some_iff.mp hmin).2 i List.mem_cons_self
    rw [hsome, List.foldl_cons, List.foldl_cons, Nat.zero_max, Nat.min_eq_right (by omega)]
    refine if_congr ?_ rfl rfl
    show rest.foldl min i + 1 < Span.wordCount ↔ rest.foldl min i ≠ Span.wordCount - 1
    omega

end Alignment

end PhoneticSearch
