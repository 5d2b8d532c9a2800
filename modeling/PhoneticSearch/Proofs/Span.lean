import PhoneticSearch.Span

/-!
# Spans in order

Spans are in order if each of them has a position and each stops where the next one starts, or
in front of it.  A search over numbered places finds spans of their numbers, and what it has
found covers the places from the first number to the last one.  Spans in order cover places in
order by spans in order (`InOrder.map_covers`), and what covers some of the places encloses these
and no others (`InOrder.filter_encloses`).
-/

namespace PhoneticSearch

/-- Items of a list with numbers in order, where those in front are related to those behind. -/
theorem rel_of_getElem? {α : Type} {R : α → α → Prop} {l : List α} (h : l.Pairwise R) {i j : Nat}
    (hlt : i < j) {a b : α} (ha : l[i]? = some a) (hb : l[j]? = some b) : R a b := by
  obtain ⟨hi, rfl⟩ := List.getElem?_eq_some_iff.mp ha
  obtain ⟨hj, rfl⟩ := List.getElem?_eq_some_iff.mp hb
  exact List.pairwise_iff_getElem.mp h i j hi hj hlt

namespace Span

/-- Spans that have positions and stand one behind the other. -/
structure InOrder (spans : List Span) : Prop where
  nonempty : ∀ s ∈ spans, s.start < s.stop
  apart : spans.Pairwise fun a b => a.stop ≤ b.start

/-- Whether a span covers the places with the numbers of another span. -/
def Covers (places : List Span) (numbers s : Span) : Prop :=
  ∃ first last, places[numbers.start]? = some first ∧ places[numbers.stop - 1]? = some last ∧
    s = ⟨first.start, last.stop⟩

/-- Whether one span is part of another. -/
def encloses (s part : Span) : Bool := s.start ≤ part.start && part.stop ≤ s.stop

theorem encloses_iff {s part : Span} :
    s.encloses part = true ↔ s.start ≤ part.start ∧ part.stop ≤ s.stop := by
  simp [encloses]

/-- Whether a position splits a span, so that there are positions of the span on both sides. -/
def Splits (s : Span) (i : Nat) : Prop := s.start < i ∧ i < s.stop

namespace InOrder

variable {places : List Span}

theorem nil : InOrder [] := ⟨fun _ h => (List.not_mem_nil h).elim, .nil⟩

/-- A span in front of spans that start behind it. -/
theorem cons {s : Span} {spans : List Span} (hs : s.start < s.stop)
    (hbehind : ∀ s' ∈ spans, s.stop ≤ s'.start) (h : InOrder spans) : InOrder (s :: spans) :=
  ⟨List.forall_mem_cons.mpr ⟨hs, h.nonempty⟩, List.pairwise_cons.mpr ⟨hbehind, h.apart⟩⟩

theorem stop_le_start (h : InOrder places) {i j : Nat} (hlt : i < j) {a b : Span}
    (ha : places[i]? = some a) (hb : places[j]? = some b) : a.stop ≤ b.start :=
  rel_of_getElem? h.apart hlt ha hb

/-- A position between neighbours is in none of the places. -/
theorem not_contains_between (h : InOrder places) {k : Nat} {a b : Span} (ha : places[k]? = some a)
    (hb : places[k + 1]? = some b) {i : Nat} (hle : a.stop ≤ i) (hlt : i < b.start) :
    ∀ s ∈ places, s.contains i = false := by
  intro s hs
  obtain ⟨j, hj⟩ := List.getElem?_of_mem hs
  have hapos := h.nonempty a (List.mem_of_getElem? ha)
  have hbpos := h.nonempty b (List.mem_of_getElem? hb)
  rw [Bool.eq_false_iff, Ne, mem_iff]
  rcases Nat.lt_trichotomy j k with hbefore | rfl | hbehind
  · have := h.stop_le_start hbefore hj ha
    omega
  · obtain rfl := Option.some.inj (hj.symm.trans ha)
    omega
  · rcases Nat.eq_or_lt_of_le (Nat.succ_le_of_lt hbehind) with rfl | hlater
    · obtain rfl := Option.some.inj (hj.symm.trans hb)
      omega
    · have := h.stop_le_start hlater hb hj
      omega

/-- What covers places has a position. -/
theorem lt_of_covers (h : InOrder places) {numbers s : Span} (hlt : numbers.start < numbers.stop)
    (hs : Covers places numbers s) : s.start < s.stop := by
  obtain ⟨first, last, hfirst, hlast, rfl⟩ := hs
  have hpos := h.nonempty first (List.mem_of_getElem? hfirst)
  rcases Nat.eq_or_lt_of_le (Nat.le_sub_one_of_lt hlt) with heq | hlt'
  · rw [← heq, hfirst] at hlast
    obtain rfl := Option.some.inj hlast
    exact hpos
  · have hpos' := h.nonempty last (List.mem_of_getElem? hlast)
    have happart := h.stop_le_start hlt' hfirst hlast
    show first.start < last.stop
    omega

/-- The places in what covers some places are those with the numbers of these. -/
theorem encloses_iff (h : InOrder places) {numbers s : Span} (hlt : numbers.start < numbers.stop)
    (hs : Covers places numbers s) {j : Nat} {x : Span} (hx : places[j]? = some x) :
    s.encloses x = true ↔ numbers.start ≤ j ∧ j < numbers.stop := by
  obtain ⟨first, last, hfirst, hlast, rfl⟩ := hs
  have hpos := h.nonempty x (List.mem_of_getElem? hx)
  rw [Span.encloses_iff]
  constructor
  · rintro ⟨hstart, hstop⟩
    refine ⟨Nat.le_of_not_lt fun hj => ?_, Nat.lt_of_not_le fun hj => ?_⟩
    · have hbefore := h.stop_le_start hj hx hfirst
      simp only at hstart
      omega
    · have hbehind := h.stop_le_start (by omega : numbers.stop - 1 < j) hlast hx
      simp only at hstop
      omega
  · rintro ⟨hstart, hstop⟩
    constructor
    · rcases Nat.eq_or_lt_of_le hstart with rfl | hlater
      · obtain rfl := Option.some.inj (hfirst.symm.trans hx)
        exact Nat.le_refl _
      · have hbehind := h.stop_le_start hlater hfirst hx
        have hfirst := h.nonempty first (List.mem_of_getElem? hfirst)
        show first.start ≤ x.start
        omega
    · rcases Nat.eq_or_lt_of_le (Nat.le_sub_one_of_lt hstop) with rfl | hearlier
      · obtain rfl := Option.some.inj (hlast.symm.trans hx)
        exact Nat.le_refl _
      · have hbefore := h.stop_le_start hearlier hx hlast
        have hlast := h.nonempty last (List.mem_of_getElem? hlast)
        show x.stop ≤ last.stop
        omega

/-- What covers some places starts and stops at ends of places, so that its ends split none. -/
theorem not_splits (h : InOrder places) {numbers s : Span} (hs : Covers places numbers s) {x : Span}
    (hx : x ∈ places) : ¬ x.Splits s.start ∧ ¬ x.Splits s.stop := by
  have hapart : ∀ {y : Span}, y ∈ places → y = x ∨ y.stop ≤ x.start ∨ x.stop ≤ y.start := by
    intro y hy
    obtain ⟨i, hi⟩ := List.getElem?_of_mem hx
    obtain ⟨j, hj⟩ := List.getElem?_of_mem hy
    rcases Nat.lt_trichotomy i j with hlt | rfl | hlt
    · exact .inr (.inr (h.stop_le_start hlt hi hj))
    · exact .inl (Option.some.inj (hj.symm.trans hi))
    · exact .inr (.inl (h.stop_le_start hlt hj hi))
  have hend : ∀ {y : Span}, y ∈ places → ¬ x.Splits y.start ∧ ¬ x.Splits y.stop := by
    intro y hy
    have hpos := h.nonempty y hy
    unfold Splits
    rcases hapart hy with rfl | hle | hle
    · omega
    · omega
    · omega
  obtain ⟨first, last, hfirst, hlast, rfl⟩ := hs
  exact ⟨(hend (List.mem_of_getElem? hfirst)).1, (hend (List.mem_of_getElem? hlast)).2⟩

/-- Places in order are told apart by their numbers. -/
theorem nodup (h : InOrder places) : places.Nodup := by
  refine h.apart.imp_of_mem fun {a b} ha _ hle heq => ?_
  have hpos := h.nonempty a ha
  rw [heq] at hle hpos
  omega

/-- Of things at places in order, those that lie in what covers some of the places are those with
the numbers of these. -/
theorem filter_encloses {α : Type} {l : List α} {place : α → Span} (h : InOrder (l.map place))
    {numbers s : Span} (hlt : numbers.start < numbers.stop)
    (hs : Covers (l.map place) numbers s) :
    l.filter (fun x => s.encloses (place x)) = (l.take numbers.stop).drop numbers.start := by
  have hat : ∀ {j : Nat} {x : α}, l[j]? = some x →
      (s.encloses (place x) = true ↔ numbers.start ≤ j ∧ j < numbers.stop) := by
    intro j x hx
    refine h.encloses_iff hlt hs ?_
    rw [List.getElem?_map, hx]
    rfl
  have hfront : (l.take numbers.start).filter (fun x => s.encloses (place x)) = [] := by
    refine List.filter_eq_nil_iff.mpr fun x hx => ?_
    obtain ⟨j, hj, rfl⟩ := List.mem_take_iff_getElem.mp hx
    rw [hat (List.getElem?_eq_getElem (by omega))]
    omega
  have hback : (l.drop numbers.stop).filter (fun x => s.encloses (place x)) = [] := by
    refine List.filter_eq_nil_iff.mpr fun x hx => ?_
    obtain ⟨j, hj, rfl⟩ := List.mem_drop_iff_getElem.mp hx
    rw [hat (List.getElem?_eq_getElem (by omega))]
    omega
  have hmiddle : ((l.take numbers.stop).drop numbers.start).filter
      (fun x => s.encloses (place x)) = (l.take numbers.stop).drop numbers.start := by
    refine List.filter_eq_self.mpr fun x hx => ?_
    obtain ⟨j, hj, rfl⟩ := List.mem_drop_iff_getElem.mp hx
    rw [List.length_take] at hj
    rw [List.getElem_take, hat (List.getElem?_eq_getElem (by omega))]
    omega
  have hsplit : l.take numbers.start ++ (l.take numbers.stop).drop numbers.start ++
      l.drop numbers.stop = l := by
    have htake := List.take_append_drop numbers.start (l.take numbers.stop)
    rw [List.take_take, Nat.min_eq_left (Nat.le_of_lt hlt)] at htake
    rw [htake, List.take_append_drop]
  calc l.filter (fun x => s.encloses (place x))
    _ = (l.take numbers.start ++ (l.take numbers.stop).drop numbers.start ++
        l.drop numbers.stop).filter (fun x => s.encloses (place x)) := by rw [hsplit]
    _ = (l.take numbers.stop).drop numbers.start := by
      rw [List.filter_append, List.filter_append, hfront, hback, hmiddle, List.nil_append,
        List.append_nil]

/-- Spans in order cover spans in order. -/
theorem map_covers (h : InOrder places) {numbers : List Span} (hnumbers : InOrder numbers)
    {cover : Span → Span} (hcovers : ∀ s ∈ numbers, Covers places s (cover s)) :
    InOrder (numbers.map cover) where
  nonempty := by
    intro s hs
    obtain ⟨n, hn, rfl⟩ := List.mem_map.mp hs
    exact h.lt_of_covers (hnumbers.nonempty n hn) (hcovers n hn)
  apart := by
    refine List.pairwise_map.mpr (hnumbers.apart.imp_of_mem fun {a b} ha hb hab => ?_)
    obtain ⟨_, last, -, hlast, hcover⟩ := hcovers a ha
    obtain ⟨first, _, hfirst, -, hcover'⟩ := hcovers b hb
    have hlt : a.stop - 1 < b.start := by
      have := hnumbers.nonempty a ha
      omega
    rw [hcover, hcover']
    show last.stop ≤ first.start
    exact h.stop_le_start hlt hlast hfirst

end InOrder

end Span

end PhoneticSearch
