import Mathlib.Data.List.Forall2
import PhoneticSearch.Pattern.Phonex.Search
import PhoneticSearch.Proofs.Phonex.Table
import PhoneticSearch.Proofs.Transcription.Subsection

/-!
# What a search finds

`endsAfter` is what the matcher finds at a position with the table that searches at
other positions have left.  It is exact: each end of the meaning, once
(`endsAfter_exact`).

A search then takes the matches from left to right.  `find_leftmost` says which: the
hits are disjoint spans of visible elements in order, each up to the preferred end that
moves on, and no match that moves on starts anywhere else.  The places of the hits in
the transcription are those of their first and last visible elements, so that the
visible elements of a hit are a part of the visible elements, and the hit matches as a
whole by itself.
-/

namespace PhoneticSearch.Phonex

/-! ### Visible elements -/

/-- The elements of a transcription that are not passed over. -/
def visibleElements (t : Transcription) : List Element := (visible t).map (·.1)

theorem visibleElements_eq (t : Transcription) :
    visibleElements t = t.filter (!·.isTransparent) := by
  unfold visibleElements visible
  have h := List.filter_map (p := fun e : Element => !e.isTransparent) (f := Prod.fst)
    (l := t.zipIdx)
  rw [List.zipIdx_map_fst] at h
  exact h.symm

theorem visibleElements_append (s t : Transcription) :
    visibleElements (s ++ t) = visibleElements s ++ visibleElements t := by
  simp only [visibleElements_eq, List.filter_append]

theorem length_visible (t : Transcription) : (visible t).length = (visibleElements t).length := by
  rw [visibleElements, List.length_map]

/-- Where the places count from `n` on. -/
theorem filter_zipIdx_getElem? {e : Element} {i : Nat} : ∀ (t : Transcription) (n k : Nat),
    ((t.zipIdx n).filter (!·.1.isTransparent))[k]? = some (e, i) →
    ∃ j, i = n + j ∧ t[j]? = some e ∧
      visibleElements (t.take j) = (visibleElements t).take k := by
  intro t
  simp only [visibleElements_eq]
  induction t with
  | nil =>
    intro n k h
    simp at h
  | cons x t ih =>
    intro n k h
    rw [List.zipIdx_cons] at h
    by_cases hx : x.isTransparent = true
    · rw [List.filter_cons_of_neg (by simp [hx])] at h
      obtain ⟨j, rfl, hget, htake⟩ := ih (n + 1) k h
      exact ⟨j + 1, by omega, by simpa using hget, by simpa [hx] using htake⟩
    · rw [List.filter_cons_of_pos (by simpa using hx)] at h
      cases k with
      | zero =>
        obtain ⟨rfl, rfl⟩ : x = e ∧ n = i := by simpa using h
        exact ⟨0, rfl, rfl, rfl⟩
      | succ k =>
        obtain ⟨j, rfl, hget, htake⟩ := ih (n + 1) k (by simpa using h)
        exact ⟨j + 1, by omega, by simpa using hget, by simpa [hx] using htake⟩

/-- The place that is kept with a visible element is where it stands, and the visible
elements in front of it are those in front of that place. -/
theorem visible_getElem? {t : Transcription} {k i : Nat} {e : Element}
    (h : (visible t)[k]? = some (e, i)) :
    t[i]? = some e ∧ visibleElements (t.take i) = (visibleElements t).take k := by
  obtain ⟨j, rfl, hget, htake⟩ := filter_zipIdx_getElem? t 0 k h
  rw [Nat.zero_add]
  exact ⟨hget, htake⟩

theorem visible_getElem?_succ {t : Transcription} {k i : Nat} {e : Element}
    (h : (visible t)[k]? = some (e, i)) :
    visibleElements (t.take (i + 1)) = (visibleElements t).take (k + 1) := by
  obtain ⟨hget, htake⟩ := visible_getElem? h
  have hk : (visibleElements t)[k]? = some e := by
    rw [visibleElements, List.getElem?_map, h]
    rfl
  have hvisible : visibleElements [e] = [e] := by
    have hmem := List.mem_filter.mp (visibleElements_eq t ▸ List.mem_of_getElem? hk)
    rw [visibleElements_eq]
    exact List.filter_eq_self.mpr (List.forall_mem_singleton.mpr hmem.2)
  rw [List.take_add_one, List.take_add_one, hget, hk, visibleElements_append, htake]
  exact congrArg _ hvisible

/-- The visible elements of the part from one visible element to another. -/
theorem visibleElements_subsection {t : Transcription} {start stop i j : Nat} {e f : Element}
    (hlt : start < stop) (hstart : (visible t)[start]? = some (e, i))
    (hstop : (visible t)[stop - 1]? = some (f, j)) :
    visibleElements (t.subsection ⟨i, j + 1⟩) =
      Transcription.subsection (visibleElements t) ⟨start, stop⟩ := by
  have hfront := (visible_getElem? hstart).2
  have hback := visible_getElem?_succ hstop
  rw [Nat.sub_add_cancel (Nat.zero_lt_of_lt hlt)] at hback
  have hwithin : stop ≤ (visibleElements t).length := by
    obtain ⟨h, -⟩ := List.getElem?_eq_some_iff.mp hstop
    rw [length_visible] at h
    omega
  -- Fewer visible elements lie in front of the first place, so the places are in order.
  have hle : i ≤ j + 1 := by
    refine Nat.le_of_not_lt fun h => ?_
    have hsplit := Transcription.take_append_subsection (t := t) (s := ⟨j + 1, i⟩) (Nat.le_of_lt h)
    have hlength := congrArg (fun t => (visibleElements t).length) hsplit
    simp only [visibleElements_append, hfront, hback, List.length_append, List.length_take]
      at hlength
    omega
  have hsplit := Transcription.take_append_subsection (t := t) (s := ⟨i, j + 1⟩) hle
  have hvisible := congrArg visibleElements hsplit
  rw [visibleElements_append, hfront, hback,
    ← Transcription.take_append_subsection (s := ⟨start, stop⟩) (Nat.le_of_lt hlt)] at hvisible
  exact List.append_cancel_left hvisible

/-! ### The ends with a table -/

/-- What the matcher finds at a position, with the table that is left by searches at
other positions. -/
def endsAfter (root : Node) (elements : List Element) (earlier : List Nat) (position : Nat) :
    List Nat :=
  ((root.endsTabled elements [] position).run
    ((earlier.mapM (root.endsTabled elements [])).run ∅).2).1

theorem endsAfter_eq (root : Node) (elements : List Element) (earlier : List Nat)
    (position : Nat) : endsAfter root elements earlier position = root.ends elements position := by
  have hearlier := Computes.mapM (l := earlier) fun p _ => root.endsTabled_root elements p
  have hsound := Table.sound_empty root elements
  have hstored := (hearlier ∅ hsound).2
  exact (root.endsTabled_root elements position _ (hsound.stored hstored).1).1

theorem isWhole_eq (root : Node) (t : Transcription) :
    isWhole root t = (root.ends (visibleElements t) 0).contains (visibleElements t).length := by
  have h := (root.endsTabled_root (visibleElements t) 0 ∅ (Table.sound_empty _ _)).1
  rw [← h]
  rfl

theorem isWhole_iff (root : Node) (t : Transcription) :
    isWhole root t = true ↔
      root.meaning (visibleElements t) 0 (visibleElements t).length := by
  rw [isWhole_eq, List.contains_iff_mem, root.mem_ends]

/-- The matcher finds each end of the meaning of an expression once, whatever has been
searched before, and whole matches are those of the meaning. -/
theorem endsAfter_exact (root : Node) (t : Transcription) (earlier : List Nat) (p : Nat) :
    (endsAfter root (visibleElements t) earlier p).Nodup ∧
      (∀ q, q ∈ endsAfter root (visibleElements t) earlier p ↔
        root.meaning (visibleElements t) p q) ∧
      (p ≤ (visibleElements t).length → ∀ q ∈ endsAfter root (visibleElements t) earlier p,
        p ≤ q ∧ q ≤ (visibleElements t).length) ∧
      (isWhole root t = true ↔
        root.meaning (visibleElements t) 0 (visibleElements t).length) := by
  rw [endsAfter_eq]
  refine ⟨root.ends_nodup _ p, fun q => root.mem_ends _, fun hp q hq => ?_, isWhole_iff root t⟩
  exact Node.meaning_le ((root.mem_ends _).mp hq) hp

/-! ### The scan -/

section Scan

variable {endsAt : Nat → List Nat} {size : Nat}

/-- The end of the match that a search takes at a position. -/
def firstEnd? (endsAt : Nat → List Nat) (p : Nat) : Option Nat := (endsAt p).find? (p < ·)

theorem lt_of_firstEnd? {p q : Nat} (h : firstEnd? endsAt p = some q) : p < q := by
  simpa using List.find?_some h

theorem scan_succ (left start : Nat) : scan endsAt size (left + 1) start =
    if start < size then
      match firstEnd? endsAt start with
      | some stop => ⟨start, stop⟩ :: scan endsAt size left stop
      | none => scan endsAt size left (start + 1)
    else [] := rfl

/-- A scan takes the first ends, behind the position that it starts at. -/
theorem scan_taken (left : Nat) : ∀ (start : Nat), ∀ s ∈ scan endsAt size left start,
    start ≤ s.start ∧ s.start < size ∧ firstEnd? endsAt s.start = some s.stop := by
  induction left with
  | zero => intro start s hs; cases hs
  | succ left ih =>
    intro start s hs
    rw [scan_succ] at hs
    by_cases hstart : start < size
    · rw [if_pos hstart] at hs
      cases hfirst : firstEnd? endsAt start with
      | none =>
        rw [hfirst] at hs
        obtain ⟨hle, htaken⟩ := ih (start + 1) s hs
        exact ⟨Nat.le_of_succ_le hle, htaken⟩
      | some stop =>
        rw [hfirst] at hs
        rcases List.mem_cons.mp hs with rfl | hs
        · exact ⟨Nat.le_refl start, hstart, hfirst⟩
        · obtain ⟨hle, htaken⟩ := ih stop s hs
          exact ⟨Nat.le_trans (Nat.le_of_lt (lt_of_firstEnd? hfirst)) hle, htaken⟩
    · rw [if_neg hstart] at hs
      cases hs

theorem scan_pairwise (left : Nat) : ∀ (start : Nat),
    (scan endsAt size left start).Pairwise (fun a b => a.stop ≤ b.start) := by
  induction left with
  | zero => intro start; exact List.Pairwise.nil
  | succ left ih =>
    intro start
    rw [scan_succ]
    by_cases hstart : start < size
    · rw [if_pos hstart]
      cases firstEnd? endsAt start with
      | none => exact ih (start + 1)
      | some stop =>
        exact List.pairwise_cons.mpr ⟨fun s hs => (scan_taken left stop s hs).1, ih stop⟩
    · rw [if_neg hstart]
      exact List.Pairwise.nil

/-- What a scan passes over has no end that moves on. -/
theorem scan_complete (left : Nat) : ∀ (start : Nat), size - start ≤ left →
    ∀ p, start ≤ p → p < size →
      (∀ s ∈ scan endsAt size left start, s.contains p = false) → firstEnd? endsAt p = none := by
  induction left with
  | zero => intro start hleft p hle hlt _; omega
  | succ left ih =>
    intro start hleft p hle hlt hout
    have hstart : start < size := by omega
    rw [scan_succ, if_pos hstart] at hout
    cases hfirst : firstEnd? endsAt start with
    | none =>
      rw [hfirst] at hout
      rcases Nat.eq_or_lt_of_le hle with rfl | hlt'
      · exact hfirst
      · exact ih (start + 1) (by omega) p hlt' hlt hout
    | some stop =>
      rw [hfirst] at hout
      have hmoves := lt_of_firstEnd? hfirst
      have hbehind : stop ≤ p := by
        refine Nat.le_of_not_lt fun h => ?_
        have hin : (⟨start, stop⟩ : Span).contains p = true := Span.mem_iff.mpr ⟨hle, h⟩
        rw [hout _ List.mem_cons_self] at hin
        cases hin
      exact ih stop (by omega) p hbehind hlt fun s hs => hout s (List.mem_cons_of_mem _ hs)

/-- With a table a scan takes the same spans. -/
theorem scanTabled_computes {root : Node} {elements : List Element}
    {tabledEndsAt : Nat → StateM Table (List Nat)}
    (h : ∀ p, Computes root elements (tabledEndsAt p) (endsAt p)) (left : Nat) :
    ∀ (start : Nat), Computes root elements (scanTabled tabledEndsAt size left start)
      (scan endsAt size left start) := by
  induction left with
  | zero => exact fun _ => Computes.pure []
  | succ left ih =>
    intro start
    rw [scan_succ, scanTabled]
    by_cases hstart : start < size
    · rw [if_pos hstart, if_pos hstart]
      refine (h start).bind ?_
      show Computes root elements (match firstEnd? endsAt start with | some _ => _ | none => _) _
      cases firstEnd? endsAt start with
      | none => exact ih (start + 1)
      | some stop => exact (ih stop).bind (Computes.pure _)
    · rw [if_neg hstart, if_neg hstart]
      exact Computes.pure []

end Scan

/-! ### Hits -/

/-- The spans of visible elements that a search takes. -/
def foundSpans (root : Node) (t : Transcription) : List Span :=
  scan (root.ends (visibleElements t)) (visibleElements t).length (visibleElements t).length 0

theorem spansTabled_computes (root : Node) (elements : List Element) :
    Computes root elements (spansTabled root elements)
      (scan (root.ends elements) elements.length elements.length 0) :=
  scanTabled_computes (root.endsTabled_root elements) _ 0

theorem find_eq (root : Node) (t : Transcription) :
    find root t = (foundSpans root t).map (hitOf t ((visible t).map (·.2))) := by
  rw [foundSpans, ← (spansTabled_computes root (visibleElements t) ∅ (Table.sound_empty _ _)).1]
  rfl

/-- A hit of a search, for the span of visible elements that it was found at. -/
structure HitAt (root : Node) (t : Transcription) (s : Span) (hit : Hit) : Prop where
  nonempty : s.start < s.stop
  /-- The hit ends at the preferred end that moves on. -/
  firstEnd : ∀ earlier,
    firstEnd? (endsAfter root (visibleElements t) earlier) s.start = some s.stop
  /-- The hit starts where its first visible element stands. -/
  starts : ∃ e, (visible t)[s.start]? = some (e, hit.span.start)
  /-- The hit stops behind its last visible element. -/
  stops : ∃ e last, (visible t)[s.stop - 1]? = some (e, last) ∧ hit.span.stop = last + 1
  value : hit.value = .transcription (t.subsection hit.span)
  /-- What was found matches as a whole by itself. -/
  whole : isWhole root (t.subsection hit.span) = true

theorem hitAt_of_mem {root : Node} {t : Transcription} {s : Span} (hs : s ∈ foundSpans root t) :
    HitAt root t s (hitOf t ((visible t).map (·.2)) s) := by
  obtain ⟨-, hstart, hfirst⟩ := scan_taken _ 0 s hs
  have hlt := lt_of_firstEnd? hfirst
  have hmeaning := (root.mem_ends _).mp (List.mem_of_find?_eq_some hfirst)
  have hstop := (Node.meaning_le hmeaning (Nat.le_of_lt hstart)).2
  -- Both ends of the span are numbers of visible elements.
  have hplace : ∀ k < (visibleElements t).length,
      ∃ e, (visible t)[k]? = some (e, ((visible t).map (·.2)).getD k 0) := by
    intro k hk
    rw [← length_visible] at hk
    refine ⟨(visible t)[k].1, ?_⟩
    rw [List.getD_eq_getElem?_getD, List.getElem?_map, List.getElem?_eq_getElem hk]
    rfl
  obtain ⟨e, he⟩ := hplace s.start hstart
  obtain ⟨f, hf⟩ := hplace (s.stop - 1) (by omega)
  refine ⟨hlt, fun earlier => ?_, ⟨e, he⟩, ⟨f, _, hf, rfl⟩, rfl, ?_⟩
  · rw [firstEnd?, endsAfter_eq]
    exact hfirst
  · have hwindow := Node.meaning_window hstop root (Nat.le_refl s.start) (Nat.le_refl s.stop) hmeaning
    rw [isWhole_iff, hitOf, visibleElements_subsection hlt he hf, Transcription.length_subsection,
      Nat.min_eq_left hstop]
    rwa [Nat.sub_self] at hwindow

/-- The hits of a search are the matches that are taken from left to right: they stand at
disjoint spans of visible elements in order, and wherever they are not, no match of the
expression starts that moves on. -/
theorem find_leftmost (root : Node) (t : Transcription) :
    ∃ spans : List Span,
      List.Forall₂ (HitAt root t) spans (find root t) ∧
      spans.Pairwise (fun a b => a.stop ≤ b.start) ∧
      ∀ p, (∀ s ∈ spans, s.contains p = false) →
        ∀ q, root.meaning (visibleElements t) p q → ¬ p < q := by
  refine ⟨foundSpans root t, ?_, scan_pairwise _ 0, ?_⟩
  · rw [find_eq, List.forall₂_map_right_iff]
    exact List.forall₂_same.mpr fun s hs => hitAt_of_mem hs
  · intro p hout q hmeaning hlt
    have hq := (root.meaning_onward _ hmeaning).2 hlt
    have hnone := scan_complete _ 0 (Nat.sub_le _ 0) p (Nat.zero_le p) (Nat.lt_of_lt_of_le hlt hq) hout
    have hmem := (root.mem_ends _).mpr hmeaning
    exact absurd hlt (by simpa using List.find?_eq_none.mp hnone q hmem)

end PhoneticSearch.Phonex
