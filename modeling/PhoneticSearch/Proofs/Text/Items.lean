import Mathlib.Data.List.DropRight
import PhoneticSearch.Text.Blank

/-!
# Texts taken apart

What is left of a text without the white space at its ends, without a beginning or without
an ending.  `Text.items` takes a written list apart again: where no text has the separator,
the items of the joined texts are the texts themselves, without the white space around them
and without the blank ones (`items_join`).  No item has the separator, whatever the list
(`not_mem_of_mem_items`).
-/

namespace PhoneticSearch.Text

/-! ### White space at the ends -/

/-- No white space comes to the front when that at the end is left out. -/
theorem trimStart_trimEnd_trimStart (t : Text) :
    trimStart (trimEnd (trimStart t)) = trimEnd (trimStart t) := by
  cases h : trimEnd (trimStart t) with
  | nil => rfl
  | cons c rest =>
    have hfront : trimEnd (trimStart t) <+: trimStart t := List.rdropWhile_prefix isBlank _
    obtain ⟨tail, htail⟩ := hfront
    have hstart : t.dropWhile isBlank = c :: (rest ++ tail) := by
      rw [← List.cons_append, ← h]
      exact htail.symm
    have hhead := List.head?_dropWhile_not isBlank t
    rw [hstart] at hhead
    have hc : isBlank c = false := by simpa using hhead
    exact List.dropWhile_cons_of_neg (by simp [hc])

@[simp] theorem trim_trim (t : Text) : trim (trim t) = trim t := by
  have hend : trimEnd (trimEnd (trimStart t)) = trimEnd (trimStart t) :=
    List.rdropWhile_idempotent isBlank _
  rw [trim, trim, trimStart_trimEnd_trimStart, hend]

theorem trim_cons {c : Char} (h : isBlank c = true) (t : Text) : trim (c :: t) = trim t := by
  rw [trim, trim, trimStart, trimStart, List.dropWhile_cons_of_pos h]

theorem mem_dropWhile_isBlank {c : Char} (h : isBlank c = false) {t : Text} :
    c ∈ t.dropWhile isBlank ↔ c ∈ t := by
  conv_rhs => rw [← List.takeWhile_append_dropWhile (p := isBlank) (l := t), List.mem_append]
  refine ⟨.inr, fun hc => hc.resolve_left fun hc => ?_⟩
  simpa [h] using List.mem_takeWhile_imp hc

/-- Only white space is left out at the ends. -/
theorem mem_trim {c : Char} (h : isBlank c = false) {t : Text} : c ∈ trim t ↔ c ∈ t := by
  rw [trim, trimEnd, List.mem_reverse, mem_dropWhile_isBlank h, List.mem_reverse, trimStart,
    mem_dropWhile_isBlank h]

/-- White space around a text that has none at its ends is left out. -/
theorem trim_padded {lead core trail : Text} (hlead : ∀ c ∈ lead, isBlank c = true)
    (htrail : ∀ c ∈ trail, isBlank c = true) (hfirst : ∀ c ∈ core.head?, isBlank c = false)
    (hlast : ∀ c ∈ core.getLast?, isBlank c = false) : trim (lead ++ core ++ trail) = core := by
  have hstart : trimStart (lead ++ core ++ trail) = if core = [] then [] else core ++ trail := by
    rw [trimStart, List.append_assoc, List.dropWhile_append_of_pos hlead]
    cases core with
    | nil => rw [if_pos rfl, List.nil_append, List.dropWhile_eq_nil_iff.mpr htrail]
    | cons c core =>
      rw [if_neg (List.cons_ne_nil c core), List.cons_append,
        List.dropWhile_cons_of_neg (by simp [hfirst c rfl])]
  rw [trim, hstart]
  split
  · next hcore =>
    rw [hcore]
    rfl
  · next hcore =>
    obtain ⟨core, c, rfl⟩ := (List.eq_nil_or_concat' core).resolve_left hcore
    have hc : isBlank c = false := hlast c (by simp)
    rw [trimEnd, List.reverse_append, List.dropWhile_append_of_pos (by simpa using htrail),
      List.reverse_append, List.reverse_singleton, List.singleton_append,
      List.dropWhile_cons_of_neg (by simp [hc]), List.reverse_cons, List.reverse_reverse]

/-- White space in front of a text is left out. -/
theorem trim_blanks_append {lead : Text} (h : ∀ c ∈ lead, isBlank c = true) (t : Text) :
    trim (lead ++ t) = trim t := by
  rw [trim, trim, trimStart, trimStart, List.dropWhile_append_of_pos h]

/-- White space behind a text is left out. -/
theorem trim_append_blanks {trail : Text} (h : ∀ c ∈ trail, isBlank c = true) (t : Text) :
    trim (t ++ trail) = trim t := by
  have hend : ∀ u : Text, trimEnd (u ++ trail) = trimEnd u := by
    intro u
    rw [trimEnd, trimEnd, List.reverse_append, List.dropWhile_append_of_pos (by simpa using h)]
  rw [trim, trim, trimStart, trimStart, List.dropWhile_append]
  split
  · next hempty =>
    rw [List.isEmpty_iff] at hempty
    rw [hempty, List.dropWhile_eq_nil_iff.mpr h]
  · exact hend _

/-- In front of what is no white space nothing is left out. -/
theorem trim_cons_of_not {c : Char} (h : isBlank c = false) (t : Text) :
    trim (c :: t) = c :: trimEnd t := by
  have hlast : (t.reverse ++ [c]).dropWhile isBlank = t.reverse.dropWhile isBlank ++ [c] := by
    rw [List.dropWhile_append]
    split
    · next hempty =>
      rw [List.isEmpty_iff] at hempty
      rw [hempty, List.dropWhile_cons_of_neg (by simp [h]), List.nil_append]
    · rfl
  rw [trim, trimStart, List.dropWhile_cons_of_neg (by simp [h]), trimEnd, List.reverse_cons, hlast,
    List.reverse_append]
  rfl

theorem trim_trimEnd (t : Text) : trim (trimEnd t) = trim t := by
  have hblank : ∀ c ∈ (t.reverse.takeWhile isBlank).reverse, isBlank c = true := fun c hc =>
    List.mem_takeWhile_imp (List.mem_reverse.mp hc)
  rw [← trim_append_blanks hblank, trimEnd, ← List.reverse_append, List.takeWhile_append_dropWhile,
    List.reverse_reverse]

/-- A text is what is left of it with white space around. -/
theorem exists_padding (t : Text) : ∃ lead trail : Text, (∀ c ∈ lead, isBlank c = true) ∧
    (∀ c ∈ trail, isBlank c = true) ∧ t = lead ++ trim t ++ trail := by
  refine ⟨t.takeWhile isBlank, ((trimStart t).reverse.takeWhile isBlank).reverse,
    fun c hc => List.mem_takeWhile_imp hc,
    fun c hc => List.mem_takeWhile_imp (List.mem_reverse.mp hc), ?_⟩
  rw [trim, trimEnd, List.append_assoc, ← List.reverse_append, List.takeWhile_append_dropWhile,
    List.reverse_reverse, trimStart, List.takeWhile_append_dropWhile]

/-- Nothing is left of white space only. -/
theorem trim_eq_nil_iff {t : Text} : trim t = [] ↔ ∀ c ∈ t, isBlank c = true := by
  constructor
  · intro h
    obtain ⟨lead, trail, hlead, htrail, ht⟩ := exists_padding t
    rw [ht, h, List.append_nil]
    exact fun c hc => (List.mem_append.mp hc).elim (hlead c) (htrail c)
  · intro h
    rw [← List.append_nil t, trim_blanks_append h]
    rfl

/-! ### Beginnings and endings -/

theorem eq_of_after?_eq_some : ∀ {start t rest : Text}, after? start t = some rest →
    t = start ++ rest := by
  intro start
  induction start with
  | nil =>
    intro t rest h
    exact Option.some.inj h
  | cons a start ih =>
    intro t rest h
    cases t with
    | nil => cases h
    | cons c t =>
      rw [after?] at h
      split at h
      · next hac => rw [hac, ih h, List.cons_append]
      · cases h

theorem eq_of_before?_eq_some {ending t start : Text} (h : before? ending t = some start) :
    t = start ++ ending := by
  obtain ⟨rest, hrest, rfl⟩ := Option.map_eq_some_iff.mp h
  have ht := eq_of_after?_eq_some hrest
  rw [← List.reverse_reverse t, ht, List.reverse_append, List.reverse_reverse]

/-! ### Items -/

variable {separator : Char}

theorem not_mem_of_mem_splitOn {t : Text} : ∀ part ∈ t.splitOn separator, separator ∉ part := by
  induction t with
  | nil => simp
  | cons c t ih =>
    intro part hpart
    rw [List.splitOn_cons_eq_if_modifyHead] at hpart
    split at hpart
    · rcases List.mem_cons.mp hpart with rfl | hpart
      · exact List.not_mem_nil
      · exact ih part hpart
    · next hc =>
      cases hparts : t.splitOn separator with
      | nil => exact absurd hparts (List.splitOn_ne_nil _ _)
      | cons first others =>
        rw [hparts, List.modifyHead_cons] at hpart
        rw [hparts] at ih
        rcases List.mem_cons.mp hpart with rfl | hpart
        · have hne : c ≠ separator := by simpa using hc
          simp [hne.symm, ih first List.mem_cons_self]
        · exact ih part (List.mem_cons_of_mem _ hpart)

/-- What is in a list is in one of its parts or separates them. -/
theorem notMem_intercalate {c : Char} (hc : c ≠ separator) : ∀ {parts : List Text},
    (∀ part ∈ parts, c ∉ part) → c ∉ [separator].intercalate parts
  | [], _ => List.not_mem_nil
  | [part], h => by
    rw [List.intercalate_singleton]
    exact h part List.mem_cons_self
  | part :: part' :: parts, h => by
    obtain ⟨hpart, hparts⟩ := List.forall_mem_cons.mp h
    rw [List.intercalate_cons_cons]
    simp [hpart, hc, notMem_intercalate hc hparts]

/-- No item of a list has the separator. -/
theorem not_mem_of_mem_items {t item : Text} (hblank : isBlank separator = false)
    (h : item ∈ items separator t) : separator ∉ item := by
  obtain ⟨part, hpart, rfl⟩ := List.mem_map.mp (List.mem_filter.mp h).1
  rw [mem_trim hblank]
  exact not_mem_of_mem_splitOn part hpart

theorem splitOn_join (hspace : separator ≠ ' ') : ∀ {t : Text} {ts : List Text},
    (∀ s ∈ t :: ts, separator ∉ s) →
    (join [separator, ' '] (t :: ts)).splitOn separator = t :: ts.map (' ' :: ·) := by
  intro t ts
  induction ts generalizing t with
  | nil =>
    intro h
    exact List.splitOn_eq_singleton (h t List.mem_cons_self)
  | cons s ts ih =>
    intro h
    have hjoin : join [separator, ' '] (t :: s :: ts) =
        t ++ separator :: ' ' :: join [separator, ' '] (s :: ts) := by simp [join]
    have hsplit := ih fun s hs => h s (List.mem_cons_of_mem t hs)
    rw [hjoin, List.splitOn_append_cons_self_of_not_mem (h t List.mem_cons_self),
      List.splitOn_cons_eq_if_modifyHead, if_neg (by simpa using hspace.symm), hsplit]
    rfl

/-- The items of joined texts are the texts, without white space around them. -/
theorem items_join (hspace : separator ≠ ' ') {ts : List Text} (h : ∀ t ∈ ts, separator ∉ t) :
    items separator (join [separator, ' '] ts) = (ts.map trim).filter (!·.isEmpty) := by
  cases ts with
  | nil => rfl
  | cons t ts =>
    have htrim : (trim ∘ fun s => ' ' :: s) = trim := funext (trim_cons rfl)
    rw [items, splitOn_join hspace h, List.map_cons, List.map_map, htrim, List.map_cons]

end PhoneticSearch.Text
