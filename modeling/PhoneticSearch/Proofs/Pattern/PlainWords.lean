import PhoneticSearch.Proofs.Pattern.Found
import PhoneticSearch.Proofs.Pattern.Occurrences
import PhoneticSearch.Proofs.Text.CaseFold
import PhoneticSearch.Proofs.Text.Words

/-!
# Searching a text word by word

White space has no case, so that a plain pattern without white space does not occur across the white
space between two words (`startsWith_break`), and a search is where it would start anew once it has
come to white space (`hitsFrom_break`).  So its hits in a text are its hits in the words, each moved
to where its word starts (`find_words`).
-/

namespace PhoneticSearch.Plain

open Text (size)

variable {p : Plain} {c : Char}

/-- Only white space counts as the same as white space. -/
theorem isBlank_eq_of_same {a : Char} (h : p.same a c = true) : isBlank a = isBlank c := by
  have hkey : ∀ c, isBlank (p.key c) = isBlank c := by
    intro c
    unfold key
    split
    · rfl
    · exact isBlank_fold c
  rw [← hkey a, same_iff.mp h, hkey]

/-- A text without white space does not reach across white space. -/
theorem startsWith_break (hc : isBlank c = true) (rest : Text) : ∀ {start w : Text},
    start.Unbroken → startsWith p.same start (w ++ c :: rest) = startsWith p.same start w := by
  intro start
  induction start with
  | nil => intro w _; rfl
  | cons a start ih =>
    intro w h
    obtain ⟨ha, hstart⟩ := List.forall_mem_cons.mp h
    cases w with
    | nil =>
      have hnot : p.same a c = false := by
        rw [Bool.eq_false_iff]
        intro hsame
        exact absurd (isBlank_eq_of_same hsame) (by simp [ha, hc])
      rw [List.nil_append, startsWith, startsWith, hnot, Bool.false_and]
    | cons d w => rw [List.cons_append, startsWith, startsWith, ih hstart]

/-- The hits in a word, and then those behind the white space. -/
theorem hitsFrom_break (hne : p.needle ≠ []) (hneedle : p.needle.Unbroken)
    (hc : isBlank c = true) (rest : Text) : ∀ before w : Text,
    p.hitsFrom (size before) 0 (w ++ c :: rest) = p.hitsFrom (size before) 0 w ++
      p.hitsFrom (size (before ++ w ++ [c])) 0 rest
  | before, [] => by
    have hnot : startsWith p.same p.needle (c :: rest) ≠ true := by
      rw [← List.nil_append (c :: rest), startsWith_break hc rest hneedle]
      intro hstarts
      exact hne (List.length_eq_zero_iff.mp (Nat.le_zero.mp (length_le_of_startsWith hstarts)))
    rw [List.nil_append, hitsFrom_of_not_startsWith hnot, List.append_nil]
    rfl
  | before, d :: w => by
    have hstarts : startsWith p.same p.needle (d :: w ++ c :: rest) =
        startsWith p.same p.needle (d :: w) := startsWith_break hc rest hneedle
    by_cases h : startsWith p.same p.needle (d :: w) = true
    · -- The occurrence ends in front of the white space.
      have hinside := length_le_of_startsWith h
      have hpos := List.length_pos_of_ne_nil hne
      have hrest := hitsFrom_break hne hneedle hc rest (before ++ (d :: w).take p.needle.length)
        ((d :: w).drop p.needle.length)
      rw [List.append_assoc before, List.take_append_drop] at hrest
      rw [hitsFrom_of_startsWith hne (hstarts.trans h), hitsFrom_of_startsWith hne h, spanBehind,
        spanBehind, List.take_append_of_le_length hinside, List.drop_append_of_le_length hinside,
        hrest, List.cons_append]
    · have hrest := hitsFrom_break hne hneedle hc rest (before ++ [d]) w
      rw [List.append_assoc before, List.singleton_append] at hrest
      rw [List.cons_append] at hstarts ⊢
      rw [hitsFrom_of_not_startsWith h, hitsFrom_of_not_startsWith (hstarts ▸ h), hrest]
termination_by _ w => w.length
decreasing_by
  · rw [List.length_drop, List.length_cons]
    rw [List.length_cons] at hinside
    omega
  · exact Nat.lt_succ_self _

/-- Hits are moved along with the text. -/
theorem hitsFrom_shift (distance : Nat) : ∀ (t : Text) (offset skip : Nat),
    p.hitsFrom (offset + distance) skip t =
      (p.hitsFrom offset skip t).map (·.shift distance) := by
  intro t
  induction t with
  | nil => intro offset skip; cases skip <;> rfl
  | cons c t ih =>
    intro offset skip
    have hbehind := ih (offset + c.utf8Size)
    simp only [Nat.add_right_comm _ _ distance] at hbehind
    cases skip with
    | succ skip => exact hbehind skip
    | zero =>
      rw [hitsFrom, hitsFrom]
      split
      · rw [List.map_cons, hbehind]
        exact congrArg (· :: _) (congrArg (Hit.mk · _)
          (congrArg (Span.mk _) (Nat.add_right_comm ..)))
      · exact hbehind 0

theorem find_nil (p : Plain) : p.find [] = [] := by
  unfold find
  split <;> rfl

theorem find_shift_zero (t : Text) : (p.find t).map (·.shift 0) = p.find t :=
  List.map_id _

/-- The hits of a pattern without white space in a text are its hits in the words, at the places
that they have in the text. -/
theorem find_words (hneedle : p.needle.Unbroken) (t : Text) :
    p.find t = (Text.words t).flatMap fun w => (p.find w.2).map (·.shift w.1) := by
  have hwhole : ∀ w : Text, (Text.wholeWord w).flatMap (fun w => (p.find w.2).map (·.shift w.1)) =
      p.find w := by
    intro w
    cases w with
    | nil => exact (find_nil p).symm
    | cons d w => exact (List.flatMap_singleton _ _).trans (find_shift_zero _)
  by_cases hne : p.needle = []
  · simp [find, hne]
  · induction t using Text.word_induction with
    | last w hw => rw [Text.words_unbroken hw, hwhole]
    | step w c rest hw hc ih =>
      have hbehind : p.hitsFrom (size ([] ++ w ++ [c])) 0 rest =
          (p.find rest).map (·.shift (size w + c.utf8Size)) := by
        rw [find_eq_hitsFrom hne, ← hitsFrom_shift]
        simp
      calc p.find (w ++ c :: rest)
        _ = p.find w ++ (p.find rest).map (·.shift (size w + c.utf8Size)) := by
          rw [find_eq_hitsFrom hne, find_eq_hitsFrom hne w, ← hbehind]
          exact hitsFrom_break hne hneedle hc rest [] w
        _ = (Text.words (w ++ c :: rest)).flatMap fun w => (p.find w.2).map (·.shift w.1) := by
          rw [Text.words_break hw hc, List.flatMap_append, hwhole, List.flatMap_map, ih,
            List.map_flatMap]
          simp only [List.map_map, Function.comp_def, Hit.shift_shift, Text.moveWord]

end PhoneticSearch.Plain
