import PhoneticSearch.Pattern.Plain.Compile
import PhoneticSearch.Proofs.Pattern.Found
import PhoneticSearch.Proofs.Pattern.Occurrences
import PhoneticSearch.Proofs.Regex.Build
import PhoneticSearch.Proofs.Regex.Reading
import PhoneticSearch.Proofs.Text.CaseFold

/-!
# Plain patterns and the engine of regular expressions

Where case does not matter, a plain pattern is written as a regular expression.  Each of its
characters is read as a literal, whatever it means elsewhere (`readFrom_escaped`), and a literal
stands for the variants of its character.  So the expression is compiled to a pattern that reads a
character of one set after another, unless that is too large (`compileText_escaped`).  The automaton
of the pattern leads from where the pattern occurs to behind it (`leads_foldedPattern`), and what the
engine finds is what the search finds (`findAll_eq_find`).

With this, `find_greedy` says what a search finds, in either way.
-/

namespace PhoneticSearch.Plain

open Regex (Automaton Expression Pattern)
open Text (size)

/-! ### Reading -/

section Reading

variable {c : Char} {s : Regex.State}

/-- A character that means nothing else is read as a literal. -/
theorem step_literal (h : c ∉ metaChars) (s : Regex.State) (offset : Nat) (rest : Text) :
    s.step c ⟨offset, c :: rest⟩ =
      .ok (s.push offset (.literal ⟨c, false⟩), ⟨offset + 1, rest⟩) := by
  have hpiece : s.readPiece c ⟨offset, c :: rest⟩ =
      .ok (s.push offset (.literal ⟨c, false⟩), ⟨offset + 1, rest⟩) := by
    unfold Regex.State.readPiece
    split <;> first | exact absurd (by decide) h | rfl
  unfold Regex.State.step
  split <;> first | exact absurd (by decide) h | exact hpiece

/-- A character behind a backslash is read as a literal if it means something else. -/
theorem step_backslash (h : c ∈ metaChars) (s : Regex.State) (offset : Nat) (rest : Text) :
    s.step '\\' ⟨offset, '\\' :: c :: rest⟩ =
      .ok (s.push offset (.literal ⟨c, false⟩), ⟨offset + 2, rest⟩) := by
  have hall : (metaChars.all fun c => !c.isDigit && Regex.isEscapable c) = true := rfl
  obtain ⟨hdigit, hescapable⟩ := Bool.and_eq_true_iff.mp (List.all_eq_true.mp hall c h)
  rw [Bool.not_eq_true'] at hdigit
  have hescape : Regex.readEscape s.verbose ⟨offset, '\\' :: c :: rest⟩ =
      .ok (.literal ⟨c, false⟩, ⟨offset + 2, rest⟩) := by
    simp [Regex.readEscape, Cursor.skip, hdigit, hescapable]
  show (Regex.readEscape s.verbose ⟨offset, '\\' :: c :: rest⟩ >>= _) = _
  rw [hescape]
  rfl

theorem escaped_cons (c : Char) (needle : Text) :
    escaped (c :: needle) = escaped [c] ++ escaped needle := by
  simp [escaped]

/-- What stands for a character is read as one literal. -/
theorem readFrom_escaped_char (c : Char) (hs : s.verbose = false) (left offset : Nat)
    (rest : Text) : Regex.readFrom (left + 1) s ⟨offset, escaped [c] ++ rest⟩ =
      Regex.readFrom left (s.push offset (.literal ⟨c, false⟩))
        ⟨offset + (escaped [c]).length, rest⟩ := by
  by_cases hmeta : c ∈ metaChars
  · have hescaped : escaped [c] = ['\\', c] := by simp [escaped, hmeta]
    rw [hescaped]
    exact Regex.readFrom_step hs (step_backslash hmeta s offset rest)
  · have hescaped : escaped [c] = [c] := by simp [escaped, hmeta]
    rw [hescaped]
    exact Regex.readFrom_step hs (step_literal hmeta s offset rest)

/-- **The reader goes over an escaped text** character by character, and each is read as a
literal. -/
theorem readFrom_escaped : ∀ (needle : Text) (s : Regex.State) (left offset : Nat),
    s.verbose = false → (escaped needle).length ≤ left →
    ∃ es left' offset', es.map Prod.snd = needle.map (fun c => .literal ⟨c, false⟩) ∧
      Regex.readFrom left s ⟨offset, escaped needle⟩ =
        Regex.readFrom left' (s.pushAll es) ⟨offset', []⟩ := by
  intro needle
  induction needle with
  | nil =>
    intro s left offset _ _
    exact ⟨[], left, offset, rfl, rfl⟩
  | cons c needle ih =>
    intro s left offset hs hleft
    have hlength : 1 ≤ (escaped [c]).length := by
      by_cases hmeta : c ∈ metaChars <;> simp [escaped, hmeta]
    rw [escaped_cons, List.length_append] at hleft
    obtain ⟨left, rfl⟩ : ∃ n, left = n + 1 := ⟨left - 1, by omega⟩
    obtain ⟨es, left', offset', hes, hread⟩ := ih (s.push offset (.literal ⟨c, false⟩)) left
      (offset + (escaped [c]).length) hs (by omega)
    refine ⟨(offset, .literal ⟨c, false⟩) :: es, left', offset', ?_, ?_⟩
    · rw [List.map_cons, hes, List.map_cons]
    · rw [escaped_cons, readFrom_escaped_char c hs, hread, Regex.State.pushAll_push]

end Reading

/-! ### Compiling -/

/-- The pattern that a text without regard to case is compiled to. -/
def foldedPattern (needle : Text) : Pattern :=
  .join (needle.map fun c => .ofSet (.ofChars (caseVariants c)))

/-- An escaped text is never refused for how it is written. -/
theorem compileText_escaped (needle : Text) : Regex.compileText false (escaped needle) =
    if (foldedPattern needle).fits then .ok (foldedPattern needle)
    else .error ⟨none, .tooLarge⟩ := by
  obtain ⟨es, left, offset, hes, hread⟩ := readFrom_escaped needle .initial _ 0 rfl (Nat.le_refl _)
  have hshallow : (Regex.OpenBranch.close ⟨0, es.reverse⟩).tooDeep 0 = none := by
    refine Regex.tooDeep_close (by decide) (fun e he => ?_) 0
    have hmem : e.2 ∈ es.map Prod.snd := List.mem_map_of_mem he
    rw [hes] at hmem
    obtain ⟨c, -, hliteral⟩ := List.mem_map.mp hmem
    rw [← hliteral]
    constructor <;> rw [Expression.tooDeep] <;> simp
  refine Regex.compileText_of_read (Regex.read_of_pushAll hread hshallow)
    (Regex.meaning_close ?_ (fun p hp => ?_) 0)
  · rw [← List.forall₂_eq_eq_eq, List.forall₂_map_left_iff, List.forall₂_map_right_iff] at hes
    refine List.forall₂_map_right_iff.mpr (hes.imp fun e c he => ?_)
    rw [he, Expression.meaning]
    rfl
  · obtain ⟨c, -, rfl⟩ := List.mem_map.mp hp
    unfold Pattern.ofSet
    split <;> rfl

/-- A plain pattern is compiled unless it is too large as a regular expression. -/
theorem compile_eq (needle : Text) (caseSensitive : Bool) : compile needle caseSensitive =
    if caseSensitive = true ∨ (foldedPattern needle).fits = true then .ok ⟨needle, caseSensitive⟩
    else .error .tooLarge := by
  cases caseSensitive with
  | true => rfl
  | false =>
    rw [compile, if_neg Bool.false_ne_true, compileText_escaped]
    by_cases hfits : (foldedPattern needle).fits = true
    · rw [if_pos hfits, if_pos (.inr hfits)]
    · rw [if_neg hfits, if_neg (by simp [hfits])]

/-! ### The engine -/

/-- The length of the occurrence without regard to case that a text starts with. -/
def foldedLength (needle w : Text) : Option Nat :=
  if startsWith foldEq needle w then some needle.length else none

theorem foldedLength_cons (c : Char) (needle : Text) : foldedLength (c :: needle) =
    Automaton.readThen (.ofChars (caseVariants c)) (foldedLength needle) := by
  funext w
  cases w with
  | nil => rfl
  | cons d w =>
    have hsame : foldEq c d = (CharSet.ofChars (caseVariants c)).contains d := by
      rw [Bool.eq_iff_iff, CharSet.contains_ofChars_caseVariants, foldEq, beq_iff_eq, eq_comm]
    rw [Automaton.readThen, foldedLength, startsWith, hsame, foldedLength]
    by_cases hmem : (CharSet.ofChars (caseVariants c)).contains d = true
    · rw [if_pos hmem, hmem, Bool.true_and]
      split <;> rfl
    · simp [hmem]

/-- The automaton of a pattern takes the occurrence that a text starts with. -/
theorem leads_foldedPattern {needle : Text} {states : Array Automaton.State} {next : Nat}
    (hnext : Automaton.Leads states next fun _ => some 0) :
    Automaton.Leads (Automaton.build states next (foldedPattern needle)).1
      (Automaton.build states next (foldedPattern needle)).2 (foldedLength needle) := by
  rw [foldedPattern, Automaton.build_join]
  induction needle with
  | nil => exact hnext
  | cons c needle ih =>
    have hmem : (CharSet.ofChars (caseVariants c)).contains c = true :=
      CharSet.contains_ofChars_caseVariants.mpr rfl
    rw [foldedLength_cons]
    exact ih.build_single (Automaton.single_ofSet hmem)

section Searching

variable {p : Plain} {t : Text} {i j : Nat}

/-- Where the pattern does not occur, a search goes on to the next position. -/
theorem hitsFrom_skip_to (hij : i ≤ j) (hj : j ≤ t.length)
    (hnot : ∀ k, i ≤ k → k < j → startsWith p.same p.needle (t.drop k) ≠ true) :
    p.hitsFrom (size (t.take i)) 0 (t.drop i) = p.hitsFrom (size (t.take j)) 0 (t.drop j) := by
  induction hij using Nat.decreasingInduction with
  | self => rfl
  | of_succ k hk ih =>
    have hdrop : t.drop k = t[k] :: t.drop (k + 1) := List.drop_eq_getElem_cons (by omega)
    have htake : t.take (k + 1) = t.take k ++ [t[k]] := List.take_succ_eq_append_getElem (by omega)
    have hhere := hnot k (Nat.le_refl k) hk
    rw [← ih fun k' hk' => hnot k' (by omega), htake, hdrop]
    exact hitsFrom_of_not_startsWith (hdrop ▸ hhere)

/-- The hit at a position where the pattern occurs, and those behind it. -/
theorem hitsFrom_of_startsWith_drop (hneedle : p.needle ≠ [])
    (h : startsWith p.same p.needle (t.drop i) = true) :
    p.hitsFrom (size (t.take i)) 0 (t.drop i) = Regex.hitOf t ⟨i, i + p.needle.length⟩ ::
      p.hitsFrom (size (t.take (i + p.needle.length))) 0 (t.drop (i + p.needle.length)) := by
  rw [hitsFrom_of_startsWith hneedle h, List.drop_drop, ← List.take_add]
  simp [Regex.hitOf, spanBehind, Span.length]

theorem startsWith_of_foldedLength (hcase : p.caseSensitive = false) {n : Nat}
    (h : foldedLength p.needle t = some n) :
    startsWith p.same p.needle t = true ∧ p.needle.length = n := by
  obtain ⟨needle, caseSensitive⟩ := p
  obtain rfl : caseSensitive = false := hcase
  rw [foldedLength] at h
  split at h
  · exact ⟨by assumption, Option.some.inj h⟩
  · cases h

theorem not_startsWith_of_foldedLength (hcase : p.caseSensitive = false)
    (h : foldedLength p.needle t = none) : startsWith p.same p.needle t ≠ true := by
  obtain ⟨needle, caseSensitive⟩ := p
  obtain rfl : caseSensitive = false := hcase
  intro hstarts
  cases h.symm.trans (if_pos hstarts)

/-- A scan with an automaton that takes occurrences finds the hits. -/
theorem map_scan_eq_hitsFrom (hneedle : p.needle ≠ []) (hcase : p.caseSensitive = false)
    {a : Automaton} (ha : Automaton.Leads a.states a.entry (foldedLength p.needle)) (t : Text) :
    ∀ (left i : Nat) (previous : Option Nat), i ≤ t.length → t.length < left + i →
      (a.scan t left i previous).map (Regex.hitOf t) =
        p.hitsFrom (size (t.take i)) 0 (t.drop i) := by
  intro left
  induction left with
  | zero =>
    intro i previous hi hleft
    omega
  | succ left ih =>
    intro i previous hi hleft
    rw [Automaton.scan]
    rcases ha.search_cases hi with ⟨hnone, hall⟩ | ⟨j, n, hfound, hij, hj, hn, hall⟩
    · rw [hnone, hitsFrom_skip_to hi (Nat.le_refl _) fun k hik hk =>
        not_startsWith_of_foldedLength hcase (hall k hik (Nat.le_of_lt hk)), List.drop_length]
      rfl
    · obtain ⟨hstarts, rfl⟩ := startsWith_of_foldedLength hcase hn
      have hlength := List.length_pos_of_ne_nil hneedle
      have hinside := length_le_of_startsWith hstarts
      rw [List.length_drop] at hinside
      have hlong : Span.isEmpty ⟨j, j + p.needle.length⟩ = false :=
        decide_eq_false (Nat.not_le_of_lt (Nat.lt_add_of_pos_right hlength))
      rw [hfound]
      dsimp only
      rw [hlong, Bool.false_and, if_neg Bool.false_ne_true, List.map_cons,
        ih _ _ (by omega) (by omega), hitsFrom_skip_to hij hj fun k hik hk =>
          not_startsWith_of_foldedLength hcase (hall k hik hk)]
      exact (hitsFrom_of_startsWith_drop hneedle hstarts).symm

/-- What the engine finds are the hits of the search. -/
theorem findAll_eq_find (hneedle : p.needle ≠ []) (hcase : p.caseSensitive = false) (t : Text) :
    ((Automaton.ofPattern (foldedPattern p.needle)).findAll t).map (Regex.hitOf t) = p.find t := by
  rw [find_eq_hitsFrom hneedle]
  exact map_scan_eq_hitsFrom hneedle hcase (leads_foldedPattern Automaton.leads_accept) t _ 0 none
    (Nat.zero_le _) (by omega)

end Searching

/-- **Plain search.**  A search for a text that is not empty takes the leftmost occurrence, then the
leftmost one that does not start in front of the end of that, and so on, and these spans only.  Both
ends of each lie between two characters, and the hit has what stands there, which is compared by the
same characters as the pattern: those of the texts themselves where case matters, and else what they
are folded to.  Nothing that occurs in the text starts in front of the first hit, between two of them
or behind the last one.
Where case does not matter, what is found is what the engine of regular expressions finds with the
escaped text, which is compiled unless it is too large. -/
theorem find_greedy (p : Plain) (v : Value) (hneedle : p.needle ≠ []) :
    (∀ spans, p.Scans v.render 0 spans ↔ (p.find v.render).map (·.span) = spans) ∧
    (∀ hit ∈ p.find v.render, ∃ part : Text, hit.value = .text part ∧
      part.StandsAt v.render hit.span ∧ part.map p.key = p.needle.map p.key ∧
      v.render.IsBoundary hit.span.start ∧ v.render.IsBoundary hit.span.stop) ∧
    (∀ s, p.OccursAt v.render s →
      ∃ hit ∈ p.find v.render, hit.span.start ≤ s.start ∧ s.start < hit.span.stop) ∧
    (p.caseSensitive = false →
      Regex.compileText false (escaped p.needle) =
        (if (foldedPattern p.needle).fits then .ok (foldedPattern p.needle)
          else .error ⟨none, .tooLarge⟩) ∧
      ((Automaton.ofPattern (foldedPattern p.needle)).findAll v.render).map
        (Regex.hitOf v.render) = p.find v.render) := by
  have hscans := scans_find hneedle v.render
  refine ⟨fun spans => ⟨hscans.unique, ?_⟩, fun hit hhit => ?_, fun s hs => ?_, fun hcase => ?_⟩
  · rintro rfl
    exact hscans
  · have hspan : hit.span ∈ (p.find v.render).map (·.span) := List.mem_map_of_mem hhit
    obtain ⟨part, hpart, hkey⟩ := hscans.occursAt hit.span hspan
    rw [find_eq_hitsFrom hneedle] at hhit
    obtain ⟨part', hvalue, hpart'⟩ := p.hitsFrom_standsAt v.render [] 0 hit hhit
    obtain rfl := hpart.unique hpart'
    exact ⟨part, hvalue, hpart, hkey, hpart.isBoundary_start, hpart.isBoundary_stop⟩
  · obtain ⟨s', hmem, hinside⟩ := hscans.covers hs (Nat.zero_le _)
    obtain ⟨hit, hhit, rfl⟩ := List.mem_map.mp hmem
    exact ⟨hit, hhit, hinside⟩
  · obtain ⟨needle, caseSensitive⟩ := p
    obtain rfl : caseSensitive = false := hcase
    exact ⟨compileText_escaped needle, findAll_eq_find hneedle rfl v.render⟩

/-- A Kelvin sign is found as a small k, and takes three bytes rather than one. -/
example : ((⟨['k'], false⟩ : Plain).find ['\u212A', 'k']).map (·.span) = [⟨0, 3⟩, ⟨3, 4⟩] := by
  decide +kernel

/-- Two dots are found twice in five, and the engine finds them at the same bytes. -/
theorem find_greedy_dots :
    (⟨"..".toList, false⟩ : Plain).needle ≠ [] ∧
    (∀ spans, (⟨"..".toList, false⟩ : Plain).Scans ".....".toList 0 spans ↔
      [⟨0, 2⟩, ⟨2, 4⟩] = spans) ∧
    ∃ pattern, Regex.compileText false (escaped "..".toList) = .ok pattern ∧
      ((Automaton.ofPattern pattern).findAll ".....".toList).map (Regex.hitOf ".....".toList) =
        [⟨⟨0, 2⟩, .text "..".toList⟩, ⟨⟨2, 4⟩, .text "..".toList⟩] := by
  have hneedle : (⟨"..".toList, false⟩ : Plain).needle ≠ [] := by decide
  have hfits : (foldedPattern "..".toList).fits = true := by decide +kernel
  obtain ⟨hscans, -, -, hengine⟩ := find_greedy ⟨"..".toList, false⟩ (.text ".....".toList) hneedle
  obtain ⟨hcompile, hfound⟩ := hengine rfl
  refine ⟨hneedle, hscans, foldedPattern "..".toList, hcompile.trans (if_pos hfits), hfound⟩

end PhoneticSearch.Plain
