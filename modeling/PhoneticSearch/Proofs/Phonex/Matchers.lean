import PhoneticSearch.Proofs.Phonex.FeatureSets
import PhoneticSearch.Proofs.Transcription.Tokens

/-!
# Reading phone matchers

The reader of phone matchers accepts what the grammar has as a matcher, and gives its tree.
Each reader has two lemmas: what it returns is as the grammar has it (`Reads`, by induction
on the bound of the nesting), and what the grammar has is returned if the bound is large
enough for the text (by induction on the bound as well, along the derivation).
-/

namespace PhoneticSearch.Phonex

open Grammar

/-! ### Glyphs -/

theorem marks_diacritic {c : Char} (h : isDiacritic c = true) (rest : Text) :
    marks (c :: rest) = (c :: (marks rest).1, (marks rest).2) := by
  rw [marks.eq_def]
  exact (if_neg (by simp [isTieBar_of_isDiacritic h])).trans (if_pos h)

theorem marks_tied {bar : Char} (h : isTieBar bar = true) (c : Char) (rest : Text) :
    marks (bar :: c :: rest) = (bar :: c :: (marks rest).1, bar :: c :: (marks rest).2) := by
  rw [marks, if_pos h]

/-- Where neither a diacritic nor a tie bar is, no marks are. -/
theorem marks_other {c : Char} (hbar : isTieBar c = false) (h : isDiacritic c = false)
    (rest : Text) : marks (c :: rest) = ([], []) := by
  rw [marks.eq_def]
  exact (if_neg (by simp [hbar])).trans (if_neg (by simp [h]))

namespace Grammar

/-- What is found at the front of a text is a row of marks. -/
theorem marks_found (t : Text) : Marks (marks t).1 (marks t).2 ∧ (marks t).1 <+: t := by
  fun_induction marks t with
  | case1 => exact ⟨.nil, List.prefix_rfl⟩
  | case2 bar hbar c rest text base heq ih =>
    rw [heq] at ih
    exact ⟨.tied hbar ih.1, by simpa using ih.2⟩
  | case3 bar hbar => exact ⟨.nil, List.nil_prefix⟩
  | case4 c rest hbar h text base heq ih =>
    rw [heq] at ih
    exact ⟨.diacritic h ih.1, by simpa using ih.2⟩
  | case5 c rest hbar h => exact ⟨.nil, List.nil_prefix⟩

/-- A row of marks is found, and with it those behind it. -/
theorem Marks.found {w tied : Text} (h : Marks w tied) (rest : Text) :
    marks (w ++ rest) = (w ++ (marks rest).1, tied ++ (marks rest).2) := by
  induction h with
  | nil => rfl
  | diacritic h _ ih => rw [List.cons_append, marks_diacritic h, ih]; rfl
  | tied h _ ih => rw [List.cons_append, List.cons_append, marks_tied h, ih]; rfl

theorem Marks.append {w tied v other : Text} (h : Marks w tied) (hv : Marks v other) :
    Marks (w ++ v) (tied ++ other) := by
  induction h with
  | nil => exact hv
  | diacritic h _ ih => exact .diacritic h ih
  | tied h _ ih => exact .tied h ih

/-- The longest row of marks in front of a text is the one that is found. -/
theorem longestMarks_iff {w rest tied : Text} :
    LongestMarks w rest tied ↔ marks (w ++ rest) = (w, tied) := by
  constructor
  · rintro ⟨hw, hlongest⟩
    obtain ⟨hrest, hprefix⟩ := marks_found rest
    have hlength := hlongest _ _ (hw.append hrest) ((List.prefix_append_right_inj w).mpr hprefix)
    -- No mark is left behind the longest row.
    have hnone : (marks rest).1 = [] := by
      rw [List.length_append] at hlength
      exact List.length_eq_zero_iff.mp (by omega)
    rw [hnone] at hrest
    rw [hw.found, hnone]
    generalize (marks rest).2 = other at hrest
    cases hrest
    rw [List.append_nil, List.append_nil]
  · intro h
    have hfound := (marks_found (w ++ rest)).1
    rw [h] at hfound
    refine ⟨hfound, fun v other hv hprefix => ?_⟩
    obtain ⟨more, hmore⟩ := hprefix
    rw [← hmore, hv.found] at h
    rw [← (Prod.mk.inj h).1, List.length_append]
    exact Nat.le_add_right ..

theorem readGlyph_eq {c : Char} {w rest tied : Text} (h : LongestMarks w rest tied)
    (offset : Nat) : readGlyph c ⟨offset, w ++ rest⟩ =
      (glyphOf c w tied, ⟨offset + w.length, rest⟩) := by
  rw [readGlyph, longestMarks_iff.mp h]
  simp [Cursor.skip, glyphOf]

end Grammar

/-! ### What readers return -/

/-- Whether what a reader returns at a cursor is as a grammar has it: a tree of the text up to
the cursor behind it, or a fault at a place in the text. -/
def Reads {α : Type} (G : Text → Text → α → Prop) (cur : Cursor) : Reading (α × Cursor) → Prop
  | .ok (a, next) => ∃ w, cur.rest = w ++ next.rest ∧ next.offset = cur.offset + w.length ∧
    G w next.rest a
  | .error e => ∀ place, e.offset = some place → place ≤ cur.offset + cur.rest.length

namespace Reads

variable {α β : Type} {G : Text → Text → α → Prop} {H : Text → Text → β → Prop} {offset : Nat}
  {t w rest : Text}

theorem found {place : Nat} (h : place ≤ offset) (f : Fault) :
    Reads G ⟨offset, t⟩ (.error (.found place f)) := by
  intro _ heq
  obtain rfl := Option.some.inj heq
  exact Nat.le_trans h (Nat.le_add_right ..)

theorem ok {a : α} (h : G w rest a) :
    Reads G ⟨offset, w ++ rest⟩ (.ok (a, ⟨offset + w.length, rest⟩)) :=
  ⟨w, rfl, rfl, h⟩

/-- Behind a text that is passed over, a reader goes on with what follows that text. -/
theorem behind {x : Reading (α × Cursor)}
    (h : Reads (fun v => G (w ++ v)) ⟨offset + w.length, rest⟩ x) :
    Reads G ⟨offset, w ++ rest⟩ x := by
  cases x with
  | error e =>
    intro place he
    have hle : place ≤ offset + w.length + rest.length := h place he
    rwa [Nat.add_assoc, ← List.length_append] at hle
  | ok r =>
    obtain ⟨v, hv, hnext, hG⟩ := h
    refine ⟨w ++ v, ?_, ?_, hG⟩
    · rw [List.append_assoc, ← hv]
    · rw [hnext, List.length_append, Nat.add_assoc]

/-- A reader behind another one goes on with what follows what that one has read. -/
theorem bind {x : Reading (α × Cursor)} {f : α × Cursor → Reading (β × Cursor)}
    (hx : Reads G ⟨offset, t⟩ x)
    (hf : ∀ a w rest, t = w ++ rest → G w rest a →
      Reads (fun v => H (w ++ v)) ⟨offset + w.length, rest⟩
        (f (a, ⟨offset + w.length, rest⟩))) : Reads H ⟨offset, t⟩ (x >>= f) := by
  cases x with
  | error e => exact hx
  | ok r =>
    obtain ⟨a, next, rest⟩ := r
    obtain ⟨w, ht, hnext, hG⟩ := hx
    obtain rfl : t = w ++ rest := ht
    obtain rfl : next = offset + w.length := hnext
    exact behind (hf a w rest rfl hG)

end Reads

/-! ### White space -/

/-- Whether a text does not start with white space. -/
def NoBlank (t : Text) : Prop := ∀ c ∈ t.head?, isBlank c = false

theorem skipBlank_eq {w rest : Text} (hw : Blanks w) (hrest : NoBlank rest) (offset : Nat) :
    Cursor.skipBlank ⟨offset, w ++ rest⟩ = ⟨offset + w.length, rest⟩ := by
  have hfront : rest.takeWhile isBlank = [] := by
    cases rest with
    | nil => rfl
    | cons c rest => exact List.takeWhile_cons_of_neg (by simp [hrest c rfl])
  rw [Cursor.skipBlank, Cursor.skip, List.takeWhile_append_of_pos hw, hfront, List.append_nil,
    List.drop_left]

theorem exists_skipBlank (t : Text) : ∃ w rest, t = w ++ rest ∧ Blanks w ∧ NoBlank rest := by
  refine ⟨t.takeWhile isBlank, t.dropWhile isBlank, List.takeWhile_append_dropWhile.symm,
    fun c hc => List.mem_takeWhile_imp hc, fun c hc => ?_⟩
  have hhead := List.head?_dropWhile_not isBlank t
  rw [Option.mem_def.mp hc] at hhead
  simpa using hhead

/-! ### Phone matchers are read as they are written -/

section Sound

variable {offset opening : Nat} {t : Text}

theorem readEscape_reads (hopening : opening ≤ offset) :
    Reads (fun w => Base ('\\' :: w)) ⟨offset, t⟩ (readEscape opening ⟨offset, t⟩) := by
  unfold readEscape
  split
  · next rest heq => obtain rfl : t = _ := heq; exact Reads.ok (w := ['c']) .consonant
  · next rest heq => obtain rfl : t = _ := heq; exact Reads.ok (w := ['v']) .vowel
  · next rest heq => obtain rfl : t = _ := heq; exact Reads.ok (w := ['g']) .glide
  · next rest heq => obtain rfl : t = _ := heq; exact Reads.ok (w := ['w']) .segment
  · next c rest _ _ _ _ heq =>
    obtain rfl : t = _ := heq
    split
    · exact Reads.found hopening _
    · next h => exact Reads.ok (w := [c]) (.escaped (by simpa using h))
  · exact Reads.found hopening _

/-- What stands in front of the brace that closes a feature set. -/
theorem exists_body (h : (t.takeWhile (· != '\x7d')).length ≠ t.length) :
    ∃ rest, t = t.takeWhile (· != '\x7d') ++ '\x7d' :: rest := by
  have hsplit := List.takeWhile_append_dropWhile (p := (· != '\x7d')) (l := t)
  cases hrest : t.dropWhile (· != '\x7d') with
  | nil =>
    rw [hrest, List.append_nil] at hsplit
    exact absurd (congrArg List.length hsplit) h
  | cons c rest =>
    have hhead := List.head?_dropWhile_not (· != '\x7d') t
    rw [hrest] at hhead
    obtain rfl : c = '\x7d' := by simpa using hhead
    rw [hrest] at hsplit
    exact ⟨rest, hsplit.symm⟩

/-- A feature set that has a closing brace. -/
theorem readFeatures_eq {body rest : Text} (hbody : '\x7d' ∉ body) (opening offset : Nat) :
    readFeatures opening ⟨offset, body ++ '\x7d' :: rest⟩ =
      match (Text.items ',' body).mapM readFeature with
      | .error name => .error (.found opening (.unknownFeature name))
      | .ok [] => .error (.found opening .emptyFeatures)
      | .ok named => .ok (featuresOf named, ⟨offset + (body.length + 1), rest⟩) := by
  have hfront : (body ++ '\x7d' :: rest).takeWhile (· != '\x7d') = body := by
    rw [List.takeWhile_append_of_pos (by simpa [List.forall_mem_ne'] using hbody),
      List.takeWhile_cons_of_neg (by simp), List.append_nil]
  have hskip : Cursor.skip ⟨offset, body ++ '\x7d' :: rest⟩ (body.length + 1) =
      ⟨offset + (body.length + 1), rest⟩ := by
    simp [Cursor.skip]
  unfold readFeatures
  simp only [hfront, hskip]
  rw [if_neg (by simp)]
  rfl

theorem readFeatures_reads (hopening : opening ≤ offset) :
    Reads (fun w => Base ('\x7b' :: w)) ⟨offset, t⟩ (readFeatures opening ⟨offset, t⟩) := by
  by_cases hlength : (t.takeWhile (· != '\x7d')).length = t.length
  · unfold readFeatures
    simp only [hlength, if_true]
    exact Reads.found hopening _
  · obtain ⟨rest, hrest⟩ := exists_body hlength
    have hbody : '\x7d' ∉ t.takeWhile (· != '\x7d') := fun h => by
      simpa using List.mem_takeWhile_imp h
    generalize t.takeWhile (· != '\x7d') = body at hrest hbody
    subst hrest
    rw [readFeatures_eq hbody]
    split
    · exact Reads.found hopening _
    · exact Reads.found hopening _
    · next named hne hnamed =>
      have hbase : Base ('\x7b' :: (body ++ ['\x7d'])) rest (featuresOf named) :=
        .features (mapM_items_iff.mp hnamed) hne
      have hok : Reads (fun w => Base ('\x7b' :: w)) ⟨offset, (body ++ ['\x7d']) ++ rest⟩ _ :=
        Reads.ok hbase
      rwa [List.append_assoc, List.length_append] at hok

theorem readConstituent_reads {m : PhoneMatcher} {w : Text} (h : Base w t m) :
    Reads (fun v => Matcher (w ++ v)) ⟨offset, t⟩ (readConstituent m ⟨offset, t⟩) := by
  unfold readConstituent
  split
  · next rest hcolon =>
    obtain rfl : t = _ := hcolon
    split
    · next k hk =>
      obtain ⟨letter, hhead, hletter⟩ := Option.bind_eq_some_iff.mp hk
      obtain ⟨rest, rfl⟩ := List.head?_eq_some_iff.mp hhead
      exact Reads.ok (w := [':', letter]) (.within h hletter)
    · exact Reads.found (Nat.le_refl _) _
  · have hmatcher : Matcher (w ++ []) t m := by
      rw [List.append_nil]
      exact .plain h
    exact Reads.ok (w := []) hmatcher

/-- What a matcher is but for its constituent, by its first character. -/
def readBase (depth offset : Nat) (c : Char) (next : Cursor) : Reading (PhoneMatcher × Cursor) :=
  if c = '.' then .ok (.any, next)
  else if c = '\\' then readEscape offset next
  else if c = '\x7b' then readFeatures offset next
  else if c = '[' then readClass depth offset next
  else if isReserved c then .error (.found offset (.unexpected c))
  else if isDiacritic c then .error (.found offset .diacriticWithoutBase)
  else .ok (readGlyph c next)

theorem readMatcher_succ (depth offset : Nat) (c : Char) (rest : Text) :
    readMatcher (depth + 1) ⟨offset, c :: rest⟩ =
      readBase depth offset c ⟨offset + 1, rest⟩ >>= fun r => readConstituent r.1 r.2 := by
  rw [readMatcher, readBase]
  simp only
  split_ifs <;> rfl

theorem startsGlyph_of {c : Char} (hblank : isBlank c = false) (hdot : c ≠ '.')
    (hescape : c ≠ '\\') (hbrace : c ≠ '\x7b') (hbracket : c ≠ '[')
    (hreserved : ¬ isReserved c = true) (hdiacritic : ¬ isDiacritic c = true) :
    StartsGlyph c := by
  refine ⟨?_, hblank, Bool.eq_false_iff.mpr hdiacritic⟩
  simp only [isReserved, List.contains_eq_mem, decide_eq_true_eq, List.mem_cons,
    List.not_mem_nil, or_false, not_or] at hreserved ⊢
  simp only [hreserved, hdot, hescape, hbrace, hbracket, not_false_eq_true, and_self]

theorem readGlyph_reads {c : Char} (hc : StartsGlyph c) :
    Reads (fun w => Base (c :: w)) ⟨offset, t⟩ (.ok (readGlyph c ⟨offset, t⟩)) := by
  obtain ⟨rest, hrest⟩ := (marks_found t).2
  have hmarks : marks t = ((marks t).1, (marks t).2) := rfl
  generalize (marks t).1 = w, (marks t).2 = tied at hrest hmarks
  subst hrest
  have hlongest := longestMarks_iff.mpr hmarks
  rw [readGlyph_eq hlongest]
  exact Reads.ok (.glyph hc hlongest)

/-- What is made of the members of a class. -/
def closeClass (opening : Nat) (negated : Bool) (r : List PhoneMatcher × Cursor) :
    Reading (PhoneMatcher × Cursor) :=
  if r.1.isEmpty then .error (.found opening .emptyClass) else .ok (.oneOf negated r.1, r.2)

theorem readClass_negated (depth opening offset : Nat) (rest : Text) :
    readClass (depth + 1) opening ⟨offset, '^' :: rest⟩ =
      readMembers depth opening ⟨offset + 1, rest⟩ >>= closeClass opening true := rfl

theorem readClass_plain (h : t.head? ≠ some '^') (depth opening offset : Nat) :
    readClass (depth + 1) opening ⟨offset, t⟩ =
      readMembers depth opening ⟨offset, t⟩ >>= closeClass opening false := by
  rw [readClass]
  simp only [beq_eq_false_iff_ne.mpr h, Bool.false_eq_true, if_false]
  rfl

theorem closeClass_reads {G : Text → Text → PhoneMatcher → Prop} {negated : Bool}
    {ms : List PhoneMatcher} (hopening : opening ≤ offset)
    (h : ms ≠ [] → G [] t (.oneOf negated ms)) :
    Reads G ⟨offset, t⟩ (closeClass opening negated (ms, ⟨offset, t⟩)) := by
  unfold closeClass
  split
  · exact Reads.found hopening _
  · next hne => exact Reads.ok (w := []) (h (by simpa using hne))

-- By induction on the bound.  Where it is used up there is a fault, which is in the text as well.
mutual

theorem readMatcher_reads : ∀ (depth : Nat) {offset : Nat} {t : Text}, NoBlank t →
    Reads Matcher ⟨offset, t⟩ (readMatcher depth ⟨offset, t⟩)
  | 0, _, _, _ => Reads.found (Nat.le_refl _) _
  | depth + 1, _, [], _ => Reads.found (Nat.le_refl _) _
  | depth + 1, offset, c :: rest, hblank => by
    rw [readMatcher_succ]
    refine Reads.bind (G := Base) ?_ fun m w rest _ h => readConstituent_reads h
    have hnext : offset ≤ offset + 1 := Nat.le_add_right ..
    unfold readBase
    split_ifs with hdot hescape hbrace hbracket hreserved hdiacritic
    · subst hdot
      exact Reads.ok (w := ['.']) .any
    · subst hescape
      exact Reads.behind (w := ['\\']) (readEscape_reads hnext)
    · subst hbrace
      exact Reads.behind (w := ['\x7b']) (readFeatures_reads hnext)
    · subst hbracket
      exact Reads.behind (w := ['[']) (readClass_reads depth hnext)
    · exact Reads.found (Nat.le_refl _) _
    · exact Reads.found (Nat.le_refl _) _
    · have hglyph := startsGlyph_of (hblank c rfl) hdot hescape hbrace hbracket hreserved hdiacritic
      exact Reads.behind (w := [c]) (readGlyph_reads hglyph)

theorem readClass_reads : ∀ (depth : Nat) {opening offset : Nat} {t : Text}, opening ≤ offset →
    Reads (fun w => Base ('[' :: w)) ⟨offset, t⟩ (readClass depth opening ⟨offset, t⟩)
  | 0, _, _, _, hopening => Reads.found hopening _
  | depth + 1, opening, offset, t, hopening => by
    by_cases hnegated : t.head? = some '^'
    · obtain ⟨rest, rfl⟩ := List.head?_eq_some_iff.mp hnegated
      rw [readClass_negated]
      have hmembers : opening ≤ offset + 1 := Nat.le_succ_of_le hopening
      refine Reads.behind (w := ['^']) (Reads.bind (readMembers_reads depth hmembers) ?_)
      intro ms w rest _ h
      refine closeClass_reads (Nat.le_trans hmembers (Nat.le_add_right ..)) fun hne => ?_
      rw [List.append_nil]
      exact .noneOf h hne
    · rw [readClass_plain hnegated]
      refine Reads.bind (readMembers_reads depth hopening) fun ms w rest _ h => ?_
      refine closeClass_reads (Nat.le_trans hopening (Nat.le_add_right ..)) fun hne => ?_
      rw [List.append_nil]
      exact .oneOf h hne

theorem readMembers_reads : ∀ (depth : Nat) {opening offset : Nat} {t : Text},
    opening ≤ offset → Reads Members ⟨offset, t⟩ (readMembers depth opening ⟨offset, t⟩)
  | 0, _, _, _, hopening => Reads.found hopening _
  | depth + 1, opening, offset, t, hopening => by
    obtain ⟨w, rest, rfl, hw, hrest⟩ := exists_skipBlank t
    rw [readMembers, skipBlank_eq hw hrest]
    have hbehind : opening ≤ offset + w.length := Nat.le_trans hopening (Nat.le_add_right ..)
    refine Reads.behind ?_
    simp only
    split
    · exact Reads.found hbehind _
    · exact Reads.ok (w := [']']) (.close hw)
    · refine Reads.bind (readMatcher_reads depth hrest) fun m v rest _ hm => ?_
      have hlater : opening ≤ offset + w.length + v.length :=
        Nat.le_trans hbehind (Nat.le_add_right ..)
      refine Reads.bind (readMembers_reads depth hlater) fun ms u rest' hu hms => ?_
      subst hu
      have hmembers : Members (w ++ (v ++ (u ++ []))) rest' (m :: ms) := by
        rw [List.append_nil]
        exact .member hw hm hms
      exact Reads.ok (w := []) hmembers

end

end Sound

/-! ### What is written as a phone matcher is read -/

namespace Grammar

variable {w rest : Text} {m : PhoneMatcher} {ms : List PhoneMatcher}

/-- A matcher does not start with white space or with a reserved sign. -/
theorem Base.first (h : Base w rest m) :
    ∃ c v, w = c :: v ∧ isBlank c = false ∧ isReserved c = false := by
  cases h with
  | any => exact ⟨'.', _, rfl, rfl, rfl⟩
  | consonant | vowel | glide | segment | escaped => exact ⟨'\\', _, rfl, rfl, rfl⟩
  | features => exact ⟨'\x7b', _, rfl, rfl, rfl⟩
  | oneOf | noneOf => exact ⟨'[', _, rfl, rfl, rfl⟩
  | glyph hc =>
    refine ⟨_, _, rfl, hc.notBlank, ?_⟩
    have hsign := hc.notSign
    simp only [List.mem_cons, List.not_mem_nil, or_false, not_or] at hsign
    simp [isReserved, hsign]

theorem Matcher.first (h : Matcher w rest m) :
    ∃ c v, w = c :: v ∧ isBlank c = false ∧ isReserved c = false := by
  cases h with
  | plain h => exact h.first
  | within h _ =>
    obtain ⟨c, v, rfl, hc⟩ := h.first
    exact ⟨c, _, rfl, hc⟩

theorem Matcher.noBlank (h : Matcher w rest m) (more : Text) : NoBlank (w ++ more) := by
  obtain ⟨c, v, rfl, hc, -⟩ := h.first
  intro d hd
  obtain rfl := Option.some.inj hd
  exact hc

theorem Matcher.head_ne {d : Char} (h : Matcher w rest m) (hd : isReserved d = true)
    (more : Text) : (w ++ more).head? ≠ some d := by
  obtain ⟨c, v, rfl, -, hc⟩ := h.first
  intro hhead
  obtain rfl := Option.some.inj hhead
  simp [hc] at hd

theorem isBlank_of_isReserved {d : Char} (hd : isReserved d = true) : isBlank d = false := by
  simp only [isReserved, List.contains_eq_mem, decide_eq_true_eq, List.mem_cons,
    List.not_mem_nil, or_false] at hd
  rcases hd with rfl | rfl | rfl | rfl | rfl | rfl | rfl | rfl | rfl | rfl | rfl <;> rfl

theorem head_ne_of_blanks {d : Char} {t : Text} (hw : Blanks w) (hd : isReserved d = true)
    (ht : t.head? ≠ some d) : (w ++ t).head? ≠ some d := by
  cases w with
  | nil => exact ht
  | cons c w =>
    intro hhead
    obtain rfl := Option.some.inj hhead
    exact Bool.noConfusion ((hw c List.mem_cons_self).symm.trans (isBlank_of_isReserved hd))

/-- The members of a class start with no reserved sign but the bracket that closes it. -/
theorem Members.head_ne {d : Char} (h : Members w rest ms) (hd : isReserved d = true)
    (hne : d ≠ ']') : (w ++ rest).head? ≠ some d := by
  cases h with
  | close hw =>
    rw [List.append_assoc]
    exact head_ne_of_blanks hw hd fun hhead => hne (Option.some.inj hhead).symm
  | member hw hm _ =>
    rw [List.append_assoc, List.append_assoc]
    exact head_ne_of_blanks hw hd (hm.head_ne hd _)

theorem readConstituent_plain (h : rest.head? ≠ some ':') (m : PhoneMatcher) (offset : Nat) :
    readConstituent m ⟨offset, rest⟩ = .ok (m, ⟨offset, rest⟩) := by
  unfold readConstituent
  split
  · next more hcolon =>
    exact absurd (congrArg List.head? hcolon) h
  · rfl

theorem readBase_glyph {c : Char} {tied : Text} (hc : StartsGlyph c)
    (hw : LongestMarks w rest tied) (depth offset : Nat) :
    readBase depth offset c ⟨offset + 1, w ++ rest⟩ =
      .ok (glyphOf c w tied, ⟨offset + 1 + w.length, rest⟩) := by
  have hsign := hc.notSign
  simp only [List.mem_cons, List.not_mem_nil, or_false, not_or] at hsign
  have hreserved : isReserved c = false := by simp [isReserved, hsign]
  simp only [readBase, hsign, hreserved, hc.notDiacritic, if_false, Bool.false_eq_true,
    readGlyph_eq hw]

theorem readEscape_escaped {c : Char} (h : c.isAlphanum = false) (opening offset : Nat)
    (rest : Text) : readEscape opening ⟨offset, c :: rest⟩ = .ok (.base [c], ⟨offset + 1, rest⟩) := by
  have hletters : c ≠ 'c' ∧ c ≠ 'v' ∧ c ≠ 'g' ∧ c ≠ 'w' := by
    refine ⟨?_, ?_, ?_, ?_⟩ <;> rintro rfl <;> cases h
  simp [readEscape, hletters, h, Cursor.skip]

theorem closeClass_eq (hne : ms ≠ []) (opening : Nat) (negated : Bool) (next : Cursor) :
    closeClass opening negated (ms, next) = .ok (.oneOf negated ms, next) := by
  rw [closeClass, if_neg (by simpa using hne)]

-- By induction on the bound; three steps for each character are enough, as a class takes one for
-- its bracket, one for its members and one for each matcher in it.
mutual

theorem Base.read : ∀ (depth : Nat) {w rest : Text} {m : PhoneMatcher}, Base w rest m →
    3 * w.length ≤ depth + 1 → ∀ offset, ∃ c v, w = c :: v ∧
      readBase depth offset c ⟨offset + 1, v ++ rest⟩ = .ok (m, ⟨offset + w.length, rest⟩)
  | 0, w, _, _, h, hdepth, _ => by
    obtain ⟨c, v, rfl, -⟩ := h.first
    rw [List.length_cons] at hdepth
    omega
  | depth + 1, _, rest, _, h, hdepth, offset => by
    cases h with
    | any => exact ⟨_, _, rfl, rfl⟩
    | consonant => exact ⟨_, _, rfl, rfl⟩
    | vowel => exact ⟨_, _, rfl, rfl⟩
    | glide => exact ⟨_, _, rfl, rfl⟩
    | segment => exact ⟨_, _, rfl, rfl⟩
    | escaped h => exact ⟨_, _, rfl, readEscape_escaped h offset (offset + 1) rest⟩
    | @features body _ named h hne =>
      refine ⟨_, _, rfl, ?_⟩
      show readFeatures offset ⟨offset + 1, (body ++ ['\x7d']) ++ rest⟩ = _
      rw [List.append_assoc, List.singleton_append, readFeatures_eq h.notMem, mapM_items_iff.mpr h,
        List.length_cons, List.length_append, Nat.add_right_comm]
      cases named with
      | nil => exact absurd rfl hne
      | cons x named => rfl
    | @oneOf w _ ms h hne =>
      refine ⟨_, _, rfl, ?_⟩
      rw [List.length_cons] at hdepth
      show readClass (depth + 1) offset ⟨offset + 1, w ++ rest⟩ = _
      rw [readClass_plain (h.head_ne rfl (by decide)), h.read depth (by omega), List.length_cons,
        Nat.add_right_comm]
      exact closeClass_eq hne ..
    | @noneOf w _ ms h hne =>
      refine ⟨_, _, rfl, ?_⟩
      rw [List.length_cons, List.length_cons] at hdepth
      show readClass (depth + 1) offset ⟨offset + 1, '^' :: (w ++ rest)⟩ = _
      have hlength : offset + 1 + 1 + w.length = offset + ('[' :: '^' :: w).length := by
        rw [List.length_cons, List.length_cons]
        omega
      rw [readClass_negated, h.read depth (by omega), hlength]
      exact closeClass_eq hne ..
    | @glyph c w tied _ hc hw =>
      refine ⟨_, _, rfl, ?_⟩
      rw [readBase_glyph hc hw, List.length_cons, Nat.add_right_comm, Nat.add_assoc]

theorem Matcher.read : ∀ (depth : Nat) {w rest : Text} {m : PhoneMatcher}, Matcher w rest m →
    rest.head? ≠ some ':' → 3 * w.length ≤ depth → ∀ offset,
      readMatcher depth ⟨offset, w ++ rest⟩ = .ok (m, ⟨offset + w.length, rest⟩)
  | 0, w, _, _, h, _, hdepth, _ => by
    obtain ⟨c, v, rfl, -⟩ := h.first
    rw [List.length_cons] at hdepth
    omega
  | depth + 1, _, rest, _, h, hrest, hdepth, offset => by
    cases h with
    | @plain w _ m h =>
      obtain ⟨c, v, rfl, hread⟩ := h.read depth hdepth offset
      rw [List.cons_append, readMatcher_succ, hread]
      exact readConstituent_plain hrest _ _
    | @within w _ letter m k h hk =>
      rw [List.length_append] at hdepth
      obtain ⟨c, v, rfl, hread⟩ := h.read depth (by omega) offset
      rw [List.append_assoc, List.cons_append, readMatcher_succ]
      have hconstituent : readConstituent m ⟨offset + (c :: v).length, ':' :: letter :: rest⟩ =
          .ok (.within m k, ⟨offset + (c :: v).length + 2, rest⟩) := by
        simp [readConstituent, hk, Cursor.skip]
      have hlength : (c :: v ++ [':', letter]).length = (c :: v).length + 2 := List.length_append
      rw [List.cons_append, List.cons_append, List.nil_append, hread, hlength, ← Nat.add_assoc]
      exact hconstituent

theorem Members.read : ∀ (depth : Nat) {w rest : Text} {ms : List PhoneMatcher},
    Members w rest ms → 3 * w.length + 1 ≤ depth → ∀ opening offset,
      readMembers depth opening ⟨offset, w ++ rest⟩ = .ok (ms, ⟨offset + w.length, rest⟩)
  | 0, _, _, _, _, hdepth, _, _ => by omega
  | depth + 1, _, rest, _, h, hdepth, opening, offset => by
    cases h with
    | @close w _ hw =>
      have hclose : NoBlank (']' :: rest) := fun c hc => Option.some.inj hc ▸ rfl
      rw [List.append_assoc, List.singleton_append, readMembers, skipBlank_eq hw hclose,
        List.length_append]
      rfl
    | @member w v u _ m ms hw hm hms =>
      obtain ⟨c, v', hv, hblank, hreserved⟩ := hm.first
      rw [List.length_append, List.length_append] at hdepth
      -- A character of the matcher pays for the step to the members behind it.
      have hnonempty : 0 < v.length := by rw [hv]; exact Nat.zero_lt_succ _
      rw [List.append_assoc, List.append_assoc, readMembers, skipBlank_eq hw (hm.noBlank _)]
      have hmatcher := hm.read depth (hms.head_ne rfl (by decide)) (by omega) (offset + w.length)
      have hmembers := hms.read depth (by omega) opening (offset + w.length + v.length)
      have hbracket : (v ++ (u ++ rest)).head? ≠ some ']' := hm.head_ne rfl _
      have hlength : offset + w.length + v.length + u.length =
          offset + (w ++ (v ++ u)).length := by
        rw [List.length_append, List.length_append]
        omega
      simp only
      split
      · next hnil => simp [hv] at hnil
      · next hclose => exact absurd (congrArg List.head? hclose) hbracket
      · rw [hmatcher, ← hlength]
        exact congrArg (· >>= fun r => pure (m :: r.1, r.2)) hmembers

end

end Grammar

end PhoneticSearch.Phonex
