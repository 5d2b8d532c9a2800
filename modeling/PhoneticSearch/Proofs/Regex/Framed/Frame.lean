import PhoneticSearch.Pattern.Regex.Reader
import PhoneticSearch.Proofs.Outcome

/-!
# Expressions in frames

An expression may stand inside another one, between some characters in front of it and a closing
parenthesis and more behind it: a `Frame`.  What reads a piece of the expression by itself reads
the same piece there, and comes to the same place (`Frame.cursor`), with one exception: where the
piece ends in a comment of verbose mode, the comment goes on through all that stands behind the
expression.  Whether it does so depends on the expression alone, not on the frame (`Agree`).
-/

namespace PhoneticSearch.Regex

/-- What stands around an expression: a number of characters in front of it, and behind it a
closing parenthesis and more, on the same line. -/
structure Frame where
  front : Nat
  more : Text
  not_newline : '\n' ∉ more
  not_colon : ':' ∉ more

namespace Frame

variable (F : Frame)

/-- The text behind the expression. -/
def behind : Text := ')' :: F.more

/-- The place in a frame that a place of the expression is.  Where the text behind it has been
`swallowed`, nothing is left. -/
def cursor (swallowed : Bool) (cur : Cursor) : Cursor :=
  if swallowed then ⟨cur.offset + F.front + F.behind.length, []⟩
  else ⟨cur.offset + F.front, cur.rest ++ F.behind⟩

variable {F} {cur : Cursor} {c : Char} {t : Text}

@[simp] theorem cursor_false_rest : (F.cursor false cur).rest = cur.rest ++ F.behind := rfl

@[simp] theorem cursor_false_offset : (F.cursor false cur).offset = cur.offset + F.front := rfl

theorem cursor_rest_cons (h : cur.rest = c :: t) :
    (F.cursor false cur).rest = c :: (t ++ F.behind) := by
  rw [cursor_false_rest, h, List.cons_append]

theorem cursor_rest_nil (h : cur.rest = []) : (F.cursor false cur).rest = ')' :: F.more := by
  rw [cursor_false_rest, h, List.nil_append, behind]

theorem cursor_skip {n : Nat} (h : n ≤ cur.rest.length) :
    (F.cursor false cur).skip n = F.cursor false (cur.skip n) := by
  show Cursor.mk _ _ = Cursor.mk _ _
  rw [cursor_false_offset, cursor_false_rest, List.drop_append_of_le_length h]
  exact congrArg (Cursor.mk · _) (Nat.add_right_comm _ _ _)

theorem cursor_skip_one (h : cur.rest = c :: t) :
    (F.cursor false cur).skip 1 = F.cursor false (cur.skip 1) :=
  cursor_skip (by rw [h]; exact Nat.succ_le_succ (Nat.zero_le _))

theorem length_cursor_rest : (F.cursor false cur).rest.length = cur.rest.length + F.behind.length :=
  List.length_append

theorem not_newline_behind : '\n' ∉ F.behind := by
  intro h
  rcases List.mem_cons.mp h with h | h
  · cases h
  · exact F.not_newline h

theorem not_colon_behind : ':' ∉ F.behind := by
  intro h
  rcases List.mem_cons.mp h with h | h
  · cases h
  · exact F.not_colon h

end Frame

/-- Whether a place that depends on the frame is the place of a cursor in each frame. -/
def Follows (cur : Cursor) (place : Frame → Cursor) : Prop :=
  ∃ swallowed, (swallowed = true → cur.rest = []) ∧ ∀ F, place F = F.cursor swallowed cur

/-- Whether readings that depend on the frame give the same result, moved by what stands in front,
and come to the place of a cursor in each frame. -/
def Agree {α : Type} (result : Nat → α) (cur : Cursor) (reading : Frame → Reading (α × Cursor)) :
    Prop :=
  ∃ swallowed, (swallowed = true → cur.rest = []) ∧
    ∀ F, reading F = .ok (result F.front, F.cursor swallowed cur)

section Combining

variable {α : Type} {result : Nat → α} {cur : Cursor} {place : Frame → Cursor}
  {reading : Frame → Reading (α × Cursor)}

/-- As long as something is left of the expression, nothing behind it has been swallowed. -/
theorem Follows.of_rest (h : Follows cur place) (hrest : cur.rest ≠ []) (F : Frame) :
    place F = F.cursor false cur := by
  obtain ⟨swallowed, hnil, hplace⟩ := h
  cases swallowed with
  | true => exact absurd (hnil rfl) hrest
  | false => exact hplace F

theorem Agree.of_rest (h : Agree result cur reading) (hrest : cur.rest ≠ []) (F : Frame) :
    reading F = .ok (result F.front, F.cursor false cur) := by
  obtain ⟨swallowed, hnil, hreading⟩ := h
  cases swallowed with
  | true => exact absurd (hnil rfl) hrest
  | false => exact hreading F

theorem agree_of_forall (h : ∀ F, reading F = .ok (result F.front, F.cursor false cur)) :
    Agree result cur reading :=
  ⟨false, fun hfalse => absurd hfalse Bool.false_ne_true, h⟩

theorem Follows.agree (h : Follows cur place)
    (hreading : ∀ F, reading F = .ok (result F.front, place F)) : Agree result cur reading := by
  obtain ⟨swallowed, hnil, hplace⟩ := h
  exact ⟨swallowed, hnil, fun F => by rw [hreading, hplace]⟩

theorem Agree.map {β : Type} {result' : Nat → β} {reading' : Frame → Reading (β × Cursor)}
    (h : Agree result cur reading)
    (hreading : ∀ F cur', reading F = .ok (result F.front, cur') →
      reading' F = .ok (result' F.front, cur')) : Agree result' cur reading' := by
  obtain ⟨swallowed, hnil, hread⟩ := h
  exact ⟨swallowed, hnil, fun F => hreading F _ (hread F)⟩

/-- What is read may be turned into something else where it is read. -/
theorem agree_of_map {β : Type} {alone : Reading (α × Cursor)} {f : α → β}
    {g : α × Cursor → β × Cursor} {b : β} (h : alone.map g = .ok (b, cur))
    (hagree : ∀ {a : α} {cur' : Cursor}, alone = .ok (a, cur') → Agree (fun _ => a) cur' reading)
    (hg : ∀ a cur', g (a, cur') = (f a, cur')) :
    Agree (fun _ => b) cur fun F => (reading F).map g := by
  cases halone : alone with
  | error fault =>
    rw [halone] at h
    cases h
  | ok read =>
    obtain ⟨a, cur'⟩ := read
    rw [halone, Except.map, hg] at h
    cases h
    refine (hagree halone).map fun F cur'' hF => ?_
    rw [hF, Except.map, hg]

end Combining

/-! ### Moving on -/

/-- Whether verbose mode passes over the whole of a text and is in a comment behind it. -/
def endsInComment (inComment : Bool) : Text → Bool
  | [] => inComment
  | c :: rest =>
    if inComment then endsInComment (c != '\n') rest
    else if isBlank c then endsInComment false rest
    else if c = '#' then endsInComment true rest
    else false

theorem insignificant_of_not_newline {t : Text} (h : '\n' ∉ t) :
    insignificant true t = t.length := by
  induction t with
  | nil => rfl
  | cons c t ih =>
    have hc : '\n' ≠ c := fun hc => h (hc ▸ List.mem_cons_self)
    have ht : '\n' ∉ t := fun ht => h (List.mem_cons_of_mem c ht)
    have hbne : (c != '\n') = true := bne_iff_ne.mpr (Ne.symm hc)
    rw [insignificant, if_pos rfl, hbne, ih ht, List.length_cons, Nat.add_comm]

theorem insignificant_append (F : Frame) : ∀ (t : Text) (inComment : Bool),
    insignificant inComment (t ++ F.behind) =
      insignificant inComment t +
        if endsInComment inComment t then F.behind.length else 0
  | [], true => by
    rw [List.nil_append, insignificant_of_not_newline F.not_newline_behind]
    exact (Nat.zero_add _).symm
  | [], false => rfl
  | c :: t, inComment => by
    rw [List.cons_append, insignificant, insignificant, endsInComment]
    cases inComment with
    | true =>
      rw [if_pos rfl, if_pos rfl, if_pos rfl, insignificant_append F t, Nat.add_assoc]
    | false =>
      rw [if_neg Bool.false_ne_true, if_neg Bool.false_ne_true, if_neg Bool.false_ne_true]
      by_cases hblank : isBlank c = true
      · rw [if_pos hblank, if_pos hblank, if_pos hblank, insignificant_append F t, Nat.add_assoc]
      · rw [if_neg hblank, if_neg hblank, if_neg hblank]
        by_cases hsign : c = '#'
        · rw [if_pos hsign, if_pos hsign, if_pos hsign, insignificant_append F t, Nat.add_assoc]
        · rw [if_neg hsign, if_neg hsign, if_neg hsign]
          rfl

theorem insignificant_of_endsInComment : ∀ (t : Text) (inComment : Bool),
    endsInComment inComment t = true → insignificant inComment t = t.length
  | [], _, _ => rfl
  | c :: t, inComment, h => by
    rw [endsInComment] at h
    rw [insignificant, List.length_cons, Nat.add_comm t.length]
    split at h
    · rename_i hcomment
      rw [if_pos hcomment, insignificant_of_endsInComment t _ h]
    · rename_i hcomment
      rw [if_neg hcomment]
      split at h
      · rename_i hblank
        rw [if_pos hblank, insignificant_of_endsInComment t _ h]
      · rename_i hblank
        rw [if_neg hblank]
        split at h
        · rename_i hsign
          rw [if_pos hsign, insignificant_of_endsInComment t _ h]
        · cases h

theorem insignificant_le (t : Text) : ∀ inComment, insignificant inComment t ≤ t.length := by
  induction t with
  | nil => exact fun _ => Nat.le_refl 0
  | cons c t ih =>
    intro inComment
    rw [insignificant, List.length_cons, Nat.add_comm]
    have hfalse := ih false
    have htrue := ih true
    have hbne := ih (c != '\n')
    repeat' split
    all_goals omega

variable {verbose : Bool} {cur : Cursor}

/-- What is passed over behind an expression is passed over in every frame. -/
theorem follows_pass (verbose : Bool) (cur : Cursor) :
    Follows (pass verbose cur) fun F => pass verbose (F.cursor false cur) := by
  cases verbose with
  | false => exact ⟨false, fun h => (by cases h), fun F => rfl⟩
  | true =>
    refine ⟨endsInComment false cur.rest, fun hend => ?_, fun F => ?_⟩
    · show cur.rest.drop (insignificant false cur.rest) = []
      rw [insignificant_of_endsInComment _ _ hend, List.drop_length]
    · have hcount := insignificant_append F cur.rest false
      show (F.cursor false cur).skip (insignificant false (cur.rest ++ F.behind)) = _
      cases hend : endsInComment false cur.rest with
      | true =>
        rw [hend, if_pos rfl] at hcount
        rw [hcount]
        show Cursor.mk _ _ = Cursor.mk _ _
        have hlength := insignificant_of_endsInComment _ _ hend
        refine Cursor.mk.injEq .. |>.mpr ⟨?_, ?_⟩
        · show cur.offset + F.front + _ = cur.offset + insignificant false cur.rest + F.front + _
          omega
        · refine List.drop_of_length_le (Nat.le_of_eq ?_)
          rw [Frame.length_cursor_rest, hlength]
      | false =>
        rw [hend, if_neg Bool.false_ne_true, Nat.add_zero] at hcount
        rw [hcount]
        exact Frame.cursor_skip (insignificant_le _ _)

theorem follows_next (verbose : Bool) (h : cur.rest ≠ []) :
    Follows (next verbose cur) fun F => next verbose (F.cursor false cur) := by
  obtain ⟨c, t, hrest⟩ := List.exists_cons_of_ne_nil h
  obtain ⟨swallowed, hnil, hpass⟩ := follows_pass verbose (cur.skip 1)
  refine ⟨swallowed, hnil, fun F => ?_⟩
  have hskip : (F.cursor false cur).skip 1 = F.cursor false (cur.skip 1) :=
    Frame.cursor_skip_one hrest
  exact (congrArg (pass verbose) hskip).trans (hpass F)

theorem length_pass (verbose : Bool) (cur : Cursor) :
    (pass verbose cur).rest.length ≤ cur.rest.length := by
  cases verbose with
  | false => exact Nat.le_refl _
  | true =>
    show (cur.rest.drop _).length ≤ _
    rw [List.length_drop]
    exact Nat.sub_le _ _

theorem length_next (verbose : Bool) (cur : Cursor) :
    (next verbose cur).rest.length ≤ cur.rest.length - 1 := by
  refine Nat.le_trans (length_pass verbose _) (Nat.le_of_eq ?_)
  exact List.length_drop

theorem pass_of_nil (verbose : Bool) (h : cur.rest = []) : (pass verbose cur).rest = [] := by
  have hlength := length_pass verbose cur
  rw [h] at hlength
  exact List.length_eq_zero_iff.mp (Nat.le_zero.mp hlength)

theorem next_of_nil (verbose : Bool) (h : cur.rest = []) : (next verbose cur).rest = [] := by
  have hlength := length_next verbose cur
  rw [h] at hlength
  exact List.length_eq_zero_iff.mp (Nat.le_zero.mp hlength)

/-- Where something is left behind the next character, the same is left in every frame. -/
theorem next_cursor (hrest : (next verbose cur).rest ≠ []) (F : Frame) :
    next verbose (F.cursor false cur) = F.cursor false (next verbose cur) :=
  (follows_next verbose fun hnil => hrest (next_of_nil verbose hnil)).of_rest hrest F

theorem pass_cursor (hrest : (pass verbose cur).rest ≠ []) (F : Frame) :
    pass verbose (F.cursor false cur) = F.cursor false (pass verbose cur) :=
  (follows_pass verbose cur).of_rest hrest F

/-! ### Numbers -/

/-- The characters of a kind under the cursor, with what is passed over between them. -/
def readWhile (kind : Char → Bool) (verbose : Bool) : (left : Nat) → Cursor → Text × Cursor
  | 0, cur => ([], cur)
  | left + 1, cur =>
    match cur.rest with
    | c :: _ =>
      if kind c then
        let (found, cur) := readWhile kind verbose left (next verbose cur)
        (c :: found, cur)
      else ([], cur)
    | [] => ([], cur)

theorem readDigits_eq (left : Nat) (cur : Cursor) :
    readDigits verbose left cur = readWhile Char.isDigit verbose left cur := by
  induction left generalizing cur with
  | zero => rfl
  | succ left ih =>
    obtain ⟨offset, rest⟩ := cur
    cases rest with
    | nil => rfl
    | cons c t =>
      show (if c.isDigit then (c :: (readDigits verbose left _).1, (readDigits verbose left _).2)
        else ([], _)) = readWhile Char.isDigit verbose (left + 1) ⟨offset, c :: t⟩
      rw [ih]
      rfl

theorem readBoundaryName_eq (left : Nat) (cur : Cursor) : readBoundaryName verbose left cur =
    readWhile (fun c => c.isAlpha || c == '-') verbose left cur := by
  induction left generalizing cur with
  | zero => rfl
  | succ left ih =>
    obtain ⟨offset, rest⟩ := cur
    cases rest with
    | nil => rfl
    | cons c t =>
      show (if c.isAlpha || c == '-' then
        (c :: (readBoundaryName verbose left _).1, (readBoundaryName verbose left _).2)
        else ([], _)) = readWhile _ verbose (left + 1) ⟨offset, c :: t⟩
      rw [ih]
      rfl

theorem skipBlanks_eq (left : Nat) (cur : Cursor) :
    skipBlanks verbose left cur = (readWhile isBlank verbose left cur).2 := by
  induction left generalizing cur with
  | zero => rfl
  | succ left ih =>
    rw [skipBlanks, readWhile, ih]
    cases hrest : cur.rest with
    | nil => rfl
    | cons c t =>
      rw [List.head?_cons, Option.any_some]
      by_cases hc : isBlank c = true
      · rw [if_pos hc]
        simp only [hc, if_true]
      · rw [if_neg hc]
        simp only [hc, Bool.false_eq_true, if_false]

section ReadingWhile

variable {kind : Char → Bool} {c : Char} {t : Text}

theorem readWhile_cons (hrest : cur.rest = c :: t) (hc : kind c = true) (left : Nat) :
    readWhile kind verbose (left + 1) cur =
      (c :: (readWhile kind verbose left (next verbose cur)).1,
        (readWhile kind verbose left (next verbose cur)).2) := by
  rw [readWhile, hrest]
  dsimp only
  rw [if_pos hc]

theorem readWhile_stop (h : ∀ c t, cur.rest = c :: t → kind c = false) (left : Nat) :
    readWhile kind verbose left cur = ([], cur) := by
  cases left with
  | zero => rfl
  | succ left =>
    rw [readWhile]
    cases hrest : cur.rest with
    | nil => rfl
    | cons c t =>
      dsimp only
      rw [h c t hrest, if_neg Bool.false_ne_true]

theorem readWhile_nil (h : cur.rest = []) (left : Nat) :
    readWhile kind verbose left cur = ([], cur) :=
  readWhile_stop (fun c t hrest => by rw [h] at hrest; cases hrest) left

/-- Characters of a kind are read as far as they are in every frame, if there are steps to spare. -/
theorem agree_readWhile (verbose : Bool) (kind : Char → Bool) (hkind : kind ')' = false)
    (spare : Frame → Nat) :
    ∀ (left : Nat) (cur : Cursor), cur.rest.length ≤ left →
      Agree (fun _ => (readWhile kind verbose left cur).1) (readWhile kind verbose left cur).2
        fun F => .ok (readWhile kind verbose (left + spare F) (F.cursor false cur)) := by
  have hnil : ∀ (left : Nat) (cur : Cursor), cur.rest = [] →
      Agree (fun _ => (readWhile kind verbose left cur).1) (readWhile kind verbose left cur).2
        fun F => .ok (readWhile kind verbose (left + spare F) (F.cursor false cur)) := by
    intro left cur hrest
    rw [readWhile_nil hrest]
    refine agree_of_forall fun F => congrArg Except.ok (readWhile_stop (fun c t hc => ?_) _)
    rw [Frame.cursor_rest_nil hrest] at hc
    obtain rfl := (List.cons.inj hc).1
    exact hkind
  -- The steps are counted, so the induction is on them; the spare ones are never taken.
  intro left
  induction left with
  | zero => exact fun cur hle => hnil 0 cur (List.length_eq_zero_iff.mp (Nat.le_zero.mp hle))
  | succ left ih =>
    intro cur hle
    cases hrest : cur.rest with
    | nil => exact hnil _ cur hrest
    | cons c t =>
      by_cases hc : kind c = true
      · have hnext : (next verbose cur).rest.length ≤ left := by
          have hlength := length_next verbose cur
          omega
        have hne : cur.rest ≠ [] := by rw [hrest]; exact List.cons_ne_nil c t
        have hstep : ∀ F, readWhile kind verbose (left + 1 + spare F) (F.cursor false cur) =
            (c :: (readWhile kind verbose (left + spare F)
                (next verbose (F.cursor false cur))).1,
              (readWhile kind verbose (left + spare F) (next verbose (F.cursor false cur))).2) := by
          intro F
          rw [Nat.add_right_comm]
          exact readWhile_cons (Frame.cursor_rest_cons hrest) hc _
        rw [readWhile_cons hrest hc]
        obtain ⟨swallowed, hnil, hplace⟩ := follows_next verbose hne
        cases swallowed with
        | true =>
          rw [readWhile_nil (hnil rfl)]
          refine ⟨true, hnil, fun F => congrArg Except.ok ?_⟩
          rw [hstep, show next verbose (F.cursor false cur) = _ from hplace F, readWhile_nil rfl]
        | false =>
          obtain ⟨swallowed, hnil, hread⟩ := ih _ hnext
          refine ⟨swallowed, hnil, fun F => congrArg Except.ok ?_⟩
          rw [hstep, show next verbose (F.cursor false cur) = _ from hplace F,
            Except.ok.inj (hread F)]
      · have hstop : ∀ (c' : Char) (t' : Text), cur.rest = c' :: t' → kind c' = false := by
          intro c' t' hrest'
          obtain rfl := (List.cons.inj (hrest.symm.trans hrest')).1
          exact Bool.eq_false_iff.mpr hc
        rw [readWhile_stop hstop]
        refine agree_of_forall fun F => congrArg Except.ok (readWhile_stop (fun c' t' hc' => ?_) _)
        rw [Frame.cursor_rest_cons hrest] at hc'
        obtain rfl := (List.cons.inj hc').1
        exact Bool.eq_false_iff.mpr hc

end ReadingWhile

theorem skipBlank_cursor (F : Frame) :
    (F.cursor false cur).skipBlank = F.cursor false cur.skipBlank := by
  have hparen : isBlank ')' = false := rfl
  have hblanks : ((cur.rest ++ F.behind).takeWhile isBlank).length =
      (cur.rest.takeWhile isBlank).length := by
    rw [List.takeWhile_append]
    split
    · rename_i hall
      rw [Frame.behind, List.takeWhile_cons_of_neg (by rw [hparen]; exact Bool.false_ne_true),
        List.append_nil, hall]
    · rfl
  rw [Cursor.skipBlank, Frame.cursor_false_rest, hblanks]
  exact Frame.cursor_skip (List.takeWhile_prefix _).length_le

/-- The digits of a count that starts under the cursor, and the place behind them. -/
def countDigits (verbose : Bool) (cur : Cursor) : Text × Cursor :=
  readWhile Char.isDigit verbose cur.skipBlank.rest.length cur.skipBlank

theorem readCount_snd (verbose : Bool) (cur : Cursor) : (readCount verbose cur).2 =
    (readWhile isBlank verbose (countDigits verbose cur).2.rest.length
      (countDigits verbose cur).2).2 := by
  simp only [readCount, readDigits_eq, skipBlanks_eq, countDigits]
  split
  · rfl
  · split <;> rfl

theorem readCount_fst_eq_ok {n : Nat} : (readCount verbose cur).1 = .ok n ↔
    (countDigits verbose cur).1.isEmpty = false ∧ decimal (countDigits verbose cur).1 < countBound ∧
      decimal (countDigits verbose cur).1 = n := by
  simp only [readCount, readDigits_eq, skipBlanks_eq, countDigits]
  split
  · rename_i hempty
    simp [hempty, failAt]
  · rename_i hempty
    split
    · rename_i hlt
      simp [hempty, hlt]
    · rename_i hlt
      simp [hlt, failAt]

theorem agree_countDigits (verbose : Bool) (cur : Cursor) :
    Agree (fun _ => (countDigits verbose cur).1) (countDigits verbose cur).2
      fun F => .ok (countDigits verbose (F.cursor false cur)) := by
  have hread := agree_readWhile verbose Char.isDigit rfl
    (fun F => F.behind.length) _ cur.skipBlank (Nat.le_refl _)
  simp only [← Frame.length_cursor_rest, ← skipBlank_cursor] at hread
  exact hread

/-- A count is read as far in every frame. -/
theorem follows_readCount (verbose : Bool) (cur : Cursor) :
    Follows (readCount verbose cur).2 fun F => (readCount verbose (F.cursor false cur)).2 := by
  simp only [readCount_snd]
  obtain ⟨swallowed, hnil, hdigits⟩ := agree_countDigits verbose cur
  cases swallowed with
  | true =>
    rw [readWhile_nil (hnil rfl)]
    refine ⟨true, hnil, fun F => ?_⟩
    dsimp only
    rw [Except.ok.inj (hdigits F)]
    exact congrArg Prod.snd (readWhile_nil rfl _)
  | false =>
    obtain ⟨swallowed, hnil, hread⟩ := agree_readWhile verbose isBlank rfl
      (fun F => F.behind.length) _ (countDigits verbose cur).2 (Nat.le_refl _)
    refine ⟨swallowed, hnil, fun F => ?_⟩
    dsimp only
    rw [Except.ok.inj (hdigits F), Frame.length_cursor_rest]
    exact congrArg Prod.snd (Except.ok.inj (hread F))

/-- A count that is read is read in every frame. -/
theorem readCount_cursor {n : Nat} (h : (readCount verbose cur).1 = .ok n) (F : Frame) :
    (readCount verbose (F.cursor false cur)).1 = .ok n := by
  obtain ⟨_, -, hdigits⟩ := agree_countDigits verbose cur
  rw [readCount_fst_eq_ok] at h ⊢
  rwa [Except.ok.inj (hdigits F)]

section Counts

variable {opening : Cursor} {c : Char} {t t' : Text}

theorem readCounts_one (h : (readCount verbose cur).2.rest = c :: t) (hc : c ≠ ',') :
    readCounts verbose opening cur =
      (do return ((← (readCount verbose cur).1, some (← (readCount verbose cur).1)),
        (readCount verbose cur).2)) := by
  rw [readCounts]
  dsimp only
  rw [h]
  split
  · rename_i hnil
    cases hnil
  · rename_i hcomma
    exact absurd (List.cons.inj hcomma).1 hc
  · cases (readCount verbose cur).1 <;> rfl

theorem readCounts_open (h : (readCount verbose cur).2.rest = ',' :: t)
    (h' : (next verbose (readCount verbose cur).2).rest = '\x7d' :: t') :
    readCounts verbose opening cur =
      (do return ((← (readCount verbose cur).1, none), next verbose (readCount verbose cur).2)) := by
  rw [readCounts]
  dsimp only
  rw [h, h']
  rfl

theorem readCounts_both (h : (readCount verbose cur).2.rest = ',' :: t)
    (h' : (next verbose (readCount verbose cur).2).rest = c :: t') (hc : c ≠ '\x7d') :
    readCounts verbose opening cur =
      (do
        let least ← (readCount verbose cur).1
        return ((least, some (← (readCount verbose (next verbose (readCount verbose cur).2)).1)),
          (readCount verbose (next verbose (readCount verbose cur).2)).2)) := by
  rw [readCounts]
  dsimp only
  rw [h, h']
  show (match c :: t' with | [] => _ | '\x7d' :: _ => _ | _ => _) = _
  split
  · rename_i hnil
    cases hnil
  · rename_i hbrace
    exact absurd (List.cons.inj hbrace).1 hc
  · rfl

/-- The least and the greatest number in braces are read in every frame. -/
theorem readCounts_cursor {close : Cursor} {counts : Nat × Option Nat}
    (h : readCounts verbose opening cur = .ok (counts, close)) (hclose : close.rest ≠ [])
    (F : Frame) : readCounts verbose (F.cursor false opening) (F.cursor false cur) =
      .ok (counts, F.cursor false close) := by
  cases hrest : (readCount verbose cur).2.rest with
  | nil =>
    rw [readCounts] at h
    dsimp only at h
    rw [hrest] at h
    cases h
  | cons c t =>
    have hafter := (follows_readCount verbose cur).of_rest
      (by rw [hrest]; exact List.cons_ne_nil c t) F
    have hrest₁ := Frame.cursor_rest_cons (F := F) hrest
    rw [← hafter] at hrest₁
    by_cases hc : c = ','
    · subst hc
      cases hbehind : (next verbose (readCount verbose cur).2).rest with
      | nil =>
        rw [readCounts] at h
        dsimp only at h
        rw [hrest, hbehind] at h
        cases h
      | cons c' t' =>
        have hnext := next_cursor (by rw [hbehind]; exact List.cons_ne_nil c' t') F
        have hbehind₁ := Frame.cursor_rest_cons (F := F) hbehind
        rw [← hnext, ← hafter] at hbehind₁
        by_cases hc' : c' = '\x7d'
        · subst hc'
          rw [readCounts_open hrest hbehind] at h
          obtain ⟨n, hn, hcounts⟩ := bind_eq_ok.mp h
          cases hcounts
          rw [readCounts_open hrest₁ hbehind₁, readCount_cursor hn, hafter, hnext]
          rfl
        · rw [readCounts_both hrest hbehind hc'] at h
          obtain ⟨least, hleast, h⟩ := bind_eq_ok.mp h
          obtain ⟨greatest, hgreatest, h⟩ := bind_eq_ok.mp h
          cases h
          rw [readCounts_both hrest₁ hbehind₁ hc', readCount_cursor hleast, hafter, hnext,
            readCount_cursor hgreatest, (follows_readCount verbose _).of_rest hclose F]
          rfl
    · rw [readCounts_one hrest hc] at h
      obtain ⟨n, hn, h⟩ := bind_eq_ok.mp h
      obtain ⟨n', hn', h⟩ := bind_eq_ok.mp h
      cases h
      cases hn.symm.trans hn'
      rw [readCounts_one hrest₁ hc, readCount_cursor hn, hafter]
      rfl

end Counts

end PhoneticSearch.Regex
