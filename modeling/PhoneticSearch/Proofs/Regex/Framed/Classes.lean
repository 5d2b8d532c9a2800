import Mathlib.Data.List.TakeWhile
import PhoneticSearch.Proofs.Regex.Framed.Escapes
import PhoneticSearch.Proofs.Regex.Moved

/-!
# Classes inside parentheses

A class in brackets that can be read by itself is read in every frame, up to its closing bracket
(`readClass_cursor`), so that nothing behind the expression is passed over.
-/

namespace PhoneticSearch.Regex

/-! ### What has been read of a class -/

/-- Items farther behind. -/
def OpenUnion.moved (k : Nat) (u : OpenUnion) : OpenUnion :=
  ⟨u.offset + k, u.items.map (ClassItem.moved k)⟩

/-- The left side of an operation, farther behind. -/
def movedWaiting (k : Nat) (waiting : Option (Nat × SetOperation × ClassSet)) :
    Option (Nat × SetOperation × ClassSet) :=
  waiting.map fun (offset, op, left) => (offset + k, op, left.moved k)

/-- An open class farther behind. -/
def OpenClass.moved (k : Nat) (c : OpenClass) : OpenClass :=
  ⟨c.parent.moved k, c.offset + k, c.negated, movedWaiting k c.waiting⟩

section Moving

variable (k : Nat) (u : OpenUnion)

theorem OpenUnion.moved_push (offset : Nat) (item : ClassItem) :
    (u.push offset item).moved k = (u.moved k).push (offset + k) (item.moved k) := by
  simp only [push, moved, List.map_cons, List.isEmpty_map, apply_ite (· + k)]

theorem OpenUnion.moved_item : (u.moved k).item = u.item.moved k := by
  obtain ⟨offset, items⟩ := u
  match items with
  | [] => rfl
  | [item] => rfl
  | a :: b :: items =>
    simp only [moved, item, ClassItem.moved, List.map_cons, movedItems_eq_map, List.map_reverse]

theorem OpenUnion.moved_start (waiting : Option (Nat × SetOperation × ClassSet)) :
    (u.moved k).start (movedWaiting k waiting) = u.start waiting + k := by
  cases waiting <;> rfl

theorem OpenClass.moved_close (c : OpenClass) :
    (c.moved k).close (u.moved k) = (c.close u).moved k := by
  obtain ⟨parent, offset, negated, waiting⟩ := c
  cases waiting <;> simp only [moved, movedWaiting, close, ClassSet.moved, OpenUnion.moved_item,
    Option.map_none, Option.map_some]

end Moving

variable {verbose : Bool} {opening cur after : Cursor} {left : Nat} {u u' : OpenUnion} {t : Text}

/-! ### The start of a class -/

theorem readHyphens_other (h : ∀ t, cur.rest ≠ '-' :: t) (left : Nat) (u : OpenUnion) :
    readHyphens verbose opening left u cur = .ok (u, cur) := by
  cases left with
  | zero => rfl
  | succ left =>
    rw [readHyphens]
    split
    · rename_i hhyphen
      exact absurd hhyphen (h _)
    · rfl

theorem readHyphens_hyphen (h : cur.rest = '-' :: t) (h' : (next verbose cur).rest ≠ []) :
    readHyphens verbose opening (left + 1) u cur =
      readHyphens verbose opening left (u.push cur.offset (.literal ⟨'-', false⟩))
        (next verbose cur) := by
  rw [readHyphens, h]
  show (if (next verbose cur).rest.isEmpty = true then _ else _) = _
  rw [if_neg fun hnil => h' (List.isEmpty_iff.mp hnil)]

/-- A text that does not start with a closing parenthesis does not come to start otherwise. -/
theorem Frame.rest_ne_cons (F : Frame) {d : Char} (hd : d ≠ ')') (h : ∀ t, cur.rest ≠ d :: t)
    (t : Text) : (F.cursor false cur).rest ≠ d :: t := by
  intro ht
  cases hrest : cur.rest with
  | nil =>
    rw [Frame.cursor_rest_nil hrest] at ht
    exact hd (List.cons.inj ht).1.symm
  | cons c t' =>
    rw [Frame.cursor_rest_cons hrest] at ht
    exact h t' (by rw [hrest, (List.cons.inj ht).1])

theorem readHyphens_cursor (spare : Frame → Nat) : ∀ (left : Nat) (u : OpenUnion) (cur : Cursor)
    {u' : OpenUnion} {after : Cursor}, cur.rest.length ≤ left →
      readHyphens verbose opening left u cur = .ok (u', after) →
      ∀ F, readHyphens verbose (F.cursor false opening) (left + spare F) (u.moved F.front)
        (F.cursor false cur) = .ok (u'.moved F.front, F.cursor false after) := by
  have hother : ∀ {left : Nat} {u u' : OpenUnion} {cur after : Cursor},
      (∀ t, cur.rest ≠ '-' :: t) → readHyphens verbose opening left u cur = .ok (u', after) →
      ∀ F, readHyphens verbose (F.cursor false opening) (left + spare F) (u.moved F.front)
        (F.cursor false cur) = .ok (u'.moved F.front, F.cursor false after) := by
    intro left u u' cur after hcur h F
    rw [readHyphens_other hcur] at h
    cases h
    exact readHyphens_other (F.rest_ne_cons (by decide) hcur) _ _
  intro left
  induction left with
  | zero =>
    intro u cur u' after hle h
    refine hother (fun t ht => ?_) h
    rw [ht] at hle
    exact Nat.not_succ_le_zero _ hle
  | succ left ih =>
    intro u cur u' after hle h F
    by_cases hhyphen : ∃ t, cur.rest = '-' :: t
    · obtain ⟨t, hrest⟩ := hhyphen
      have hne : (next verbose cur).rest ≠ [] := by
        intro hnil
        rw [readHyphens, hrest] at h
        change (if (next verbose cur).rest.isEmpty = true then _ else _) = _ at h
        rw [if_pos (List.isEmpty_iff.mpr hnil)] at h
        cases h
      have hlength := length_next verbose cur
      have hne₁ : (next verbose (F.cursor false cur)).rest ≠ [] := by
        rw [next_cursor hne]
        exact fun hnil => hne (List.append_eq_nil_iff.mp hnil).1
      rw [readHyphens_hyphen hrest hne] at h
      rw [Nat.add_right_comm, readHyphens_hyphen (Frame.cursor_rest_cons hrest) hne₁,
        next_cursor hne]
      have hread := ih _ _ (by omega) h F
      rwa [OpenUnion.moved_push] at hread
    · exact hother (fun t ht => hhyphen ⟨t, ht⟩) h F

theorem Frame.head?_beq (F : Frame) {d : Char} (hd : d ≠ ')') (cur : Cursor) :
    ((F.cursor false cur).rest.head? == some d) = (cur.rest.head? == some d) := by
  cases hrest : cur.rest with
  | nil =>
    rw [Frame.cursor_rest_nil hrest]
    exact beq_eq_false_iff_ne.mpr fun hhead => hd (Option.some.inj hhead).symm
  | cons c t => rw [Frame.cursor_rest_cons hrest, List.head?_cons, List.head?_cons]

theorem Frame.isEmpty_rest (F : Frame) (cur : Cursor) :
    (F.cursor false cur).rest.isEmpty = false := by
  cases hrest : cur.rest with
  | nil => rw [Frame.cursor_rest_nil hrest, List.isEmpty_cons]
  | cons c t => rw [Frame.cursor_rest_cons hrest, List.isEmpty_cons]

/-- The bracket at the start of a class that counts as an item of it, and what is behind it. -/
def openBracket (verbose : Bool) (opening : Cursor) (negated : Bool) (u : OpenUnion)
    (cur : Cursor) : Reading (Bool × OpenUnion × Cursor) :=
  if u.items.isEmpty && cur.rest.head? == some ']' then
    if (next verbose cur).rest.isEmpty then failAt opening .classUnclosed
    else .ok (negated, u.push cur.offset (.literal ⟨']', false⟩), next verbose cur)
  else .ok (negated, u, cur)

theorem openBracket_cursor {negated negated' : Bool}
    (h : openBracket verbose opening negated u cur = .ok (negated', u', after)) (F : Frame) :
    openBracket verbose (F.cursor false opening) negated (u.moved F.front) (F.cursor false cur) =
      .ok (negated', u'.moved F.front, F.cursor false after) := by
  rw [openBracket] at h ⊢
  rw [F.head?_beq (by decide)]
  simp only [OpenUnion.moved, List.isEmpty_map]
  split at h
  · rename_i hbracket
    split at h
    · cases h
    · rename_i hne
      cases h
      have hne' : (next verbose cur).rest ≠ [] := fun hnil => hne (List.isEmpty_iff.mpr hnil)
      rw [if_pos hbracket, next_cursor hne', F.isEmpty_rest, if_neg Bool.false_ne_true]
      exact congrArg (fun u => Except.ok (negated, u, _))
        (u.moved_push F.front cur.offset (.literal ⟨']', false⟩)).symm
  · rename_i hbracket
    cases h
    rw [if_neg hbracket]

/-- The start of a class whose first sign is under the cursor, where it may be negated. -/
def openItems (verbose : Bool) (opening : Cursor) (negated : Bool) (cur : Cursor) :
    Reading (Bool × OpenUnion × Cursor) :=
  if cur.rest.isEmpty then failAt opening .classUnclosed
  else do
    let (u, cur) ← readHyphens verbose opening cur.rest.length ⟨cur.offset, []⟩ cur
    openBracket verbose opening negated u cur

theorem openItems_cursor {negated negated' : Bool}
    (h : openItems verbose opening negated cur = .ok (negated', u', after)) (F : Frame) :
    openItems verbose (F.cursor false opening) negated (F.cursor false cur) =
      .ok (negated', u'.moved F.front, F.cursor false after) := by
  rw [openItems] at h ⊢
  rw [F.isEmpty_rest, if_neg Bool.false_ne_true, Frame.length_cursor_rest]
  split at h
  · cases h
  · obtain ⟨⟨u, cur'⟩, hhyphens, h⟩ := bind_eq_ok.mp h
    have hread := readHyphens_cursor (fun F => F.behind.length) _ _ _ (Nat.le_refl _) hhyphens F
    refine (congrArg (· >>= _) hread).trans ?_
    exact openBracket_cursor h F

theorem openClass_eq (verbose : Bool) (opening : Cursor) : openClass verbose opening =
    if (next verbose opening).rest.isEmpty then failAt opening .classUnclosed
    else if (next verbose opening).rest.head? == some '^' then
      openItems verbose opening true (next verbose (next verbose opening))
    else openItems verbose opening false (next verbose opening) := by
  rw [openClass]
  dsimp only
  split
  · rfl
  · cases (next verbose opening).rest.head? == some '^' <;> rfl

/-- The start of a class is read in every frame. -/
theorem openClass_cursor {negated : Bool}
    (h : openClass verbose opening = .ok (negated, u', after)) (F : Frame) :
    openClass verbose (F.cursor false opening) =
      .ok (negated, u'.moved F.front, F.cursor false after) := by
  have hnonempty : ∀ {negated negated' : Bool} {cur : Cursor},
      openItems verbose opening negated cur = .ok (negated', u', after) → cur.rest ≠ [] := by
    intro negated negated' cur h hnil
    rw [openItems, if_pos (List.isEmpty_iff.mpr hnil)] at h
    cases h
  rw [openClass_eq] at h ⊢
  split at h
  · cases h
  · rename_i hne
    rw [next_cursor fun hnil => hne (List.isEmpty_iff.mpr hnil), F.isEmpty_rest,
      if_neg Bool.false_ne_true, F.head?_beq (by decide)]
    split at h
    · rename_i hnegated
      rw [if_pos hnegated, next_cursor (hnonempty h)]
      exact openItems_cursor h F
    · rename_i hnegated
      rw [if_neg hnegated]
      exact openItems_cursor h F

/-! ### Items of a class -/

theorem after?_append (F : Frame) : ∀ {mark : Text}, ')' ∉ mark → ∀ t : Text,
    Text.after? mark (t ++ F.behind) = (Text.after? mark t).map (· ++ F.behind)
  | [], _, t => rfl
  | a :: mark, h, [] => by
    have ha : a ≠ ')' := fun ha => h (ha ▸ List.mem_cons_self)
    show (if a = ')' then _ else _) = _
    rw [if_neg ha]
    rfl
  | a :: mark, h, c :: t => by
    rw [List.cons_append, Text.after?, Text.after?]
    split
    · exact after?_append F (fun hmark => h (List.mem_cons_of_mem a hmark)) t
    · rfl

/-- The class of ASCII characters with a name that stands behind `[:`, and the text behind it. -/
def asciiName? (negated : Bool) (body : Text) : Option (ClassItem × Text) := do
  let name := body.takeWhile (· != ':')
  let after ← Text.after? [':', ']'] (body.drop name.length)
  if asciiNames.contains (Text.asString name) then
    some (.ascii negated (Text.asString name), after)
  else none

theorem asciiName?_append (F : Frame) (negated : Bool) (body : Text) :
    asciiName? negated (body ++ F.behind) =
      (asciiName? negated body).map fun (item, after) => (item, after ++ F.behind) := by
  have hbehind : F.behind.takeWhile (· != ':') = F.behind :=
    List.takeWhile_eq_self_iff.mpr fun c hc => bne_iff_ne.mpr fun hcolon =>
      F.not_colon_behind (hcolon ▸ hc)
  rw [asciiName?, asciiName?, List.takeWhile_append]
  split
  · -- There is no colon, so that the name does not end.
    rename_i hall
    rw [hbehind, List.drop_length, hall, List.drop_length]
    rfl
  · rename_i hcolon
    have hle := (List.takeWhile_prefix (p := (· != ':')) (l := body)).length_le
    rw [List.drop_append_of_le_length hle, after?_append F (by decide)]
    cases Text.after? [':', ']'] (body.drop (body.takeWhile (· != ':')).length) with
    | none => rfl
    | some after =>
      show (if _ then _ else _) = Option.map _ (if _ then _ else _)
      split <;> rfl

theorem eq_ascii_of_asciiName? {negated : Bool} {body after : Text} {item : ClassItem}
    (h : asciiName? negated body = some (item, after)) : ∃ name, item = .ascii negated name := by
  obtain ⟨rest, -, h⟩ := Option.bind_eq_some_iff.mp h
  split at h
  · cases h
    exact ⟨_, rfl⟩
  · cases h

theorem asciiClass?_eq (cur : Cursor) : asciiClass? cur =
    ((Text.after? ['[', ':'] cur.rest).bind fun body =>
      if body.head? == some '^' then asciiName? true (body.drop 1) else asciiName? false body).map
      fun (item, after) => (item, cur.skip (cur.rest.length - after.length)) := by
  have hname : ∀ (negated : Bool) (body : Text),
      (do
        let after ← Text.after? [':', ']'] (body.drop (body.takeWhile (· != ':')).length)
        if asciiNames.contains (Text.asString (body.takeWhile (· != ':'))) then
          some (ClassItem.ascii negated (Text.asString (body.takeWhile (· != ':'))),
            cur.skip (cur.rest.length - after.length))
        else none) =
      (asciiName? negated body).map fun (item, after) =>
        (item, cur.skip (cur.rest.length - after.length)) := by
    intro negated body
    rw [asciiName?]
    cases Text.after? [':', ']'] (body.drop (body.takeWhile (· != ':')).length) with
    | none => rfl
    | some after =>
      show (if _ then _ else _) = Option.map _ (if _ then _ else _)
      split <;> rfl
  rw [asciiClass?]
  cases Text.after? ['[', ':'] cur.rest with
  | none => rfl
  | some body =>
    cases body with
    | nil => exact hname false []
    | cons c body =>
      by_cases hc : c = '^'
      · subst hc
        exact hname true body
      · have hhead : ((c :: body).head? == some '^') = false :=
          beq_eq_false_iff_ne.mpr fun hhead => hc (Option.some.inj hhead)
        show _ = Option.map _ (if _ then _ else _)
        rw [hhead, if_neg Bool.false_ne_true, ← hname false (c :: body)]
        dsimp only [Option.bind_eq_bind, Option.bind_some]
        split
        · rename_i hcaret
          exact absurd (List.cons.inj hcaret).1 hc
        · rfl

/-- A class of ASCII characters is read in every frame, and there is none in a frame otherwise. -/
theorem asciiClass?_cursor (cur : Cursor) (F : Frame) : asciiClass? (F.cursor false cur) =
    (asciiClass? cur).map fun (item, after) => (item.moved F.front, F.cursor false after) := by
  have hmoved : ∀ (negated : Bool) (body : Text),
      (asciiName? negated (body ++ F.behind)).map (fun (item, after) =>
        (item, (F.cursor false cur).skip ((F.cursor false cur).rest.length - after.length))) =
      ((asciiName? negated body).map fun (item, after) =>
        (item, cur.skip (cur.rest.length - after.length))).map
          fun (item, after) => (item.moved F.front, F.cursor false after) := by
    intro negated body
    rw [asciiName?_append]
    cases hname : asciiName? negated body with
    | none => rfl
    | some named =>
      obtain ⟨item, after⟩ := named
      obtain ⟨name, rfl⟩ := eq_ascii_of_asciiName? hname
      show some (ClassItem.ascii negated name, _) = some (ClassItem.ascii negated name, _)
      rw [Frame.length_cursor_rest, List.length_append, Nat.add_sub_add_right,
        Frame.cursor_skip (Nat.sub_le _ _)]
  rw [asciiClass?_eq, asciiClass?_eq, Frame.cursor_false_rest, after?_append F (by decide)]
  cases Text.after? ['[', ':'] cur.rest with
  | none => rfl
  | some body =>
    show Option.map _ (if _ then _ else _) = Option.map _ (Option.map _ (if _ then _ else _))
    rw [show ((body ++ F.behind).head? == some '^') = _ from F.head?_beq (by decide) ⟨0, body⟩]
    dsimp only
    split
    · rename_i hcaret
      cases body with
      | nil => cases hcaret
      | cons c body => exact hmoved true body
    · exact hmoved false body

/-- A character or an escape of a class is read in every frame. -/
theorem agree_readClassPiece {piece : Piece}
    (h : readClassPiece verbose cur = .ok (piece, after)) :
    Agree (fun _ => piece) after fun F => readClassPiece verbose (F.cursor false cur) := by
  cases hrest : cur.rest with
  | nil =>
    rw [readClassPiece, hrest] at h
    cases h
  | cons c t =>
    by_cases hslash : c = '\\'
    · subst hslash
      have hescape : ∀ {cur : Cursor} {t : Text}, cur.rest = '\\' :: t →
          readClassPiece verbose cur = readEscape verbose cur := by
        intro cur t hrest
        rw [readClassPiece, hrest]
        rfl
      rw [hescape hrest] at h
      refine (agree_readEscape h).map fun F cur' hF => ?_
      rw [hescape (Frame.cursor_rest_cons hrest), hF]
    · have hliteral : ∀ {cur : Cursor} {t : Text}, cur.rest = c :: t →
          readClassPiece verbose cur = .ok (.literal ⟨c, false⟩, cur.skip 1) := by
        intro cur t hrest
        rw [readClassPiece, hrest]
        split
        · rename_i heq
          exact absurd (List.cons.inj heq).1 hslash
        · rename_i heq
          rw [(List.cons.inj heq).1]
        · rename_i heq
          cases heq
      rw [hliteral hrest] at h
      cases h
      refine agree_of_forall fun F => ?_
      rw [hliteral (Frame.cursor_rest_cons hrest), Frame.cursor_skip_one hrest]

theorem classItem_eq_ok {offset : Nat} {piece : Piece} {item : ClassItem}
    (h : classItem offset piece = .ok item) (offset' k : Nat) :
    classItem offset' piece = .ok (item.moved k) := by
  cases piece <;> cases h <;> rfl

theorem rangeEnd_eq_ok {offset : Nat} {piece : Piece} {c : Literal}
    (h : rangeEnd offset piece = .ok c) (offset' : Nat) : rangeEnd offset' piece = .ok c := by
  cases piece <;> cases h
  rfl

/-- A character that may stand behind what verbose mode looks past, but not at its end. -/
theorem peekFrom_append (F : Frame) {d : Char} (hd : d ≠ ')') (hblank : isBlank d = false)
    (hsign : d ≠ '#') {t : Text} : ∀ (u : Text) (inComment : Bool),
    (u = t ∨ ∃ c ∈ t.head?, isBlank c = true ∨ c = '#') →
      ((peekFrom (t ++ F.behind) inComment (u ++ F.behind) == some d) =
        (peekFrom t inComment u == some d)) := by
  have hparen : isBlank ')' = false := rfl
  intro u
  induction u with
  | nil =>
    intro inComment ht
    have hnone : (t.head? == some d) = false := by
      refine beq_eq_false_iff_ne.mpr fun hhead => ?_
      rcases ht with rfl | ⟨c, hc, hpassed⟩
      · cases hhead
      · cases hc.symm.trans hhead
        rcases hpassed with hpassed | hpassed
        · rw [hblank] at hpassed
          cases hpassed
        · exact hsign hpassed
    have hbehind : peekFrom (t ++ F.behind) inComment F.behind = some ')' := by
      rw [Frame.behind, peekFrom, hparen, if_neg Bool.false_ne_true, if_neg]
      simp
    rw [List.nil_append, hbehind, peekFrom, hnone]
    exact beq_eq_false_iff_ne.mpr fun h => hd (Option.some.inj h).symm
  | cons c u ih =>
    intro inComment ht
    rw [List.cons_append, peekFrom, peekFrom]
    have hpassed : isBlank c = true ∨ c = '#' → u = t ∨ ∃ c ∈ t.head?, isBlank c = true ∨ c = '#' := by
      intro hc
      rcases ht with rfl | ht
      · exact .inr ⟨c, rfl, hc⟩
      · exact .inr ht
    split
    · rename_i hc
      exact ih inComment (hpassed (.inl hc))
    · split
      · rename_i hc
        rw [Bool.and_eq_true, beq_iff_eq] at hc
        exact ih true (hpassed (.inr hc.2))
      · rfl

theorem peekAfter_cursor (verbose : Bool) (hne : cur.rest ≠ []) (F : Frame) {d : Char}
    (hd : d ≠ ')') (hblank : isBlank d = false) (hsign : d ≠ '#') :
    (peekAfter verbose (F.cursor false cur) == some d) = (peekAfter verbose cur == some d) := by
  obtain ⟨c, t, hrest⟩ := List.exists_cons_of_ne_nil hne
  rw [peekAfter, peekAfter, Frame.cursor_rest_cons hrest, hrest]
  cases verbose with
  | true => exact peekFrom_append F hd hblank hsign t false (.inl rfl)
  | false => exact F.head?_beq hd ⟨0, t⟩

theorem readRange_eq {first : Piece} {c : Char} {offset : Nat}
    (h : readClassPiece verbose cur = .ok (first, after)) (hrest : (pass verbose after).rest = c :: t) :
    readRange verbose offset cur =
      if c != '-' || peekAfter verbose (pass verbose after) == some ']' ||
          peekAfter verbose (pass verbose after) == some '-' then
        (do return (← classItem cur.offset first, pass verbose after))
      else if (next verbose (pass verbose after)).rest.isEmpty then
        .error (.found offset .classUnclosed)
      else
        (do
          let (last, behind) ← readClassPiece verbose (next verbose (pass verbose after))
          let a ← rangeEnd cur.offset first
          let b ← rangeEnd (next verbose (pass verbose after)).offset last
          if a.char ≤ b.char then return (.range a b, behind)
          else failAt cur .classRange) := by
  rw [readRange, h]
  simp only [bind, Except.bind, hrest]

/-- An item or a range of a class is read in every frame. -/
theorem agree_readRange {offset : Nat} {item : ClassItem}
    (h : readRange verbose offset cur = .ok (item, after)) :
    Agree (fun k => item.moved k) after
      fun F => readRange verbose (offset + F.front) (F.cursor false cur) := by
  obtain ⟨⟨first, behind⟩, hfirst, -⟩ := bind_eq_ok.mp h
  cases hrest : (pass verbose behind).rest with
  | nil =>
    rw [readRange, hfirst] at h
    simp only [bind, Except.bind, hrest] at h
    cases h
  | cons c t =>
    have hne : (pass verbose behind).rest ≠ [] := by rw [hrest]; exact List.cons_ne_nil c t
    have hfirst₁ : ∀ F : Frame, readClassPiece verbose (F.cursor false cur) =
        .ok (first, F.cursor false behind) :=
      (agree_readClassPiece hfirst).of_rest fun hnil => hne (pass_of_nil verbose hnil)
    have hrest₁ : ∀ F : Frame, (pass verbose (F.cursor false behind)).rest = c :: (t ++ F.behind) :=
      fun F => by rw [pass_cursor hne, Frame.cursor_rest_cons hrest]
    have heq : ∀ F : Frame, readRange verbose (offset + F.front) (F.cursor false cur) = _ :=
      fun F => readRange_eq (hfirst₁ F) (hrest₁ F)
    simp only [pass_cursor hne, peekAfter_cursor verbose hne _ (d := ']') (by decide) rfl (by decide),
      peekAfter_cursor verbose hne _ (d := '-') (by decide) rfl (by decide)] at heq
    rw [readRange_eq hfirst hrest] at h
    split at h
    · rename_i hsingle
      obtain ⟨item, hitem, h⟩ := bind_eq_ok.mp h
      cases h
      refine agree_of_forall fun F => ?_
      rw [heq, if_pos hsingle, classItem_eq_ok hitem _ F.front]
      rfl
    · rename_i hrange
      split at h
      · cases h
      · rename_i hnext
        have hnext' : (next verbose (pass verbose behind)).rest ≠ [] :=
          fun hnil => hnext (List.isEmpty_iff.mpr hnil)
        obtain ⟨⟨last, behind'⟩, hlast, h⟩ := bind_eq_ok.mp h
        obtain ⟨a, ha, h⟩ := bind_eq_ok.mp h
        obtain ⟨b, hb, h⟩ := bind_eq_ok.mp h
        split at h
        · rename_i hle
          cases h
          refine (agree_readClassPiece hlast).map fun F cur' hF => ?_
          rw [heq, if_neg hrange, next_cursor hnext', F.isEmpty_rest, if_neg Bool.false_ne_true, hF,
            rangeEnd_eq_ok ha]
          show (rangeEnd _ last >>= fun b => _) = _
          rw [rangeEnd_eq_ok hb]
          show (if a.char ≤ b.char then _ else _) = _
          rw [if_pos hle]
          rfl
        · cases h

/-! ### The rest of a class -/

theorem setOperation?_append (F : Frame) (c : Char) (t : Text) :
    setOperation? (c :: t ++ F.behind) = setOperation? (c :: t) := by
  cases t with
  | cons d t =>
    rw [List.cons_append, List.cons_append]
    unfold setOperation?
    split
    · rename_i heq
      cases heq
      rfl
    · rename_i heq
      cases heq
      rfl
    · rename_i heq
      cases heq
      rfl
    · rename_i hand hminus htilde
      split
      · rename_i heq
        cases heq
        exact (hand _ rfl).elim
      · rename_i heq
        cases heq
        exact (hminus _ rfl).elim
      · rename_i heq
        cases heq
        exact (htilde _ rfl).elim
      · rfl
  | nil =>
    have hnone : setOperation? [c] = none := by
      unfold setOperation?
      split <;> rename_i heq
      · cases heq
      · cases heq
      · cases heq
      · rfl
    rw [hnone]
    unfold setOperation?
    split <;> rename_i heq
    · cases heq
    · cases heq
    · cases heq
    · rfl

section Rest

-- The equations of the reader are made once here, for all the lemmas that rewrite with them.
attribute [local simp] readClassRest

variable {top : OpenClass} {below : List OpenClass} {c : Char}

theorem readClassRest_ascii {item : ClassItem} (h : (pass verbose cur).rest = '[' :: t)
    (hascii : asciiClass? (pass verbose cur) = some (item, after)) :
    readClassRest verbose (left + 1) (top :: below) u cur =
      readClassRest verbose left (top :: below) (u.push (pass verbose cur).offset item) after := by
  rw [readClassRest]
  dsimp only
  rw [h, hascii]
  rfl

theorem readClassRest_open (h : (pass verbose cur).rest = '[' :: t)
    (hascii : asciiClass? (pass verbose cur) = none) :
    readClassRest verbose (left + 1) (top :: below) u cur =
      (do
        let (negated, inner, after) ← openClass verbose (pass verbose cur)
        readClassRest verbose left
          (⟨u, (pass verbose cur).offset, negated, none⟩ :: top :: below) inner after) := by
  rw [readClassRest]
  dsimp only
  rw [h, hascii]
  rfl

theorem readClassRest_last (h : (pass verbose cur).rest = ']' :: t) :
    readClassRest verbose (left + 1) [top] u cur =
      .ok (.bracketed top.offset top.negated (top.close u), (pass verbose cur).skip 1) := by
  rw [readClassRest]
  dsimp only
  rw [h]
  rfl

theorem readClassRest_close {next : OpenClass} (h : (pass verbose cur).rest = ']' :: t) :
    readClassRest verbose (left + 1) (top :: next :: below) u cur =
      readClassRest verbose left (next :: below)
        (top.parent.push top.offset (.bracketed top.offset top.negated (top.close u)))
        ((pass verbose cur).skip 1) := by
  rw [readClassRest]
  dsimp only
  rw [h]
  rfl

theorem readClassRest_item (h : (pass verbose cur).rest = c :: t) (hopen : c ≠ '[')
    (hclose : c ≠ ']') : readClassRest verbose (left + 1) (top :: below) u cur =
      match setOperation? (pass verbose cur).rest with
      | some op =>
        readClassRest verbose left
          (⟨top.parent, top.offset, top.negated,
            some (u.start top.waiting, op, top.close u)⟩ :: below)
          ⟨((pass verbose cur).skip 2).offset, []⟩ ((pass verbose cur).skip 2)
      | none =>
        (do
          let (item, after) ← readRange verbose top.offset (pass verbose cur)
          readClassRest verbose left (top :: below) (u.push (pass verbose cur).offset item)
            after) := by
  rw [readClassRest]
  dsimp only
  split
  · rename_i hnil
    cases h.symm.trans hnil
  · rename_i heq
    exact absurd (List.cons.inj (h.symm.trans heq)).1 hopen
  · rename_i heq
    exact absurd (List.cons.inj (h.symm.trans heq)).1 hclose
  · cases setOperation? (pass verbose cur).rest <;> rfl

theorem length_of_setOperation? {rest : Text} {op : SetOperation}
    (h : setOperation? rest = some op) : 2 ≤ rest.length := by
  unfold setOperation? at h
  split at h
  · exact Nat.le_add_left 2 _
  · exact Nat.le_add_left 2 _
  · exact Nat.le_add_left 2 _
  · cases h

/-- Whether the rest of a class that is read in a number of steps is read in every frame. -/
def RestFramed (verbose : Bool) (spare : Frame → Nat) (left : Nat) : Prop :=
  ∀ (stack : List OpenClass) (u : OpenUnion) (cur : Cursor) {e : Expression} {after : Cursor},
    readClassRest verbose left stack u cur = .ok (e, after) →
    ∀ F, readClassRest verbose (left + spare F) (stack.map (OpenClass.moved F.front))
      (u.moved F.front) (F.cursor false cur) = .ok (e.moved F.front, F.cursor false after)

variable {spare : Frame → Nat} {e : Expression}

theorem pass_rest_cursor (hrest : (pass verbose cur).rest = c :: t) (F : Frame) :
    pass verbose (F.cursor false cur) = F.cursor false (pass verbose cur) ∧
      (pass verbose (F.cursor false cur)).rest = c :: (t ++ F.behind) := by
  have hne : (pass verbose cur).rest ≠ [] := by rw [hrest]; exact List.cons_ne_nil c t
  rw [pass_cursor hne]
  exact ⟨rfl, Frame.cursor_rest_cons hrest⟩

/-- At an opening bracket stands a class with a name or another class in brackets. -/
theorem RestFramed.opened (ih : RestFramed verbose spare left)
    (hrest : (pass verbose cur).rest = '[' :: t)
    (h : readClassRest verbose (left + 1) (top :: below) u cur = .ok (e, after)) (F : Frame) :
    readClassRest verbose (left + spare F + 1) (top.moved F.front :: below.map (.moved F.front))
      (u.moved F.front) (F.cursor false cur) = .ok (e.moved F.front, F.cursor false after) := by
  obtain ⟨hpass, hrest₁⟩ := pass_rest_cursor hrest F
  have hascii₁ := asciiClass?_cursor (pass verbose cur) F
  rw [← hpass] at hascii₁
  cases hascii : asciiClass? (pass verbose cur) with
  | some named =>
    obtain ⟨item, after'⟩ := named
    rw [readClassRest_ascii hrest hascii] at h
    rw [hascii] at hascii₁
    rw [readClassRest_ascii hrest₁ hascii₁, hpass]
    have hread := ih _ _ _ h F
    rwa [OpenUnion.moved_push] at hread
  | none =>
    rw [readClassRest_open hrest hascii] at h
    rw [hascii] at hascii₁
    obtain ⟨⟨negated, inner, after'⟩, hclass, h⟩ := bind_eq_ok.mp h
    rw [readClassRest_open hrest₁ hascii₁, hpass, openClass_cursor hclass]
    exact ih _ _ _ h F

/-- A closing bracket closes the class, or one inside it. -/
theorem RestFramed.closed (ih : RestFramed verbose spare left)
    (hrest : (pass verbose cur).rest = ']' :: t)
    (h : readClassRest verbose (left + 1) (top :: below) u cur = .ok (e, after)) (F : Frame) :
    readClassRest verbose (left + spare F + 1) (top.moved F.front :: below.map (.moved F.front))
      (u.moved F.front) (F.cursor false cur) = .ok (e.moved F.front, F.cursor false after) := by
  obtain ⟨hpass, hrest₁⟩ := pass_rest_cursor hrest F
  cases below with
  | nil =>
    rw [readClassRest_last hrest] at h
    cases h
    rw [List.map_nil, readClassRest_last hrest₁, hpass, Frame.cursor_skip_one hrest,
      OpenClass.moved_close]
    rfl
  | cons next below =>
    rw [readClassRest_close hrest] at h
    rw [List.map_cons, readClassRest_close hrest₁, hpass, Frame.cursor_skip_one hrest,
      OpenClass.moved_close]
    have hread := ih _ _ _ h F
    rwa [OpenUnion.moved_push] at hread

/-- At any other character stands an operation of sets or an item. -/
theorem RestFramed.item (ih : RestFramed verbose spare left)
    (hrest : (pass verbose cur).rest = c :: t) (hopen : c ≠ '[') (hclose : c ≠ ']')
    (h : readClassRest verbose (left + 1) (top :: below) u cur = .ok (e, after)) (F : Frame) :
    readClassRest verbose (left + spare F + 1) (top.moved F.front :: below.map (.moved F.front))
      (u.moved F.front) (F.cursor false cur) = .ok (e.moved F.front, F.cursor false after) := by
  obtain ⟨hpass, hrest₁⟩ := pass_rest_cursor hrest F
  have hop₁ : setOperation? (pass verbose (F.cursor false cur)).rest =
      setOperation? (pass verbose cur).rest := by
    rw [hrest₁, ← List.cons_append, setOperation?_append, hrest]
  rw [readClassRest_item hrest hopen hclose] at h
  rw [readClassRest_item hrest₁ hopen hclose, hop₁]
  cases hop : setOperation? (pass verbose cur).rest with
  | some op =>
    rw [hop] at h
    have hread := ih _ _ _ h F
    rw [hpass, Frame.cursor_skip (length_of_setOperation? hop), OpenClass.moved_close,
      show (u.moved F.front).start (top.moved F.front).waiting = _ from
        u.moved_start F.front top.waiting]
    exact hread
  | none =>
    rw [hop] at h
    obtain ⟨⟨item, after'⟩, hrange, h⟩ := bind_eq_ok.mp h
    dsimp only at h
    -- The class has still to be closed, so that nothing behind the item has been swallowed.
    have hafter : after'.rest ≠ [] := by
      intro hnil
      cases left with
      | zero => cases h
      | succ left =>
        rw [readClassRest] at h
        dsimp only at h
        rw [pass_of_nil verbose hnil] at h
        cases h
    have hrange₁ := (agree_readRange hrange).of_rest hafter F
    have hread := ih _ _ _ h F
    rw [OpenUnion.moved_push] at hread
    refine Eq.trans ?_ hread
    rw [hpass]
    exact congrArg (· >>= _) hrange₁

/-- The rest of a class is read in every frame. -/
theorem restFramed (verbose : Bool) (spare : Frame → Nat) (left : Nat) :
    RestFramed verbose spare left := by
  induction left with
  | zero =>
    intro stack u cur e after h
    cases h
  | succ left ih =>
    intro stack u cur e after h F
    cases stack with
    | nil => cases h
    | cons top below =>
      rw [Nat.add_right_comm, List.map_cons]
      cases hrest : (pass verbose cur).rest with
      | nil =>
        rw [readClassRest] at h
        dsimp only at h
        rw [hrest] at h
        cases h
      | cons c t =>
        by_cases hopen : c = '['
        · exact ih.opened (hopen ▸ hrest) h F
        · by_cases hclose : c = ']'
          · exact ih.closed (hclose ▸ hrest) h F
          · exact ih.item hrest hopen hclose h F

end Rest

/-- A class in brackets is read in every frame, and nothing is passed over behind it. -/
theorem readClass_cursor {e : Expression} (h : readClass verbose cur = .ok (e, after)) (F : Frame) :
    readClass verbose (F.cursor false cur) = .ok (e.moved F.front, F.cursor false after) := by
  obtain ⟨⟨negated, u, after'⟩, hopen, h⟩ := bind_eq_ok.mp h
  have hread := restFramed verbose (fun F => F.behind.length) _ _ _ _ h F
  rw [readClass, openClass_cursor hopen]
  show readClassRest verbose ((F.cursor false after').rest.length + 1) _ _ _ = _
  rw [Frame.length_cursor_rest, Nat.add_right_comm]
  exact hread

end PhoneticSearch.Regex
