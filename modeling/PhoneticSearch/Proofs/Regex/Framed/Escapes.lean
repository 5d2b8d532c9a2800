import PhoneticSearch.Proofs.Regex.Framed.Frame

/-!
# Escapes inside parentheses

An escape that can be read by itself is read in every frame, up to the same place
(`agree_readEscape`).  Its last character is passed over as any other, so that a comment of verbose
mode may go on behind it.
-/

namespace PhoneticSearch.Regex

variable {verbose : Bool} {cur opening letter close after : Cursor} {c : Char}
  {t digits name : Text} {left width : Nat}

theorem readHexDigits_cons (h : cur.rest = c :: t) (hc : (Ranges.digit? c).isNone = false) :
    readHexDigits verbose (left + 1) cur =
      (do
        let (digits, after) ← readHexDigits verbose left (next verbose cur)
        return (c :: digits, after)) := by
  rw [readHexDigits, h]
  dsimp only
  rw [hc, if_neg Bool.false_ne_true]

theorem agree_readHexDigits : ∀ (left : Nat) (cur : Cursor) {digits : Text} {after : Cursor},
    readHexDigits verbose left cur = .ok (digits, after) →
      Agree (fun _ => digits) after fun F => readHexDigits verbose left (F.cursor false cur) := by
  intro left
  induction left with
  | zero =>
    intro cur digits after h
    cases h
    exact agree_of_forall fun F => rfl
  | succ left ih =>
    intro cur digits after h
    cases hrest : cur.rest with
    | nil =>
      rw [readHexDigits, hrest] at h
      cases h
    | cons c t =>
      cases hc : (Ranges.digit? c).isNone with
      | true =>
        rw [readHexDigits, hrest] at h
        dsimp only at h
        rw [hc, if_pos rfl] at h
        cases h
      | false =>
        rw [readHexDigits_cons hrest hc] at h
        obtain ⟨⟨digits, after⟩, hread, h⟩ := bind_eq_ok.mp h
        cases h
        have hne : cur.rest ≠ [] := by
          rw [hrest]
          exact List.cons_ne_nil c t
        obtain ⟨swallowed, hnil, hplace⟩ := follows_next verbose hne
        have hagree : Agree (fun _ => digits) after fun F =>
            readHexDigits verbose left (next verbose (F.cursor false cur)) := by
          cases swallowed with
          | false =>
            refine (ih _ hread).map fun F cur' hF => ?_
            rw [show next verbose (F.cursor false cur) = _ from hplace F]
            exact hF
          | true =>
            -- Nothing is left, so no more digits can be asked for.
            cases left with
            | zero =>
              cases hread
              exact ⟨true, hnil, fun F => congrArg (fun cur => Except.ok ([], cur)) (hplace F)⟩
            | succ left =>
              rw [readHexDigits, hnil rfl] at hread
              cases hread
        refine hagree.map fun F cur' hF => ?_
        rw [readHexDigits_cons (Frame.cursor_rest_cons hrest) hc, hF]
        rfl

theorem readHexBraced_cons (h : cur.rest = c :: t) (hc : c ≠ '\x7d')
    (hdigit : (Ranges.digit? c).isNone = false) :
    readHexBraced verbose opening (left + 1) cur =
      (do
        let (digits, close) ← readHexBraced verbose opening left (next verbose cur)
        return (c :: digits, close)) := by
  rw [readHexBraced, h]
  dsimp only
  rw [if_neg hc, hdigit, if_neg Bool.false_ne_true]

theorem readHexBraced_cursor (spare : Frame → Nat) : ∀ (left : Nat) (cur : Cursor)
    {digits : Text} {close : Cursor}, readHexBraced verbose opening left cur = .ok (digits, close) →
      cur.rest ≠ [] ∧ close.rest ≠ [] ∧ ∀ F, readHexBraced verbose (F.cursor false opening)
        (left + spare F) (F.cursor false cur) = .ok (digits, F.cursor false close) := by
  intro left
  induction left with
  | zero =>
    intro cur digits close h
    cases h
  | succ left ih =>
    intro cur digits close h
    cases hrest : cur.rest with
    | nil =>
      rw [readHexBraced, hrest] at h
      cases h
    | cons c t =>
      have hne : cur.rest ≠ [] := by rw [hrest]; exact List.cons_ne_nil c t
      by_cases hc : c = '\x7d'
      · rw [readHexBraced, hrest] at h
        dsimp only at h
        rw [if_pos hc] at h
        cases h
        refine ⟨List.cons_ne_nil c t, hne, fun F => ?_⟩
        rw [Nat.add_right_comm, readHexBraced, Frame.cursor_rest_cons hrest]
        dsimp only
        rw [if_pos hc]
      · cases hdigit : (Ranges.digit? c).isNone with
        | true =>
          rw [readHexBraced, hrest] at h
          dsimp only at h
          rw [if_neg hc, hdigit, if_pos rfl] at h
          cases h
        | false =>
          rw [readHexBraced_cons hrest hc hdigit] at h
          obtain ⟨⟨digits, close⟩, hread, h⟩ := bind_eq_ok.mp h
          cases h
          obtain ⟨hnext, hclose, hF⟩ := ih _ hread
          refine ⟨List.cons_ne_nil c t, hclose, fun F => ?_⟩
          rw [Nat.add_right_comm, readHexBraced_cons (Frame.cursor_rest_cons hrest) hc hdigit,
            next_cursor hnext, hF]
          rfl

theorem readHex_braced (h : (next verbose letter).rest = '\x7b' :: t) :
    readHex verbose width letter =
      (do
        let (digits, close) ← readHexBraced verbose (next verbose letter)
          (next verbose letter).rest.length (next verbose (next verbose letter))
        if digits.isEmpty then failAt (next verbose letter) .hexEmpty
        else match charOf? (hexValue digits) with
          | some c => .ok (⟨c, false⟩, next verbose close)
          | none => failAt ((next verbose letter).skip 1) .hexNoCharacter) := by
  rw [readHex]
  dsimp only
  split
  · rename_i hnil
    cases h.symm.trans hnil
  · rfl
  · rename_i hbrace
    exact absurd h (hbrace t)

theorem readHex_plain (h : (next verbose letter).rest = c :: t) (hc : c ≠ '\x7b') :
    readHex verbose width letter =
      (do
        let (digits, after) ← readHexDigits verbose width (next verbose letter)
        match charOf? (hexValue digits) with
          | some c => .ok (⟨c, width == 2⟩, after)
          | none => failAt (next verbose letter) .hexNoCharacter) := by
  rw [readHex]
  dsimp only
  split
  · rename_i hnil
    cases h.symm.trans hnil
  · rename_i hbrace
    exact absurd (List.cons.inj (h.symm.trans hbrace)).1 hc
  · rfl

/-- A character given by its number is read in every frame. -/
theorem agree_readHex {literal : Literal}
    (h : readHex verbose width letter = .ok (literal, after)) :
    Agree (fun _ => literal) after fun F => readHex verbose width (F.cursor false letter) := by
  cases hrest : (next verbose letter).rest with
  | nil =>
    rw [readHex] at h
    dsimp only at h
    rw [hrest] at h
    cases h
  | cons c t =>
    have hplace : ∀ F : Frame, next verbose (F.cursor false letter) = F.cursor false (next verbose letter) :=
      next_cursor (by rw [hrest]; exact List.cons_ne_nil c t)
    have hrest₁ : ∀ F : Frame, (next verbose (F.cursor false letter)).rest = c :: (t ++ F.behind) :=
      fun F => by rw [hplace, Frame.cursor_rest_cons hrest]
    by_cases hc : c = '\x7b'
    · subst hc
      rw [readHex_braced hrest] at h
      obtain ⟨⟨digits, close⟩, hread, h⟩ := bind_eq_ok.mp h
      obtain ⟨hinside, hclose, hF⟩ := readHexBraced_cursor (fun F => F.behind.length) _ _ hread
      dsimp only at h
      split at h
      · cases h
      · rename_i hdigits
        split at h
        · rename_i value hvalue
          cases h
          refine (follows_next verbose hclose).agree fun F => ?_
          rw [readHex_braced (hrest₁ F), hplace, Frame.length_cursor_rest, next_cursor hinside, hF]
          show (if digits.isEmpty then _ else _) = _
          rw [if_neg hdigits, hvalue]
        · cases h
    · rw [readHex_plain hrest hc] at h
      obtain ⟨⟨digits, after⟩, hread, h⟩ := bind_eq_ok.mp h
      dsimp only at h
      split at h
      · rename_i value hvalue
        cases h
        refine (agree_readHexDigits _ _ hread).map fun F cur' hF => ?_
        rw [readHex_plain (hrest₁ F) hc, hplace, hF]
        show (match charOf? (hexValue digits) with | some c => _ | none => _) = _
        rw [hvalue]
      · cases h

theorem readName_cons (h : cur.rest = c :: t) (hc : c ≠ '\x7d') :
    readName verbose (left + 1) cur =
      (do
        let (name, after) ← readName verbose left (next verbose cur)
        return (c :: name, after)) := by
  rw [readName, h]
  dsimp only
  rw [if_neg hc]

theorem readName_cursor (spare : Frame → Nat) : ∀ (left : Nat) (cur : Cursor) {name : Text}
    {after : Cursor}, readName verbose left cur = .ok (name, after) →
      cur.rest ≠ [] ∧ ∀ F, readName verbose (left + spare F) (F.cursor false cur) =
        .ok (name, F.cursor false after) := by
  intro left
  induction left with
  | zero =>
    intro cur name after h
    cases h
  | succ left ih =>
    intro cur name after h
    cases hrest : cur.rest with
    | nil =>
      rw [readName, hrest] at h
      cases h
    | cons c t =>
      refine ⟨List.cons_ne_nil c t, fun F => ?_⟩
      rw [Nat.add_right_comm]
      by_cases hc : c = '\x7d'
      · rw [readName, hrest] at h
        dsimp only at h
        rw [if_pos hc] at h
        cases h
        rw [readName, Frame.cursor_rest_cons hrest]
        dsimp only
        rw [if_pos hc, Frame.cursor_skip_one hrest]
      · rw [readName_cons hrest hc] at h
        obtain ⟨⟨name, after⟩, hread, h⟩ := bind_eq_ok.mp h
        cases h
        obtain ⟨hnext, hF⟩ := ih _ hread
        rw [readName_cons (Frame.cursor_rest_cons hrest) hc, next_cursor hnext, hF]
        rfl

theorem readProperty_braced (h : (next verbose letter).rest = '\x7b' :: t) :
    readProperty verbose letter =
      (do
        let (name, after) ← readName verbose (next verbose letter).rest.length
          (next verbose (next verbose letter))
        return (propertyName name, after)) := by
  rw [readProperty]
  dsimp only
  split
  · rename_i hnil
    cases h.symm.trans hnil
  · rfl
  · rename_i hslash
    cases h.symm.trans hslash
  · rename_i hbrace _ hrest
    exact absurd (List.cons.inj (h.symm.trans hrest)).1.symm hbrace

theorem readProperty_single (h : (next verbose letter).rest = c :: t) (hc : c ≠ '\x7b')
    (hslash : c ≠ '\\') :
    readProperty verbose letter = .ok (.name [c], next verbose (next verbose letter)) := by
  rw [readProperty]
  dsimp only
  split
  · rename_i hnil
    cases h.symm.trans hnil
  · rename_i hbrace
    exact absurd (List.cons.inj (h.symm.trans hbrace)).1 hc
  · rename_i hslash'
    exact absurd (List.cons.inj (h.symm.trans hslash')).1 hslash
  · rename_i hrest
    rw [(List.cons.inj (h.symm.trans hrest)).1]

/-- The name of a class is read in every frame. -/
theorem agree_readProperty {property : PropertyName}
    (h : readProperty verbose letter = .ok (property, after)) :
    Agree (fun _ => property) after fun F => readProperty verbose (F.cursor false letter) := by
  cases hrest : (next verbose letter).rest with
  | nil =>
    rw [readProperty] at h
    dsimp only at h
    rw [hrest] at h
    cases h
  | cons c t =>
    have hne : (next verbose letter).rest ≠ [] := by rw [hrest]; exact List.cons_ne_nil c t
    have hrest₁ : ∀ F : Frame, (next verbose (F.cursor false letter)).rest = c :: (t ++ F.behind) :=
      fun F => by rw [next_cursor hne, Frame.cursor_rest_cons hrest]
    by_cases hc : c = '\x7b'
    · subst hc
      rw [readProperty_braced hrest] at h
      obtain ⟨⟨name, after⟩, hread, h⟩ := bind_eq_ok.mp h
      cases h
      obtain ⟨hinside, hF⟩ := readName_cursor (fun F => F.behind.length) _ _ hread
      refine agree_of_forall fun F => ?_
      rw [readProperty_braced (hrest₁ F), next_cursor hne, Frame.length_cursor_rest,
        next_cursor hinside, hF]
      rfl
    · by_cases hslash : c = '\\'
      · rw [readProperty] at h
        dsimp only at h
        rw [hrest, hslash] at h
        cases h
      · rw [readProperty_single hrest hc hslash] at h
        cases h
        refine (follows_next verbose hne).agree fun F => ?_
        rw [readProperty_single (hrest₁ F) hc hslash, next_cursor hne]

theorem readBoundary_plain (h : ∀ t, cur.rest ≠ '\x7b' :: t) :
    readBoundary verbose opening cur = .ok (.wordBoundary, cur) := by
  rw [readBoundary]
  split
  · rename_i hbrace
    exact absurd hbrace (h _)
  · rfl

theorem readBoundary_braced {t' : Text} (h : cur.rest = '\x7b' :: t)
    (h' : (next verbose cur).rest = c :: t') : readBoundary verbose opening cur =
      if (c.isAlpha || c == '-') = false then .ok (.wordBoundary, cur)
      else
        let read := readBoundaryName verbose (next verbose cur).rest.length (next verbose cur)
        if read.2.rest.head? != some '\x7d' then failAt cur .wordBoundaryUnclosed
        else match read.1.asString with
          | "start" => .ok (.wordStart, read.2.skip 1)
          | "end" => .ok (.wordEnd, read.2.skip 1)
          | "start-half" => .ok (.wordStartHalf, read.2.skip 1)
          | "end-half" => .ok (.wordEndHalf, read.2.skip 1)
          | _ => failAt (next verbose cur) .wordBoundaryUnknown := by
  rw [readBoundary, h]
  dsimp only
  rw [h', ← congrArg List.length h']
  show (if (!(c.isAlpha || c == '-')) = true then _ else _) = _
  cases c.isAlpha || c == '-' <;> rfl

/-- A word boundary is read in every frame, and nothing is passed over behind it. -/
theorem readBoundary_cursor {a : Assertion} (h : readBoundary verbose opening cur = .ok (a, after))
    (F : Frame) : readBoundary verbose (F.cursor false opening) (F.cursor false cur) =
      .ok (a, F.cursor false after) := by
  by_cases hbrace : ∃ t, cur.rest = '\x7b' :: t
  · obtain ⟨t, hrest⟩ := hbrace
    cases hinside : (next verbose cur).rest with
    | nil =>
      rw [readBoundary, hrest] at h
      dsimp only at h
      rw [hinside] at h
      cases h
    | cons c t' =>
      have hne : (next verbose cur).rest ≠ [] := by rw [hinside]; exact List.cons_ne_nil c t'
      have hinside₁ : (next verbose (F.cursor false cur)).rest = c :: (t' ++ F.behind) := by
        rw [next_cursor hne, Frame.cursor_rest_cons hinside]
      rw [readBoundary_braced hrest hinside] at h
      rw [readBoundary_braced (Frame.cursor_rest_cons hrest) hinside₁]
      split at h
      · rename_i hname
        cases h
        rw [if_pos hname]
      · rename_i hname
        rw [if_neg hname]
        dsimp only at h ⊢
        split at h
        · cases h
        · rename_i hclose
          rw [bne_iff_ne, Decidable.not_not] at hclose
          have hname := agree_readWhile verbose
            (fun c => c.isAlpha || c == '-') rfl (fun F => F.behind.length) _
            (next verbose cur) (Nat.le_refl _)
          simp only [← readBoundaryName_eq] at hname
          obtain ⟨t'', hrest''⟩ := List.head?_eq_some_iff.mp hclose
          have hread := Except.ok.inj
            (hname.of_rest (by rw [hrest'']; exact List.cons_ne_nil _ _) F)
          rw [next_cursor hne, Frame.length_cursor_rest, hread]
          have hhead : (F.cursor false (readBoundaryName verbose (next verbose cur).rest.length
              (next verbose cur)).2).rest.head? = some '\x7d' := by
            rw [Frame.cursor_rest_cons hrest'']
            rfl
          rw [hhead, if_neg (by simp), Frame.cursor_skip_one hrest'']
          split at h
          all_goals
            rename_i heq
            first
            | cases h
              rw [heq]
              rfl
            | cases h
  · have hplain : ∀ t, cur.rest ≠ '\x7b' :: t := fun t h => hbrace ⟨t, h⟩
    rw [readBoundary_plain hplain] at h
    cases h
    refine readBoundary_plain fun t ht => ?_
    cases hrest : cur.rest with
    | nil =>
      rw [Frame.cursor_rest_nil hrest] at ht
      cases ht
    | cons c t' =>
      rw [Frame.cursor_rest_cons hrest] at ht
      exact hplain t' (by rw [hrest, (List.cons.inj ht).1])

/-- An escape is read in every frame. -/
theorem agree_readEscape {piece : Piece} (h : readEscape verbose opening = .ok (piece, after)) :
    Agree (fun _ => piece) after fun F => readEscape verbose (F.cursor false opening) := by
  cases hrest : (opening.skip 1).rest with
  | nil =>
    rw [readEscape] at h
    dsimp only at h
    rw [hrest] at h
    cases h
  | cons c t =>
    have hlength : 2 ≤ opening.rest.length := by
      have hdrop : (opening.rest.drop 1).length = t.length + 1 := congrArg List.length hrest
      rw [List.length_drop] at hdrop
      omega
    have hskip : ∀ n ≤ 2, ∀ F : Frame,
        (F.cursor false opening).skip n = F.cursor false (opening.skip n) :=
      fun n hn F => Frame.cursor_skip (Nat.le_trans hn hlength)
    have hletter := hskip 1 (Nat.le_succ 1)
    have hrest₁ : ∀ F : Frame, ((F.cursor false opening).skip 1).rest = c :: (t ++ F.behind) :=
      fun F => by rw [hletter, Frame.cursor_rest_cons hrest]
    have hsimple : ∀ {piece' : Piece},
        (.ok (piece', opening.skip 2) : Reading (Piece × Cursor)) = .ok (piece, after) →
        Agree (fun _ => piece) after fun F =>
          (.ok (piece', (F.cursor false opening).skip 2) : Reading (Piece × Cursor)) := by
      intro piece' h
      cases h
      exact agree_of_forall fun F => by rw [hskip 2 (Nat.le_refl 2)]
    have hhex : ∀ {width : Nat} {literal : Literal} {cur : Cursor},
        readHex verbose width (opening.skip 1) = .ok (literal, cur) →
        Agree (fun _ => literal) cur fun F =>
          readHex verbose width ((F.cursor false opening).skip 1) := by
      intro width literal cur hread
      simp only [hletter]
      exact agree_readHex hread
    have hproperty : ∀ {property : PropertyName} {cur : Cursor},
        readProperty verbose (opening.skip 1) = .ok (property, cur) →
        Agree (fun _ => property) cur fun F =>
          readProperty verbose ((F.cursor false opening).skip 1) := by
      intro property cur hread
      simp only [hletter]
      exact agree_readProperty hread
    have hboundary : ∀ {a : Assertion} {cur : Cursor},
        readBoundary verbose opening (opening.skip 2) = .ok (a, cur) →
        Agree (fun _ => a) cur fun F =>
          readBoundary verbose (F.cursor false opening) ((F.cursor false opening).skip 2) := by
      intro a cur hread
      refine agree_of_forall fun F => ?_
      rw [hskip 2 (Nat.le_refl 2)]
      exact readBoundary_cursor hread F
    simp only [readEscape, hrest, hrest₁] at h ⊢
    by_cases hdigit : c.isDigit = true
    · rw [if_pos hdigit] at h
      cases h
    · rw [if_neg hdigit] at h
      simp only [if_neg hdigit]
      by_cases hescapable : isEscapable c = true
      · rw [if_pos hescapable] at h
        simp only [if_pos hescapable]
        exact hsimple h
      · rw [if_neg hescapable] at h
        simp only [if_neg hescapable]
        split at h
        all_goals first
          | exact hsimple h
          | exact agree_of_map h hhex fun _ _ => rfl
          | exact agree_of_map h hproperty fun _ _ => rfl
          | exact agree_of_map h hboundary fun _ _ => rfl
          | cases h

end PhoneticSearch.Regex
