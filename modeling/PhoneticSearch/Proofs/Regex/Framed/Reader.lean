import PhoneticSearch.Proofs.Regex.Framed.Classes

/-!
# Expressions inside parentheses

The reader goes over an expression that it can read by itself in the same way where the expression
stands in a frame (`readFrom_framed`): it comes to the end of the expression in the same state,
with the groups that are open around it below.  There it finds the closing parenthesis, unless the
expression ends in a comment, in which case it finds nothing any more.
-/

namespace PhoneticSearch.Regex

variable {verbose : Bool} {opening cur after close : Cursor} {left : Nat} {t : Text}

/-! ### Groups -/

theorem readGroupName_cons {start : Nat} {c : Char} (h : cur.rest = c :: t) (hc : c ≠ '>')
    (hname : isNameChar (cur.offset == start) c = true) :
    readGroupName start (left + 1) cur =
      (do
        let (name, close) ← readGroupName start left (cur.skip 1)
        return (c :: name, close)) := by
  rw [readGroupName, h]
  dsimp only
  rw [if_neg hc, hname]
  rfl

/-- The name of a group is read in every frame. -/
theorem readGroupName_cursor {start : Nat} (spare : Frame → Nat) : ∀ (left : Nat) (cur : Cursor)
    {name : Text} {close : Cursor}, readGroupName start left cur = .ok (name, close) →
      close.rest ≠ [] ∧ ∀ F, readGroupName (start + F.front) (left + spare F) (F.cursor false cur) =
        .ok (name, F.cursor false close) := by
  intro left
  induction left with
  | zero =>
    intro cur name close h
    cases h
  | succ left ih =>
    intro cur name close h
    cases hrest : cur.rest with
    | nil =>
      rw [readGroupName, hrest] at h
      cases h
    | cons c t =>
      by_cases hc : c = '>'
      · rw [readGroupName, hrest] at h
        dsimp only at h
        rw [if_pos hc] at h
        cases h
        refine ⟨by rw [hrest]; exact List.cons_ne_nil c t, fun F => ?_⟩
        rw [Nat.add_right_comm, readGroupName, Frame.cursor_rest_cons hrest]
        dsimp only
        rw [if_pos hc]
      · cases hname : isNameChar (cur.offset == start) c with
        | false =>
          rw [readGroupName, hrest] at h
          dsimp only at h
          rw [if_neg hc, hname] at h
          cases h
        | true =>
          rw [readGroupName_cons hrest hc hname] at h
          obtain ⟨⟨name, close⟩, hread, h⟩ := bind_eq_ok.mp h
          cases h
          obtain ⟨hclose, hF⟩ := ih _ hread
          refine ⟨hclose, fun F => ?_⟩
          have hname₁ : isNameChar ((F.cursor false cur).offset == start + F.front) c = true := by
            rwa [Frame.cursor_false_offset, show (cur.offset + F.front == start + F.front) =
              (cur.offset == start) from Bool.eq_iff_iff.mpr (by simp)]
          rw [Nat.add_right_comm, readGroupName_cons (Frame.cursor_rest_cons hrest) hc hname₁,
            Frame.cursor_skip_one hrest, hF]
          rfl

section ReadingFlags

variable {seen changes : FlagChanges} {negation : Option Nat} {dangling : Bool} {c : Char}

theorem readFlags_end (h : cur.rest = c :: t) (hc : c = ':' ∨ c = ')') :
    readFlags seen negation dangling (left + 1) cur =
      match dangling, negation with
      | true, some offset => .error (.found offset .danglingNegation)
      | _, _ => .ok (seen, cur) := by
  rw [readFlags.eq_def]
  dsimp only
  rw [h]
  dsimp only
  exact if_pos hc

theorem readFlags_minus (h : cur.rest = '-' :: t) :
    readFlags seen negation dangling (left + 1) cur =
      if negation.isSome then failAt cur .repeatedNegation
      else if (cur.skip 1).rest.isEmpty then failAt (cur.skip 1) .flagsUnclosed
      else readFlags seen (some cur.offset) true left (cur.skip 1) := by
  rw [readFlags.eq_def]
  dsimp only
  rw [h]
  rfl

theorem readFlags_flag (h : cur.rest = c :: t) (hc : ¬ (c = ':' ∨ c = ')')) (hminus : c ≠ '-') :
    readFlags seen negation dangling (left + 1) cur =
      match Flag.ofChar? c with
      | none => failAt cur .flagUnknown
      | some f =>
        if seen.any (·.1 == f) then failAt cur .flagRepeated
        else if (cur.skip 1).rest.isEmpty then failAt (cur.skip 1) .flagsUnclosed
        else readFlags (seen ++ [(f, negation.isNone)]) negation false left (cur.skip 1) := by
  rw [readFlags.eq_def]
  dsimp only
  rw [h]
  dsimp only
  rw [if_neg hc]
  exact if_neg hminus

/-- Flags are read in every frame. -/
theorem readFlags_cursor (spare : Frame → Nat) : ∀ (left : Nat) (seen : FlagChanges)
    (negation : Option Nat) (dangling : Bool) (cur : Cursor) {changes : FlagChanges}
    {close : Cursor}, readFlags seen negation dangling left cur = .ok (changes, close) →
      close.rest ≠ [] ∧ ∀ F : Frame, readFlags seen (negation.map (· + F.front)) dangling
        (left + spare F) (F.cursor false cur) = .ok (changes, F.cursor false close) := by
  intro left
  induction left with
  | zero =>
    intro seen negation dangling cur changes close h
    rw [readFlags.eq_def] at h
    cases h
  | succ left ih =>
    intro seen negation dangling cur changes close h
    cases hrest : cur.rest with
    | nil =>
      rw [readFlags.eq_def] at h
      dsimp only at h
      rw [hrest] at h
      cases h
    | cons c t =>
      have hne : cur.rest ≠ [] := by rw [hrest]; exact List.cons_ne_nil c t
      by_cases hc : c = ':' ∨ c = ')'
      · rw [readFlags_end hrest hc] at h
        have hend : (∀ offset, dangling = true → negation ≠ some offset) ∧
            changes = seen ∧ close = cur := by
          split at h
          · cases h
          · rename_i hnot
            cases h
            exact ⟨hnot, rfl, rfl⟩
        obtain ⟨hend, rfl, rfl⟩ := hend
        refine ⟨hne, fun F => ?_⟩
        rw [Nat.add_right_comm, readFlags_end (Frame.cursor_rest_cons hrest) hc]
        split
        · rename_i offset hsome
          obtain ⟨offset', hoffset, -⟩ := Option.map_eq_some_iff.mp hsome
          exact absurd hoffset (hend offset' rfl)
        · rfl
      · by_cases hminus : c = '-'
        · subst hminus
          rw [readFlags_minus hrest] at h
          split at h
          · cases h
          · rename_i hnone
            split at h
            · cases h
            · obtain ⟨hclose, hF⟩ := ih _ _ _ _ h
              refine ⟨hclose, fun F => ?_⟩
              rw [Nat.add_right_comm, readFlags_minus (Frame.cursor_rest_cons hrest),
                Option.isSome_map, if_neg hnone, Frame.cursor_skip_one hrest, F.isEmpty_rest,
                if_neg Bool.false_ne_true]
              exact hF F
        · rw [readFlags_flag hrest hc hminus] at h
          split at h
          · cases h
          · rename_i f hflag
            split at h
            · cases h
            · rename_i hfresh
              split at h
              · cases h
              · obtain ⟨hclose, hF⟩ := ih _ _ _ _ h
                refine ⟨hclose, fun F => ?_⟩
                rw [Nat.add_right_comm, readFlags_flag (Frame.cursor_rest_cons hrest) hc hminus,
                  hflag]
                dsimp only
                rw [if_neg hfresh, Frame.cursor_skip_one hrest, F.isEmpty_rest,
                  if_neg Bool.false_ne_true, Option.isNone_map]
                exact hF F

end ReadingFlags

theorem isLookaround_append (F : Frame) (t : Text) :
    isLookaround (t ++ F.behind) = isLookaround t := by
  have hmark : ∀ mark : Text, ')' ∉ mark →
      (Text.after? mark (t ++ F.behind)).isSome = (Text.after? mark t).isSome :=
    fun mark h => by rw [after?_append F h, Option.isSome_map]
  simp only [isLookaround, List.any_cons, List.any_nil, hmark ['?', '='] (by decide),
    hmark ['?', '!'] (by decide), hmark ['?', '<', '='] (by decide),
    hmark ['?', '<', '!'] (by decide)]

theorem openNamed_cursor {names : List Text} {what : Opening}
    (h : openNamed names cur = .ok (what, after)) (F : Frame) :
    openNamed names (F.cursor false cur) = .ok (what, F.cursor false after) := by
  obtain ⟨⟨name, close⟩, hname, h⟩ := bind_eq_ok.mp h
  obtain ⟨hclose, hF⟩ := readGroupName_cursor (fun F => F.behind.length) _ _ hname
  obtain ⟨c, t, hrest⟩ := List.exists_cons_of_ne_nil hclose
  have hread := hF F
  rw [Nat.add_right_comm, ← Frame.length_cursor_rest] at hread
  dsimp only at h
  split at h
  · cases h
  · rename_i hempty
    split at h
    · cases h
    · rename_i hfresh
      cases h
      rw [openNamed, Frame.cursor_false_offset, hread]
      show (if _ then _ else if _ then _ else _) = _
      rw [if_neg hempty, if_neg hfresh, Frame.cursor_skip_one hrest]
      rfl

section OpeningGroups

variable {names : List Text} {what : Opening}

theorem openGroup_plain (hlook : isLookaround (next verbose opening).rest = false)
    (h : ∀ t, (next verbose opening).rest ≠ '?' :: t) :
    openGroup verbose names opening = .ok (.captured none, next verbose opening) := by
  rw [openGroup]
  dsimp only
  rw [hlook, if_neg Bool.false_ne_true]
  split
  · rename_i heq
    exact absurd heq (h _)
  · rename_i heq
    exact absurd heq (h _)
  · rename_i heq
    exact absurd heq (h _)
  · rfl

theorem openGroup_named (hlook : isLookaround (next verbose opening).rest = false)
    (h : (next verbose opening).rest = '?' :: 'P' :: '<' :: t) :
    openGroup verbose names opening = openNamed names ((next verbose opening).skip 3) := by
  rw [openGroup]
  dsimp only
  rw [hlook, if_neg Bool.false_ne_true, h]
  rfl

theorem openGroup_angle (hlook : isLookaround (next verbose opening).rest = false)
    (h : (next verbose opening).rest = '?' :: '<' :: t) :
    openGroup verbose names opening = openNamed names ((next verbose opening).skip 2) := by
  rw [openGroup]
  dsimp only
  rw [hlook, if_neg Bool.false_ne_true, h]
  rfl

theorem openGroup_flags (hlook : isLookaround (next verbose opening).rest = false)
    (h : (next verbose opening).rest = '?' :: t) (hnamed : ∀ t', t ≠ 'P' :: '<' :: t')
    (hangle : ∀ t', t ≠ '<' :: t') : openGroup verbose names opening =
      if t.isEmpty then failAt opening .groupUnclosed
      else do
        let (changes, close) ← readFlags [] none false (t.length + 1) ((next verbose opening).skip 1)
        if close.rest.head? == some ':' then return (.group changes, close.skip 1)
        else if close.offset == (next verbose opening).offset + 1 then
          failAt (next verbose opening) .nothingToRepeat
        else return (.flags changes, close.skip 1) := by
  rw [openGroup]
  dsimp only
  rw [hlook, if_neg Bool.false_ne_true]
  split
  · rename_i heq
    exact absurd (List.cons.inj (h.symm.trans heq)).2 (hnamed _)
  · rename_i heq
    exact absurd (List.cons.inj (h.symm.trans heq)).2 (hangle _)
  · rename_i heq
    rw [(List.cons.inj (h.symm.trans heq)).2]
  · rename_i heq
    exact absurd h (heq t)

/-- Where no question mark follows, a group that captures is opened in every frame. -/
theorem agree_openGroup_plain (hopening : opening.rest ≠ [])
    (hlook : isLookaround (next verbose opening).rest = false)
    (hmark : ∀ t, (next verbose opening).rest ≠ '?' :: t) :
    Agree (fun _ => .captured none) (next verbose opening) fun F =>
      openGroup verbose names (F.cursor false opening) := by
  obtain ⟨swallowed, hnil, hplace⟩ := follows_next verbose hopening
  refine ⟨swallowed, hnil, fun F => ?_⟩
  have hnext : next verbose (F.cursor false opening) = _ := hplace F
  refine (openGroup_plain ?_ ?_).trans (by rw [hnext])
  · rw [hnext]
    cases swallowed with
    | true => rfl
    | false => rw [Frame.cursor_false_rest, isLookaround_append, hlook]
  · rw [hnext]
    cases swallowed with
    | true => exact fun t ht => by cases ht
    | false => exact F.rest_ne_cons (by decide) hmark

/-- Flags behind the question mark are read in every frame, and so is what ends them. -/
theorem openGroup_flags_cursor (hlook : isLookaround (next verbose opening).rest = false)
    (hrest : (next verbose opening).rest = '?' :: t) (hnamed : ∀ t', t ≠ 'P' :: '<' :: t')
    (hangle : ∀ t', t ≠ '<' :: t') (h : openGroup verbose names opening = .ok (what, after))
    (F : Frame) :
    openGroup verbose names (F.cursor false opening) = .ok (what, F.cursor false after) := by
  have hnext : next verbose (F.cursor false opening) = F.cursor false (next verbose opening) :=
    next_cursor (by rw [hrest]; exact List.cons_ne_nil '?' t) F
  have hrest₁ : (next verbose (F.cursor false opening)).rest = '?' :: (t ++ F.behind) := by
    rw [hnext, Frame.cursor_rest_cons hrest]
  have hlook₁ : isLookaround (next verbose (F.cursor false opening)).rest = false := by
    rw [hnext, Frame.cursor_false_rest, isLookaround_append, hlook]
  have hangle₁ : ∀ t', t ++ F.behind ≠ '<' :: t' := by
    intro t' ht'
    match t with
    | [] => cases ht'
    | c :: t =>
      cases ht'
      exact hangle t rfl
  have hnamed₁ : ∀ t', t ++ F.behind ≠ 'P' :: '<' :: t' := by
    intro t' ht'
    match t with
    | [] => cases ht'
    | [c] => cases ht'
    | c :: d :: t =>
      cases ht'
      exact hnamed t rfl
  have hempty₁ : (t ++ F.behind).isEmpty = false := F.isEmpty_rest ⟨0, t⟩
  rw [openGroup_flags hlook hrest hnamed hangle] at h
  split at h
  · cases h
  · obtain ⟨⟨changes, close⟩, hflags, h⟩ := bind_eq_ok.mp h
    obtain ⟨hclose, hF⟩ := readFlags_cursor (fun F => F.behind.length) _ _ _ _ _ hflags
    obtain ⟨c, t', hrest'⟩ := List.exists_cons_of_ne_nil hclose
    have hread := hF F
    rw [Nat.add_right_comm, ← List.length_append, Option.map_none] at hread
    -- Whether the flags are dangling is told from how far they have come.
    have hoffset₁ : ((F.cursor false close).offset ==
        (F.cursor false (next verbose opening)).offset + 1) =
        (close.offset == (next verbose opening).offset + 1) := by
      rw [Frame.cursor_false_offset, Frame.cursor_false_offset, Nat.add_right_comm _ F.front 1]
      exact Bool.eq_iff_iff.mpr (by simp)
    rw [openGroup_flags hlook₁ hrest₁ hnamed₁ hangle₁, hempty₁, if_neg Bool.false_ne_true, hnext,
      Frame.cursor_skip_one hrest, hread]
    show (if (F.cursor false close).rest.head? == some ':' then _ else
      if (F.cursor false close).offset == (F.cursor false (next verbose opening)).offset + 1
      then _ else _) = _
    rw [F.head?_beq (by decide), Frame.cursor_skip_one hrest', hoffset₁]
    dsimp only at h
    split at h
    · rename_i hcolon
      cases h
      rw [if_pos hcolon]
      rfl
    · rename_i hcolon
      split at h
      · cases h
      · rename_i hoffset
        cases h
        rw [if_neg hcolon, if_neg hoffset]
        rfl

/-- What a parenthesis opens is opened in every frame. -/
theorem agree_openGroup (hopening : opening.rest ≠ [])
    (h : openGroup verbose names opening = .ok (what, after)) :
    Agree (fun _ => what) after fun F => openGroup verbose names (F.cursor false opening) := by
  have hlook : isLookaround (next verbose opening).rest = false := by
    rw [openGroup] at h
    dsimp only at h
    split at h
    · cases h
    · rename_i hlook
      exact Bool.eq_false_iff.mpr hlook
  by_cases hmark : ∃ t, (next verbose opening).rest = '?' :: t
  · obtain ⟨t, hrest⟩ := hmark
    have hnext : ∀ F : Frame, next verbose (F.cursor false opening) =
        F.cursor false (next verbose opening) :=
      next_cursor (by rw [hrest]; exact List.cons_ne_nil '?' t)
    have hrest₁ : ∀ F : Frame, (next verbose (F.cursor false opening)).rest =
        '?' :: (t ++ F.behind) := fun F => by rw [hnext, Frame.cursor_rest_cons hrest]
    have hlook₁ : ∀ F : Frame,
        isLookaround (next verbose (F.cursor false opening)).rest = false := fun F => by
      rw [hnext, Frame.cursor_false_rest, isLookaround_append, hlook]
    refine agree_of_forall fun F => ?_
    by_cases hnamed : ∃ t', t = 'P' :: '<' :: t'
    · obtain ⟨t', rfl⟩ := hnamed
      rw [openGroup_named hlook hrest] at h
      rw [openGroup_named (hlook₁ F) (hrest₁ F), hnext, Frame.cursor_skip (by rw [hrest]; simp)]
      exact openNamed_cursor h F
    · by_cases hangle : ∃ t', t = '<' :: t'
      · obtain ⟨t', rfl⟩ := hangle
        rw [openGroup_angle hlook hrest] at h
        rw [openGroup_angle (hlook₁ F) (hrest₁ F), hnext, Frame.cursor_skip (by rw [hrest]; simp)]
        exact openNamed_cursor h F
      · exact openGroup_flags_cursor hlook hrest (fun t' ht' => hnamed ⟨t', ht'⟩)
          (fun t' ht' => hangle ⟨t', ht'⟩) h F
  · have hplain : ∀ t, (next verbose opening).rest ≠ '?' :: t := fun t ht => hmark ⟨t, ht⟩
    rw [openGroup_plain hlook hplain] at h
    cases h
    exact agree_openGroup_plain hopening hlook hplain

end OpeningGroups

/-! ### States of the reader -/

/-- The items of a branch farther behind. -/
def movedBranchItems (k : Nat) (items : List (Nat × Expression)) : List (Nat × Expression) :=
  items.map fun (offset, e) => (offset + k, e.moved k)

/-- A branch farther behind. -/
def OpenBranch.moved (k : Nat) (b : OpenBranch) : OpenBranch :=
  ⟨b.offset + k, movedBranchItems k b.items⟩

/-- The branches in front of one, farther behind. -/
def OpenAlternation.moved (k : Nat) (a : OpenAlternation) : OpenAlternation :=
  ⟨a.offset + k, a.branches.map (Expression.moved k)⟩

/-- An open group farther behind. -/
def OpenGroup.moved (k : Nat) (g : OpenGroup) : OpenGroup :=
  ⟨g.offset + k, g.captured, g.changes, g.verbose, g.branch.moved k,
    g.alternation.map (OpenAlternation.moved k)⟩

/-- A state farther behind, where more groups are open around the expression. -/
def State.inside (k : Nat) (outer : List OpenGroup) (s : State) : State :=
  { groups := s.groups.map (OpenGroup.moved k) ++ outer
    alternation := s.alternation.map (OpenAlternation.moved k)
    branch := s.branch.moved k
    verbose := s.verbose
    names := s.names }

section Moving

variable (k : Nat)

theorem OpenBranch.moved_close (b : OpenBranch) : (b.moved k).close = b.close.moved k := by
  obtain ⟨offset, items⟩ := b
  match items with
  | [] => rfl
  | [(_, e)] => rfl
  | (_, d) :: (_, e) :: items =>
    simp only [moved, movedBranchItems, List.map_cons, close, Expression.moved, movedPieces_eq_map,
      List.map_reverse, List.map_map, List.reverse_cons, List.append_assoc, List.map_append,
      List.map_nil, Function.comp_def]

theorem OpenAlternation.moved_close (a : Option OpenAlternation) (b : OpenBranch) :
    OpenAlternation.close (a.map (OpenAlternation.moved k)) (b.moved k) =
      (OpenAlternation.close a b).moved k := by
  cases a with
  | none => exact b.moved_close k
  | some a =>
    simp only [Option.map_some, close, moved, OpenBranch.moved_close, Expression.moved,
      movedPieces_eq_map, List.map_reverse, List.map_cons]

end Moving

/-! ### One step -/

/-- Whether a step that comes to a state and a place does so in every frame, or else leaves nothing
to be read although a group is open. -/
def Keeps (s : State) (after : Cursor)
    (step : Frame → List OpenGroup → Reading (State × Cursor)) : Prop :=
  (after.rest = [] ∧ s.groups ≠ []) ∨
    ∃ swallowed, (swallowed = true → after.rest = []) ∧
      ∀ F outer, step F outer = .ok (s.inside F.front outer, F.cursor swallowed after)

section Stepping

variable {s s' : State} {step : Frame → List OpenGroup → Reading (State × Cursor)}

theorem keeps_of_forall (h : ∀ (F : Frame) (outer : List OpenGroup),
    step F outer = .ok (s.inside F.front outer, F.cursor false after)) : Keeps s after step :=
  .inr ⟨false, fun hfalse => absurd hfalse Bool.false_ne_true, h⟩

theorem Agree.keeps {α : Type} {result : Nat → α} {reading : Frame → Reading (α × Cursor)}
    (h : Agree result after reading) (hstep : ∀ (F : Frame) (cur' : Cursor) (outer : List OpenGroup),
      reading F = .ok (result F.front, cur') → step F outer = .ok (s.inside F.front outer, cur')) :
    Keeps s after step := by
  obtain ⟨swallowed, hnil, hreading⟩ := h
  exact .inr ⟨swallowed, hnil, fun F outer => hstep F _ outer (hreading F)⟩

/-- A parenthesis opens the same group in every frame. -/
theorem State.keeps_open (hcur : cur.rest ≠ []) (h : s.open cur = .ok (s', after)) :
    Keeps s' after fun F outer => (s.inside F.front outer).open (F.cursor false cur) := by
  obtain ⟨⟨what, after'⟩, hgroup, h⟩ := bind_eq_ok.mp h
  have hagree := agree_openGroup hcur hgroup
  cases what with
  | flags changes =>
    cases h
    refine hagree.keeps fun F cur' outer hF => ?_
    show (openGroup s.verbose s.names (F.cursor false cur) >>= _) = _
    rw [hF]
    rfl
  | group changes =>
    cases h
    obtain ⟨swallowed, hnil, hreading⟩ := hagree
    cases swallowed with
    | true => exact .inl ⟨hnil rfl, List.cons_ne_nil _ _⟩
    | false =>
      refine keeps_of_forall fun F outer => ?_
      show (openGroup s.verbose s.names (F.cursor false cur) >>= _) = _
      rw [show openGroup s.verbose s.names (F.cursor false cur) = _ from hreading F]
      rfl
  | captured name =>
    cases h
    obtain ⟨swallowed, hnil, hreading⟩ := hagree
    cases swallowed with
    | true => exact .inl ⟨hnil rfl, List.cons_ne_nil _ _⟩
    | false =>
      refine keeps_of_forall fun F outer => ?_
      show (openGroup s.verbose s.names (F.cursor false cur) >>= _) = _
      rw [show openGroup s.verbose s.names (F.cursor false cur) = _ from hreading F]
      rfl

theorem State.close_cursor {c : Char} (hcur : cur.rest = c :: t)
    (h : s.close cur = .ok (s', after)) (F : Frame) (outer : List OpenGroup) :
    (s.inside F.front outer).close (F.cursor false cur) =
      .ok (s'.inside F.front outer, F.cursor false after) := by
  obtain ⟨groups, alternation, branch, verbose, names⟩ := s
  cases groups with
  | nil => cases h
  | cons g groups =>
    cases h
    show Except.ok (_, (F.cursor false cur).skip 1) = _
    rw [Frame.cursor_skip_one hcur]
    refine congrArg (fun e => Except.ok (State.push _ _ e, _)) ?_
    show Expression.group _ _ _ _ = Expression.group _ _ _ _
    exact congrArg _ (OpenAlternation.moved_close F.front alternation branch)

theorem State.bar_cursor {c : Char} (hcur : cur.rest = c :: t) (F : Frame)
    (outer : List OpenGroup) : (s.inside F.front outer).bar (F.cursor false cur) =
      ((s.bar cur).1.inside F.front outer, F.cursor false (s.bar cur).2) := by
  obtain ⟨groups, alternation, branch, verbose, names⟩ := s
  have hclose := branch.moved_close F.front
  cases alternation with
  | none =>
    simp only [bar, inside, Frame.cursor_skip_one hcur, Option.map_none, Option.map_some,
      OpenAlternation.moved, hclose, List.map_cons, List.map_nil]
    rfl
  | some a =>
    simp only [bar, inside, Frame.cursor_skip_one hcur, Option.map_some, OpenAlternation.moved,
      hclose, List.map_cons]
    rfl

/-- What is repeated is repeated in every frame. -/
theorem State.operand_inside {item : Nat × Expression} {before : List (Nat × Expression)}
    (h : s.operand cur = .ok (item, before)) (k : Nat) (outer : List OpenGroup) (cur' : Cursor) :
    (s.inside k outer).operand cur' =
      .ok ((item.1 + k, item.2.moved k), movedBranchItems k before) := by
  obtain ⟨groups, alternation, ⟨offset, items⟩, verbose, names⟩ := s
  cases items with
  | nil => cases h
  | cons item' items =>
    obtain ⟨start, e⟩ := item'
    cases e <;> cases h <;> rfl

theorem State.readSign_cursor {c : Char} (hcur : cur.rest = c :: t) {least : Nat}
    {greatest : Option Nat} (h : s.readSign least greatest cur = .ok (s', after)) (F : Frame)
    (outer : List OpenGroup) : (s.inside F.front outer).readSign least greatest
      (F.cursor false cur) = .ok (s'.inside F.front outer, F.cursor false after) := by
  obtain ⟨⟨item, before⟩, hoperand, h⟩ := bind_eq_ok.mp h
  rw [readSign, operand_inside hoperand, Frame.cursor_skip_one hcur]
  show Except.ok (_, if (F.cursor false (cur.skip 1)).rest.head? == some '?' then
    (F.cursor false (cur.skip 1)).skip 1 else _) = _
  dsimp only at h
  rw [F.head?_beq (by decide)]
  cases hlazily : (cur.skip 1).rest.head? == some '?' with
  | true =>
    obtain ⟨t', ht'⟩ := List.head?_eq_some_iff.mp (beq_iff_eq.mp hlazily)
    rw [hlazily] at h
    cases h
    rw [if_pos rfl, Frame.cursor_skip_one ht']
    rfl
  | false =>
    rw [hlazily] at h
    cases h
    rw [if_neg Bool.false_ne_true]
    rfl

theorem State.keeps_readBraces (h : s.readBraces cur = .ok (s', after)) :
    Keeps s' after fun F outer => (s.inside F.front outer).readBraces (F.cursor false cur) := by
  obtain ⟨⟨item, before⟩, hoperand, h⟩ := bind_eq_ok.mp h
  dsimp only at h
  split at h
  · cases h
  · rename_i hinside
    have hne : (next s.verbose cur).rest ≠ [] := fun hnil => hinside (List.isEmpty_iff.mpr hnil)
    obtain ⟨⟨⟨least, greatest⟩, close⟩, hcounts, h⟩ := bind_eq_ok.mp h
    dsimp only at h
    split at h
    · cases h
    · rename_i hclose
      have hbrace : close.rest.head? = some '\x7d' := by
        simpa only [bne_iff_ne, Decidable.not_not] using hclose
      obtain ⟨t, hrest⟩ := List.head?_eq_some_iff.mp hbrace
      have hne' : close.rest ≠ [] := by rw [hrest]; exact List.cons_ne_nil _ t
      split at h
      · cases h
      · rename_i hordered
        have hF : ∀ (F : Frame) (outer : List OpenGroup),
            (s.inside F.front outer).readBraces (F.cursor false cur) =
              .ok (((s.inside F.front outer).repeated (item.1 + F.front, item.2.moved F.front)
                  (movedBranchItems F.front before) least greatest
                  (!((next s.verbose (F.cursor false close)).rest.head? == some '?'))),
                if (next s.verbose (F.cursor false close)).rest.head? == some '?' then
                  (next s.verbose (F.cursor false close)).skip 1
                else next s.verbose (F.cursor false close)) := by
          intro F outer
          rw [readBraces, operand_inside hoperand]
          show (if (next s.verbose (F.cursor false cur)).rest.isEmpty = true then _ else
            readCounts s.verbose (F.cursor false cur) (next s.verbose (F.cursor false cur)) >>= _) = _
          rw [next_cursor hne, F.isEmpty_rest, if_neg Bool.false_ne_true,
            readCounts_cursor hcounts hne']
          show (if (F.cursor false close).rest.head? != some '\x7d' then _ else
            if greatest.any (· < least) then _ else _) = _
          rw [Frame.cursor_rest_cons hrest, if_neg (by simp), if_neg hordered]
          rfl
        obtain ⟨swallowed, hnil, hplace⟩ := follows_next s.verbose hne'
        have hnext : ∀ F : Frame, next s.verbose (F.cursor false close) = _ := hplace
        cases hlazily : (next s.verbose close).rest.head? == some '?' with
        | true =>
          obtain ⟨t', ht'⟩ := List.head?_eq_some_iff.mp (beq_iff_eq.mp hlazily)
          rw [hlazily] at h
          cases h
          refine keeps_of_forall fun F outer => (hF F outer).trans ?_
          rw [next_cursor (by rw [ht']; exact List.cons_ne_nil _ t'), F.head?_beq (by decide),
            hlazily, if_pos rfl, Frame.cursor_skip_one ht']
          rfl
        | false =>
          rw [hlazily] at h
          cases h
          refine .inr ⟨swallowed, hnil, fun F outer => (hF F outer).trans ?_⟩
          have hlazily₁ : ((F.cursor swallowed (next s.verbose close)).rest.head? == some '?') =
              false := by
            cases swallowed with
            | true => rfl
            | false => rw [F.head?_beq (by decide), hlazily]
          rw [hnext, hlazily₁, if_neg Bool.false_ne_true]
          rfl

theorem State.keeps_readPiece {c : Char} (hcur : cur.rest = c :: t)
    (h : s.readPiece c cur = .ok (s', after)) :
    Keeps s' after fun F outer => (s.inside F.front outer).readPiece c (F.cursor false cur) := by
  unfold readPiece at h ⊢
  simp only [Frame.cursor_skip_one hcur] at h ⊢
  split at h
  · obtain ⟨⟨piece, after'⟩, hread, h⟩ := bind_eq_ok.mp h
    cases h
    refine (agree_readEscape hread).keeps fun F cur' outer hF => ?_
    show (readEscape s.verbose (F.cursor false cur) >>= _) = _
    rw [hF]
    cases piece <;> rfl
  all_goals
    cases h
    exact keeps_of_forall fun F outer => rfl

/-- **A step of the reader** is the same step in every frame. -/
theorem State.keeps_step {c : Char} (hcur : cur.rest = c :: t)
    (h : s.step c cur = .ok (s', after)) :
    Keeps s' after fun F outer => (s.inside F.front outer).step c (F.cursor false cur) := by
  have hne : cur.rest ≠ [] := by rw [hcur]; exact List.cons_ne_nil c t
  unfold step at h ⊢
  split at h
  · exact keeps_open hne h
  · exact keeps_of_forall (close_cursor hcur h)
  · cases h
    exact keeps_of_forall fun F outer => congrArg Except.ok (bar_cursor hcur F outer)
  · obtain ⟨⟨e, after'⟩, hclass, h⟩ := bind_eq_ok.mp h
    cases h
    refine keeps_of_forall fun F outer => ?_
    show (readClass s.verbose (F.cursor false cur) >>= _) = _
    rw [readClass_cursor hclass]
    rfl
  · exact keeps_of_forall (readSign_cursor hcur h)
  · exact keeps_of_forall (readSign_cursor hcur h)
  · exact keeps_of_forall (readSign_cursor hcur h)
  · exact keeps_readBraces h
  · exact keeps_readPiece hcur h

end Stepping

/-! ### The whole expression -/

section Reading

variable {s s' : State} {e : Expression}

theorem readFrom_congr {cur' : Cursor} (h : pass s.verbose cur = pass s.verbose cur') (left : Nat) :
    readFrom left s cur = readFrom left s cur' := by
  rw [readFrom, readFrom, h]

theorem readFrom_cons {c : Char} (h : (pass s.verbose cur).rest = c :: t) :
    readFrom (left + 1) s cur =
      (do
        let (s, cur) ← s.step c (pass s.verbose cur)
        readFrom left s cur) := by
  rw [readFrom]
  dsimp only
  rw [h]

/-- The reader goes on behind what is under the cursor. -/
theorem readFrom_of_step {c : Char} (h : (pass s.verbose cur).rest = c :: t)
    (hstep : s.step c (pass s.verbose cur) = .ok (s', after)) :
    readFrom (left + 1) s cur = readFrom left s' after := by
  rw [readFrom_cons h, hstep]
  rfl

/-- Where nothing is left, the expression has ended, unless a group is open. -/
theorem readFrom_nil (h : (pass s.verbose cur).rest = []) (left : Nat) : readFrom left s cur =
    match s.groups with
    | g :: _ => .error (.found g.offset .groupUnclosed)
    | [] => .ok (OpenAlternation.close s.alternation s.branch) := by
  rw [readFrom]
  dsimp only
  split
  · cases s.groups <;> rfl
  · rename_i hcons
    cases h.symm.trans hcons

theorem groups_of_readFrom_nil (hcur : (pass s.verbose cur).rest = [])
    (h : readFrom left s cur = .ok e) :
    s.groups = [] ∧ OpenAlternation.close s.alternation s.branch = e := by
  rw [readFrom_nil hcur] at h
  split at h
  · cases h
  · rename_i hgroups
    exact ⟨hgroups, Except.ok.inj h⟩

/-- Nothing is passed over in front of the text behind the expression. -/
theorem pass_end (F : Frame) (swallowed : Bool) (h : cur.rest = []) :
    pass verbose (F.cursor swallowed cur) = F.cursor swallowed cur := by
  cases verbose with
  | false => rfl
  | true =>
    have hzero : insignificant false (F.cursor swallowed cur).rest = 0 := by
      cases swallowed with
      | true => rfl
      | false =>
        rw [Frame.cursor_rest_nil h]
        rfl
    show (F.cursor swallowed cur).skip _ = _
    rw [hzero]
    rfl

/-- Whether the reader comes to the end of an expression in a state that closes to it, and comes to
that state in every frame. -/
def Through (left : Nat) (s : State) (cur : Cursor) (e : Expression) : Prop :=
  ∃ (s' : State) (n : Nat) (stop : Cursor) (swallowed : Bool), stop.rest = [] ∧
    s'.groups = [] ∧ OpenAlternation.close s'.alternation s'.branch = e ∧
    ∀ (F : Frame) (outer : List OpenGroup) (spare : Nat),
      readFrom (left + spare) (s.inside F.front outer) (F.cursor false cur) =
        readFrom (n + spare) (s'.inside F.front outer) (F.cursor swallowed stop)

theorem through_nil (hnil : (pass s.verbose cur).rest = []) (h : readFrom left s cur = .ok e) :
    Through left s cur e := by
  obtain ⟨hgroups, hclose⟩ := groups_of_readFrom_nil hnil h
  obtain ⟨swallowed, -, hplace⟩ := follows_pass s.verbose cur
  refine ⟨s, left, pass s.verbose cur, swallowed, hnil, hgroups, hclose, fun F outer spare => ?_⟩
  refine readFrom_congr ?_ _
  exact (hplace F).trans (pass_end F swallowed hnil).symm

theorem through_cons {c : Char} (hrest : (pass s.verbose cur).rest = c :: t)
    (hstep : s.step c (pass s.verbose cur) = .ok (s', after)) (h : readFrom left s' after = .ok e)
    (ih : Through left s' after e) : Through (left + 1) s cur e := by
  have hnext : ∀ (F : Frame) (outer : List OpenGroup) (spare : Nat),
      readFrom (left + 1 + spare) (s.inside F.front outer) (F.cursor false cur) =
        ((s.inside F.front outer).step c (F.cursor false (pass s.verbose cur)) >>=
          fun (s, cur) => readFrom (left + spare) s cur) := by
    intro F outer spare
    have hpass : pass (s.inside F.front outer).verbose (F.cursor false cur) =
        F.cursor false (pass s.verbose cur) := (pass_rest_cursor hrest F).1
    rw [Nat.add_right_comm, readFrom_cons (hpass ▸ Frame.cursor_rest_cons hrest), hpass]
  rcases State.keeps_step hrest hstep with ⟨hnil, hgroups⟩ | ⟨swallowed, hnil, hF⟩
  · exact absurd (groups_of_readFrom_nil (pass_of_nil _ hnil) h).1 hgroups
  · cases swallowed with
    | false =>
      obtain ⟨s'', n, stop, swallowed, hstop, hgroups, hclose, hread⟩ := ih
      refine ⟨s'', n, stop, swallowed, hstop, hgroups, hclose, fun F outer spare => ?_⟩
      rw [hnext, ← hread]
      exact congrArg (· >>= _) (hF F outer)
    | true =>
      -- A comment has taken in all that is left, so this was the last step.
      obtain ⟨hgroups, hclose⟩ := groups_of_readFrom_nil (pass_of_nil _ (hnil rfl)) h
      refine ⟨s', left, after, true, hnil rfl, hgroups, hclose, fun F outer spare => ?_⟩
      rw [hnext]
      exact congrArg (· >>= _) (hF F outer)

/-- **The reader goes over an expression** in every frame as it does by itself, and comes to its end
in the same state. -/
theorem readFrom_framed : ∀ (left : Nat) (s : State) (cur : Cursor) {e : Expression},
    readFrom left s cur = .ok e → Through left s cur e := by
  intro left
  induction left with
  | zero =>
    intro s cur e h
    cases hrest : (pass s.verbose cur).rest with
    | nil => exact through_nil hrest h
    | cons c t =>
      rw [readFrom] at h
      dsimp only at h
      rw [hrest] at h
      cases h
  | succ left ih =>
    intro s cur e h
    cases hrest : (pass s.verbose cur).rest with
    | nil => exact through_nil hrest h
    | cons c t =>
      rw [readFrom_cons hrest] at h
      obtain ⟨⟨s', after⟩, hstep, h⟩ := bind_eq_ok.mp h
      exact through_cons hrest hstep h (ih s' after h)

end Reading

end PhoneticSearch.Regex
