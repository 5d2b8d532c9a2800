import PhoneticSearch.Transcription.Reader

/-!
# How a text is cut into tokens

A token can be written (`Writes`), and a text is cut into pieces from its front: tokens as
they are written, and white space of any kind (`Piece`).  A text that starts with a piece is
read as its token and what follows it (`tokensFrom_piece`), whatever follows: where a token
ends can be told from the token alone.

Every text ends, goes on with a piece, or goes on with characters that are no token
(`NoToken`), at which the tokens end.  What is shown of all texts is shown of these three
(`pieces_induction`).
-/

namespace PhoneticSearch

/-- Whether a character is a phone of its own where it is read. -/
structure IsGlyph (c : Char) : Prop where
  notBlank : isBlank c = false
  notSign : c ∉ ['ˈ', 'ˌ', '.', '(', ')', ':']
  notTieBar : isTieBar c = false
  notDiacritic : isDiacritic c = false

/-- Whether a character may be tied to a phone by a tie bar. -/
structure IsTied (bar glyph : Char) : Prop where
  isTieBar : isTieBar bar = true
  notBlank : isBlank glyph = false
  notDiacritic : isDiacritic glyph = false

/-! ### Characters of more than one kind -/

theorem eq_of_isTieBar {c : Char} (h : isTieBar c = true) : c = '\u0361' ∨ c = '\u035C' := by
  simpa [isTieBar] using h

theorem isBlank_of_isTieBar {c : Char} (h : isTieBar c = true) : isBlank c = false := by
  rcases eq_of_isTieBar h with rfl | rfl <;> rfl

theorem isTieBar_of_isDiacritic {c : Char} (h : isDiacritic c = true) : isTieBar c = false := by
  simp only [isDiacritic, Bool.and_eq_true, Bool.not_eq_true'] at h
  exact h.1

theorem isBlank_of_isDiacritic {c : Char} (h : isDiacritic c = true) : isBlank c = false := by
  have hspacing : ['ʰ', 'ʷ', 'ʲ', 'ˠ', 'ˤ', 'ː', 'ˑ', 'ʼ', 'ⁿ', 'ˡ', 'ᵊ', 'ʱ', '˞', 'ˀ'].all
      (fun c => !isBlank c) = true := rfl
  simp only [isDiacritic, Bool.and_eq_true, Bool.or_eq_true, decide_eq_true_eq,
    List.contains_iff_mem] at h
  rcases h.2 with h | h
  · simp only [isBlank, Bool.or_eq_false_iff, Bool.and_eq_false_iff, decide_eq_false_iff_not,
      beq_eq_false_iff_ne]
    omega
  · simpa using List.all_eq_true.mp hspacing c h

theorem ne_of_isDiacritic {c : Char} (h : isDiacritic c = true) :
    c ∉ ['ˈ', 'ˌ', '.', '(', ')', ':'] := by
  have hsigns : ['ˈ', 'ˌ', '.', '(', ')', ':'].all (fun c => !isDiacritic c) = true := rfl
  intro hc
  simpa [h] using List.all_eq_true.mp hsigns c hc

namespace Transcription

/-! ### Written tokens -/

/-- The ways to write a token; a constituent has more than one letter, and for white space
the space stands. -/
inductive Writes : Text → Token → Prop where
  | blank : Writes [' '] .blank
  | stress (s : Stress) : Writes [s.glyph] (.stress s)
  | boundary : Writes ['.'] .boundary
  | pause (l : Pause) : Writes l.text (.pause l)
  | constituent {letter : Char} {k : Constituent} (h : Constituent.ofLetter? letter = some k) :
    Writes [':', letter] (.constituent k)
  | tied {bar glyph : Char} (h : IsTied bar glyph) : Writes [bar, glyph] (.tied bar glyph)
  | diacritic {c : Char} (h : isDiacritic c = true) : Writes [c] (.diacritic c)
  | glyph {c : Char} (h : IsGlyph c) : Writes [c] (.glyph c)

/-- What a text is cut into: tokens as they are written, where any white space is a token. -/
inductive Piece : Text → Token → Prop where
  | written {w : Text} {k : Token} (h : Writes w k) : Piece w k
  | blank {c : Char} (h : isBlank c = true) : Piece [c] .blank

/-- Characters that are no token, at the front of a text, and why they are none. -/
inductive NoToken : Char → Text → Fault → Prop where
  | pause {rest : Text} (h : pauseAt? ('(' :: rest) = none) : NoToken '(' rest .malformedPause
  | close {rest : Text} : NoToken ')' rest .unexpectedClose
  | constituent {rest : Text} (h : rest.head?.bind Constituent.ofLetter? = none) :
    NoToken ':' rest .missingConstituent
  | tied {bar : Char} {rest : Text} (hbar : isTieBar bar = true)
    (h : rest.head?.filter (fun glyph => !isBlank glyph && !isDiacritic glyph) = none) :
    NoToken bar rest .tieWithoutGlyph

theorem tokenAt_paren (rest : Text) : tokenAt '(' rest =
    match pauseAt? ('(' :: rest) with
    | some l => .pause l
    | none => .faulty .malformedPause := rfl

theorem tokenAt_colon (rest : Text) : tokenAt ':' rest =
    match rest.head?.bind Constituent.ofLetter? with
    | some k => .constituent k
    | none => .faulty .missingConstituent := rfl

/-- Neither tie bar is one of the characters that are looked at before. -/
theorem tokenAt_tieBar {bar : Char} (h : isTieBar bar = true) (rest : Text) : tokenAt bar rest =
    match rest.head?.filter fun glyph => !isBlank glyph && !isDiacritic glyph with
    | some glyph => .tied bar glyph
    | none => .faulty .tieWithoutGlyph := by
  rcases eq_of_isTieBar h with rfl | rfl <;> rfl

/-- A tie bar and the glyph behind it are one token. -/
theorem tokenAt_tied {bar glyph : Char} (h : IsTied bar glyph) (rest : Text) :
    tokenAt bar (glyph :: rest) = .tied bar glyph := by
  have hglyph : (some glyph).filter (fun glyph => !isBlank glyph && !isDiacritic glyph) =
      some glyph := by
    rw [Option.filter_some, if_pos (by simp [h.notBlank, h.notDiacritic])]
  rw [tokenAt_tieBar h.isTieBar, List.head?_cons, hglyph]

/-- Behind white space, the signs and the tie bars only diacritics and glyphs are left. -/
theorem tokenAt_of_notSign {c : Char} (hblank : isBlank c = false)
    (h : c ∉ ['ˈ', 'ˌ', '.', '(', ')', ':']) (htie : isTieBar c = false) (rest : Text) :
    tokenAt c rest = if isDiacritic c then .diacritic c else .glyph c := by
  simp only [List.mem_cons, List.not_mem_nil, or_false, not_or] at h
  simp only [tokenAt, hblank, htie, h, Bool.false_eq_true, if_false]

/-- A written token is the one that is found where it starts. -/
theorem Writes.tokenAt {w : Text} {k : Token} (h : Writes w k) : ∃ c w', w = c :: w' ∧
    (∀ rest, tokenAt c (w' ++ rest) = k) ∧ k.isFaulty = false ∧ k.length = w'.length + 1 := by
  cases h with
  | blank => exact ⟨_, _, rfl, fun rest => rfl, rfl, rfl⟩
  | stress s => cases s <;> exact ⟨_, _, rfl, fun rest => rfl, rfl, rfl⟩
  | boundary => exact ⟨_, _, rfl, fun rest => rfl, rfl, rfl⟩
  | pause l => cases l <;> exact ⟨_, _, rfl, fun rest => rfl, rfl, rfl⟩
  | @constituent letter k h =>
    refine ⟨':', [letter], rfl, fun rest => ?_, rfl, rfl⟩
    rw [tokenAt_colon, List.cons_append, List.head?_cons, Option.bind_some, h]
  | @tied bar glyph h => exact ⟨bar, [glyph], rfl, fun rest => tokenAt_tied h rest, rfl, rfl⟩
  | @diacritic c h =>
    refine ⟨c, [], rfl, fun rest => ?_, rfl, rfl⟩
    rw [tokenAt_of_notSign (isBlank_of_isDiacritic h) (ne_of_isDiacritic h)
      (isTieBar_of_isDiacritic h), if_pos h]
  | @glyph c h =>
    refine ⟨c, [], rfl, fun rest => ?_, rfl, rfl⟩
    rw [tokenAt_of_notSign h.notBlank h.notSign h.notTieBar, h.notDiacritic,
      if_neg Bool.false_ne_true]

/-- So is the token of a piece. -/
theorem Piece.tokenAt {w : Text} {k : Token} (h : Piece w k) : ∃ c w', w = c :: w' ∧
    (∀ rest, tokenAt c (w' ++ rest) = k) ∧ k.isFaulty = false ∧ k.length = w'.length + 1 := by
  cases h with
  | written h => exact h.tokenAt
  | @blank c h => exact ⟨c, [], rfl, fun rest => if_pos h, rfl, rfl⟩

theorem Piece.isFaulty {w : Text} {k : Token} (h : Piece w k) : k.isFaulty = false := by
  obtain ⟨-, -, -, -, hfaulty, -⟩ := h.tokenAt
  exact hfaulty

theorem NoToken.tokenAt {c : Char} {rest : Text} {f : Fault} (h : NoToken c rest f) :
    tokenAt c rest = .faulty f := by
  cases h with
  | pause h => rw [tokenAt_paren, h]
  | close => rfl
  | constituent h => rw [tokenAt_colon, h]
  | tied hbar h => rw [tokenAt_tieBar hbar, h]

/-- Where a text goes on, it goes on with a piece or with what is no token. -/
theorem piece_or_noToken (c : Char) (rest : Text) :
    (∃ w k rest', Piece w k ∧ c :: rest = w ++ rest') ∨ ∃ f, NoToken c rest f := by
  -- The kinds of characters in the order in which they are looked for.
  by_cases hblank : isBlank c = true
  · exact .inl ⟨[c], _, rest, .blank hblank, rfl⟩
  by_cases hsign : c ∈ ['ˈ', 'ˌ', '.', '(', ')', ':']
  · simp only [List.mem_cons, List.not_mem_nil, or_false] at hsign
    rcases hsign with rfl | rfl | rfl | rfl | rfl | rfl
    · exact .inl ⟨_, _, rest, .written (.stress .primary), rfl⟩
    · exact .inl ⟨_, _, rest, .written (.stress .secondary), rfl⟩
    · exact .inl ⟨_, _, rest, .written .boundary, rfl⟩
    · cases hpause : pauseAt? ('(' :: rest) with
      | none => exact .inr ⟨_, .pause hpause⟩
      | some l =>
        have hprefix : l.text.isPrefixOf ('(' :: rest) = true :=
          List.find?_some (p := fun l : Pause => l.text.isPrefixOf ('(' :: rest)) hpause
        obtain ⟨rest', hrest⟩ := List.isPrefixOf_iff_prefix.mp hprefix
        exact .inl ⟨_, _, rest', .written (.pause l), hrest.symm⟩
    · exact .inr ⟨_, .close⟩
    · cases hletter : rest.head?.bind Constituent.ofLetter? with
      | none => exact .inr ⟨_, .constituent hletter⟩
      | some k =>
        obtain ⟨letter, hhead, hk⟩ := Option.bind_eq_some_iff.mp hletter
        obtain ⟨rest', rfl⟩ := List.head?_eq_some_iff.mp hhead
        exact .inl ⟨_, _, rest', .written (.constituent hk), rfl⟩
  by_cases htie : isTieBar c = true
  · cases hglyph : rest.head?.filter fun glyph => !isBlank glyph && !isDiacritic glyph with
    | none => exact .inr ⟨_, .tied htie hglyph⟩
    | some glyph =>
      obtain ⟨hhead, hok⟩ := Option.filter_eq_some_iff.mp hglyph
      obtain ⟨rest', rfl⟩ := List.head?_eq_some_iff.mp hhead
      simp only [Bool.and_eq_true, Bool.not_eq_true'] at hok
      exact .inl ⟨_, _, rest', .written (.tied ⟨htie, hok.1, hok.2⟩), rfl⟩
  · rw [Bool.not_eq_true] at hblank htie
    by_cases hdiacritic : isDiacritic c = true
    · exact .inl ⟨[c], _, rest, .written (.diacritic hdiacritic), rfl⟩
    · have hglyph : IsGlyph c := ⟨hblank, hsign, htie, Bool.eq_false_iff.mpr hdiacritic⟩
      exact .inl ⟨[c], _, rest, .written (.glyph hglyph), rfl⟩

/-- What holds at the end of a text and where no token starts, and in front of a piece if it
holds behind it, holds of all texts. -/
theorem pieces_induction {P : Text → Prop} (nil : P [])
    (noToken : ∀ {c rest f}, NoToken c rest f → P (c :: rest))
    (piece : ∀ {w k} rest, Piece w k → P rest → P (w ++ rest)) : ∀ t, P t
  | [] => nil
  | c :: rest => by
    rcases piece_or_noToken c rest with ⟨w, k, rest', hpiece, heq⟩ | ⟨f, hnone⟩
    · -- A piece has at least one character, so what is behind it is shorter.
      have hshorter : rest'.length < (c :: rest).length := by
        obtain ⟨c', w', rfl, -⟩ := hpiece.tokenAt
        rw [heq, List.length_append, List.length_cons]
        omega
      rw [heq]
      exact piece rest' hpiece (pieces_induction nil noToken piece rest')
    · exact noToken hnone
termination_by t => t.length
decreasing_by exact hshorter

/-! ### The tokens of a text -/

theorem tokensFrom_skip (w rest : Text) : ∀ offset, tokensFrom offset w.length (w ++ rest) =
    tokensFrom (offset + w.length) 0 rest := by
  induction w with
  | nil => intro offset; rfl
  | cons c w ih =>
    intro offset
    rw [List.length_cons, List.cons_append, tokensFrom, ih, Nat.add_right_comm, Nat.add_assoc]

/-- A text that starts with a piece is read as its token and what follows it. -/
theorem tokensFrom_piece {w : Text} {k : Token} (h : Piece w k) (offset : Nat) (rest : Text) :
    tokensFrom offset 0 (w ++ rest) = (offset, k) :: tokensFrom (offset + w.length) 0 rest := by
  obtain ⟨c, w', rfl, hat, hfaulty, hlength⟩ := h.tokenAt
  rw [List.cons_append, tokensFrom]
  simp only [hat, hfaulty, hlength, Bool.false_eq_true, if_false, Nat.add_sub_cancel]
  rw [tokensFrom_skip, List.length_cons, Nat.add_right_comm, Nat.add_assoc]

/-- Characters that are no token are the last ones that are read. -/
theorem tokensFrom_noToken {c : Char} {rest : Text} {f : Fault} (h : NoToken c rest f)
    (offset : Nat) : tokensFrom offset 0 (c :: rest) = [(offset, .faulty f)] := by
  rw [tokensFrom, h.tokenAt]
  rfl

/-- No token of a text has an offset in front of it. -/
theorem le_of_mem_tokensFrom (t : Text) : ∀ {offset : Nat} {k : Nat × Token},
    k ∈ tokensFrom offset 0 t → offset ≤ k.1 := by
  induction t using pieces_induction with
  | nil => intro offset k hk; cases hk
  | noToken h =>
    intro offset k hk
    rw [tokensFrom_noToken h, List.mem_singleton] at hk
    exact Nat.le_of_eq (congrArg Prod.fst hk).symm
  | piece rest h ih =>
    intro offset k hk
    rw [tokensFrom_piece h] at hk
    rcases List.mem_cons.mp hk with rfl | hk
    · exact Nat.le_refl offset
    · exact Nat.le_trans (Nat.le_add_right ..) (ih hk)

/-- Every token of a text can be written, but for one that is none. -/
theorem exists_writes_of_mem_tokensFrom (t : Text) : ∀ {offset : Nat} {k : Nat × Token},
    k ∈ tokensFrom offset 0 t → k.2.isFaulty = false → ∃ w, Writes w k.2 := by
  induction t using pieces_induction with
  | nil => intro offset k hk; cases hk
  | noToken h =>
    intro offset k hk hfaulty
    rw [tokensFrom_noToken h, List.mem_singleton] at hk
    rw [hk] at hfaulty
    cases hfaulty
  | piece rest h ih =>
    intro offset k hk
    rw [tokensFrom_piece h] at hk
    rcases List.mem_cons.mp hk with rfl | hk
    · intro _
      cases h with
      | written h => exact ⟨_, h⟩
      | blank _ => exact ⟨_, .blank⟩
    · exact ih hk

end Transcription

end PhoneticSearch
