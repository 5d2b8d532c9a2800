import PhoneticSearch.Pattern.Sequence.Compile
import PhoneticSearch.Proofs.Regex.Reading
import PhoneticSearch.Proofs.Sequence.Language

/-!
# The translation of sequence patterns

A sequence pattern is translated to a regular expression character by character.  What is read of
the translation are the items of the pattern, one behind the other: each symbol becomes a letter or
a class in brackets, and a quantifier repeats what is in front of it greedily, since no two
quantifiers stand side by side (`readFrom_translation`).  It has no comments and is not nested
deeply, so that it can be put between the anchors of the expression that whole texts are compared
with.  Compiling the two fails only if they are too large (`compileText_translation`,
`compileText_anchored`).
-/

namespace PhoneticSearch.Sequence

open Regex (Expression Pattern)

/-! ### Letters -/

/-- The letters that stand for themselves in a regular expression. -/
def plainLetters : List Char := [' ', '1', '2', 'U', 'C', 'V', 'G']

/-- The letters that a symbol of a pattern stands for. -/
def alphabet : List (List Char) := plainLetters.map ([·]) ++ [['1', '2'], ['1', '2', 'U']]

theorem mem_alphabet {kind : Kind} {c : Char} {letters : List Char}
    (h : kind.symbols? c = some letters) : letters ∈ alphabet := by
  unfold Kind.symbols? at h
  split at h <;> first | (obtain rfl := Option.some.inj h; decide) | cases h

@[elab_as_elim]
theorem alphabet_cases {motive : List Char → Prop} {letters : List Char} (h : letters ∈ alphabet)
    (plain : ∀ c ∈ plainLetters, motive [c]) (stressed : motive ['1', '2'])
    (anything : motive ['1', '2', 'U']) : motive letters := by
  rcases List.mem_append.mp h with h | h
  · obtain ⟨c, hc, rfl⟩ := List.mem_map.mp h
    exact plain c hc
  · rcases List.mem_cons.mp h with rfl | h
    · exact stressed
    · exact List.mem_singleton.mp h ▸ anything

theorem ascii_of_mem_alphabet {letters : List Char} (h : letters ∈ alphabet) :
    ∀ c ∈ letters, c.toNat < 0x80 := by
  have hall : alphabet.all (·.all (·.toNat < 0x80)) = true := rfl
  intro c hc
  exact of_decide_eq_true (List.all_eq_true.mp (List.all_eq_true.mp hall letters h) c hc)

/-- The set of some letters. -/
def letterSet (letters : List Char) : CharSet :=
  letters.foldr (fun c s => (CharSet.single c).union s) .empty

/-- The pattern of an item. -/
def Item.pattern (item : Item) : Pattern :=
  match item.quantifier with
  | none => .ofSet (letterSet item.symbols)
  | some q => .repeated (.ofSet (letterSet item.symbols)) q.least q.greatest true

theorem union_of_pairwise {a b : CharSet} {r : Nat × Nat} {rest : List (Nat × Nat)}
    (hranges : a.ranges ++ b.ranges = r :: rest)
    (hsorted : (r :: rest).Pairwise fun r r' => decide (r.1 ≤ r'.1) = true) :
    a.union b = ⟨CharSet.merge r rest⟩ := by
  rw [CharSet.union, hranges, CharSet.ofRanges, List.mergeSort_of_pairwise hsorted]

theorem letterSet_singleton (c : Char) : letterSet [c] = .single c := by
  have hranges : (CharSet.single c).ranges ++ CharSet.empty.ranges = [(c.toNat, c.toNat)] := rfl
  exact union_of_pairwise hranges (List.pairwise_singleton _ _)

theorem letterSet_stressed : letterSet ['1', '2'] = ⟨[(0x31, 0x32)]⟩ := by
  have hranges : (CharSet.single '1').ranges ++ (CharSet.single '2').ranges =
      [(0x31, 0x31), (0x32, 0x32)] := rfl
  rw [letterSet, List.foldr_cons, ← letterSet, letterSet_singleton]
  exact union_of_pairwise hranges (by decide)

theorem letterSet_any : letterSet ['1', '2', 'U'] = ⟨[(0x31, 0x32), (0x55, 0x55)]⟩ := by
  have hfirst : (CharSet.single '2').ranges ++ (CharSet.single 'U').ranges =
      [(0x32, 0x32), (0x55, 0x55)] := rfl
  have hrest : letterSet ['2', 'U'] = ⟨[(0x32, 0x32), (0x55, 0x55)]⟩ := by
    rw [letterSet, List.foldr_cons, ← letterSet, letterSet_singleton]
    exact union_of_pairwise hfirst (by decide)
  have hranges : (CharSet.single '1').ranges ++ [(0x32, 0x32), (0x55, 0x55)] =
      [(0x31, 0x31), (0x32, 0x32), (0x55, 0x55)] := rfl
  rw [letterSet, List.foldr_cons, ← letterSet, hrest]
  exact union_of_pairwise hranges (by decide)

/-- The set of some letters has these and no others. -/
theorem contains_letterSet {letters : List Char} (h : letters ∈ alphabet) (c : Char) :
    (letterSet letters).contains c = true ↔ c ∈ letters := by
  have hnumber : ∀ d : Char, c = d ↔ c.toNat = d.toNat := fun d => Char.toNat_inj.symm
  refine alphabet_cases h (fun d _ => ?_) ?_ ?_
  · rw [letterSet_singleton, CharSet.contains_single, List.mem_singleton]
  · rw [letterSet_stressed]
    simp only [CharSet.contains, CharSet.has, CharSet.reaches, List.mem_cons, List.not_mem_nil,
      or_false, hnumber]
    show _ ↔ c.toNat = 0x31 ∨ c.toNat = 0x32
    split <;> simp <;> omega
  · rw [letterSet_any]
    simp only [CharSet.contains, CharSet.has, CharSet.reaches, List.mem_cons, List.not_mem_nil,
      or_false, hnumber]
    show _ ↔ c.toNat = 0x31 ∨ c.toNat = 0x32 ∨ c.toNat = 0x55
    split <;> (try split) <;> simp <;> omega

theorem ofSet_letterSet_singleton (c : Char) : Pattern.ofSet (letterSet [c]) = .literal [c] := by
  have honly : (CharSet.single c).only? = some c :=
    (if_pos rfl).trans (congrArg some (Char.ofNat_toNat c))
  rw [letterSet_singleton, Pattern.ofSet, honly]

/-- The pattern of some letters is a text of one letter or a set with members. -/
theorem ofSet_letterSet_cases {letters : List Char} (h : letters ∈ alphabet) :
    (∃ c, letterSet letters = .single c ∧ Pattern.ofSet (letterSet letters) = .literal [c]) ∨
      (letterSet letters).isEmpty = false ∧
        Pattern.ofSet (letterSet letters) = .set (letterSet letters) := by
  refine alphabet_cases h (fun c _ => .inl ⟨c, letterSet_singleton c, ofSet_letterSet_singleton c⟩)
    (.inr ?_) (.inr ?_)
  · rw [letterSet_stressed]
    exact ⟨rfl, rfl⟩
  · rw [letterSet_any]
    exact ⟨rfl, rfl⟩

theorem takesNothing_letters {letters : List Char} (h : letters ∈ alphabet) :
    (Pattern.ofSet (letterSet letters)).takesNothing = false := by
  rcases ofSet_letterSet_cases h with ⟨c, -, hpattern⟩ | ⟨-, hpattern⟩
  · rw [hpattern, Pattern.takesNothing]
  · rw [hpattern, Pattern.takesNothing]

/-- An item is not put together from others. -/
theorem Item.items_pattern {item : Item} (h : item.symbols ∈ alphabet) :
    item.pattern.items = [item.pattern] := by
  obtain ⟨letters, q⟩ := item
  cases q with
  | none =>
    rcases ofSet_letterSet_cases h with ⟨c, -, hpattern⟩ | ⟨-, hpattern⟩
    · rw [Item.pattern, hpattern, Pattern.items] <;> simp
    · rw [Item.pattern, hpattern, Pattern.items] <;> simp
  | some q => rfl

/-! ### What is read -/

/-- Whether an expression means a pattern where case matters, is not nested deeply and may be
repeated. -/
structure Means (e : Expression) (p : Pattern) : Prop where
  meaning : ∀ f : Regex.Flags, f.caseInsensitive = false → f.swapGreed = false →
    e.meaning f = .ok (p, f)
  shallow : ∀ depth < 10, e.tooDeep depth = none
  repeatable : e ≠ .empty ∧ ∀ changes, e ≠ .flags changes

/-- The expression that the letters of a symbol are translated to. -/
def letterExpression (offset : Nat) : List Char → Expression
  | [c] => .literal ⟨c, false⟩
  | letters => .bracketed offset false
      (.item (.union (offset + 1) (letters.map fun c => .literal ⟨c, false⟩)))

theorem unionSet_letters {f : Regex.Flags} (letters : List Char)
    (h : ∀ c ∈ letters, c.toNat < 0x80) :
    Regex.unionSet f (letters.map fun c => .literal ⟨c, false⟩) = .ok (letterSet letters) := by
  induction letters with
  | nil => rfl
  | cons c letters ih =>
    obtain ⟨hc, hletters⟩ := List.forall_mem_cons.mp h
    have hmember : Regex.Literal.member f ⟨c, false⟩ = .ok c := by
      simp [Regex.Literal.member, Regex.Literal.value, Nat.not_le_of_lt hc, bind, Except.bind]
    rw [List.map_cons, Regex.unionSet, Regex.ClassItem.set, hmember, ih hletters]
    rfl

theorem itemsTooDeep_letters (depth : Nat) (letters : List Char) :
    Regex.itemsTooDeep depth (letters.map fun c => .literal ⟨c, false⟩) = none := by
  induction letters with
  | nil => rfl
  | cons c letters ih => rw [List.map_cons, Regex.itemsTooDeep, ih]; rfl

theorem shallow_letterExpression {letters : List Char} (h : letters ∈ alphabet) (offset : Nat)
    {depth : Nat} (hdepth : depth < 20) : (letterExpression offset letters).tooDeep depth = none := by
  have hclass : ∀ c letters, Expression.tooDeep depth (.bracketed offset false
      (.item (.union (offset + 1) ((c :: letters).map fun c => .literal ⟨c, false⟩)))) = none := by
    intro c letters
    have hbound : ¬ Regex.depthBound ≤ depth := by rw [Regex.depthBound]; omega
    have hbound' : ¬ Regex.depthBound ≤ depth + 1 := by rw [Regex.depthBound]; omega
    rw [Expression.tooDeep, if_neg hbound, Regex.ClassSet.tooDeep, List.map_cons,
      Regex.ClassItem.tooDeep, if_neg hbound']
    · exact itemsTooDeep_letters (depth + 1 + 1) (c :: letters)
    · simp
  refine alphabet_cases h (fun c hc => ?_) (hclass _ _) (hclass _ _)
  rw [letterExpression, Expression.tooDeep] <;> simp

theorem means_letterExpression {letters : List Char} (h : letters ∈ alphabet) (offset : Nat) :
    Means (letterExpression offset letters) (.ofSet (letterSet letters)) := by
  have hshallow : ∀ depth < 10, (letterExpression offset letters).tooDeep depth = none :=
    fun depth hdepth => shallow_letterExpression h offset (by omega)
  have hclass : ∀ f : Regex.Flags, f.caseInsensitive = false → f.swapGreed = false →
      Expression.meaning f (.bracketed offset false
        (.item (.union (offset + 1) (letters.map fun c => .literal ⟨c, false⟩)))) =
        .ok (.ofSet (letterSet letters), f) := by
    intro f hcase _
    rw [Expression.meaning, Regex.ClassSet.set, Regex.ClassItem.set,
      unionSet_letters letters (ascii_of_mem_alphabet h)]
    simp only [bind, Except.bind, pure, Except.pure, Regex.Flags.close, hcase]
    rfl
  revert hshallow hclass
  refine alphabet_cases h (fun c hc hshallow _ => ?_) (fun hshallow hclass => ?_)
    fun hshallow hclass => ?_
  · refine ⟨fun f hcase _ => ?_, hshallow, by simp [letterExpression]⟩
    rw [ofSet_letterSet_singleton, letterExpression, Expression.meaning]
    simp [Regex.Literal.value, Regex.literalPattern, hcase, bind, Except.bind, pure, Except.pure]
  · exact ⟨hclass, hshallow, by simp [letterExpression]⟩
  · exact ⟨hclass, hshallow, by simp [letterExpression]⟩

/-- What a quantifier makes of letters means their pattern repeated. -/
theorem means_repetition {letters : List Char} (h : letters ∈ alphabet) (offset : Nat)
    (q : Quantifier) :
    Means (.repetition offset q.least q.greatest true (letterExpression offset letters))
      (Item.pattern ⟨letters, some q⟩) := by
  refine ⟨fun f hcase hgreed => ?_, fun depth hdepth => ?_, by simp⟩
  · rw [Expression.meaning, (means_letterExpression h offset).meaning f hcase hgreed]
    simp only [bind, Except.bind, pure, Except.pure, hgreed]
    rw [Pattern.times, takesNothing_letters h]
    cases q <;> rfl
  · have hbound : ¬ Regex.depthBound ≤ depth := by rw [Regex.depthBound]; omega
    rw [Expression.tooDeep, if_neg hbound]
    exact shallow_letterExpression h offset (by omega)

/-- Letters are read as one expression. -/
theorem readFrom_letters {letters : List Char} (h : letters ∈ alphabet) {s : Regex.State}
    (hs : s.verbose = false) (left offset : Nat) (rest : Text) :
    Regex.readFrom (left + 1) s ⟨offset, classText letters ++ rest⟩ =
      Regex.readFrom left (s.push offset (letterExpression offset letters))
        ⟨offset + (classText letters).length, rest⟩ := by
  obtain ⟨groups, alternation, branch, verbose, names⟩ := s
  obtain rfl : verbose = false := hs
  refine alphabet_cases h (fun c hc => Regex.readFrom_step rfl ?_) (Regex.readFrom_step rfl rfl)
    (Regex.readFrom_step rfl rfl)
  simp only [plainLetters, List.mem_cons, List.not_mem_nil, or_false] at hc
  rcases hc with rfl | rfl | rfl | rfl | rfl | rfl | rfl <;> rfl

theorem operand_push {s : Regex.State} {start : Nat} {e : Expression}
    (he : e ≠ .empty ∧ ∀ changes, e ≠ .flags changes) (cur : Cursor) :
    (s.push start e).operand cur = .ok ((start, e), s.branch.items) := by
  cases e with
  | empty => exact absurd rfl he.1
  | flags changes => exact absurd rfl (he.2 changes)
  | _ => rfl

/-- A quantifier repeats the expression in front of it greedily, unless another one follows. -/
theorem readFrom_quantifier {d : Char} {q : Quantifier} (hd : Quantifier.ofChar? d = some q)
    {e : Expression} (he : e ≠ .empty ∧ ∀ changes, e ≠ .flags changes) {s : Regex.State}
    (hs : s.verbose = false) (left start offset : Nat) {rest : Text} (hrest : rest.head? ≠ some '?') :
    Regex.readFrom (left + 1) (s.push start e) ⟨offset, d :: rest⟩ =
      Regex.readFrom left (s.push start (.repetition start q.least q.greatest true e))
        ⟨offset + 1, rest⟩ := by
  have hgreedy : (rest.head? == some '?') = false := by
    rw [beq_eq_false_iff_ne]
    exact hrest
  have hsign : ∀ least greatest, (s.push start e).readSign least greatest ⟨offset, d :: rest⟩ =
      .ok (s.push start (.repetition start least greatest true e), ⟨offset + 1, rest⟩) := by
    intro least greatest
    rw [Regex.State.readSign, operand_push he]
    simp [bind, Except.bind, pure, Except.pure, Cursor.skip, hgreedy, Regex.State.repeated,
      Regex.State.push]
  refine Regex.readFrom_step hs ?_
  unfold Quantifier.ofChar? at hd
  split at hd
  · obtain rfl := Option.some.inj hd
    exact hsign 0 (some 1)
  · obtain rfl := Option.some.inj hd
    exact hsign 0 none
  · obtain rfl := Option.some.inj hd
    exact hsign 1 none
  · cases hd

/-! ### The run of the reader -/

theorem translation_symbol {kind : Kind} {c : Char} {letters : List Char}
    (h : kind.symbols? c = some letters) (rest : Text) :
    translation kind (c :: rest) = classText letters ++ translation kind rest := by
  rw [translation, List.flatMap_cons, h]
  rfl

theorem translation_quantifier {kind : Kind} {d : Char} {q : Quantifier}
    (h : Quantifier.ofChar? d = some q) (rest : Text) :
    translation kind (d :: rest) = d :: translation kind rest := by
  rw [translation, List.flatMap_cons, symbols?_of_quantifier h]
  rfl

theorem classText_cons {letters : List Char} (h : letters ∈ alphabet) :
    ∃ c rest, classText letters = c :: rest ∧ c ≠ '?' := by
  refine alphabet_cases h (fun c hc => ⟨c, [], rfl, ?_⟩) ⟨'[', _, rfl, by decide⟩
    ⟨'[', _, rfl, by decide⟩
  rintro rfl
  exact absurd hc (by decide)

/-- What is translated does not start with a question mark. -/
theorem head?_translation {kind : Kind} {expression : Text} {items : List Item}
    (h : Written kind expression items) {tail : Text} (htail : tail.head? ≠ some '?') :
    (translation kind expression ++ tail).head? ≠ some '?' := by
  have hsymbol : ∀ {c : Char} {letters : List Char} (rest : Text),
      kind.symbols? c = some letters →
      (translation kind (c :: rest) ++ tail).head? ≠ some '?' := by
    intro c letters rest hc
    obtain ⟨first, more, htext, hfirst⟩ := classText_cons (mem_alphabet hc)
    rw [translation_symbol hc, htext]
    exact fun hhead => hfirst (Option.some.inj hhead)
  cases h with
  | nil => exact htail
  | once hc _ => exact hsymbol _ hc
  | quantified hc _ _ => exact hsymbol _ hc

/-- **The reader goes over a translation** item by item, and what it reads means the items. -/
theorem readFrom_translation {kind : Kind} {expression : Text} {items : List Item}
    (h : Written kind expression items) {tail : Text} (htail : tail.head? ≠ some '?') :
    ∀ (s : Regex.State) (left offset : Nat), s.verbose = false →
      (translation kind expression ++ tail).length ≤ left →
      ∃ es left' offset',
        List.Forall₂ (fun e p => Means e.2 p) es (items.map Item.pattern) ∧ tail.length ≤ left' ∧
        Regex.readFrom left s ⟨offset, translation kind expression ++ tail⟩ =
          Regex.readFrom left' (s.pushAll es) ⟨offset', tail⟩ := by
  induction h with
  | nil =>
    intro s left offset _ hleft
    exact ⟨[], left, offset, .nil, hleft, rfl⟩
  | @once c letters rest items hc hrest ih =>
    intro s left offset hs hleft
    have hletters := mem_alphabet hc
    rw [translation_symbol hc, List.append_assoc] at hleft ⊢
    obtain ⟨first, more, htext, -⟩ := classText_cons hletters
    have hlength : 1 ≤ (classText letters).length := by rw [htext]; exact Nat.succ_pos _
    rw [List.length_append] at hleft
    obtain ⟨left, rfl⟩ : ∃ n, left = n + 1 := ⟨left - 1, by omega⟩
    obtain ⟨es, left', offset', hmeans, hleft', hread⟩ := ih
      (s.push offset (letterExpression offset letters)) left (offset + (classText letters).length)
      hs (by omega)
    refine ⟨(offset, letterExpression offset letters) :: es, left', offset',
      .cons (means_letterExpression hletters offset) hmeans, hleft', ?_⟩
    rw [readFrom_letters hletters hs, hread, Regex.State.pushAll_push]
  | @quantified c d letters q rest items hc hd hrest ih =>
    intro s left offset hs hleft
    have hletters := mem_alphabet hc
    rw [translation_symbol hc, translation_quantifier hd, List.append_assoc, List.cons_append]
      at hleft ⊢
    obtain ⟨first, more, htext, -⟩ := classText_cons hletters
    have hlength : 1 ≤ (classText letters).length := by rw [htext]; exact Nat.succ_pos _
    rw [List.length_append, List.length_cons] at hleft
    obtain ⟨left, rfl⟩ : ∃ n, left = n + 1 + 1 := ⟨left - 2, by omega⟩
    obtain ⟨es, left', offset', hmeans, hleft', hread⟩ := ih
      (s.push offset (.repetition offset q.least q.greatest true (letterExpression offset letters)))
      left (offset + (classText letters).length + 1) hs (by omega)
    refine ⟨(offset, _) :: es, left', offset', .cons (means_repetition hletters offset q) hmeans,
      hleft', ?_⟩
    rw [readFrom_letters hletters hs, readFrom_quantifier hd
      (means_letterExpression hletters offset).repeatable hs _ _ _ (head?_translation hrest htail),
      hread, Regex.State.pushAll_push]

/-! ### The expressions that are read -/

theorem shallow_of_means {es : List (Nat × Expression)} {ps : List Pattern}
    (h : List.Forall₂ (fun e p => Means e.2 p) es ps) :
    ∀ e ∈ es, ∀ depth < 10, e.2.tooDeep depth = none := by
  induction h with
  | nil => exact List.forall_mem_nil _
  | cons he _ ih => exact List.forall_mem_cons.mpr ⟨he.shallow, ih⟩

/-- A branch of expressions means their patterns joined. -/
theorem close_of_means {es : List (Nat × Expression)} {items : List Item}
    (halphabet : ∀ item ∈ items, item.symbols ∈ alphabet)
    (h : List.Forall₂ (fun e p => Means e.2 p) es (items.map Item.pattern)) (offset : Nat) :
    (∀ f : Regex.Flags, f.caseInsensitive = false → f.swapGreed = false →
      (Regex.OpenBranch.close ⟨offset, es.reverse⟩).meaning f =
        .ok (.join (items.map Item.pattern), f)) ∧
      ∀ depth < 5, (Regex.OpenBranch.close ⟨offset, es.reverse⟩).tooDeep depth = none := by
  refine ⟨fun f hcase hgreed => ?_, fun depth hdepth => ?_⟩
  · refine Regex.meaning_close (h.imp fun e p he => he.meaning f hcase hgreed) ?_ offset
    intro p hp
    obtain ⟨item, hitem, rfl⟩ := List.mem_map.mp hp
    exact Item.items_pattern (halphabet item hitem)
  · have hbound : depth < Regex.depthBound := by rw [Regex.depthBound]; omega
    refine Regex.tooDeep_close hbound (fun e he => ?_) offset
    have hshallow := shallow_of_means h e he
    exact ⟨hshallow depth (by omega), hshallow (depth + 1) (by omega)⟩

/-! ### Compiling a translation -/

/-- The pattern that is searched for. -/
def searchPattern (items : List Item) : Pattern := .join (items.map Item.pattern)

/-- The pattern that whole texts are compared with. -/
def wholePattern (items : List Item) : Pattern :=
  .join [.place .startText, searchPattern items, .place .endText]

section Compiling

variable {kind : Kind} {expression : Text} {items : List Item}

theorem Written.ne_nil (h : Written kind expression items) (hne : expression ≠ []) : items ≠ [] := by
  cases h with
  | nil => exact absurd rfl hne
  | once _ _ => nofun
  | quantified _ _ _ => nofun

theorem Written.symbols_mem (h : Written kind expression items) :
    ∀ item ∈ items, item.symbols ∈ alphabet := by
  induction h with
  | nil => exact List.forall_mem_nil _
  | once hc _ ih => exact List.forall_mem_cons.mpr ⟨mem_alphabet hc, ih⟩
  | quantified hc _ _ ih => exact List.forall_mem_cons.mpr ⟨mem_alphabet hc, ih⟩

/-- What is read of a translation means its items. -/
theorem read_translation (h : Written kind expression items) :
    ∃ e, Regex.read (translation kind expression) = .ok e ∧ (∀ depth < 5, e.tooDeep depth = none) ∧
      ∀ f : Regex.Flags, f.caseInsensitive = false → f.swapGreed = false →
        e.meaning f = .ok (searchPattern items, f) := by
  have htail : ([] : Text).head? ≠ some '?' := nofun
  obtain ⟨es, left, offset, hmeans, -, hread⟩ := readFrom_translation h htail .initial _ 0 rfl
    (Nat.le_refl _)
  obtain ⟨hmeaning, hshallow⟩ := close_of_means h.symbols_mem hmeans 0
  rw [List.append_nil] at hread
  exact ⟨_, Regex.read_of_pushAll hread (hshallow 0 (by decide)), hshallow, hmeaning⟩

/-- A translation does not end in a comment: a closing parenthesis behind it closes no group. -/
theorem not_endsInComment_translation (h : Written kind expression items) :
    ¬ Regex.EndsInComment (translation kind expression) := by
  rintro ⟨e, hread⟩
  have htail : [')'].head? ≠ some '?' := by decide
  obtain ⟨es, left, offset, -, hleft, hrun⟩ := readFrom_translation h htail .initial _ 0 rfl
    (Nat.le_refl _)
  obtain ⟨left, rfl⟩ : ∃ n, left = n + 1 := ⟨left - 1, (Nat.sub_add_cancel hleft).symm⟩
  obtain ⟨hread, -⟩ := Regex.read_eq_ok.mp hread
  rw [Cursor.start, hrun, Regex.readFrom_cons rfl] at hread
  cases hread

/-- Nothing in the pattern of a translation tells where it stands. -/
theorem moved_searchPattern (k : Nat) (items : List Item) :
    (searchPattern items).moved k = searchPattern items := by
  have hitem : ∀ item : Item, item.pattern.moved k = item.pattern := by
    rintro ⟨letters, _ | q⟩
    · exact Pattern.moved_ofSet k _
    · rw [Item.pattern, Pattern.moved, Pattern.moved_ofSet]
  rw [searchPattern, ← Pattern.join_moved, List.map_map]
  exact congrArg Pattern.join (List.map_congr_left fun item _ => hitem item)

/-- A translation is compiled to the pattern of its items. -/
theorem compileText_translation (h : Written kind expression items) :
    Regex.compileText true (translation kind expression) =
      if (searchPattern items).fits then .ok (searchPattern items)
      else .error ⟨none, .tooLarge⟩ := by
  obtain ⟨e, hread, -, hmeaning⟩ := read_translation h
  exact Regex.compileText_of_read hread (hmeaning _ rfl rfl)

/-- The expression that whole texts are compared with is compiled to that pattern between the two
ends of a text. -/
theorem compileText_anchored (h : Written kind expression items) :
    Regex.compileText true (Regex.anchored (translation kind expression)) =
      if (wholePattern items).fits then .ok (wholePattern items)
      else .error ⟨none, .tooLarge⟩ := by
  obtain ⟨e, hread, hshallow, hmeaning⟩ := read_translation h
  have hanchored := (Regex.read_anchored_eq_ok hread).mpr
    ⟨not_endsInComment_translation h, hshallow 2 (by decide), rfl⟩
  have hwhole : ∀ f : Regex.Flags, f.caseInsensitive = false → f.swapGreed = false →
      e.anchored.meaning f = .ok (wholePattern items, f) := by
    intro f hcase hgreed
    rw [Expression.meaning_anchored, hmeaning f hcase hgreed]
    show Except.ok (((searchPattern items).moved 5).anchored, f) = _
    rw [moved_searchPattern]
    rfl
  exact Regex.compileText_of_read hanchored (hwhole _ rfl rfl)

/-- **Compiling a translation.**  What is translated is never refused for how it is written: it is
compiled to the automata of its items, unless one of the patterns is too large. -/
theorem compile_translation (h : Written kind expression items) :
    Regex.compile true (translation kind expression) =
      if (searchPattern items).fits ∧ (wholePattern items).fits then
        .ok ⟨.ofPattern (searchPattern items), .ofPattern (wholePattern items)⟩
      else .error ⟨none, .tooLarge⟩ := by
  rw [Regex.compile, compileText_translation h, compileText_anchored h]
  by_cases hsearch : (searchPattern items).fits = true
  · by_cases hwhole : (wholePattern items).fits = true
    · rw [if_pos hsearch, if_pos hwhole, if_pos ⟨hsearch, hwhole⟩]
      rfl
    · have hnot : ¬ ((searchPattern items).fits ∧ (wholePattern items).fits) := fun h => hwhole h.2
      rw [if_pos hsearch, if_neg hwhole, if_neg hnot]
      rfl
  · have hnot : ¬ ((searchPattern items).fits ∧ (wholePattern items).fits) := fun h => hsearch h.1
    rw [if_neg hsearch, if_neg hnot]
    rfl

end Compiling

end PhoneticSearch.Sequence
