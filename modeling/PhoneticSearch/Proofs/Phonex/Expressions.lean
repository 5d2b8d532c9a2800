import PhoneticSearch.Proofs.Phonex.Matchers

/-!
# Reading phonex expressions

The reader of expressions accepts exactly what the grammar derives, with the tree of the
derivation, and a fault is at a place in the text.  That a text is read as the grammar has it
goes by induction on the bound of the nesting.  For the converse, each reader needs a bound
of three times the length of its text, and a text behind it with which its own does not go on:
no colon behind an atom, no quantifier behind an item, a bar or a parenthesis behind a branch.
-/

namespace PhoneticSearch.Phonex

open Grammar

section Sound

variable {offset opening : Nat} {t w rest : Text}

/-! ### Expressions are read as they are written -/

theorem readQuantifier_reads {n : Node} (h : Atom w t n) :
    Reads (fun v => Item (w ++ v)) ⟨offset, t⟩ (.ok (readQuantifier n ⟨offset, t⟩)) := by
  unfold readQuantifier
  split
  · next q hq =>
    obtain ⟨c, hhead, hc⟩ := Option.bind_eq_some_iff.mp hq
    obtain ⟨rest, rfl⟩ := List.head?_eq_some_iff.mp hhead
    exact Reads.ok (w := [c]) (.repeated h hc)
  · have hitem : Item (w ++ []) t n := by
      rw [List.append_nil]
      exact .once h
    exact Reads.ok (w := []) hitem

/-- What is made of the branches between parentheses. -/
def closeGroup (opening : Nat) (r : List (List Node) × Cursor) : Reading (Node × Cursor) :=
  if r.2.rest.head? != some ')' then .error (.found opening .unclosedGroup)
  else if r.1.all List.isEmpty then .error (.found opening .emptyGroup)
  else .ok (.alternatives r.1, r.2.skip 1)

theorem readAtom_group (depth offset : Nat) (t : Text) :
    readAtom (depth + 1) ⟨offset, '(' :: t⟩ =
      readBranches depth ⟨offset + 1, t⟩ >>= closeGroup offset := rfl

theorem exists_item_iff {bs : List (List Node)} :
    (∃ ns ∈ bs, ns ≠ []) ↔ ¬ bs.all List.isEmpty = true := by
  simp

theorem closeGroup_reads {bs : List (List Node)} (hopening : opening ≤ offset)
    (h : Branches w t bs) :
    Reads (fun v => Atom ('(' :: (w ++ v))) ⟨offset, t⟩ (closeGroup opening (bs, ⟨offset, t⟩)) := by
  unfold closeGroup
  split_ifs with hclose hempty
  · exact Reads.found hopening _
  · exact Reads.found hopening _
  · obtain ⟨rest, rfl⟩ := List.head?_eq_some_iff.mp (by simpa using hclose)
    exact Reads.ok (w := [')']) (.group h (exists_item_iff.mpr hempty))

/-- What is made of a branch that has an item in front. -/
theorem readBranch_item {c : Char} (hw : Blanks w) (hblank : isBlank c = false)
    (hend : ¬ (c = '|' ∨ c = ')')) (hquantifier : Quantifier.ofChar? c = none)
    (depth offset : Nat) (rest : Text) :
    readBranch (depth + 1) ⟨offset, w ++ c :: rest⟩ =
      readAtom depth ⟨offset + w.length, c :: rest⟩ >>= fun r =>
        .ok (readQuantifier r.1 r.2) >>= fun r =>
          readBranch depth r.2 >>= fun s => .ok (r.1 :: s.1, s.2) := by
  have hrest : NoBlank (c :: rest) := fun d hd => Option.some.inj hd ▸ hblank
  rw [readBranch, skipBlank_eq hw hrest]
  simp only [hend, hquantifier, Option.isSome_none, if_false, Bool.false_eq_true]
  rfl

mutual

theorem readBranches_reads : ∀ (depth : Nat) {offset : Nat} {t : Text},
    Reads Branches ⟨offset, t⟩ (readBranches depth ⟨offset, t⟩)
  | 0, _, _ => Reads.found (Nat.le_refl _) _
  | depth + 1, offset, t => by
    rw [readBranches]
    refine Reads.bind (readBranch_reads depth) fun ns w rest _ h => ?_
    simp only
    split
    · refine Reads.behind (w := ['|']) ?_
      refine Reads.bind (readBranches_reads depth) fun bs v rest hv hbs => ?_
      subst hv
      have hbranches : Branches (w ++ (['|'] ++ (v ++ []))) rest (ns :: bs) := by
        rw [List.append_nil]
        exact .bar h hbs
      exact Reads.ok (w := []) hbranches
    · have hbranches : Branches (w ++ []) rest [ns] := by
        rw [List.append_nil]
        exact .last h
      exact Reads.ok (w := []) hbranches

theorem readBranch_reads : ∀ (depth : Nat) {offset : Nat} {t : Text},
    Reads Branch ⟨offset, t⟩ (readBranch depth ⟨offset, t⟩)
  | 0, _, _ => Reads.found (Nat.le_refl _) _
  | depth + 1, offset, t => by
    obtain ⟨w, rest, rfl, hw, hrest⟩ := exists_skipBlank t
    have hlast : Branch (w ++ []) rest [] := by
      rw [List.append_nil]
      exact .last hw
    cases rest with
    | nil =>
      rw [readBranch, skipBlank_eq hw hrest]
      exact Reads.behind (Reads.ok (w := []) hlast)
    | cons c rest =>
      by_cases hend : c = '|' ∨ c = ')'
      · rw [readBranch, skipBlank_eq hw hrest]
        simp only [hend, if_true]
        exact Reads.behind (Reads.ok (w := []) hlast)
      · by_cases hquantifier : (Quantifier.ofChar? c).isSome = true
        · rw [readBranch, skipBlank_eq hw hrest]
          simp only [hend, hquantifier, if_false, if_true]
          exact Reads.behind (Reads.found (Nat.le_refl _) _)
        · have hnone := Option.not_isSome_iff_eq_none.mp hquantifier
          rw [readBranch_item hw (hrest c rfl) hend hnone]
          refine Reads.behind (Reads.bind (readAtom_reads depth hrest) fun n v rest _ hn => ?_)
          refine Reads.bind (readQuantifier_reads hn) fun n v' rest _ hitem => ?_
          refine Reads.bind (readBranch_reads depth) fun ns u rest hu hns => ?_
          subst hu
          have hbranch : Branch (w ++ (v ++ (v' ++ (u ++ [])))) rest (n :: ns) := by
            rw [List.append_nil, ← List.append_assoc v]
            exact .item hw hitem hns
          exact Reads.ok (w := []) hbranch

theorem readAtom_reads : ∀ (depth : Nat) {offset : Nat} {t : Text}, NoBlank t →
    Reads Atom ⟨offset, t⟩ (readAtom depth ⟨offset, t⟩)
  | 0, _, _, _ => Reads.found (Nat.le_refl _) _
  | depth + 1, offset, t, hblank => by
    unfold readAtom
    split
    · next rest hopen =>
      obtain rfl : t = _ := hopen
      refine Reads.behind (w := ['(']) (Reads.bind (readBranches_reads depth) ?_)
      intro bs w rest _ h
      exact closeGroup_reads (Nat.le_trans (Nat.le_add_right ..) (Nat.le_add_right ..)) h
    · next rest heq =>
      obtain rfl : t = _ := heq
      exact Reads.ok (w := ['^']) .start
    · next rest heq =>
      obtain rfl : t = _ := heq
      exact Reads.ok (w := ['$']) .stop
    · next rest heq =>
      obtain rfl : t = _ := heq
      exact Reads.ok (w := ['\\', 'b']) .wordBoundary
    · refine Reads.bind (readMatcher_reads _ hblank) fun m w rest _ h => ?_
      have hatom : Atom (w ++ []) rest (.element (.phone m)) := by
        rw [List.append_nil]
        exact .matcher h
      exact Reads.ok (w := []) hatom

end

end Sound

/-! ### What is written as an expression is read -/

namespace Grammar

variable {w rest : Text} {n : Node} {ns : List Node} {bs : List (List Node)}

/-- The signs that an atom does not start with: those that stand behind one, and those that
close something. -/
def standsBehind (c : Char) : Bool := [':', '?', '*', '+', '|', ')'].contains c

theorem isReserved_of_standsBehind {c : Char} (h : standsBehind c = true) :
    isReserved c = true := by
  simp only [standsBehind, isReserved, List.contains_eq_mem, decide_eq_true_eq, List.mem_cons,
    List.not_mem_nil, or_false] at h ⊢
  rcases h with rfl | rfl | rfl | rfl | rfl | rfl <;> simp

theorem standsBehind_of_quantifier {c : Char} {q : Quantifier}
    (h : Quantifier.ofChar? c = some q) : standsBehind c = true := by
  unfold Quantifier.ofChar? at h
  split at h <;> first | rfl | cases h

theorem ofChar?_of_not_standsBehind {c : Char} (h : standsBehind c = false) :
    Quantifier.ofChar? c = none := by
  cases hq : Quantifier.ofChar? c with
  | none => rfl
  | some q =>
    rw [standsBehind_of_quantifier hq] at h
    cases h

theorem Atom.first (h : Atom w rest n) :
    ∃ c v, w = c :: v ∧ isBlank c = false ∧ standsBehind c = false := by
  cases h with
  | group => exact ⟨'(', _, rfl, rfl, rfl⟩
  | start => exact ⟨'^', _, rfl, rfl, rfl⟩
  | stop => exact ⟨'$', _, rfl, rfl, rfl⟩
  | wordBoundary => exact ⟨'\\', _, rfl, rfl, rfl⟩
  | matcher h =>
    obtain ⟨c, v, hw, hblank, hreserved⟩ := h.first
    refine ⟨c, v, hw, hblank, Bool.eq_false_iff.mpr fun hbehind => ?_⟩
    exact Bool.noConfusion (hreserved.symm.trans (isReserved_of_standsBehind hbehind))

theorem Item.first (h : Item w rest n) :
    ∃ c v, w = c :: v ∧ isBlank c = false ∧ standsBehind c = false := by
  cases h with
  | once h => exact h.first
  | repeated h _ =>
    obtain ⟨c, v, rfl, hc⟩ := h.first
    exact ⟨c, _, rfl, hc⟩

/-- Whether a text can stand behind a branch. -/
def EndsBranch (t : Text) : Prop := ∀ c ∈ t.head?, c = '|' ∨ c = ')'

/-- What stands behind an item is neither the colon of a constituent nor a quantifier. -/
theorem Branch.head_ne (h : Branch w rest ns) (hrest : EndsBranch rest) {d : Char}
    (hd : standsBehind d = true) (hne : ¬ (d = '|' ∨ d = ')')) : (w ++ rest).head? ≠ some d := by
  cases h with
  | last hw =>
    exact head_ne_of_blanks hw (isReserved_of_standsBehind hd) fun hhead => hne (hrest d hhead)
  | item hw hn _ =>
    obtain ⟨c, v, rfl, -, hc⟩ := hn.first
    rw [List.append_assoc, List.append_assoc]
    refine head_ne_of_blanks hw (isReserved_of_standsBehind hd) fun hhead => ?_
    obtain rfl := Option.some.inj hhead
    exact Bool.noConfusion (hc.symm.trans hd)

theorem Branch.noQuantifier (h : Branch w rest ns) (hrest : EndsBranch rest) :
    ∀ d ∈ (w ++ rest).head?, Quantifier.ofChar? d = none := by
  intro d hd
  cases hq : Quantifier.ofChar? d with
  | none => rfl
  | some q =>
    refine absurd hd (h.head_ne hrest (standsBehind_of_quantifier hq) ?_)
    rintro (rfl | rfl) <;> cases hq

/-- A phone matcher is no word boundary. -/
theorem Base.ne_wordBoundary {m : PhoneMatcher} (h : Base w rest m) (v : Text) :
    w ++ rest ≠ '\\' :: 'b' :: v := by
  cases h with
  | escaped h =>
    rintro heq
    obtain rfl := (List.cons.inj (List.cons.inj heq).2).1
    cases h
  | glyph hc =>
    rintro heq
    obtain rfl := (List.cons.inj heq).1
    exact hc.notSign (by simp)
  | any | consonant | vowel | glide | segment | features | oneOf | noneOf => simp

theorem Matcher.ne_wordBoundary {m : PhoneMatcher} (h : Matcher w rest m) (v : Text) :
    w ++ rest ≠ '\\' :: 'b' :: v := by
  cases h with
  | plain h => exact h.ne_wordBoundary v
  | within h _ =>
    rw [List.append_assoc]
    exact h.ne_wordBoundary v

theorem readAtom_matcher {m : PhoneMatcher} (h : Matcher w rest m) (hrest : rest.head? ≠ some ':')
    (depth offset : Nat) : readAtom (depth + 1) ⟨offset, w ++ rest⟩ =
      .ok (.element (.phone m), ⟨offset + w.length, rest⟩) := by
  have hfront : ∀ {d}, isReserved d = true → ∀ v, w ++ rest ≠ d :: v := fun hd v heq =>
    h.head_ne hd rest (congrArg List.head? heq)
  have hbound : 3 * w.length ≤ matcherDepth (w ++ rest) := by
    rw [matcherDepth, List.length_append]
    omega
  unfold readAtom
  split
  · next heq => exact absurd heq (hfront rfl _)
  · next heq => exact absurd heq (hfront rfl _)
  · next heq => exact absurd heq (hfront rfl _)
  · next heq => exact absurd heq (h.ne_wordBoundary _)
  · show readMatcher (matcherDepth (w ++ rest)) ⟨offset, w ++ rest⟩ >>= _ = _
    rw [h.read _ hrest hbound]
    rfl

theorem readQuantifier_once (h : ∀ c ∈ rest.head?, Quantifier.ofChar? c = none) (n : Node)
    (offset : Nat) : readQuantifier n ⟨offset, rest⟩ = (n, ⟨offset, rest⟩) := by
  have hnone : rest.head?.bind Quantifier.ofChar? = none := by
    cases rest with
    | nil => rfl
    | cons c rest => exact h c rfl
  simp [readQuantifier, hnone]

theorem readQuantifier_repeated {c : Char} {q : Quantifier} (h : Quantifier.ofChar? c = some q)
    (n : Node) (offset : Nat) :
    readQuantifier n ⟨offset, c :: rest⟩ = (.repeated n q, ⟨offset + 1, rest⟩) := by
  simp [readQuantifier, h, Cursor.skip]

/-- An item is an atom that is read, with its quantifier behind it. -/
theorem Item.split (h : Item w rest n) (hcolon : rest.head? ≠ some ':')
    (hquantifier : ∀ c ∈ rest.head?, Quantifier.ofChar? c = none) :
    ∃ v q n', w = v ++ q ∧ Atom v (q ++ rest) n' ∧ (q ++ rest).head? ≠ some ':' ∧
      ∀ offset, readQuantifier n' ⟨offset, q ++ rest⟩ = (n, ⟨offset + q.length, rest⟩) := by
  cases h with
  | once h =>
    exact ⟨w, [], n, (List.append_nil w).symm, h, hcolon, readQuantifier_once hquantifier n⟩
  | @repeated v _ c n' q h hq =>
    refine ⟨v, [c], n', rfl, h, ?_, readQuantifier_repeated hq n'⟩
    rintro heq
    obtain rfl := Option.some.inj heq
    cases hq

mutual

theorem Branches.read : ∀ (depth : Nat) {w rest : Text} {bs : List (List Node)},
    Branches w rest bs → (∀ c ∈ rest.head?, c = ')') → 3 * w.length + 2 ≤ depth → ∀ offset,
      readBranches depth ⟨offset, w ++ rest⟩ = .ok (bs, ⟨offset + w.length, rest⟩)
  | 0, _, _, _, _, _, hdepth, _ => by omega
  | depth + 1, _, rest, _, h, hrest, hdepth, offset => by
    cases h with
    | @last w _ ns h =>
      rw [readBranches, h.read depth (fun c hc => .inr (hrest c hc)) (by omega)]
      cases rest with
      | nil => rfl
      | cons c rest =>
        obtain rfl := hrest c rfl
        rfl
    | @bar w v _ ns bs h hbs =>
      rw [List.length_append, List.length_cons] at hdepth
      have hbar : EndsBranch ('|' :: (v ++ rest)) := fun c hc => .inl (Option.some.inj hc).symm
      have hmore := hbs.read depth hrest (by omega) (offset + w.length + 1)
      have hlength : offset + w.length + 1 + v.length = offset + (w ++ '|' :: v).length := by
        rw [List.length_append, List.length_cons]
        omega
      rw [List.append_assoc, List.cons_append, readBranches, h.read depth hbar (by omega),
        ← hlength]
      exact congrArg (· >>= fun r => pure (ns :: r.1, r.2)) hmore

theorem Branch.read : ∀ (depth : Nat) {w rest : Text} {ns : List Node},
    Branch w rest ns → EndsBranch rest → 3 * w.length + 1 ≤ depth → ∀ offset,
      readBranch depth ⟨offset, w ++ rest⟩ = .ok (ns, ⟨offset + w.length, rest⟩)
  | 0, _, _, _, _, _, hdepth, _ => by omega
  | depth + 1, _, rest, _, h, hrest, hdepth, offset => by
    cases h with
    | @last w _ hw =>
      have hblank : NoBlank rest := fun c hc => by rcases hrest c hc with rfl | rfl <;> rfl
      rw [readBranch, skipBlank_eq hw hblank]
      cases rest with
      | nil => rfl
      | cons c rest =>
        simp only [hrest c rfl, if_true]
    | @item w v u _ n ns hw hn hns =>
      obtain ⟨c, v', hv, hblank, hbehind⟩ := hn.first
      rw [List.length_append, List.length_append] at hdepth
      -- A character of the item pays for the step to the branch behind it.
      have hnonempty : 0 < v.length := by rw [hv]; exact Nat.zero_lt_succ _
      have hend : ¬ (c = '|' ∨ c = ')') := by rintro (rfl | rfl) <;> cases hbehind
      obtain ⟨a, q, n', rfl, ha, hcolon, hq⟩ :=
        hn.split (hns.head_ne hrest rfl (by simp)) (hns.noQuantifier hrest)
      have hmore := hns.read depth hrest (by omega) (offset + w.length + a.length + q.length)
      rw [List.length_append] at hdepth
      have hatom := ha.read depth hcolon (by omega) (offset + w.length)
      have hlength : offset + w.length + a.length + q.length + u.length =
          offset + (w ++ (a ++ q ++ u)).length := by
        simp only [List.length_append]
        omega
      have hitem := readBranch_item hw hblank hend (ofChar?_of_not_standsBehind hbehind) depth
        offset (v' ++ (u ++ rest))
      rw [← List.cons_append, ← hv, List.append_assoc, hatom] at hitem
      rw [List.append_assoc, List.append_assoc, List.append_assoc, hitem, ← hlength]
      show readBranch depth (readQuantifier n' ⟨offset + w.length + a.length, q ++ (u ++ rest)⟩).2 >>=
        (fun s => _) = _
      simp only [hq, hmore]
      rfl

theorem Atom.read : ∀ (depth : Nat) {w rest : Text} {n : Node}, Atom w rest n →
    rest.head? ≠ some ':' → 3 * w.length ≤ depth → ∀ offset,
      readAtom depth ⟨offset, w ++ rest⟩ = .ok (n, ⟨offset + w.length, rest⟩)
  | 0, w, _, _, h, _, hdepth, _ => by
    obtain ⟨c, v, rfl, -⟩ := h.first
    rw [List.length_cons] at hdepth
    omega
  | depth + 1, _, rest, _, h, hrest, hdepth, offset => by
    cases h with
    | @group w _ bs h hne =>
      rw [List.length_cons, List.length_append] at hdepth
      have hlength : offset + 1 + w.length + 1 = offset + ('(' :: (w ++ [')'])).length := by
        rw [List.length_cons, List.length_append, List.length_singleton]
        omega
      rw [List.cons_append, readAtom_group, List.append_assoc, List.singleton_append,
        h.read depth (fun c hc => (Option.some.inj hc).symm) (by omega), ← hlength]
      show closeGroup offset (bs, ⟨offset + 1 + w.length, ')' :: rest⟩) = _
      rw [closeGroup, if_neg (by simp), if_neg (exists_item_iff.mp hne)]
      rfl
    | start => rfl
    | stop => rfl
    | wordBoundary => rfl
    | matcher h => exact readAtom_matcher h hrest depth offset

end

end Grammar

/-! ### The reader and the grammar -/

/-- What the branches of a whole text give. -/
def closeExpression (r : List (List Node) × Cursor) : Except (Located Fault) Node :=
  match r.2.rest with
  | c :: _ => .error (.found r.2.offset (.unexpected c))
  | [] => if r.1.all List.isEmpty then .error ⟨none, .emptyExpression⟩ else .ok (.alternatives r.1)

theorem read_eq (e : Text) :
    read e = readBranches (3 * e.length + 3) ⟨0, e⟩ >>= closeExpression := rfl

/-- Whatever an expression is read as is its tree. -/
theorem expression_of_read {e : Text} {node : Node} (h : read e = .ok node) :
    Expression e node := by
  rw [read_eq, bind_eq_ok] at h
  obtain ⟨⟨bs, offset, rest⟩, hbranches, hclose⟩ := h
  have hreads : Reads Branches ⟨0, e⟩ _ := readBranches_reads (3 * e.length + 3)
  rw [hbranches] at hreads
  obtain ⟨w, he, -, h⟩ := hreads
  cases rest with
  | cons c rest => cases hclose
  | nil =>
    obtain rfl : e = w := he.trans (List.append_nil w)
    simp only [closeExpression] at hclose
    split_ifs at hclose with hempty
    cases hclose
    exact .mk h (exists_item_iff.mpr hempty)

/-- An expression of the grammar is read. -/
theorem Grammar.Expression.read {e : Text} {node : Node} (h : Expression e node) :
    Phonex.read e = .ok node := by
  obtain ⟨h, hne⟩ := h
  have hbranches := h.read (3 * e.length + 3) (fun c hc => by cases hc) (by omega) 0
  rw [List.append_nil] at hbranches
  rw [read_eq, hbranches]
  exact if_neg (exists_item_iff.mp hne)

/-- The fault of a text that is no expression is found at a place in it. -/
theorem place_le_of_read {e : Text} {fault : Located Fault} (h : read e = .error fault)
    {place : Nat} (hplace : fault.offset = some place) : place ≤ e.length := by
  have hreads : Reads Branches ⟨0, e⟩ _ := readBranches_reads (3 * e.length + 3)
  rw [read_eq] at h
  cases hbranches : readBranches (3 * e.length + 3) ⟨0, e⟩ with
  | error other =>
    rw [hbranches] at h hreads
    cases h
    exact Nat.zero_add e.length ▸ hreads place hplace
  | ok r =>
    obtain ⟨bs, offset, rest⟩ := r
    rw [hbranches] at h hreads
    obtain ⟨w, he, hoffset, -⟩ := hreads
    obtain rfl : e = w ++ rest := he
    obtain rfl : offset = 0 + w.length := hoffset
    cases rest with
    | cons c rest =>
      cases h
      obtain rfl := Option.some.inj hplace
      rw [List.length_append, Nat.zero_add]
      exact Nat.le_add_right ..
    | nil =>
      have hempty : (if bs.all List.isEmpty then Except.error ⟨none, .emptyExpression⟩
        else .ok (Node.alternatives bs)) = .error fault := h
      split_ifs at hempty
      cases hempty
      cases hplace

/-- The reader of phonex expressions accepts exactly what the grammar derives, and returns the
tree of the derivation; for any other text it returns a fault, whose place, if it has one, is
in the text. -/
theorem read_exact (e : Text) : (∀ node, read e = .ok node ↔ Expression e node) ∧
    ((¬ ∃ node, Expression e node) ↔ ∃ fault, read e = .error fault) ∧
    ∀ fault place, read e = .error fault → fault.offset = some place → place ≤ e.length := by
  have hread : ∀ node, read e = .ok node ↔ Expression e node := fun node =>
    ⟨expression_of_read, Expression.read⟩
  refine ⟨hread, ⟨fun hnone => ?_, ?_⟩, fun fault place h hplace => place_le_of_read h hplace⟩
  · cases h : read e with
    | ok node => exact absurd ⟨node, (hread node).mp h⟩ hnone
    | error fault => exact ⟨fault, rfl⟩
  · rintro ⟨fault, hfault⟩ ⟨node, hnode⟩
    cases hfault.symm.trans hnode.read

theorem read_exact_group :
    Expression ['(', 'p', '|', '^', ')', '+', ' ', 't', ':', 'o'] (.alternatives
      [[.repeated (.alternatives [[.element (.phone (.base ['p']))], [.start]]) .some,
        .element (.phone (.within (.base ['t']) .onset))]]) ∧
    ¬ ∃ node, Expression ['(', 'p'] node :=
  ⟨((read_exact _).1 _).mp rfl,
   (read_exact _).2.1.mpr ⟨_, (rfl : read ['(', 'p'] = .error (.found 0 .unclosedGroup))⟩⟩

end PhoneticSearch.Phonex
