import PhoneticSearch.Pattern.Phonex.Table
import PhoneticSearch.Proofs.Phonex.Ends

/-!
# The table holds the ends

A state of a search names a node by its path and a class of repetition counts, and what
is found there without a table depends on these alone (`Node.Finds`, `Node.Finds.unique`):
a state does not tell the counts above the least one apart, but all counts of a class
find alike (`repeatEnds_countClass`), and the elements that are left follow from the
position (`repeatEnds_left`).

A table is sound when each of its entries is what is found in its state (`Table.Sound`).
`Computes` states of a step of the search that it finds the right ends with every sound
table, and stores nothing but what is found (`Table.Stores`).  It holds of a search when
it holds of its steps.
-/

namespace PhoneticSearch.Phonex

open Relation

/-! ### The nodes that paths name -/

/-- The node that branches and items, the first ones first, lead to. -/
def Node.child? : Node → List Nat → Option Node
  | n, [] => some n
  | .repeated node _, 0 :: rest => node.child? rest
  | .alternatives branches, branch :: item :: rest =>
    match branches[branch]?.bind (·[item]?) with
    | some node => node.child? rest
    | none => none
  | _, _ :: _ => none

/-- The node that a path of the search, the last item first, leads to. -/
def Node.locate? (root : Node) (path : List Nat) : Option Node := root.child? path.reverse

theorem Node.child?_append {n m : Node} {items : List Nat} (h : n.child? items = some m)
    (more : List Nat) : n.child? (items ++ more) = m.child? more := by
  fun_induction Node.child? n items with
  | case1 n =>
    obtain rfl : n = m := Option.some.inj h
    rfl
  | case2 node _ rest ih =>
    rw [List.cons_append, Node.child?]
    exact ih h
  | case3 branches branch item rest node hnode ih =>
    rw [List.cons_append, List.cons_append, Node.child?, hnode]
    exact ih h
  | case4 => cases h
  | case5 => cases h

section Locate

variable {root : Node} {path : List Nat}

theorem Node.locate?_body {node : Node} {q : Quantifier}
    (h : root.locate? path = some (.repeated node q)) : root.locate? (0 :: path) = some node := by
  rw [Node.locate?, List.reverse_cons, Node.child?_append h, Node.child?, Node.child?]

theorem Node.locate?_item {branches : List (List Node)} {nodes : List Node} {node : Node}
    {branch item : Nat} (h : root.locate? path = some (.alternatives branches))
    (hbranch : branches[branch]? = some nodes) (hitem : nodes[item]? = some node) :
    root.locate? (item :: branch :: path) = some node := by
  rw [Node.locate?, List.reverse_cons, List.reverse_cons, List.append_assoc,
    Node.child?_append h]
  simp [Node.child?, hbranch, hitem]

end Locate

/-! ### What is found in a state -/

/-- Where `count` and more repetitions of a node end. -/
def Node.repeatedEnds (elements : List Element) (node : Node) (q : Quantifier)
    (count position : Nat) : List Nat :=
  repeatEnds (node.ends elements) q (elements.length - position) count position

/-- The counts of one class find alike. -/
theorem repeatEnds_countClass (step : Nat → List Nat) (q : Quantifier)
    (left count position : Nat) :
    repeatEnds step q left (countClass q count) position = repeatEnds step q left count position := by
  unfold countClass
  cases hq : q.greatest with
  | some n => rfl
  | none =>
    rcases Nat.le_total q.least count with h | h
    · rw [Nat.min_eq_right h, repeatEnds_least hq left position h]
    · rw [Nat.min_eq_left h]

/-- The ends that are found without a table in a state of the search. -/
inductive Node.Finds (root : Node) (elements : List Element) : State → List Nat → Prop where
  | alternatives {path : List Nat} {branches : List (List Node)}
      (h : root.locate? path = some (.alternatives branches)) (position : Nat) :
      Finds root elements ⟨path, none, position⟩
        ((Node.alternatives branches).ends elements position)
  | repeated {path : List Nat} {node : Node} {q : Quantifier}
      (h : root.locate? path = some (.repeated node q)) (count position : Nat) :
      Finds root elements ⟨0 :: path, some (countClass q count), position⟩
        (node.repeatedEnds elements q count position)

section Finds

variable {root : Node} {elements : List Element}

/-- A state without a count is that of alternatives. -/
theorem Node.Finds.of_none {path : List Nat} {position : Nat} {ends : List Nat}
    (h : root.Finds elements ⟨path, none, position⟩ ends) :
    ∃ branches, root.locate? path = some (.alternatives branches) ∧
      ends = (Node.alternatives branches).ends elements position := by
  cases h with
  | alternatives hpath => exact ⟨_, hpath, rfl⟩

/-- A state with a class of counts is that of a repetition, and what is found there is
found by each count of the class. -/
theorem Node.Finds.of_some {path : List Nat} {k position : Nat} {ends : List Nat}
    (h : root.Finds elements ⟨path, some k, position⟩ ends) :
    ∃ above node q, path = 0 :: above ∧ root.locate? above = some (.repeated node q) ∧
      (∃ count, countClass q count = k) ∧
      ∀ count, countClass q count = k → ends = node.repeatedEnds elements q count position := by
  cases h with
  | @repeated above node q habove count =>
    refine ⟨above, node, q, rfl, habove, ⟨count, rfl⟩, fun other hother => ?_⟩
    rw [repeatedEnds, repeatedEnds, ← repeatEnds_countClass _ q _ count, ← hother,
      repeatEnds_countClass]

/-- A state says what is found. -/
theorem Node.Finds.unique {state : State} {ends ends' : List Nat}
    (h : root.Finds elements state ends) (h' : root.Finds elements state ends') : ends = ends' := by
  obtain ⟨path, count, position⟩ := state
  cases count with
  | none =>
    obtain ⟨branches, hpath, rfl⟩ := h.of_none
    obtain ⟨branches', hpath', rfl⟩ := h'.of_none
    rw [hpath] at hpath'
    cases hpath'
    rfl
  | some k =>
    obtain ⟨above, node, q, rfl, habove, ⟨count, hcount⟩, hends⟩ := h.of_some
    obtain ⟨above', node', q', habove', hpath', -, hends'⟩ := h'.of_some
    obtain rfl : above = above' := (List.cons.inj habove').2
    rw [habove] at hpath'
    cases hpath'
    rw [hends count hcount, hends' count hcount]

end Finds

/-! ### Sound tables -/

/-- The entries of a table are what is found in their states. -/
def Table.Sound (root : Node) (elements : List Element) (table : Table) : Prop :=
  ∀ state ends, table[state]? = some ends → root.Finds elements state ends

/-- Two tables, the second of which has one more entry, and a right one. -/
inductive Table.Stores (root : Node) (elements : List Element) : Table → Table → Prop where
  | store {state : State} {ends : List Nat} (h : root.Finds elements state ends) (table : Table) :
      Stores root elements table (table.insert state ends)

section Stores

variable {root : Node} {elements : List Element} {table table' : Table}

theorem Table.sound_empty (root : Node) (elements : List Element) :
    Table.Sound root elements ∅ := by
  intro state ends h
  simp at h

theorem Table.Stores.sound (h : Stores root elements table table')
    (hsound : Table.Sound root elements table) : Table.Sound root elements table' := by
  obtain ⟨hfinds, _⟩ := h
  intro other ends hother
  rw [Std.HashMap.getElem?_insert] at hother
  split at hother
  · rename_i heq
    rw [← Option.some.inj hother, ← eq_of_beq heq]
    exact hfinds
  · exact hsound other ends hother

/-- A right entry that is stored again stays as it is. -/
theorem Table.Stores.keeps (h : Stores root elements table table')
    (hsound : Table.Sound root elements table) {state : State} {ends : List Nat}
    (hentry : table[state]? = some ends) : table'[state]? = some ends := by
  obtain ⟨hfinds, _⟩ := h
  rw [Std.HashMap.getElem?_insert]
  split
  · rename_i heq
    rw [eq_of_beq heq] at hfinds
    rw [hfinds.unique (hsound _ _ hentry)]
  · exact hentry

/-- What is stored one by one in a sound table. -/
theorem Table.Sound.stored (hsound : Table.Sound root elements table)
    (h : ReflTransGen (Table.Stores root elements) table table') :
    Table.Sound root elements table' ∧
      ∀ (state : State) (ends : List Nat), table[state]? = some ends →
        table'[state]? = some ends := by
  induction h with
  | refl => exact ⟨hsound, fun state ends h => h⟩
  | tail _ hstep ih =>
    exact ⟨hstep.sound ih.1, fun state ends h => hstep.keeps ih.1 (ih.2 state ends h)⟩

end Stores

/-- A step of the search finds `a` with every sound table, and stores what is found in
states. -/
def Computes (root : Node) (elements : List Element) {α : Type} (x : StateM Table α) (a : α) :
    Prop :=
  ∀ table, Table.Sound root elements table →
    (x.run table).1 = a ∧ ReflTransGen (Table.Stores root elements) table (x.run table).2

namespace Computes

variable {root : Node} {elements : List Element} {α β : Type}

theorem pure (a : α) : Computes root elements (Pure.pure a) a := fun _ _ => ⟨rfl, .refl⟩

theorem bind {x : StateM Table α} {a : α} {f : α → StateM Table β} {b : β}
    (hx : Computes root elements x a) (hf : Computes root elements (f a) b) :
    Computes root elements (x >>= f) b := by
  intro table htable
  obtain ⟨rfl, hfirst⟩ := hx table htable
  obtain ⟨hb, hthen⟩ := hf _ (htable.stored hfirst).1
  exact ⟨hb, hfirst.trans hthen⟩

theorem mapM {f : α → StateM Table β} {g : α → β} :
    ∀ {l : List α}, (∀ a ∈ l, Computes root elements (f a) (g a)) →
      Computes root elements (l.mapM f) (l.map g)
  | [], _ => by
    rw [List.mapM_nil]
    exact pure []
  | a :: l, h => by
    rw [List.mapM_cons]
    have hrest : Computes root elements (l.mapM f) (l.map g) :=
      mapM fun b hb => h b (List.mem_cons_of_mem a hb)
    exact bind (h a List.mem_cons_self) (bind hrest (pure _))

/-- An entry that is there is right, and one that is put there is too. -/
theorem tabled {state : State} {compute : StateM Table (List Nat)} {ends : List Nat}
    (hfinds : root.Finds elements state ends) (h : Computes root elements compute ends) :
    Computes root elements (Phonex.tabled state compute) ends := by
  intro table htable
  cases hentry : table[state]? with
  | some known =>
    have hrun : (Phonex.tabled state compute).run table = (known, table) := by
      unfold Phonex.tabled
      simp only [StateT.run_bind, StateT.run_get, pure_bind, hentry]
      rfl
    rw [hrun]
    exact ⟨(htable state known hentry).unique hfinds, .refl⟩
  | none =>
    have hrun : (Phonex.tabled state compute).run table =
        ((compute.run table).1, (compute.run table).2.insert state (compute.run table).1) := by
      unfold Phonex.tabled
      simp only [StateT.run_bind, StateT.run_get, pure_bind, hentry]
      rfl
    obtain ⟨hends, hstored⟩ := h table htable
    rw [hrun]
    refine ⟨hends, hstored.tail ?_⟩
    rw [hends]
    exact .store hfinds _

end Computes

/-! ### The search -/

variable {root : Node} {elements : List Element}

/-- What is found in the state of a repetition, whatever bound on the steps is enough for
the elements that are left. -/
theorem Node.Finds.of_left {path : List Nat} {node : Node} {q : Quantifier}
    (hnode : root.locate? path = some (.repeated node q)) {left position : Nat}
    (hleft : elements.length - position ≤ left) (count : Nat) :
    root.Finds elements ⟨0 :: path, some (countClass q count), position⟩
      (repeatEnds (node.ends elements) q left count position) := by
  rw [repeatEnds_left (node.stepsOnward elements) count position hleft (Nat.le_refl _)]
  exact .repeated hnode count position

/-- What follows one more repetition starts from its ends, or from none. -/
theorem computes_next {node : Node} {q : Quantifier} {step : Nat → StateM Table (List Nat)}
    (hstep : ∀ p, Computes root elements (step p) (node.ends elements p)) {count position : Nat}
    {k : List Nat → StateM Table (List Nat)} {ends : List Nat}
    (hk : Computes root elements (k (nextEnds (node.ends elements) q count position)) ends) :
    Computes root elements
      (if q.allowsAfter count then step position >>= k else pure [] >>= k) ends := by
  unfold nextEnds at hk
  split at hk
  · rw [if_pos ‹_›]
    exact (hstep position).bind hk
  · rw [if_neg ‹_›]
    exact (Computes.pure []).bind hk

theorem repeatEndsTabled_computes {path : List Nat} {node : Node} {q : Quantifier}
    (hnode : root.locate? path = some (.repeated node q)) {step : Nat → StateM Table (List Nat)}
    (hstep : ∀ p, Computes root elements (step p) (node.ends elements p)) :
    ∀ (left count position : Nat), elements.length - position ≤ left →
      Computes root elements (repeatEndsTabled step (0 :: path) q left count position)
        (repeatEnds (node.ends elements) q left count position) := by
  intro left
  induction left with
  | zero =>
    intro count position hleft
    refine Computes.tabled (.of_left hnode hleft count) (computes_next hstep ?_)
    exact (Computes.pure []).bind (Computes.pure _)
  | succ left ih =>
    intro count position hleft
    refine Computes.tabled (.of_left hnode hleft count) ?_
    rw [repeatEnds_succ, repeatOnce, List.flatMap_def]
    refine computes_next hstep ((Computes.mapM fun m hm => ?_).bind (Computes.pure _))
    -- Only ends that move on are repeated from, so one element less is left there.
    obtain ⟨hm, hne⟩ := List.mem_filter.mp hm
    have := (node.stepsOnward elements).fewer_left (mem_nextEnds.mp hm).2 (by simpa using hne)
    exact ih (count + 1) m (by omega)

mutual

/-- The ends of a node at its place below the root, found with a table. -/
theorem Node.endsTabled_computes :
    ∀ (n : Node) {path : List Nat}, root.locate? path = some n → ∀ position,
      Computes root elements (n.endsTabled elements path position) (n.ends elements position)
  | .element m, path, _, position => by
    rw [Node.endsTabled, Node.ends]
    cases elements[position]? with
    | none => exact Computes.pure _
    | some e => exact Computes.pure _
  | .start, path, _, position => by
    rw [Node.endsTabled, Node.ends]
    exact Computes.pure _
  | .stop, path, _, position => by
    rw [Node.endsTabled, Node.ends]
    exact Computes.pure _
  | .alternatives branches, path, hpath, position => by
    rw [Node.endsTabled]
    refine Computes.tabled (.alternatives hpath position) ?_
    rw [Node.ends]
    exact (branchesEndsTabled_computes branches hpath rfl position).bind (Computes.pure _)
  | .repeated node q, path, hpath, position => by
    rw [Node.endsTabled, Node.ends]
    exact repeatEndsTabled_computes hpath
      (Node.endsTabled_computes node (Node.locate?_body hpath)) _ 0 position (Nat.le_refl _)

theorem branchesEndsTabled_computes :
    ∀ (branches : List (List Node)) {path : List Nat} {all : List (List Node)} {branch : Nat},
      root.locate? path = some (.alternatives all) → all.drop branch = branches → ∀ position,
      Computes root elements (branchesEndsTabled elements path branch branches position)
        (branchesEnds elements branches position)
  | [], path, all, branch, _, _, position => by
    rw [branchesEndsTabled, branchesEnds]
    exact Computes.pure []
  | nodes :: rest, path, all, branch, hpath, hall, position => by
    have hnodes : all[branch]? = some nodes := by
      rw [← List.head?_drop, hall, List.head?_cons]
    have hrest : all.drop (branch + 1) = rest := by
      rw [← List.tail_drop, hall, List.tail_cons]
    rw [branchesEndsTabled, branchesEnds]
    exact (sequenceEndsTabled_computes nodes hpath hnodes rfl position).bind
      ((branchesEndsTabled_computes rest hpath hrest position).bind (Computes.pure _))

theorem sequenceEndsTabled_computes :
    ∀ (nodes : List Node) {path : List Nat} {all : List (List Node)} {branch item : Nat}
      {whole : List Node}, root.locate? path = some (.alternatives all) →
      all[branch]? = some whole → whole.drop item = nodes → ∀ position,
      Computes root elements (sequenceEndsTabled elements (branch :: path) item nodes position)
        (sequenceEnds elements nodes position)
  | [], path, all, branch, item, whole, _, _, _, position => by
    rw [sequenceEndsTabled, sequenceEnds]
    exact Computes.pure [position]
  | node :: rest, path, all, branch, item, whole, hpath, hwhole, hnodes, position => by
    have hnode : whole[item]? = some node := by
      rw [← List.head?_drop, hnodes, List.head?_cons]
    have hrest : whole.drop (item + 1) = rest := by
      rw [← List.tail_drop, hnodes, List.tail_cons]
    rw [sequenceEndsTabled, sequenceEnds, List.flatMap_def]
    refine (Node.endsTabled_computes node (Node.locate?_item hpath hwhole hnode) position).bind
      ((Computes.mapM fun m _ => ?_).bind (Computes.pure _))
    exact sequenceEndsTabled_computes rest hpath hwhole hrest m

end

/-- The ends of an expression, found with a sound table. -/
theorem Node.endsTabled_root (root : Node) (elements : List Element) (position : Nat) :
    Computes root elements (root.endsTabled elements [] position) (root.ends elements position) :=
  Node.endsTabled_computes root rfl position

end PhoneticSearch.Phonex
