import PhoneticSearch.Proofs.Phonex.Search

/-!
# The table makes no difference

The table of a matcher is empty at first and is filled entry by entry with what is found
without a table (`Table.Filled`).  Whatever a matcher is asked for at a node of its
expression, it answers from such a table what it would answer without one, and leaves
such a table, in which all that was known stays as it is (`Computes.filled`).  So the
answers do not depend on what has been asked before (`memory_transparent`).
-/

namespace PhoneticSearch.Phonex

open Relation

/-- Whether a table is filled, from the empty one, with what is found without a table. -/
def Table.Filled (root : Node) (elements : List Element) (table : Table) : Prop :=
  ReflTransGen (Table.Stores root elements) ∅ table

section Filled

variable {root : Node} {elements : List Element} {table : Table}

theorem Table.Filled.sound (h : Table.Filled root elements table) :
    Table.Sound root elements table :=
  ((Table.sound_empty root elements).stored h).1

/-- What is computed with a table that has been filled, and how the table is left. -/
theorem Computes.filled {α : Type} {x : StateM Table α} {a : α} (hx : Computes root elements x a)
    (h : Table.Filled root elements table) :
    (x.run table).1 = a ∧ Table.Filled root elements (x.run table).2 ∧
      ∀ (state : State) (ends : List Nat), table[state]? = some ends →
        (x.run table).2[state]? = some ends := by
  obtain ⟨ha, hstored⟩ := hx table h.sound
  exact ⟨ha, h.trans hstored, (h.sound.stored hstored).2⟩

end Filled

/-- Where repetitions end is where one more of them ends, and what is found there, without
any bound on the steps. -/
theorem Node.repeatedEnds_eq (elements : List Element) (node : Node) (q : Quantifier)
    (count position : Nat) :
    node.repeatedEnds elements q count position =
      repeatOnce (node.ends elements) q count position
        (node.repeatedEnds elements q (count + 1)) :=
  repeatEnds_eq (node.stepsOnward elements) (Nat.le_refl _)

/-- The table is transparent.  The tables of searches and of whole matches are filled from
the empty one with what is found without a table: the entry of alternatives lists their
ends, and that of a repetition the ends that each count of its class has there.  From every
table that has been filled in this way, each node of the expression finds the ends that it
has without a table, and no entry is replaced.  Searches and whole matches find what they
find without a table. -/
theorem memory_transparent (root : Node) (t : Transcription) :
    let elements := visibleElements t
    Table.Filled root elements ((spansTabled root elements).run ∅).2 ∧
    Table.Filled root elements ((root.endsTabled elements [] 0).run ∅).2 ∧
    (∀ table, Table.Filled root elements table →
      (∀ path position ends, table[(⟨path, none, position⟩ : State)]? = some ends →
        ∃ branches, root.locate? path = some (.alternatives branches) ∧
          ends = (Node.alternatives branches).ends elements position) ∧
      (∀ path k position ends, table[(⟨path, some k, position⟩ : State)]? = some ends →
        ∃ above node q, path = 0 :: above ∧ root.locate? above = some (.repeated node q) ∧
          (∃ count, countClass q count = k) ∧
          ∀ count, countClass q count = k →
            ends = node.repeatedEnds elements q count position) ∧
      (∀ path node, root.locate? path = some node → ∀ position,
        let (ends, later) := (node.endsTabled elements path position).run table
        ends = node.ends elements position ∧ Table.Filled root elements later ∧
          ∀ (state : State) (known : List Nat), table[state]? = some known →
            later[state]? = some known)) ∧
    (∀ node q count position, Node.repeatedEnds elements node q count position =
      repeatOnce (node.ends elements) q count position
        (node.repeatedEnds elements q (count + 1))) ∧
    find root t = (scan (root.ends elements) elements.length elements.length 0).map
      (hitOf t ((visible t).map (·.2))) ∧
    isWhole root t = (root.ends elements 0).contains elements.length := by
  intro elements
  have hempty : Table.Filled root elements ∅ := .refl
  refine ⟨((spansTabled_computes root elements).filled hempty).2.1,
    ((root.endsTabled_root elements 0).filled hempty).2.1, ?_,
    fun node => node.repeatedEnds_eq elements, find_eq root t, isWhole_eq root t⟩
  intro table hfilled
  refine ⟨?_, ?_, ?_⟩
  · intro path position ends hentry
    exact (hfilled.sound _ _ hentry).of_none
  · intro path k position ends hentry
    exact (hfilled.sound _ _ hentry).of_some
  · intro path node hpath position
    exact (Node.endsTabled_computes node hpath position).filled hfilled

end PhoneticSearch.Phonex
