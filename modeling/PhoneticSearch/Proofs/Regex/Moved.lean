import PhoneticSearch.Pattern.Regex.Footprint
import PhoneticSearch.Pattern.Regex.Meaning
import PhoneticSearch.Pattern.Regex.Reader
import PhoneticSearch.Proofs.Regex.Takes

/-!
# Expressions farther behind

An expression keeps the offsets of its parts, and a pattern those of its groups.  What is read
behind some other text has all of them moved by the length of that text (`Expression.moved`).  It
is nested as deeply as before, and means the same pattern, moved as well
(`Expression.meaning_moved`), which takes the same stretches of a text and the same room.
-/

namespace PhoneticSearch.Regex

/-! ### Moving -/

mutual

/-- An item of a class farther behind. -/
def ClassItem.moved (k : Nat) : ClassItem → ClassItem
  | .literal c => .literal c
  | .range first last => .range first last
  | .ascii negated name => .ascii negated name
  | .escape negated kind => .escape negated kind
  | .property negated name => .property negated name
  | .bracketed offset negated set => .bracketed (offset + k) negated (set.moved k)
  | .union offset items => .union (offset + k) (movedItems k items)

@[inherit_doc ClassItem.moved] def movedItems (k : Nat) : List ClassItem → List ClassItem
  | [] => []
  | item :: rest => item.moved k :: movedItems k rest

/-- The set of a class farther behind. -/
def ClassSet.moved (k : Nat) : ClassSet → ClassSet
  | .item item => .item (item.moved k)
  | .operation offset op left right => .operation (offset + k) op (left.moved k) (right.moved k)

end

mutual

/-- An expression farther behind. -/
def Expression.moved (k : Nat) : Expression → Expression
  | .empty => .empty
  | .flags changes => .flags changes
  | .literal c => .literal c
  | .dot => .dot
  | .assertion a => .assertion a
  | .escape negated kind => .escape negated kind
  | .property negated name => .property negated name
  | .bracketed offset negated set => .bracketed (offset + k) negated (set.moved k)
  | .repetition offset least greatest greedy body =>
    .repetition (offset + k) least greatest greedy (body.moved k)
  | .group offset captured changes body => .group (offset + k) captured changes (body.moved k)
  | .alternation offset branches => .alternation (offset + k) (movedPieces k branches)
  | .concat offset items => .concat (offset + k) (movedPieces k items)

@[inherit_doc Expression.moved] def movedPieces (k : Nat) : List Expression → List Expression
  | [] => []
  | e :: rest => e.moved k :: movedPieces k rest

end

mutual

/-- A pattern whose groups start farther behind. -/
def Pattern.moved (k : Nat) : Pattern → Pattern
  | .empty => .empty
  | .literal t => .literal t
  | .set s => .set s
  | .place p => .place p
  | .group offset body => .group (offset + k) (body.moved k)
  | .sequence items => .sequence (movedPatterns k items)
  | .choice branches => .choice (movedPatterns k branches)
  | .repeated body least greatest greedy => .repeated (body.moved k) least greatest greedy

@[inherit_doc Pattern.moved] def movedPatterns (k : Nat) : List Pattern → List Pattern
  | [] => []
  | p :: rest => p.moved k :: movedPatterns k rest

end

variable (k : Nat)

theorem movedItems_eq_map (items : List ClassItem) :
    movedItems k items = items.map (ClassItem.moved k) := by
  induction items with
  | nil => rfl
  | cons item rest ih => rw [movedItems, ih, List.map_cons]

theorem movedPieces_eq_map (es : List Expression) :
    movedPieces k es = es.map (Expression.moved k) := by
  induction es with
  | nil => rfl
  | cons e rest ih => rw [movedPieces, ih, List.map_cons]

theorem movedPatterns_eq_map (ps : List Pattern) :
    movedPatterns k ps = ps.map (Pattern.moved k) := by
  induction ps with
  | nil => rfl
  | cons p rest ih => rw [movedPatterns, ih, List.map_cons]

/-! ### Depth -/

mutual

theorem ClassItem.tooDeep_moved : ∀ (item : ClassItem) (depth : Nat),
    (item.moved k).tooDeep depth = (item.tooDeep depth).map (· + k)
  | .literal _, _ | .range _ _, _ | .ascii _ _, _ | .escape _ _, _ | .property _ _, _ => by
    simp only [ClassItem.moved, ClassItem.tooDeep, Option.map_none]
  | .bracketed _ _ set, depth => by
    simp only [ClassItem.moved, ClassItem.tooDeep, ClassSet.tooDeep_moved set]
    split <;> rfl
  | .union _ [], depth => by
    simp only [ClassItem.moved, movedItems, ClassItem.tooDeep, Option.map_none]
  | .union _ (item :: rest), depth => by
    have hrest := itemsTooDeep_moved (item :: rest)
    rw [movedItems] at hrest
    simp only [ClassItem.moved, movedItems, ClassItem.tooDeep, hrest]
    split <;> rfl

theorem itemsTooDeep_moved : ∀ (items : List ClassItem) (depth : Nat),
    itemsTooDeep depth (movedItems k items) = (itemsTooDeep depth items).map (· + k)
  | [], _ => by simp only [movedItems, itemsTooDeep, Option.map_none]
  | item :: rest, depth => by
    rw [movedItems, itemsTooDeep, itemsTooDeep, ClassItem.tooDeep_moved item,
      itemsTooDeep_moved rest]
    cases item.tooDeep depth <;> rfl

theorem ClassSet.tooDeep_moved : ∀ (set : ClassSet) (depth : Nat),
    (set.moved k).tooDeep depth = (set.tooDeep depth).map (· + k)
  | .item item, depth => by
    rw [ClassSet.moved, ClassSet.tooDeep, ClassSet.tooDeep, ClassItem.tooDeep_moved item]
  | .operation _ _ left right, depth => by
    simp only [ClassSet.moved, ClassSet.tooDeep, ClassSet.tooDeep_moved left,
      ClassSet.tooDeep_moved right]
    split
    · rfl
    · cases left.tooDeep (depth + 1) <;> rfl

end

mutual

theorem Expression.tooDeep_moved : ∀ (e : Expression) (depth : Nat),
    (e.moved k).tooDeep depth = (e.tooDeep depth).map (· + k)
  | .empty, _ | .flags _, _ | .literal _, _ | .dot, _ | .assertion _, _ | .escape _ _, _
  | .property _ _, _ => by
    simp only [Expression.moved, Expression.tooDeep, Option.map_none]
  | .bracketed _ _ set, depth => by
    simp only [Expression.moved, Expression.tooDeep, ClassSet.tooDeep_moved]
    split <;> rfl
  | .repetition _ _ _ _ body, depth => by
    simp only [Expression.moved, Expression.tooDeep, Expression.tooDeep_moved body]
    split <;> rfl
  | .group _ _ _ body, depth => by
    simp only [Expression.moved, Expression.tooDeep, Expression.tooDeep_moved body]
    split <;> rfl
  | .alternation _ branches, depth => by
    simp only [Expression.moved, Expression.tooDeep, piecesTooDeep_moved branches]
    split <;> rfl
  | .concat _ items, depth => by
    simp only [Expression.moved, Expression.tooDeep, piecesTooDeep_moved items]
    split <;> rfl

theorem piecesTooDeep_moved : ∀ (es : List Expression) (depth : Nat),
    piecesTooDeep depth (movedPieces k es) = (piecesTooDeep depth es).map (· + k)
  | [], _ => by simp only [movedPieces, piecesTooDeep, Option.map_none]
  | e :: rest, depth => by
    rw [movedPieces, piecesTooDeep, piecesTooDeep, Expression.tooDeep_moved e,
      piecesTooDeep_moved rest]
    cases e.tooDeep depth <;> rfl

end

/-! ### Patterns -/

namespace Pattern

mutual

theorem same_moved : ∀ p q : Pattern, same (p.moved k) (q.moved k) = same p q
  | .empty, q | .literal _, q | .set _, q | .place _, q => by
    cases q <;> simp only [moved, same]
  | .group m p, q => by
    cases q with
    | group n q =>
      simp only [moved, same, same_moved p q]
      rw [Bool.eq_iff_iff]
      simp only [Bool.and_eq_true, beq_iff_eq, Nat.add_right_cancel_iff]
    | _ => simp only [moved, same]
  | .sequence ps, q => by
    cases q with
    | sequence qs => simp only [moved, same, sameItems_moved ps qs]
    | _ => simp only [moved, same]
  | .choice ps, q => by
    cases q with
    | choice qs => simp only [moved, same, sameItems_moved ps qs]
    | _ => simp only [moved, same]
  | .repeated p _ _ _, q => by
    cases q with
    | repeated q _ _ _ => simp only [moved, same, same_moved p q]
    | _ => simp only [moved, same]

theorem sameItems_moved : ∀ ps qs : List Pattern,
    sameItems (movedPatterns k ps) (movedPatterns k qs) = sameItems ps qs
  | [], [] | [], _ :: _ | _ :: _, [] => by simp only [movedPatterns, sameItems]
  | p :: ps, q :: qs => by
    simp only [movedPatterns, sameItems, same_moved p q, sameItems_moved ps qs]

end

mutual

theorem leastLength_moved : ∀ p : Pattern, (p.moved k).leastLength = p.leastLength
  | .empty | .literal _ | .set _ | .place _ => by simp only [moved]
  | .group _ body => by simp only [moved, leastLength, leastLength_moved body]
  | .sequence items => by simp only [moved, leastLength, totalLength_moved items]
  | .choice branches => by simp only [moved, leastLength, shortestLength_moved branches]
  | .repeated body _ _ _ => by simp only [moved, leastLength, leastLength_moved body]

theorem totalLength_moved : ∀ ps : List Pattern,
    totalLength (movedPatterns k ps) = totalLength ps
  | [] => by simp only [movedPatterns]
  | p :: rest => by
    simp only [movedPatterns, totalLength, leastLength_moved p, totalLength_moved rest]

theorem shortestLength_moved : ∀ ps : List Pattern,
    shortestLength (movedPatterns k ps) = shortestLength ps
  | [] => by simp only [movedPatterns]
  | [p] => by simp only [movedPatterns, shortestLength, leastLength_moved p]
  | p :: q :: rest => by
    have hrest := shortestLength_moved (q :: rest)
    rw [movedPatterns] at hrest
    simp only [movedPatterns, shortestLength, leastLength_moved p, hrest]

end

theorem takesSomething_moved (p : Pattern) : (p.moved k).takesSomething = p.takesSomething := by
  rw [takesSomething, leastLength_moved, takesSomething]

mutual

theorem takesNothing_moved : ∀ p : Pattern, (p.moved k).takesNothing = p.takesNothing
  | .empty | .literal _ | .set _ | .place _ => by simp only [moved]
  | .group _ body => by simp only [moved, takesNothing, takesNothing_moved body]
  | .sequence items => by simp only [moved, takesNothing, allTakeNothing_moved items]
  | .choice branches => by simp only [moved, takesNothing, allTakeNothing_moved branches]
  | .repeated body _ _ _ => by simp only [moved, takesNothing, takesNothing_moved body]

theorem allTakeNothing_moved : ∀ ps : List Pattern,
    allTakeNothing (movedPatterns k ps) = allTakeNothing ps
  | [] => by simp only [movedPatterns]
  | p :: rest => by
    simp only [movedPatterns, allTakeNothing, takesNothing_moved p, allTakeNothing_moved rest]

end

theorem moved_ofSet (s : CharSet) : (ofSet s).moved k = ofSet s := by
  unfold ofSet
  split <;> rfl

theorem items_moved (p : Pattern) : (p.moved k).items = p.items.map (moved k) := by
  cases p <;> simp only [moved, items, movedPatterns_eq_map, List.map_cons, List.map_nil]

theorem branches_moved (p : Pattern) : (p.moved k).branches = p.branches.map (moved k) := by
  cases p <;> simp only [moved, branches, movedPatterns_eq_map, List.map_cons, List.map_nil]

theorem flatMap_moved {f : Pattern → List Pattern}
    (hf : ∀ p, f (p.moved k) = (f p).map (moved k)) (ps : List Pattern) :
    (ps.map (moved k)).flatMap f = (ps.flatMap f).map (moved k) := by
  rw [List.flatMap_map, List.map_flatMap]
  simp only [hf]

theorem followedBy_moved (p : Pattern) (ps : List Pattern) :
    (p.moved k).followedBy (ps.map (moved k)) = (p.followedBy ps).map (moved k) := by
  cases ps with
  | nil => cases p <;> rfl
  | cons q ps => cases p <;> cases q <;> simp only [moved, followedBy, List.map_cons]

theorem foldr_followedBy_moved (ps : List Pattern) :
    (ps.map (moved k)).foldr followedBy [] = (ps.foldr followedBy []).map (moved k) := by
  induction ps with
  | nil => rfl
  | cons p ps ih => rw [List.map_cons, List.foldr_cons, ih, followedBy_moved, List.foldr_cons]

theorem join_moved (ps : List Pattern) : join (ps.map (moved k)) = (join ps).moved k := by
  rw [join, flatMap_moved k (items_moved k), foldr_followedBy_moved, join]
  match (ps.flatMap items).foldr followedBy [] with
  | [] => rfl
  | [p] => rfl
  | p :: q :: ps => simp only [List.map_cons, moved, movedPatterns, movedPatterns_eq_map]

theorem mapM_moved {α : Type} {f : Pattern → Option α} (hf : ∀ p, f (p.moved k) = f p)
    (ps : List Pattern) : (ps.map (moved k)).mapM f = ps.mapM f := by
  induction ps with
  | nil => rfl
  | cons p ps ih => rw [List.map_cons, List.mapM_cons, List.mapM_cons, hf, ih]

theorem char?_moved (p : Pattern) : (p.moved k).char? = p.char? := by
  cases p <;> rfl

theorem set?_moved (p : Pattern) : (p.moved k).set? = p.set? := by
  cases p <;> rfl

theorem sequence?_moved (p : Pattern) :
    (p.moved k).sequence? = p.sequence?.map (List.map (moved k)) := by
  cases p <;> simp only [moved, sequence?, movedPatterns_eq_map, Option.map_none, Option.map_some]

theorem mapM_sequence?_moved (ps : List Pattern) : (ps.map (moved k)).mapM sequence? =
    (ps.mapM sequence?).map (List.map (List.map (moved k))) := by
  induction ps with
  | nil => rfl
  | cons p ps ih =>
    rw [List.map_cons, List.mapM_cons, List.mapM_cons, sequence?_moved, ih]
    cases p.sequence? with
    | none => rfl
    | some items => cases ps.mapM sequence? <;> rfl

theorem collapse?_moved (ps : List Pattern) :
    collapse? (ps.map (moved k)) = (collapse? ps).map (moved k) := by
  by_cases hone : ∃ p, ps = [p]
  · obtain ⟨p, rfl⟩ := hone
    rfl
  · have hone' : ∀ p, ps.map (moved k) ≠ [p] := by
      intro p hp
      obtain ⟨p', hp', -⟩ := List.map_eq_singleton_iff.mp hp
      exact hone ⟨p', hp'⟩
    rw [collapse?.eq_2 _ hone', collapse?.eq_2 _ fun p hp => hone ⟨p, hp⟩,
      mapM_moved k (char?_moved k), mapM_moved k (set?_moved k)]
    cases ps.mapM char? with
    | some cs => exact congrArg some (moved_ofSet k _).symm
    | none => cases ps.mapM set? with
      | some sets => exact congrArg some (moved_ofSet k _).symm
      | none => rfl

theorem commonLength_moved : ∀ ps qs : List Pattern,
    commonLength (ps.map (moved k)) (qs.map (moved k)) = commonLength ps qs
  | [], _ => by simp only [List.map_nil, commonLength]
  | _ :: _, [] => by simp only [List.map_nil, List.map_cons, commonLength]
  | p :: ps, q :: qs => by
    simp only [List.map_cons, commonLength, same_moved, commonLength_moved ps qs]

theorem commonFront?_moved (ps : List Pattern) : commonFront? (ps.map (moved k)) =
    (commonFront? ps).map fun (front, tails) =>
      (front.map (moved k), tails.map (List.map (moved k))) := by
  rw [commonFront?, mapM_sequence?_moved, commonFront?]
  match ps.mapM sequence? with
  | none => rfl
  | some [] => rfl
  | some (first :: others) =>
    simp only [Option.map_some, List.map_cons, List.foldl_map, commonLength_moved, List.length_map]
    split
    · rfl
    · simp only [Option.map_some, List.map_take, List.map_drop, List.map_cons, List.map_map,
        Function.comp_def]

theorem oneOf_moved (ps : List Pattern) : oneOf (ps.map (moved k)) = (oneOf ps).moved k := by
  rw [oneOf, flatMap_moved k (branches_moved k), collapse?_moved, commonFront?_moved, oneOf]
  cases collapse? (ps.flatMap branches) with
  | some p => rfl
  | none =>
    cases commonFront? (ps.flatMap branches) with
    | none => simp only [Option.map_none, moved, movedPatterns_eq_map]
    | some parts =>
      obtain ⟨front, tails⟩ := parts
      have hjoin : (tails.map (List.map (moved k))).map join = (tails.map join).map (moved k) := by
        simp only [List.map_map, Function.comp_def, join_moved]
      simp only [Option.map_some, Option.map_none, hjoin, flatMap_moved k (branches_moved k),
        collapse?_moved, ← join_moved, List.map_append, List.map_cons, List.map_nil]
      cases collapse? ((tails.map join).flatMap branches) with
      | some p => rfl
      | none => simp only [Option.map_none, Option.getD_none, moved, movedPatterns_eq_map]

theorem times_moved (body : Pattern) (least : Nat) (greatest : Option Nat) (greedy : Bool) :
    (body.moved k).times least greatest greedy = (body.times least greatest greedy).moved k := by
  simp only [times, takesNothing_moved, apply_ite (moved k), moved]

end Pattern

/-! ### Meaning -/

mutual

theorem ClassItem.set_moved (f : Flags) : ∀ item : ClassItem, (item.moved k).set f = item.set f
  | .literal _ | .range _ _ | .ascii _ _ | .escape _ _ | .property _ _ => by
    simp only [ClassItem.moved]
  | .bracketed _ _ set => by simp only [ClassItem.moved, ClassItem.set, ClassSet.set_moved f set]
  | .union _ items => by simp only [ClassItem.moved, ClassItem.set, unionSet_moved f items]

theorem unionSet_moved (f : Flags) : ∀ items : List ClassItem,
    unionSet f (movedItems k items) = unionSet f items
  | [] => by simp only [movedItems]
  | item :: rest => by
    simp only [movedItems, unionSet, ClassItem.set_moved f item, unionSet_moved f rest]

theorem ClassSet.set_moved (f : Flags) : ∀ set : ClassSet, (set.moved k).set f = set.set f
  | .item item => by simp only [ClassSet.moved, ClassSet.set, ClassItem.set_moved f item]
  | .operation _ _ left right => by
    simp only [ClassSet.moved, ClassSet.set, ClassSet.set_moved f left, ClassSet.set_moved f right]

end

/-- The pattern of a set has no groups. -/
theorem map_moved_ofSet (set : Except Fault CharSet) (f : Flags) :
    (do return (Pattern.ofSet (← set), f) : Except Fault (Pattern × Flags)).map
      (fun (p, f) => (p.moved k, f)) = do return (Pattern.ofSet (← set), f) := by
  cases set with
  | error fault => rfl
  | ok s => exact congrArg (fun p => Except.ok (p, f)) (Pattern.moved_ofSet k s)

mutual

/-- What is read farther behind means the same pattern, moved as well. -/
theorem Expression.meaning_moved : ∀ (e : Expression) (f : Flags),
    (e.moved k).meaning f = (e.meaning f).map fun (p, f) => (p.moved k, f)
  | .empty, f => rfl
  | .flags changes, f => rfl
  | .assertion a, f => rfl
  | .literal c, f => by
    simp only [Expression.moved, Expression.meaning, literalPattern]
    cases c.value f with
    | error fault => rfl
    | ok c =>
      show Except.ok _ = Except.ok _
      simp only [apply_ite (Pattern.moved k), Pattern.moved_ofSet, Pattern.moved]
  | .dot, f => by
    simp only [Expression.moved, Expression.meaning]
    split
    · simp only [Except.map, Pattern.moved_ofSet]
    · rfl
  | .escape negated kind, f => by
    simp only [Expression.moved, Expression.meaning, map_moved_ofSet]
  | .property negated name, f => by
    simp only [Expression.moved, Expression.meaning, map_moved_ofSet]
  | .bracketed _ negated set, f => by
    simp only [Expression.moved, Expression.meaning, ClassSet.set_moved]
    cases set.set f with
    | error fault => rfl
    | ok s => exact (map_moved_ofSet k (f.negate negated (f.close s)) f).symm
  | .repetition _ least greatest greedy body, f => by
    simp only [Expression.moved, Expression.meaning, Expression.meaning_moved body]
    cases body.meaning f with
    | error fault => rfl
    | ok meaning =>
      show Except.ok _ = Except.ok _
      rw [Pattern.times_moved]
  | .group offset captured changes body, f => by
    simp only [Expression.moved, Expression.meaning, Expression.meaning_moved body]
    cases body.meaning (f.change changes) with
    | error fault => rfl
    | ok meaning => cases captured <;> rfl
  | .alternation _ branches, f => by
    simp only [Expression.moved, Expression.meaning, meanings_moved branches]
    cases meanings f branches with
    | error fault => rfl
    | ok meaning =>
      show Except.ok _ = Except.ok _
      rw [Pattern.oneOf_moved]
  | .concat _ items, f => by
    simp only [Expression.moved, Expression.meaning, meanings_moved items]
    cases meanings f items with
    | error fault => rfl
    | ok meaning =>
      show Except.ok _ = Except.ok _
      rw [Pattern.join_moved]

theorem meanings_moved : ∀ (es : List Expression) (f : Flags),
    meanings f (movedPieces k es) =
      (meanings f es).map fun (ps, f) => (ps.map (Pattern.moved k), f)
  | [], f => rfl
  | e :: rest, f => by
    simp only [movedPieces, meanings, Expression.meaning_moved e]
    cases e.meaning f with
    | error fault => rfl
    | ok meaning =>
      obtain ⟨p, f⟩ := meaning
      show (meanings f (movedPieces k rest) >>= _) = _
      rw [meanings_moved rest]
      simp only [Except.map, bind, Except.bind]
      cases meanings f rest <;> rfl

end

/-! ### What is taken, and the room for it -/

mutual

theorem Pattern.takes_moved : ∀ p : Pattern, (p.moved k).Takes = p.Takes
  | .empty | .literal _ | .set _ | .place _ => by simp only [Pattern.moved]
  | .group _ body => by simp only [Pattern.moved, Pattern.Takes, Pattern.takes_moved body]
  | .sequence items => by simp only [Pattern.moved, Pattern.Takes, takesAll_moved items]
  | .choice branches => by simp only [Pattern.moved, Pattern.Takes, takesOne_moved branches]
  | .repeated body _ _ _ => by simp only [Pattern.moved, Pattern.Takes, Pattern.takes_moved body]

theorem takesAll_moved : ∀ ps : List Pattern, takesAll (movedPatterns k ps) = takesAll ps
  | [] => by simp only [movedPatterns]
  | p :: rest => by
    simp only [movedPatterns, takesAll, Pattern.takes_moved p, takesAll_moved rest]

theorem takesOne_moved : ∀ ps : List Pattern, takesOne (movedPatterns k ps) = takesOne ps
  | [] => by simp only [movedPatterns]
  | p :: rest => by
    simp only [movedPatterns, takesOne, Pattern.takes_moved p, takesOne_moved rest]

end

namespace Pattern

theorem text?_moved (p : Pattern) : (p.moved k).text? = p.text? := by
  cases p <;> rfl

variable (d : Direction)

mutual

theorem endsInFork_moved : ∀ p : Pattern, (p.moved k).endsInFork d = p.endsInFork d
  | .empty | .literal _ | .set _ | .place _ => by simp only [moved]
  | .group _ body => by simp only [moved, endsInFork, endsInFork_moved body]
  | .sequence items => by
    simp only [moved, endsInFork, lastEndsInFork_moved items, firstEndsInFork_moved items]
  | .choice branches => by simp only [moved, endsInFork]
  | .repeated body _ none _ => by simp only [moved, endsInFork, takesSomething_moved]
  | .repeated body _ (some _) _ => by simp only [moved, endsInFork, endsInFork_moved body]

theorem firstEndsInFork_moved : ∀ ps : List Pattern,
    firstEndsInFork d (movedPatterns k ps) = firstEndsInFork d ps
  | [] => by simp only [movedPatterns]
  | p :: _ => by simp only [movedPatterns, firstEndsInFork, endsInFork_moved p]

theorem lastEndsInFork_moved : ∀ ps : List Pattern,
    lastEndsInFork d (movedPatterns k ps) = lastEndsInFork d ps
  | [] => by simp only [movedPatterns]
  | [p] => by simp only [movedPatterns, lastEndsInFork, endsInFork_moved p]
  | _ :: q :: rest => by
    have hrest := lastEndsInFork_moved (q :: rest)
    rw [movedPatterns] at hrest
    simp only [movedPatterns, lastEndsInFork, hrest]

end

theorem forkEnds_moved (ps : List Pattern) :
    forkEnds d (ps.map (moved k)) = forkEnds d ps := by
  rw [forkEnds, List.countP_map, forkEnds]
  exact congrArg (List.countP · ps) (funext (endsInFork_moved k d))

theorem forkEnds_singleton_moved (p : Pattern) : forkEnds d [p.moved k] = forkEnds d [p] :=
  forkEnds_moved k d [p]

mutual

theorem addTo_moved : ∀ (p : Pattern), (p.moved k).addTo d = p.addTo d
  | .empty | .literal _ | .set _ | .place _ => by simp only [moved]
  | .group _ body => by
    funext f
    simp only [moved, addTo, addTo_moved body, forkEnds_singleton_moved]
  | .sequence items => by
    funext f
    simp only [moved, addTo, addSequence_moved items]
  | .choice branches => by
    funext f
    have hchoice := addChoice_moved branches
    rw [movedPatterns_eq_map] at hchoice
    simp only [moved, addTo, movedPatterns_eq_map, mapM_moved k (text?_moved k), hchoice,
      forkEnds_moved, List.length_map]
  | .repeated body least greatest _ => by
    funext f
    simp only [moved, addTo, addTo_moved body, forkEnds_singleton_moved, takesSomething_moved]

theorem addSequence_moved : ∀ (ps : List Pattern),
    addSequence d (movedPatterns k ps) = addSequence d ps
  | [] => by simp only [movedPatterns]
  | [p] => by
    funext f
    simp only [movedPatterns, addSequence, addTo_moved p]
  | p :: q :: rest => by
    funext f
    have hrest := addSequence_moved (q :: rest)
    rw [movedPatterns] at hrest
    simp only [movedPatterns, addSequence, addTo_moved p, hrest, forkEnds_singleton_moved,
      List.take_succ_cons, List.take_zero]

theorem addChoice_moved : ∀ (ps : List Pattern) (before : Nat),
    addChoice d before (movedPatterns k ps) = addChoice d before ps
  | [], _ => by simp only [movedPatterns]
  | p :: rest, before => by
    funext f
    simp only [movedPatterns, addChoice, addTo_moved p, addChoice_moved rest]

end

mutual

theorem isAnchored_moved : ∀ p : Pattern, (p.moved k).isAnchored d = p.isAnchored d
  | .empty | .literal _ | .set _ | .place _ => by simp only [moved]
  | .group _ body => by simp only [moved, isAnchored, isAnchored_moved body]
  | .sequence items => by
    simp only [moved, isAnchored, firstAnchored_moved items, lastAnchored_moved items]
  | .choice branches => by simp only [moved, isAnchored, allAnchored_moved branches]
  | .repeated body _ _ _ => by simp only [moved, isAnchored, isAnchored_moved body]

theorem firstAnchored_moved : ∀ ps : List Pattern,
    firstAnchored d (movedPatterns k ps) = firstAnchored d ps
  | [] => by simp only [movedPatterns]
  | p :: rest => by
    simp only [movedPatterns, firstAnchored, isAnchored_moved p, takesNothing_moved,
      firstAnchored_moved rest]

theorem lastAnchored_moved : ∀ ps : List Pattern,
    lastAnchored d (movedPatterns k ps) = lastAnchored d ps
  | [] => by simp only [movedPatterns]
  | p :: rest => by
    simp only [movedPatterns, lastAnchored, isAnchored_moved p, allTakeNothing_moved,
      lastAnchored_moved rest]

theorem allAnchored_moved : ∀ ps : List Pattern,
    allAnchored d (movedPatterns k ps) = allAnchored d ps
  | [] => by simp only [movedPatterns]
  | p :: rest => by
    simp only [movedPatterns, allAnchored, isAnchored_moved p, allAnchored_moved rest]

end

theorem fits_moved (p : Pattern) : (p.moved k).fits = p.fits := by
  simp only [fits, footprint, isAnchored_moved, addTo, addTo_moved, forkEnds_singleton_moved]

end Pattern

end PhoneticSearch.Regex
