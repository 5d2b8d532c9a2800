import PhoneticSearch.Proofs.Regex.Room
import PhoneticSearch.Proofs.Sequence.Translation

/-!
# The room for sequence patterns

The bytes that the items of a sequence pattern take are a sum over the items (`room`), and not more
than 80 for each character that the pattern is written with.  The expression that is searched for
takes more than the one that whole texts are compared with, so a pattern is compiled if and only if
there is room for the former (`compile_eq`).
-/

namespace PhoneticSearch.Sequence

open Regex (Pattern Flat)

namespace Item

/-- The bytes that a repetition takes beside what is repeated. -/
def repetitionRoom : Option Quantifier → Nat
  | none => 0
  | some .optional => 72
  | some .many => 40
  | some .some => 40

/-- The bytes that an item takes: a state for a single letter, and one state of two for a class of
letters, with a range for each run of them. -/
def room (item : Item) : Nat :=
  (if item.symbols.length = 1 then 32 else 56 + 8 * item.symbols.length) +
    repetitionRoom item.quantifier

end Item

/-- The bytes that items take one behind the other. -/
def room (items : List Item) : Nat := (items.map Item.room).sum

/-! ### Items -/

section Letters

variable {letters : List Char} {item : Item}

theorem flat_letters (h : letters ∈ alphabet) : Flat (.ofSet (letterSet letters)) := by
  have hascii := ascii_of_mem_alphabet h
  revert hascii
  refine alphabet_cases h (fun c _ hascii => ?_) (fun _ => ?_) fun _ => ?_
  · rw [ofSet_letterSet_singleton]
    exact .literal hascii
  · rw [letterSet_stressed]
    exact .set rfl
  · rw [letterSet_any]
    exact .set rfl

theorem loops_letters (h : letters ∈ alphabet) : (Pattern.ofSet (letterSet letters)).loops = 0 := by
  rcases ofSet_letterSet_cases h with ⟨c, -, hpattern⟩ | ⟨-, hpattern⟩
  · rw [hpattern]
    rfl
  · rw [hpattern]
    rfl

theorem bytes_letters (h : letters ∈ alphabet) : (Pattern.ofSet (letterSet letters)).bytes =
    if letters.length = 1 then 32 else 56 + 8 * letters.length := by
  refine alphabet_cases h (fun c _ => ?_) ?_ ?_
  · rw [ofSet_letterSet_singleton]
    rfl
  · rw [letterSet_stressed]
    rfl
  · rw [letterSet_any]
    rfl

theorem takesSomething_letters (h : letters ∈ alphabet) :
    (Pattern.ofSet (letterSet letters)).takesSomething = true := by
  rcases ofSet_letterSet_cases h with ⟨c, -, hpattern⟩ | ⟨hempty, hpattern⟩
  · rw [hpattern, Pattern.takesSomething, Pattern.leastLength]
    rfl
  · rw [hpattern, Pattern.takesSomething, Pattern.leastLength, hempty]
    rfl

theorem isAnchored_letters (d : Regex.Direction) (h : letters ∈ alphabet) :
    (Pattern.ofSet (letterSet letters)).isAnchored d = false := by
  rcases ofSet_letterSet_cases h with ⟨c, -, hpattern⟩ | ⟨-, hpattern⟩
  · rw [hpattern]
    cases d <;> rfl
  · rw [hpattern]
    cases d <;> rfl

theorem Item.flat_pattern (h : item.symbols ∈ alphabet) : Flat item.pattern := by
  obtain ⟨letters, q⟩ := item
  have hflat := flat_letters h
  have hloops := loops_letters h
  cases q with
  | none => exact hflat
  | some q =>
    cases q with
    | optional => exact .optional hflat hloops
    | many => exact .many hflat hloops (takesSomething_letters h)
    | some => exact .some hflat hloops

theorem Item.isAnchored_pattern (d : Regex.Direction) (h : item.symbols ∈ alphabet) :
    item.pattern.isAnchored d = false := by
  obtain ⟨letters, q⟩ := item
  cases q with
  | none => exact isAnchored_letters d h
  | some q =>
    rw [Item.pattern, Pattern.isAnchored, isAnchored_letters d h, Bool.and_false]

theorem Item.room_pattern (h : item.symbols ∈ alphabet) :
    item.pattern.bytes + 4 * item.pattern.loops = item.room := by
  obtain ⟨letters, q⟩ := item
  have hbytes := bytes_letters h
  cases q with
  | none => rw [Item.pattern, hbytes, loops_letters h]; rfl
  | some q =>
    cases q <;> simp only [Item.pattern, Quantifier.greatest, Pattern.bytes, Pattern.loops, hbytes,
      Item.room, Item.repetitionRoom]

end Letters

/-! ### Patterns -/

section Patterns

variable {kind : Kind} {expression : Text} {items : List Item}

theorem Written.room_le (h : Written kind expression items) :
    room items ≤ 80 * expression.length := by
  have hletters : ∀ letters ∈ alphabet,
      (if letters.length = 1 then 32 else 56 + 8 * letters.length) ≤ 80 := by decide
  induction h with
  | nil => exact Nat.zero_le _
  | once hc _ ih =>
    have hroom := hletters _ (mem_alphabet hc)
    simp only [room, List.map_cons, List.sum_cons, List.length_cons, Item.room,
      Item.repetitionRoom] at ih ⊢
    omega
  | @quantified _ _ _ q _ _ hc _ _ ih =>
    have hroom := hletters _ (mem_alphabet hc)
    have hrepetition : Item.repetitionRoom (some q) ≤ 80 := by cases q <;> decide
    simp only [room, List.map_cons, List.sum_cons, List.length_cons, Item.room] at ih ⊢
    omega

theorem flatMap_items_pattern (h : ∀ item ∈ items, item.symbols ∈ alphabet) :
    (items.map Item.pattern).flatMap Pattern.items = items.map Item.pattern := by
  induction items with
  | nil => rfl
  | cons item items ih =>
    obtain ⟨hitem, hitems⟩ := List.forall_mem_cons.mp h
    rw [List.map_cons, List.flatMap_cons, Item.items_pattern hitem, ih hitems]
    rfl

theorem flat_patterns (h : ∀ item ∈ items, item.symbols ∈ alphabet) :
    ∀ p ∈ (items.map Item.pattern).flatMap Pattern.items, Flat p := by
  rw [flatMap_items_pattern h]
  intro p hp
  obtain ⟨item, hitem, rfl⟩ := List.mem_map.mp hp
  exact Item.flat_pattern (h item hitem)

theorem room_patterns (h : ∀ item ∈ items, item.symbols ∈ alphabet) :
    Pattern.room (items.map Item.pattern) = room items := by
  rw [Pattern.room, List.map_map, room]
  exact congrArg List.sum (List.map_congr_left fun item hitem => Item.room_pattern (h item hitem))

theorem fits_searchPattern (hne : items ≠ []) (h : ∀ item ∈ items, item.symbols ∈ alphabet) :
    (searchPattern items).fits ↔ 208 + room items ≤ Regex.Footprint.bound := by
  have hitems := flatMap_items_pattern h
  have hanchored : ∀ d, (Pattern.sequence
      ((items.map Item.pattern).flatMap Pattern.items)).isAnchored d = false := by
    intro d
    refine Regex.isAnchored_sequence_of_not d fun p hp => ?_
    rw [hitems] at hp
    obtain ⟨item, hitem, rfl⟩ := List.mem_map.mp hp
    exact Item.isAnchored_pattern d (h item hitem)
  have hne' : (items.map Item.pattern).flatMap Pattern.items ≠ [] := by
    rw [hitems]
    exact mt List.map_eq_nil_iff.mp hne
  rw [searchPattern, Regex.fits_join hne' (flat_patterns h) false hanchored, hitems,
    room_patterns h, Regex.skipping]
  omega

theorem fits_wholePattern (h : ∀ item ∈ items, item.symbols ∈ alphabet) :
    (wholePattern items).fits ↔ 192 + room items ≤ Regex.Footprint.bound := by
  have hsearch : Pattern.room (searchPattern items).items = room items := by
    rw [searchPattern, Regex.room_items_join (flat_patterns h), flatMap_items_pattern h,
      room_patterns h]
  have hflat := Regex.flat_items_join (flat_patterns h)
  have hparts : [.place .startText, searchPattern items, .place .endText].flatMap Pattern.items =
      .place .startText :: ((searchPattern items).items ++ [.place .endText]) := rfl
  have hne : [.place .startText, searchPattern items, .place .endText].flatMap Pattern.items ≠ [] :=
    by rw [hparts]; exact List.cons_ne_nil _ _
  have hall : ∀ p ∈ [.place .startText, searchPattern items, .place .endText].flatMap Pattern.items,
      Flat p := by
    rw [hparts]
    refine List.forall_mem_cons.mpr ⟨.place _, List.forall_mem_append.mpr ⟨hflat, ?_⟩⟩
    exact List.forall_mem_singleton.mpr (.place _)
  have hanchored : ∀ d, (Pattern.sequence ([.place .startText, searchPattern items,
      .place .endText].flatMap Pattern.items)).isAnchored d = true := by
    intro d
    rw [hparts]
    cases d with
    | forward => rw [Pattern.isAnchored, Pattern.firstAnchored, Pattern.isAnchored]; rfl
    | backward =>
      rw [Pattern.isAnchored, ← List.cons_append]
      exact Regex.lastAnchored_append .backward _ rfl
  rw [wholePattern, Regex.fits_join hne hall true hanchored, hparts, Regex.room_cons,
    Regex.room_append, hsearch, Regex.skipping]
  simp only [Regex.room_cons, Regex.room_nil, Pattern.bytes, Pattern.loops]
  omega

/-- **Compiling a sequence pattern.**  What is read is compiled, unless there is no room for it. -/
theorem compile_eq (h : read kind expression = .ok items) :
    compile kind expression = if 208 + room items ≤ Regex.Footprint.bound then .ok items
      else .error ⟨none, .refused .tooLarge⟩ := by
  obtain ⟨hne, hwritten⟩ := read_iff.mp h
  have hsymbols := hwritten.symbols_mem
  have hfits : ((searchPattern items).fits ∧ (wholePattern items).fits) ↔
      208 + room items ≤ Regex.Footprint.bound := by
    rw [fits_searchPattern (hwritten.ne_nil hne) hsymbols, fits_wholePattern hsymbols]
    omega
  rw [compile, h, compile_translation hwritten]
  by_cases hroom : 208 + room items ≤ Regex.Footprint.bound
  · rw [if_pos (hfits.mpr hroom), if_pos hroom]
    rfl
  · rw [if_neg (mt hfits.mp hroom), if_neg hroom]
    rfl

end Patterns

end PhoneticSearch.Sequence
