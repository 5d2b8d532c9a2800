import Mathlib.Algebra.Ring.Nat
import Mathlib.Computability.Language
import PhoneticSearch.Proofs.Outcome
import PhoneticSearch.Proofs.Sequence.Search

/-!
# What a sequence pattern matches

A pattern is a row of symbols with at most one quantifier behind each (`Written`), and that is what
is read (`read_iff`).  Each item stands for a language over the letters, and the items together for
the product of these.  A pattern matches a whole transcription if and only if the spelling belongs
to that language (`isWhole_iff`).

A search is described by two relations.  `Greedy` says that the items in turn take letters at the
front of a text, each as many as it can subject to the rest matching; `Scans` goes through a text
from left to right and takes what the items take there.  The spans that are found are those of a
scan that are not empty (`exists_scan`).
-/

namespace PhoneticSearch.Sequence

open scoped Computability

/-! ### Written patterns -/

/-- The items that are written by a text: symbols of the alphabet, each with at most one quantifier
behind it. -/
inductive Written (kind : Kind) : Text → List Item → Prop
  | nil : Written kind [] []
  | once {c : Char} {letters : List Char} {rest : Text} {items : List Item} :
    kind.symbols? c = some letters → Written kind rest items →
    Written kind (c :: rest) (⟨letters, none⟩ :: items)
  | quantified {c d : Char} {letters : List Char} {q : Quantifier} {rest : Text}
    {items : List Item} :
    kind.symbols? c = some letters → Quantifier.ofChar? d = some q → Written kind rest items →
    Written kind (c :: d :: rest) (⟨letters, some q⟩ :: items)

section Reading

variable {kind : Kind} {rest : Text} {items : List Item}

/-- No character is both a quantifier and a symbol. -/
theorem symbols?_of_quantifier {d : Char} {q : Quantifier} (h : Quantifier.ofChar? d = some q) :
    kind.symbols? d = none := by
  unfold Quantifier.ofChar? at h
  split at h
  · cases kind <;> rfl
  · cases kind <;> rfl
  · cases kind <;> rfl
  · cases h

theorem not_written {d : Char} (hd : kind.symbols? d = none) : ¬ Written kind (d :: rest) items := by
  intro h
  cases h with
  | once hd' _ => rw [hd] at hd'; cases hd'
  | quantified hd' _ _ => rw [hd] at hd'; cases hd'

section Symbols

variable {c d : Char} {letters : List Char}

theorem written_symbol (hc : kind.symbols? c = some letters) :
    Written kind [c] items ↔ items = [⟨letters, none⟩] := by
  constructor
  · intro h
    cases h with
    | once hc' hrest =>
      cases hrest
      obtain rfl := Option.some.inj (hc.symm.trans hc')
      rfl
  · rintro rfl
    exact .once hc .nil

/-- A symbol that no quantifier follows is an item of its own. -/
theorem written_symbol_cons (hc : kind.symbols? c = some letters)
    (hd : Quantifier.ofChar? d = none) : Written kind (c :: d :: rest) items ↔
      ∃ more, Written kind (d :: rest) more ∧ ⟨letters, none⟩ :: more = items := by
  constructor
  · intro h
    cases h with
    | once hc' hrest =>
      obtain rfl := Option.some.inj (hc.symm.trans hc')
      exact ⟨_, hrest, rfl⟩
    | quantified _ hq _ =>
      rw [hd] at hq
      cases hq
  · rintro ⟨more, h, rfl⟩
    exact .once hc h

theorem written_quantified {q : Quantifier} (hc : kind.symbols? c = some letters)
    (hd : Quantifier.ofChar? d = some q) : Written kind (c :: d :: rest) items ↔
      ∃ more, Written kind rest more ∧ ⟨letters, some q⟩ :: more = items := by
  constructor
  · intro h
    cases h with
    | once _ hrest => exact absurd hrest (not_written (symbols?_of_quantifier hd))
    | quantified hc' hq hrest =>
      obtain rfl := Option.some.inj (hc.symm.trans hc')
      obtain rfl := Option.some.inj (hd.symm.trans hq)
      exact ⟨_, hrest, rfl⟩
  · rintro ⟨more, h, rfl⟩
    exact .quantified hc hd h

end Symbols

/-- What is read from a position on, also behind a symbol that a quantifier may follow. -/
theorem readFrom_iff : ∀ (rest : Text) (offset : Nat) (items : List Item),
    (readFrom kind offset none rest = .ok items ↔ Written kind rest items) ∧
      ∀ c letters, kind.symbols? c = some letters →
        (readFrom kind offset (some letters) rest = .ok items ↔ Written kind (c :: rest) items) := by
  intro rest
  induction rest with
  | nil =>
    intro offset items
    refine ⟨⟨fun h => ?_, fun h => ?_⟩, fun c letters hc => ?_⟩
    · cases h
      exact .nil
    · cases h
      rfl
    · rw [written_symbol hc, readFrom, Except.ok.injEq]
      exact eq_comm
  | cons d rest ih =>
    intro offset items
    cases hd : kind.symbols? d with
    | some next =>
      -- A symbol ends the item in front of it, and a quantifier may follow it in turn.
      have hnext := fun items => (ih (offset + 1) items).2 d next hd
      have hnone : Quantifier.ofChar? d = none := by
        by_contra hsome
        obtain ⟨q, hq⟩ := Option.ne_none_iff_exists'.mp hsome
        rw [symbols?_of_quantifier hq] at hd
        cases hd
      refine ⟨?_, fun c letters hc => ?_⟩
      · simp only [readFrom, hd, bind_eq_ok, hnext]
        exact ⟨fun ⟨_, h, heq⟩ => Except.ok.inj heq ▸ h, fun h => ⟨items, h, rfl⟩⟩
      · rw [written_symbol_cons hc hnone]
        simp only [readFrom, hd, bind_eq_ok, hnext, pure, Except.pure, Except.ok.injEq]
        rfl
    | none =>
      cases hq : Quantifier.ofChar? d with
      | none =>
        refine ⟨?_, fun c letters hc => ?_⟩
        · simp only [readFrom, hd, hq]
          exact iff_of_false (fun h => by cases h) (not_written hd)
        · rw [written_symbol_cons hc hq]
          simp only [readFrom, hd, hq]
          exact iff_of_false (fun h => by cases h) fun ⟨_, h, _⟩ => not_written hd h
      | some q =>
        have hbehind := fun items => (ih (offset + 1) items).1
        refine ⟨?_, fun c letters hc => ?_⟩
        · simp only [readFrom, hd, hq]
          exact iff_of_false (fun h => by cases h) (not_written hd)
        · rw [written_quantified hc hq]
          simp only [readFrom, hd, hq, bind_eq_ok, hbehind, pure, Except.pure, Except.ok.injEq]

/-- The texts that are read are those that write items. -/
theorem read_iff {expression : Text} :
    read kind expression = .ok items ↔ expression ≠ [] ∧ Written kind expression items := by
  rw [read]
  cases expression with
  | nil => simp
  | cons c rest =>
    rw [if_neg (by simp), (readFrom_iff _ 0 items).1]
    simp

end Reading

/-! ### Languages -/

namespace Item

/-- The texts of one letter that an item accepts. -/
def letters (item : Item) : Language Char := {u | ∃ c ∈ item.symbols, u = [c]}

/-- The texts that an item stands for: its letters, under its quantifier. -/
def language (item : Item) : Language Char :=
  match item.quantifier with
  | none => item.letters
  | some .optional => 1 + item.letters
  | some .some => item.letters * item.letters∗
  | some .many => item.letters∗

variable {item : Item} {u w : Text}

theorem mem_letters_kstar : u ∈ item.letters∗ ↔ ∀ c ∈ u, c ∈ item.symbols := by
  rw [Language.mem_kstar]
  constructor
  · rintro ⟨parts, rfl, hparts⟩ c hc
    obtain ⟨part, hpart, hc⟩ := List.mem_flatten.mp hc
    obtain ⟨d, hd, rfl⟩ := hparts part hpart
    exact List.mem_singleton.mp hc ▸ hd
  · intro hu
    refine ⟨u.map ([·]), (List.flatMap_singleton' u).symm, fun part hpart => ?_⟩
    obtain ⟨c, hc, rfl⟩ := List.mem_map.mp hpart
    exact ⟨c, hu c hc, rfl⟩

/-- An item stands for the texts of its letters with a length that its quantifier allows. -/
theorem mem_language : u ∈ item.language ↔ item.least ≤ u.length ∧
    (∀ n ∈ item.greatest, u.length ≤ n) ∧ ∀ c ∈ u, c ∈ item.symbols := by
  obtain ⟨symbols, q⟩ := item
  cases q with
  | none =>
    constructor
    · rintro ⟨c, hc, rfl⟩
      exact ⟨Nat.le_refl 1, fun n hn => Option.some.inj hn ▸ Nat.le_refl 1,
        List.forall_mem_singleton.mpr hc⟩
    · rintro ⟨hleast, hgreatest, hu⟩
      obtain ⟨c, rfl⟩ := List.length_eq_one_iff.mp (Nat.le_antisymm (hgreatest 1 rfl) hleast)
      exact ⟨c, hu c (List.mem_singleton_self c), rfl⟩
  | some q =>
    cases q with
    | optional =>
      constructor
      · rintro (rfl | ⟨c, hc, rfl⟩)
        · exact ⟨Nat.le_refl 0, fun n _ => Nat.zero_le n, fun _ h => by cases h⟩
        · exact ⟨Nat.zero_le 1, fun n hn => Option.some.inj hn ▸ Nat.le_refl 1,
            List.forall_mem_singleton.mpr hc⟩
      · rintro ⟨-, hgreatest, hu⟩
        cases u with
        | nil => exact .inl rfl
        | cons c u =>
          obtain rfl : u = [] := List.length_eq_zero_iff.mp
            (Nat.le_zero.mp (Nat.le_of_succ_le_succ (hgreatest 1 rfl)))
          exact .inr ⟨c, hu c (List.mem_singleton_self c), rfl⟩
    | many =>
      rw [show language ⟨symbols, some .many⟩ = (letters ⟨symbols, some .many⟩)∗ from rfl,
        mem_letters_kstar]
      exact ⟨fun hu => ⟨Nat.zero_le _, fun _ h => (by cases h), hu⟩, fun h => h.2.2⟩
    | some =>
      rw [show language ⟨symbols, some .some⟩ = letters ⟨symbols, some .some⟩ *
        (letters ⟨symbols, some .some⟩)∗ from rfl, Language.mem_mul]
      constructor
      · rintro ⟨first, ⟨c, hc, rfl⟩, more, hmore, rfl⟩
        exact ⟨Nat.succ_le_succ (Nat.zero_le _), fun _ h => (by cases h),
          List.forall_mem_cons.mpr ⟨hc, mem_letters_kstar.mp hmore⟩⟩
      · rintro ⟨hleast, -, hu⟩
        obtain ⟨c, u, rfl⟩ := List.exists_cons_of_length_pos hleast
        obtain ⟨hc, hu⟩ := List.forall_mem_cons.mp hu
        exact ⟨[c], ⟨c, hc, rfl⟩, u, mem_letters_kstar.mpr hu, rfl⟩

end Item

/-- The texts that items stand for one behind the other. -/
def language (items : List Item) : Language Char := (items.map Item.language).prod

@[simp] theorem mem_language_nil {u : Text} : u ∈ language [] ↔ u = [] := Iff.rfl

theorem mem_language_cons {item : Item} {items : List Item} {w : Text} :
    w ∈ language (item :: items) ↔
      ∃ n ≤ w.length, w.take n ∈ item.language ∧ w.drop n ∈ language items := by
  rw [language, List.map_cons, List.prod_cons, Language.mem_mul]
  constructor
  · rintro ⟨u, hu, v, hv, rfl⟩
    refine ⟨u.length, by simp, ?_, ?_⟩
    · rwa [List.take_left]
    · rwa [List.drop_left]
  · rintro ⟨n, -, hu, hv⟩
    exact ⟨_, hu, _, hv, List.take_append_drop n w⟩

/-! ### The preferred match -/

/-- Whether a text starts with one that items stand for. -/
def Starts (items : List Item) (w : Text) : Prop := ∃ n ≤ w.length, w.take n ∈ language items

/-- The numbers of letters that items take in turn at the front of a text, each as many as it can
subject to the rest matching. -/
inductive Greedy : List Item → Text → List Nat → Prop
  | nil (w : Text) : Greedy [] w []
  | cons {item : Item} {items : List Item} {w : Text} {n : Nat} {counts : List Nat} :
    n ≤ w.length → w.take n ∈ item.language → Greedy items (w.drop n) counts →
    (∀ m, n < m → m ≤ w.length → w.take m ∈ item.language → ¬ Starts items (w.drop m)) →
    Greedy (item :: items) w (n :: counts)

/-- The length of the preferred match at the front of a text that stops where `stops` holds. -/
def lengthAt (stops : Text → Bool) : List Item → Text → Option Nat
  | [], w => if stops w then some 0 else none
  | item :: items, w =>
    (item.counts w).findSome? fun n => (lengthAt stops items (w.drop n)).map (n + ·)

theorem length_suffixes (w : Text) : (suffixes w).length = w.length + 1 := by
  induction w with
  | nil => rfl
  | cons c w ih => rw [suffixes, List.length_cons, ih, List.length_cons]

theorem suffixes_getElem?_of_le : ∀ {w : Text} {i : Nat}, i ≤ w.length →
    (suffixes w)[i]? = some (w.drop i) := by
  intro w
  induction w with
  | nil =>
    intro i hi
    obtain rfl := Nat.le_zero.mp hi
    rfl
  | cons c w ih =>
    intro i hi
    cases i with
    | zero => rfl
    | succ i => exact ih (Nat.le_of_succ_le_succ hi)

theorem le_length_takeWhile {p : Char → Bool} : ∀ {w : Text} {n : Nat},
    n ≤ (w.takeWhile p).length ↔ n ≤ w.length ∧ ∀ c ∈ w.take n, p c = true := by
  intro w
  induction w with
  | nil => intro n; simp
  | cons c w ih =>
    intro n
    cases n with
    | zero => simp
    | succ n =>
      by_cases hc : p c = true
      · rw [List.takeWhile_cons_of_pos hc, List.length_cons, List.length_cons,
          Nat.succ_le_succ_iff, Nat.succ_le_succ_iff, ih, List.take_succ_cons,
          List.forall_mem_cons]
        simp [hc]
      · rw [List.takeWhile_cons_of_neg hc, List.take_succ_cons, List.forall_mem_cons]
        simp [hc]

section Counts

variable {item : Item} {items : List Item} {w : Text} {stops : Text → Bool} {n : Nat}

/-- The numbers of letters that an item may take are the lengths of the texts that it stands for at
the front. -/
theorem Item.mem_counts : n ∈ item.counts w ↔ n ≤ w.length ∧ w.take n ∈ item.language := by
  have hrun : n ≤ (w.takeWhile item.symbols.contains).length ↔
      n ≤ w.length ∧ ∀ c ∈ w.take n, c ∈ item.symbols := by
    simp only [le_length_takeWhile, List.contains_iff_mem]
  have hmost : n ≤ item.greatest.elim (w.takeWhile item.symbols.contains).length
      (min (w.takeWhile item.symbols.contains).length) ↔
      n ≤ (w.takeWhile item.symbols.contains).length ∧ ∀ g ∈ item.greatest, n ≤ g := by
    cases item.greatest with
    | none => simp
    | some g => simp
  rw [Item.counts, List.mem_reverse, List.mem_filter, List.mem_range, Nat.lt_succ_iff, hmost, hrun,
    decide_eq_true_eq, mem_language]
  constructor
  · rintro ⟨⟨⟨hle, hmem⟩, hgreatest⟩, hleast⟩
    rw [List.length_take_of_le hle]
    exact ⟨hle, hleast, hgreatest, hmem⟩
  · rintro ⟨hle, hleast, hgreatest, hmem⟩
    rw [List.length_take_of_le hle] at hleast hgreatest
    exact ⟨⟨⟨hle, hmem⟩, hgreatest⟩, hleast⟩

/-- The greatest of the numbers comes first. -/
theorem Item.counts_descending (item : Item) (w : Text) :
    (item.counts w).Pairwise fun a b => b < a :=
  List.pairwise_reverse.mpr (List.pairwise_lt_range.filter _)

/-- In a list with the greatest number first, what is found first is what belongs to the greatest
number that anything belongs to. -/
theorem findSome?_descending {f : Nat → Option Nat} {r : Nat} : ∀ {l : List Nat},
    (l.Pairwise fun a b => b < a) → (l.findSome? f = some r ↔
      ∃ n ∈ l, f n = some r ∧ ∀ m ∈ l, n < m → f m = none) := by
  intro l hl
  induction l with
  | nil => simp
  | cons a l ih =>
    obtain ⟨ha, hl⟩ := List.pairwise_cons.mp hl
    rw [List.findSome?_cons]
    cases hf : f a with
    | some b =>
      constructor
      · rintro ⟨⟩
        refine ⟨a, List.mem_cons_self, hf, List.forall_mem_cons.mpr ⟨fun h => ?_, fun m hm h => ?_⟩⟩
        · exact absurd h (Nat.lt_irrefl a)
        · exact absurd h (Nat.lt_asymm (ha m hm))
      · rintro ⟨n, hn, hfn, hnone⟩
        rcases List.mem_cons.mp hn with rfl | hn
        · exact hf.symm.trans hfn
        · have := hnone a List.mem_cons_self (ha n hn)
          rw [hf] at this
          cases this
    | none =>
      show l.findSome? f = some r ↔ _
      rw [ih hl]
      constructor
      · rintro ⟨n, hn, hfn, hnone⟩
        exact ⟨n, List.mem_cons_of_mem a hn, hfn, List.forall_mem_cons.mpr ⟨fun _ => hf, hnone⟩⟩
      · rintro ⟨n, hn, hfn, hnone⟩
        rcases List.mem_cons.mp hn with rfl | hn
        · rw [hf] at hfn
          cases hfn
        · exact ⟨n, hn, hfn, (List.forall_mem_cons.mp hnone).2⟩

/-- There is a match at the front of a text if and only if it starts with a text that the items
stand for, behind which it may stop. -/
theorem isSome_lengthAt : (lengthAt stops items w).isSome ↔
    ∃ n ≤ w.length, w.take n ∈ language items ∧ stops (w.drop n) = true := by
  induction items generalizing w with
  | nil =>
    rw [lengthAt]
    constructor
    · intro h
      refine ⟨0, Nat.zero_le _, rfl, ?_⟩
      by_contra hstops
      rw [List.drop_zero] at hstops
      rw [if_neg hstops] at h
      cases h
    · rintro ⟨n, -, hnil, hstops⟩
      have hw := List.take_append_drop n w
      rw [mem_language_nil.mp hnil, List.nil_append] at hw
      rw [hw] at hstops
      rw [if_pos hstops]
      rfl
  | cons item items ih =>
    rw [lengthAt, List.findSome?_isSome_iff]
    simp only [Option.isSome_map, ih, Item.mem_counts]
    constructor
    · rintro ⟨n, ⟨hn, hitem⟩, m, hm, hitems, hstops⟩
      rw [List.length_drop] at hm
      refine ⟨n + m, by omega, mem_language_cons.mpr ⟨n, ?_, ?_, ?_⟩, ?_⟩
      · rw [List.length_take]
        omega
      · rwa [List.take_take, Nat.min_eq_left (Nat.le_add_right n m)]
      · rwa [List.drop_take, Nat.add_sub_cancel_left]
      · rwa [← List.drop_drop]
    · rintro ⟨k, hk, hmem, hstops⟩
      obtain ⟨n, hn, hitem, hitems⟩ := mem_language_cons.mp hmem
      rw [List.length_take_of_le hk] at hn
      rw [List.take_take, Nat.min_eq_left hn] at hitem
      rw [List.drop_take] at hitems
      refine ⟨n, ⟨by omega, hitem⟩, k - n, by rw [List.length_drop]; omega, hitems, ?_⟩
      rwa [List.drop_drop, Nat.add_sub_cancel' hn]

/-- The items match at the front of a text if and only if it starts with a text of theirs. -/
theorem isSome_lengthAt_true : (lengthAt (fun _ => true) items w).isSome ↔ Starts items w := by
  rw [isSome_lengthAt]
  simp only [and_true, Starts]

/-- The preferred match takes as many letters as the items take in turn. -/
theorem lengthAt_eq_some : lengthAt (fun _ => true) items w = some n ↔
    ∃ counts, Greedy items w counts ∧ counts.sum = n := by
  induction items generalizing w n with
  | nil =>
    constructor
    · rintro ⟨⟩
      exact ⟨[], .nil w, rfl⟩
    · rintro ⟨counts, hgreedy, rfl⟩
      cases hgreedy
      rfl
  | cons item items ih =>
    have hnone : ∀ m, (lengthAt (fun _ => true) items (w.drop m)).map (m + ·) = none ↔
        ¬ Starts items (w.drop m) := by
      intro m
      rw [Option.map_eq_none_iff, ← isSome_lengthAt_true, Option.not_isSome_iff_eq_none]
    rw [lengthAt, findSome?_descending (item.counts_descending w)]
    simp only [Item.mem_counts, hnone, Option.map_eq_some_iff, ih]
    constructor
    · rintro ⟨k, ⟨hle, hitem⟩, ⟨_, ⟨counts, hgreedy, rfl⟩, rfl⟩, hmost⟩
      refine ⟨k :: counts, .cons hle hitem hgreedy fun m hlt hle' hitem' => ?_, List.sum_cons⟩
      exact hmost m ⟨hle', hitem'⟩ hlt
    · rintro ⟨_, hgreedy, rfl⟩
      cases hgreedy with
      | cons hle hitem hgreedy hmost =>
        exact ⟨_, ⟨hle, hitem⟩, ⟨_, ⟨_, hgreedy, rfl⟩, List.sum_cons.symm⟩,
          fun m hm hlt => hmost m hlt hm.1 hm.2⟩

theorem findSome?_congr {α β : Type} {f g : α → Option β} : ∀ {l : List α},
    (∀ a ∈ l, f a = g a) → l.findSome? f = l.findSome? g := by
  intro l h
  induction l with
  | nil => rfl
  | cons a l ih =>
    obtain ⟨ha, hl⟩ := List.forall_mem_cons.mp h
    rw [List.findSome?_cons, List.findSome?_cons, ha, ih hl]

/-- At each position there is the preferred match of the letters from there on. -/
theorem lengths_getElem? (stops : Text → Bool) (w : Text) (items : List Item) (i : Nat) :
    (lengths stops w items)[i]? = if i ≤ w.length then some (lengthAt stops items (w.drop i))
      else none := by
  induction items generalizing i with
  | nil =>
    rw [lengths, List.getElem?_map]
    split
    · rename_i hi
      rw [suffixes_getElem?_of_le hi]
      rfl
    · rw [List.getElem?_eq_none (by rw [length_suffixes]; omega)]
      rfl
  | cons item items ih =>
    rw [lengths, List.getElem?_mapIdx]
    split
    · rename_i hi
      rw [suffixes_getElem?_of_le hi, Option.map_some, lengthAt]
      refine congrArg some (findSome?_congr fun n hn => ?_)
      have hle := (Item.mem_counts.mp hn).1
      rw [List.length_drop] at hle
      rw [List.getD_eq_getElem?_getD, ih, if_pos (by omega), Option.getD_some, List.drop_drop]
    · rw [List.getElem?_eq_none (by rw [length_suffixes]; omega)]
      rfl

end Counts

/-! ### Whole matches -/

theorem isWhole_eq (kind : Kind) (items : List Item) (t : Transcription) :
    isWhole kind items t = (lengthAt List.isEmpty items (spelling kind t)).isSome := by
  rw [isWhole, List.head?_eq_getElem?, lengths_getElem?, if_pos (Nat.zero_le _)]
  rfl

/-- **Whole matches.**  A pattern matches a whole transcription if and only if its spelling belongs
to the language of the pattern. -/
theorem isWhole_iff {kind : Kind} {items : List Item} {t : Transcription} :
    isWhole kind items t = true ↔ spelling kind t ∈ language items := by
  rw [isWhole_eq, isSome_lengthAt]
  constructor
  · rintro ⟨n, hn, hmem, hempty⟩
    rw [List.isEmpty_iff, List.drop_eq_nil_iff] at hempty
    rwa [List.take_of_length_le hempty] at hmem
  · intro hmem
    exact ⟨_, Nat.le_refl _, by rwa [List.take_length], by rw [List.drop_length]; rfl⟩

/-! ### Searches -/

/-- The matches of a scan through a text from a position on: where the text goes on with one that
the items stand for, what they take is a match, and the scan goes on behind it. -/
inductive Scans (items : List Item) (w : Text) : Nat → List Span → Prop
  | done {i : Nat} : w.length < i → Scans items w i []
  | skip {i : Nat} {spans : List Span} :
    i ≤ w.length → ¬ Starts items (w.drop i) → Scans items w (i + 1) spans →
    Scans items w i spans
  | take {i : Nat} {counts : List Nat} {spans : List Span} :
    i ≤ w.length → Greedy items (w.drop i) counts →
    Scans items w (i + max counts.sum 1) spans →
    Scans items w i (⟨i, i + counts.sum⟩ :: spans)

/-- What belongs to the match in front is passed over. -/
theorem scan_skip (position skip : Nat) (found : List (Option Nat)) :
    scan position skip found = scan (position + skip) 0 (found.drop skip) := by
  induction skip generalizing position found with
  | zero => rfl
  | succ skip ih =>
    cases found with
    | nil => cases skip <;> rfl
    | cons length rest =>
      rw [scan, ih, List.drop_succ_cons, Nat.add_right_comm, Nat.add_assoc]

/-- From a position on the spans that are found are the matches of a scan that are not empty. -/
theorem exists_scan_from (items : List Item) (w : Text) : ∀ (left i : Nat), w.length < i + left →
    ∃ spans, Scans items w i spans ∧
      scan i 0 ((lengths (fun _ => true) w items).drop i) = spans.filter (!·.isEmpty) := by
  intro left
  induction left with
  | zero =>
    intro i hleft
    rw [Nat.add_zero] at hleft
    have hlength : (lengths (fun _ => true) w items).length ≤ i := by
      rw [← List.getElem?_eq_none_iff, lengths_getElem?, if_neg (Nat.not_le_of_lt hleft)]
    rw [List.drop_eq_nil_of_le hlength]
    exact ⟨[], .done hleft, rfl⟩
  | succ left ih =>
    intro i hleft
    by_cases hi : i ≤ w.length
    · have hget := lengths_getElem? (fun _ => true) w items i
      rw [if_pos hi] at hget
      obtain ⟨hlt, hget⟩ := List.getElem?_eq_some_iff.mp hget
      rw [List.drop_eq_getElem_cons hlt, hget]
      cases hlength : lengthAt (fun _ => true) items (w.drop i) with
      | none =>
        obtain ⟨spans, hscans, hfound⟩ := ih (i + 1) (by omega)
        refine ⟨spans, .skip hi ?_ hscans, hfound⟩
        rw [← isSome_lengthAt_true, hlength]
        exact Bool.false_ne_true
      | some n =>
        obtain ⟨counts, hgreedy, rfl⟩ := lengthAt_eq_some.mp hlength
        obtain ⟨spans, hscans, hfound⟩ := ih (i + max counts.sum 1) (by omega)
        refine ⟨_, .take hi hgreedy hscans, ?_⟩
        cases hsum : counts.sum with
        | zero =>
          rw [hsum] at hfound
          rw [List.filter_cons_of_neg (by simp [Span.isEmpty]), ← hfound]
          rfl
        | succ n =>
          rw [hsum, Nat.max_eq_left (Nat.succ_le_succ (Nat.zero_le n))] at hfound
          rw [List.filter_cons_of_pos (by simp [Span.isEmpty]), ← hfound, scan, scan_skip,
            List.drop_drop, Nat.add_assoc i 1 n, Nat.add_comm 1 n]
          rfl
    · exact ih i (by omega)

/-- **Searches.**  The spans of symbols that are found are the matches of a scan through the
spelling that are not empty. -/
theorem exists_scan (kind : Kind) (items : List Item) (t : Transcription) :
    ∃ spans, Scans items (spelling kind t) 0 spans ∧
      foundSpans kind items t = spans.filter (!·.isEmpty) :=
  exists_scan_from items (spelling kind t) ((spelling kind t).length + 1) 0 (by omega)

theorem Greedy.lengthAt {items : List Item} {w : Text} {counts : List Nat}
    (h : Greedy items w counts) : lengthAt (fun _ => true) items w = some counts.sum :=
  lengthAt_eq_some.mpr ⟨counts, h, rfl⟩

/-- There is one scan through a text. -/
theorem Scans.unique {items : List Item} {w : Text} {i : Nat} {spans spans' : List Span}
    (h : Scans items w i spans) (h' : Scans items w i spans') : spans = spans' := by
  induction h generalizing spans' with
  | done hi =>
    cases h' with
    | done => rfl
    | skip hi' _ _ => exact absurd hi' (Nat.not_le_of_lt hi)
    | take hi' _ _ => exact absurd hi' (Nat.not_le_of_lt hi)
  | skip hi hstarts _ ih =>
    rw [← isSome_lengthAt_true] at hstarts
    cases h' with
    | done hi' => exact absurd hi (Nat.not_le_of_lt hi')
    | skip _ _ h' => exact ih h'
    | take _ hgreedy _ =>
      rw [hgreedy.lengthAt] at hstarts
      exact absurd rfl hstarts
  | take hi hgreedy _ ih =>
    cases h' with
    | done hi' => exact absurd hi (Nat.not_le_of_lt hi')
    | skip _ hstarts _ =>
      rw [← isSome_lengthAt_true, hgreedy.lengthAt] at hstarts
      exact absurd rfl hstarts
    | take _ hgreedy' h' =>
      have hsum := Option.some.inj (hgreedy.lengthAt.symm.trans hgreedy'.lengthAt)
      rw [← hsum] at h' ⊢
      rw [ih h']

end PhoneticSearch.Sequence
