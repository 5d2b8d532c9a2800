import PhoneticSearch.Filter.Pattern
import PhoneticSearch.Proofs.Sequence.Compiled

/-!
# Where a text ceases to be a sequence pattern

A text that is not read has a first dead end: what is in front of it can go on as a pattern, what
ends with it cannot (`DeadEnd`), and that is the place of the fault.  A filter is in use if its
pattern is read and there is room for it.
-/

namespace PhoneticSearch.Sequence

/-! ### Dead ends -/

/-- Whether a text can go on as a pattern, or is one. -/
def Viable (kind : Kind) (t : Text) : Prop := ∃ more items, read kind (t ++ more) = .ok items

/-- Whether the character at a position is the first behind which a text cannot go on as a
pattern. -/
structure DeadEnd (kind : Kind) (t : Text) (i : Nat) : Prop where
  lt : i < t.length
  viable : Viable kind (t.take i)
  dead : ¬ Viable kind (t.take (i + 1))

variable {kind : Kind}

/-- What is written can go on with a space. -/
theorem Written.viable {t : Text} {items : List Item} (h : Written kind t items) :
    Viable kind t := by
  have hspace : kind.symbols? ' ' = some [' '] := by cases kind <;> rfl
  have hwritten : Written kind (t ++ [' ']) (items ++ [⟨[' '], none⟩]) := by
    induction h with
    | nil => exact .once hspace .nil
    | once hc _ ih => exact .once hc ih
    | quantified hc hq _ ih => exact .quantified hc hq ih
  exact ⟨[' '], _, read_iff.mpr ⟨by simp, hwritten⟩⟩

theorem not_viable {t : Text} (h : ∀ more items, ¬ Written kind (t ++ more) items) :
    ¬ Viable kind t := by
  rintro ⟨more, items, hread⟩
  exact h more items (read_iff.mp hread).2

/-- Whether a fault behind some characters is at a first dead end: what is written by them and by
the text in front of it ends there. -/
def StopsBehind (kind : Kind) (front rest : Text) (offset : Nat) (e : Located Fault) : Prop :=
  ∃ i < rest.length, e.offset = some (offset + i) ∧
    (∃ items, Written kind (front ++ rest.take i) items) ∧
    ∀ more items, ¬ Written kind (front ++ rest.take (i + 1) ++ more) items

/-- Where the next character has no place, that is the dead end. -/
theorem StopsBehind.here {front rest : Text} {d : Char} {items : List Item} {offset : Nat}
    (hfront : Written kind front items) (hd : ∀ more items, ¬ Written kind (front ++ d :: more) items)
    (f : Fault) : StopsBehind kind front (d :: rest) offset (.found offset f) := by
  refine ⟨0, Nat.zero_lt_succ _, rfl, ⟨items, ?_⟩, fun more items h => hd more items ?_⟩
  · rwa [List.take_zero, List.append_nil]
  · rwa [List.take_succ_cons, List.take_zero, List.append_assoc] at h

/-- Where the next character has a place, the dead end is behind it. -/
theorem StopsBehind.later {front front' rest : Text} {d : Char} {offset : Nat} {e : Located Fault}
    (h : StopsBehind kind front' rest (offset + 1) e)
    (hviable : ∀ w, (∃ items, Written kind (front' ++ w) items) →
      ∃ items, Written kind (front ++ d :: w) items)
    (hdead : ∀ w items, Written kind (front ++ d :: w) items →
      ∃ items, Written kind (front' ++ w) items) :
    StopsBehind kind front (d :: rest) offset e := by
  obtain ⟨i, hi, hoffset, hwritten, hnone⟩ := h
  refine ⟨i + 1, Nat.succ_lt_succ hi, ?_, ?_, fun more items h => ?_⟩
  · rw [hoffset, Nat.add_right_comm, Nat.add_assoc]
  · rw [List.take_succ_cons]
    exact hviable _ hwritten
  · rw [List.take_succ_cons, List.append_assoc, List.cons_append] at h
    obtain ⟨items, h⟩ := hdead _ _ h
    rw [← List.append_assoc] at h
    exact hnone _ _ h

/-- A fault that is met from a position on, also behind a symbol that a quantifier may follow. -/
theorem stopsBehind_of_readFrom : ∀ (rest : Text) (offset : Nat) (e : Located Fault),
    (readFrom kind offset none rest = .error e → StopsBehind kind [] rest offset e) ∧
      ∀ c letters, kind.symbols? c = some letters →
        readFrom kind offset (some letters) rest = .error e → StopsBehind kind [c] rest offset e := by
  intro rest
  induction rest with
  | nil =>
    intro offset e
    exact ⟨nofun, nofun⟩
  | cons d rest ih =>
    intro offset e
    cases hd : kind.symbols? d with
    | some next =>
      -- The symbol may be the last of what is written, or go on in what follows.
      have hnext := (ih (offset + 1) e).2 d next hd
      have hnone : Quantifier.ofChar? d = none := by
        by_contra hsome
        obtain ⟨q, hq⟩ := Option.ne_none_iff_exists'.mp hsome
        rw [symbols?_of_quantifier hq] at hd
        cases hd
      have hfrom : ∀ pending, readFrom kind offset pending (d :: rest) = .error e →
          readFrom kind (offset + 1) (some next) rest = .error e := by
        intro pending h
        simp only [readFrom, hd, bind_pure_eq_error] at h
        exact h
      refine ⟨fun h => ?_, fun c letters hc h => ?_⟩
      · exact (hnext (hfrom _ h)).later (fun w h => h) fun w items h => ⟨items, h⟩
      · refine (hnext (hfrom _ h)).later (fun w h => ?_) fun w items h => ?_
        · obtain ⟨items, h⟩ := h
          exact ⟨_, .once hc h⟩
        · obtain ⟨items, h, -⟩ := (written_symbol_cons hc hnone).mp h
          exact ⟨items, h⟩
    | none =>
      have hfirst : ∀ more items, ¬ Written kind ([] ++ d :: more) items := fun _ _ => not_written hd
      cases hq : Quantifier.ofChar? d with
      | none =>
        refine ⟨fun h => ?_, fun c letters hc h => ?_⟩
        · simp only [readFrom, hd, hq] at h
          obtain rfl := Except.error.inj h
          exact .here .nil hfirst _
        · simp only [readFrom, hd, hq] at h
          obtain rfl := Except.error.inj h
          refine .here (.once hc .nil) (fun more items h => ?_) _
          obtain ⟨_, h, -⟩ := (written_symbol_cons hc hq).mp h
          exact not_written hd h
      | some q =>
        refine ⟨fun h => ?_, fun c letters hc h => ?_⟩
        · simp only [readFrom, hd, hq] at h
          obtain rfl := Except.error.inj h
          exact .here .nil hfirst _
        · have hbehind : readFrom kind (offset + 1) none rest = .error e := by
            simp only [readFrom, hd, hq, bind_pure_eq_error] at h
            exact h
          refine ((ih (offset + 1) e).1 hbehind).later (fun w h => ?_) fun w items h => ?_
          · obtain ⟨items, h⟩ := h
            exact ⟨_, .quantified hc hq h⟩
          · obtain ⟨items, h, -⟩ := (written_quantified hc hq).mp h
            exact ⟨items, h⟩

/-- The fault of a text that is not read is at its first dead end. -/
theorem deadEnd_of_read {t : Text} {e : Located Fault} (h : read kind t = .error e)
    (hne : t ≠ []) : ∃ i, e.offset = some i ∧ DeadEnd kind t i := by
  rw [read, if_neg (by simpa using hne)] at h
  obtain ⟨i, hi, hoffset, ⟨items, hwritten⟩, hdead⟩ := (stopsBehind_of_readFrom t 0 e).1 h
  rw [Nat.zero_add] at hoffset
  exact ⟨i, hoffset, hi, hwritten.viable, not_viable hdead⟩

/-! ### Filters -/

/-- The dialect of a kind of patterns. -/
def Kind.dialect : Kind → Dialect
  | .stress => .stress
  | .soundClass => .soundClass

variable {expression : Text}

/-- What is compiled is what is read and has room. -/
theorem exists_compile_iff : (∃ items, compile kind expression = .ok items) ↔
    ∃ items, read kind expression = .ok items ∧ 208 + room items ≤ Regex.Footprint.bound := by
  constructor
  · rintro ⟨items, h⟩
    obtain ⟨read, hread, -⟩ := bind_eq_ok.mp h
    rw [compile_eq hread] at h
    split at h
    · next hroom => exact ⟨read, hread, hroom⟩
    · cases h
  · rintro ⟨items, hread, hroom⟩
    exact ⟨items, by rw [compile_eq hread, if_pos hroom]⟩

/-- A filter is in use if its pattern is compiled. -/
theorem inUse_ofSpec (id : Text) (caseSensitive exact : Bool) :
    (PatternFilter.ofSpec id ⟨expression, kind.dialect, caseSensitive, exact⟩).inUse = true ↔
      ∃ items, compile kind expression = .ok items := by
  have hcompile : CompiledPattern.compile ⟨expression, kind.dialect, caseSensitive, exact⟩ =
      if expression.isEmpty then .error ⟨none, .empty⟩ else
        ((compile kind expression).mapError (·.map .sequence)).map (.sequence kind) := by
    cases kind <;> rfl
  by_cases hempty : expression.isEmpty = true
  · obtain rfl := List.isEmpty_iff.mp hempty
    exact iff_of_false Bool.false_ne_true fun ⟨_, h⟩ => by cases h
  · have hcompiled : (PatternFilter.ofSpec id ⟨expression, kind.dialect, caseSensitive,
        exact⟩).compiled = some (((compile kind expression).mapError (·.map .sequence)).map
          (.sequence kind)) := by
      rw [PatternFilter.ofSpec, hcompile]
      simp only [hempty, if_false, Bool.false_eq_true]
    rw [PatternFilter.inUse, PatternFilter.pattern?, hcompiled]
    cases compile kind expression with
    | error e => exact iff_of_false Bool.false_ne_true fun ⟨_, h⟩ => by cases h
    | ok items => exact iff_of_true rfl ⟨items, rfl⟩

/-- **Sequence patterns and their faults.**  A text is read if and only if it is not empty and
writes items; the fault of any other text that is not empty is at the first dead end.  A filter of
a stress or sound class pattern is in use if and only if its pattern is read and there is room for
it, which there always is for texts of up to 131069 characters. -/
theorem read_deadEnd (kind : Kind) (expression : Text) :
    ((∃ items, read kind expression = .ok items) ↔
      expression ≠ [] ∧ ∃ items, Written kind expression items) ∧
    (∀ fault, read kind expression = .error fault → expression ≠ [] →
      ∃ i, fault.offset = some i ∧ DeadEnd kind expression i) ∧
    ∀ id caseSensitive exact,
      ((PatternFilter.ofSpec id ⟨expression, kind.dialect, caseSensitive, exact⟩).inUse = true ↔
        ∃ items, read kind expression = .ok items ∧ 208 + room items ≤ Regex.Footprint.bound) ∧
      (expression.length ≤ 131069 →
        ((PatternFilter.ofSpec id ⟨expression, kind.dialect, caseSensitive, exact⟩).inUse = true ↔
          ∃ items, read kind expression = .ok items)) := by
  refine ⟨?_, fun fault h hne => deadEnd_of_read h hne, fun id caseSensitive exact => ?_⟩
  · simp only [read_iff, exists_and_left]
  · rw [inUse_ofSpec]
    refine ⟨exists_compile_iff, fun hshort => ⟨fun h => ?_, ?_⟩⟩
    · obtain ⟨items, hread, -⟩ := exists_compile_iff.mp h
      exact ⟨items, hread⟩
    · rintro ⟨items, hread⟩
      exact ⟨items, compile_short hread hshort⟩

/-- The second of two quantifiers is the dead end. -/
theorem read_deadEnd_quantifiers :
    (PatternFilter.ofSpec [] ⟨['C', 'V', '?'], .soundClass, false, true⟩).inUse = true ∧
      read .soundClass ['C', 'V', '?', '?'] = .error (.found 3 (.nothingToRepeat '?')) ∧
      DeadEnd .soundClass ['C', 'V', '?', '?'] 3 := by
  obtain ⟨-, -, hfilter⟩ := read_deadEnd .soundClass ['C', 'V', '?']
  obtain ⟨-, hfault, -⟩ := read_deadEnd .soundClass ['C', 'V', '?', '?']
  have hread : read .soundClass ['C', 'V', '?', '?'] = .error (.found 3 (.nothingToRepeat '?')) :=
    rfl
  obtain ⟨i, hi, hdead⟩ := hfault _ hread (List.cons_ne_nil _ _)
  obtain rfl : 3 = i := Option.some.inj hi
  exact ⟨((hfilter [] false true).2 (by decide)).mpr ⟨_, rfl⟩, hread, hdead⟩

/-- A row of as many stressed syllables is read, and the filter of it is not in use. -/
theorem inUse_stressed_row :
    (∃ items, read .stress (List.replicate 400000 '1') = .ok items) ∧
      (PatternFilter.ofSpec [] ⟨List.replicate 400000 '1', .stress, false, false⟩).inUse =
        false := by
  have hne : List.replicate 400000 '1' ≠ [] := by
    rw [ne_eq, List.replicate_eq_nil_iff]
    omega
  have hsymbol : Kind.stress.symbols? '1' = some ['1'] := rfl
  have hread := read_iff.mpr ⟨hne, written_replicate hsymbol 400000⟩
  refine ⟨⟨_, hread⟩, Bool.eq_false_iff.mpr fun h => ?_⟩
  obtain ⟨items, hitems⟩ : ∃ items, compile .stress (List.replicate 400000 '1') = .ok items :=
    (inUse_ofSpec [] false false).mp h
  rw [compile_eq hread, room_replicate, if_neg (by decide)] at hitems
  cases hitems

end PhoneticSearch.Sequence
