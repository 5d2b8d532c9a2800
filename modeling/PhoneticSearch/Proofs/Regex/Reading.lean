import Mathlib.Data.List.Forall2
import PhoneticSearch.Proofs.Regex.Anchored

/-!
# Expressions without groups

Where no group is opened and no branch is ended, the reader puts one expression behind the other
(`readFrom_step`, `State.pushAll`).  The branch that they make means their patterns joined
(`meaning_close`), and it is not nested more deeply than by one (`tooDeep_close`).  What is read is
compiled unless it is too large (`compileText_of_read`).
-/

namespace PhoneticSearch.Regex

/-! ### The run of the reader -/

/-- The reader goes on behind what is under the cursor. -/
theorem readFrom_step {s s' : State} {left offset : Nat} {c : Char} {rest : Text} {cur : Cursor}
    (hs : s.verbose = false) (hstep : s.step c ⟨offset, c :: rest⟩ = .ok (s', cur)) :
    readFrom (left + 1) s ⟨offset, c :: rest⟩ = readFrom left s' cur := by
  obtain ⟨groups, alternation, branch, verbose, names⟩ := s
  obtain rfl : verbose = false := hs
  exact readFrom_of_step rfl hstep

/-- A state of the reader after more expressions, each with the place where it starts. -/
def State.pushAll (s : State) (es : List (Nat × Expression)) : State :=
  { s with branch := { s.branch with items := es.reverse ++ s.branch.items } }

theorem State.pushAll_push (s : State) (offset : Nat) (e : Expression)
    (es : List (Nat × Expression)) :
    (s.push offset e).pushAll es = s.pushAll ((offset, e) :: es) := by
  simp [State.pushAll, State.push]

/-- Where nothing is left behind some expressions, they are what has been read. -/
theorem read_of_pushAll {expression : Text} {es : List (Nat × Expression)} {left offset : Nat}
    (hread : readFrom expression.length .initial (.start expression) =
      readFrom left (State.initial.pushAll es) ⟨offset, []⟩)
    (hshallow : (OpenBranch.close ⟨0, es.reverse⟩).tooDeep 0 = none) :
    read expression = .ok (OpenBranch.close ⟨0, es.reverse⟩) := by
  have hstate : State.initial.pushAll es = ⟨[], none, ⟨0, es.reverse⟩, false, []⟩ := by
    rw [State.pushAll, State.initial, List.append_nil]
  rw [hstate] at hread
  exact read_eq_ok.mpr ⟨hread.trans (readFrom_nil rfl left), hshallow⟩

/-! ### Branches -/

section Branches

variable {es : List (Nat × Expression)} {ps : List Pattern} {f : Flags} {depth : Nat}

theorem meanings_of_forall₂ (h : List.Forall₂ (fun e p => e.2.meaning f = .ok (p, f)) es ps) :
    meanings f (es.map Prod.snd) = .ok (ps, f) := by
  induction h with
  | nil => rfl
  | cons he _ ih =>
    rw [List.map_cons, meanings, he]
    simp only [bind, Except.bind, ih]
    rfl

theorem piecesTooDeep_eq_none (h : ∀ e ∈ es, e.2.tooDeep depth = none) :
    piecesTooDeep depth (es.map Prod.snd) = none := by
  induction es with
  | nil => rfl
  | cons e es ih =>
    obtain ⟨he, hes⟩ := List.forall_mem_cons.mp h
    rw [List.map_cons, piecesTooDeep, he, ih hes]
    rfl

theorem close_of_two (h : 2 ≤ es.length) (offset : Nat) :
    OpenBranch.close ⟨offset, es.reverse⟩ = .concat offset (es.map Prod.snd) := by
  have hreverse : es.reverse.reverse = es := List.reverse_reverse es
  rw [← List.length_reverse] at h
  match es.reverse, h, hreverse with
  | a :: b :: l, _, hreverse => rw [← hreverse]; rfl

theorem Pattern.followedBy_nil (p : Pattern) : p.followedBy [] = [p] := by
  cases p <;> rfl

theorem Pattern.join_singleton {p : Pattern} (h : p.items = [p]) : join [p] = p := by
  rw [join, List.flatMap_singleton, h, List.foldr_cons, List.foldr_nil, followedBy_nil]

/-- A branch of expressions means their patterns joined. -/
theorem meaning_close (h : List.Forall₂ (fun e p => e.2.meaning f = .ok (p, f)) es ps)
    (hitems : ∀ p ∈ ps, p.items = [p]) (offset : Nat) :
    (OpenBranch.close ⟨offset, es.reverse⟩).meaning f = .ok (.join ps, f) := by
  match es, ps, h with
  | [], [], _ =>
    show Expression.meaning f .empty = _
    rw [Expression.meaning]
    rfl
  | [e], [p], .cons he .nil =>
    rw [Pattern.join_singleton (hitems p (List.mem_singleton_self p))]
    exact he
  | e :: e' :: es, ps, h =>
    have htwo : 2 ≤ (e :: e' :: es).length := Nat.le_add_left 2 es.length
    rw [close_of_two htwo, Expression.meaning, meanings_of_forall₂ h]
    rfl

/-- A branch is not nested too deeply if its expressions would not be one deeper. -/
theorem tooDeep_close (hdepth : depth < depthBound)
    (h : ∀ e ∈ es, e.2.tooDeep depth = none ∧ e.2.tooDeep (depth + 1) = none) (offset : Nat) :
    (OpenBranch.close ⟨offset, es.reverse⟩).tooDeep depth = none := by
  match es, h with
  | [], _ =>
    show Expression.tooDeep depth .empty = none
    rw [Expression.tooDeep] <;> simp
  | [e], h => exact (h e (List.mem_singleton_self e)).1
  | e :: e' :: es, h =>
    have htwo : 2 ≤ (e :: e' :: es).length := Nat.le_add_left 2 es.length
    rw [close_of_two htwo, Expression.tooDeep, if_neg (Nat.not_le_of_lt hdepth),
      piecesTooDeep_eq_none fun e he => (h e he).2]

end Branches

/-! ### Compiling -/

/-- What has been read is compiled unless it is too large. -/
theorem compileText_of_read {caseSensitive : Bool} {expression : Text} {e : Expression}
    {p : Pattern} {f : Flags} (hread : read expression = .ok e)
    (hmeaning : e.meaning { caseInsensitive := !caseSensitive } = .ok (p, f)) :
    compileText caseSensitive expression =
      if p.fits then .ok p else .error ⟨none, .tooLarge⟩ := by
  rw [compileText, hread]
  show (e.pattern caseSensitive).mapError _ = _
  rw [Expression.pattern, hmeaning]
  show Except.mapError _ (if p.fits then _ else _) = _
  split <;> rfl

end PhoneticSearch.Regex
