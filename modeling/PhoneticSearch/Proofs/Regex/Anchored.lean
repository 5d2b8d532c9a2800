import PhoneticSearch.Proofs.Regex.Search
import PhoneticSearch.Proofs.Regex.Built
import PhoneticSearch.Proofs.Regex.Framed.Reader

/-!
# Comparing whole texts

Whole texts are compared with an expression that is put between two anchors, in a group of its
own.  Flags end with the group, and so do choices: what is read there is the expression itself, and
it matches a whole text if and only if the pattern of the expression takes the text from its start
to its end (`isWhole_iff_takes`).

Three expressions of their own do not survive being put there: those that end in a comment, which
then takes in the closing parenthesis; those that are nested so deeply that there is no room for
the two levels around them; and those that fill the bound on the room that a pattern takes.  All
others are compiled (`compile_usable`).
-/

namespace PhoneticSearch.Regex

open Relation

/-! ### Reading an anchored expression -/

/-- Whether an expression ends in a comment of verbose mode: a closing parenthesis behind it is
passed over. -/
def EndsInComment (expression : Text) : Prop := ∃ e, read (expression ++ [')']) = .ok e

/-- The state that the reader starts in. -/
def State.initial : State := ⟨[], none, ⟨0, []⟩, false, []⟩

/-- The group between the anchors, when it has been opened. -/
def anchoredGroup : OpenGroup :=
  ⟨2, false, [], false, ⟨0, [(0, .assertion .startText)]⟩, none⟩

/-- The frame that is made by the anchors. -/
def anchors : Frame := ⟨5, ['\\', 'z'], by decide, by decide⟩

/-- The frame of a closing parenthesis. -/
def parenthesis : Frame := ⟨0, [], by decide, by decide⟩

/-- An expression between the anchors. -/
def Expression.anchored (e : Expression) : Expression :=
  .concat 0 [.assertion .startText, .group 2 false [] (e.moved 5), .assertion .endText]

/-- The reader opens the group, with the expression in front of it. -/
theorem readFrom_anchored (expression : Text) :
    readFrom (anchored expression).length .initial (.start (anchored expression)) =
      readFrom (expression.length + 6) (State.initial.inside 5 [anchoredGroup])
        (anchors.cursor false (.start expression)) := by
  have hfront : "\\A(?:".toList.length = 5 := rfl
  have hbehind : ")\\z".toList.length = 3 := rfl
  have hlength : (anchored expression).length = expression.length + 6 + 1 + 1 := by
    show ("\\A(?:".toList ++ expression ++ ")\\z".toList).length = _
    rw [List.length_append, List.length_append, hfront, hbehind]
    omega
  rw [hlength]
  exact (readFrom_of_step rfl rfl).trans (readFrom_of_step rfl rfl)

/-- Behind the expression the group is closed. -/
theorem readFrom_anchored_end {s : State} {stop : Cursor} (hgroups : s.groups = [])
    (hstop : stop.rest = []) (n : Nat) :
    readFrom (n + 6) (s.inside 5 [anchoredGroup]) (anchors.cursor false stop) =
      .ok (OpenAlternation.close s.alternation s.branch).anchored := by
  obtain ⟨groups, alternation, branch, verbose, names⟩ := s
  obtain ⟨offset, rest⟩ := stop
  obtain rfl : groups = [] := hgroups
  obtain rfl : rest = [] := hstop
  have hpass : pass verbose (anchors.cursor false ⟨offset, []⟩) =
      anchors.cursor false ⟨offset, []⟩ := pass_end anchors false rfl
  refine (readFrom_of_step (congrArg Cursor.rest hpass) (congrArg _ hpass)).trans ?_
  refine (readFrom_of_step rfl rfl).trans ?_
  refine (readFrom_nil rfl _).trans ?_
  rw [Expression.anchored, ← OpenAlternation.moved_close]
  rfl

theorem read_eq_ok {expression : Text} {e : Expression} : read expression = .ok e ↔
    readFrom expression.length .initial (.start expression) = .ok e ∧ e.tooDeep 0 = none := by
  rw [read, bind_eq_ok]
  constructor
  · rintro ⟨e', hread, h⟩
    split at h
    · cases h
    · rename_i hshallow
      cases h
      exact ⟨hread, hshallow⟩
  · rintro ⟨hread, hshallow⟩
    refine ⟨e, hread, ?_⟩
    rw [hshallow]

theorem moved_zero_tooDeep {e : Expression} (h : e.tooDeep 0 = none) :
    (e.moved 0).tooDeep 0 = none := by
  rw [Expression.tooDeep_moved, h, Option.map_none]

/-- **Reading an anchored expression**: unless it ends in a comment, the expression itself is read
between the anchors. -/
theorem readFrom_anchored_cases {expression : Text} {e : Expression}
    (h : read expression = .ok e) :
    (EndsInComment expression ∧
      ∀ e', readFrom (anchored expression).length .initial (.start (anchored expression)) ≠ .ok e') ∨
    (¬ EndsInComment expression ∧
      readFrom (anchored expression).length .initial (.start (anchored expression)) =
        .ok e.anchored) := by
  obtain ⟨hread, hshallow⟩ := read_eq_ok.mp h
  obtain ⟨s, n, stop, swallowed, hstop, hgroups, hclose, hframed⟩ := readFrom_framed _ _ _ hread
  have hanchors : readFrom (anchored expression).length .initial (.start (anchored expression)) =
      readFrom (n + 6) (s.inside 5 [anchoredGroup]) (anchors.cursor swallowed stop) :=
    (readFrom_anchored expression).trans (hframed anchors [anchoredGroup] 6)
  have hparenthesis : readFrom (expression ++ [')']).length .initial
      (.start (expression ++ [')'])) =
      readFrom (n + 1) (s.inside 0 []) (parenthesis.cursor swallowed stop) := by
    rw [List.length_append]
    exact hframed parenthesis [] 1
  rw [hanchors]
  have hpass : ∀ F : Frame, ∀ k outer, pass (s.inside k outer).verbose (F.cursor swallowed stop) =
      F.cursor swallowed stop := fun F k outer => pass_end F swallowed hstop
  -- Either frame is swallowed if the other is, since that depends on the expression alone.
  cases swallowed with
  | true =>
    left
    constructor
    · refine ⟨e.moved 0, read_eq_ok.mpr ⟨?_, moved_zero_tooDeep hshallow⟩⟩
      have hempty : (s.inside 0 []).groups = [] := by
        show s.groups.map (OpenGroup.moved 0) ++ [] = []
        rw [hgroups]
        rfl
      rw [hparenthesis, readFrom_nil (by rw [hpass]; rfl), hempty, ← hclose]
      exact congrArg Except.ok (OpenAlternation.moved_close 0 s.alternation s.branch)
    · -- The group that the anchors open stays open.
      intro e' he'
      have hnone := (groups_of_readFrom_nil (by rw [hpass]; rfl) he').1
      exact absurd hnone (List.append_ne_nil_of_right_ne_nil _ (List.cons_ne_nil _ _))
  | false =>
    right
    constructor
    · -- Without the anchors the parenthesis closes no group.
      rintro ⟨e', he'⟩
      obtain ⟨hread', -⟩ := read_eq_ok.mp he'
      rw [hparenthesis, readFrom_cons (by rw [hpass]; exact Frame.cursor_rest_nil hstop)] at hread'
      obtain ⟨s', hstep, -⟩ := bind_eq_ok.mp hread'
      obtain ⟨groups, alternation, branch, verbose, names⟩ := s
      obtain rfl : groups = [] := hgroups
      cases hstep
    · rw [readFrom_anchored_end hgroups hstop, hclose]

theorem Expression.tooDeep_anchored (e : Expression) :
    e.anchored.tooDeep 0 = (e.tooDeep 2).map (· + 5) := by
  simp only [anchored, tooDeep, piecesTooDeep, tooDeep_moved]
  cases e.tooDeep 2 <;> rfl

/-- What is read of an anchored expression, if it is read at all. -/
theorem read_anchored_eq_ok {expression : Text} {e e' : Expression}
    (h : read expression = .ok e) : read (anchored expression) = .ok e' ↔
      ¬ EndsInComment expression ∧ e.tooDeep 2 = none ∧ e' = e.anchored := by
  rw [read_eq_ok]
  rcases readFrom_anchored_cases h with ⟨hcomment, hfails⟩ | ⟨hcomment, hread⟩
  · constructor
    · exact fun h => absurd h.1 (hfails e')
    · exact fun h => absurd hcomment h.1
  · rw [hread, Except.ok.injEq]
    constructor
    · rintro ⟨rfl, hshallow⟩
      rw [Expression.tooDeep_anchored, Option.map_eq_none_iff] at hshallow
      exact ⟨hcomment, hshallow, rfl⟩
    · rintro ⟨-, hshallow, rfl⟩
      rw [Expression.tooDeep_anchored, hshallow]
      exact ⟨rfl, rfl⟩

/-! ### The pattern between the anchors -/

/-- A pattern between the anchors. -/
def Pattern.anchored (p : Pattern) : Pattern := .join [.place .startText, p, .place .endText]

theorem Pattern.fits_anchored_moved (p : Pattern) (k : Nat) :
    (p.moved k).anchored.fits = p.anchored.fits := by
  have hmoved : (p.moved k).anchored = p.anchored.moved k :=
    join_moved k [.place .startText, p, .place .endText]
  rw [hmoved, fits_moved]

/-- Flags and choices end with the group, so that the expression means the same there. -/
theorem Expression.meaning_anchored (e : Expression) (f : Flags) :
    e.anchored.meaning f = (e.meaning f).map fun (p, _) => ((p.moved 5).anchored, f) := by
  have hbody : (e.moved 5).meaning (f.change []) =
      (e.meaning f).map fun (p, f) => (p.moved 5, f) := e.meaning_moved 5 f
  simp only [Expression.anchored, meaning, meanings, bind, Except.bind, pure, Except.pure]
  rw [hbody]
  cases e.meaning f <;> rfl

theorem compileText_eq_ok {caseSensitive : Bool} {expression : Text} {p : Pattern} :
    compileText caseSensitive expression = .ok p ↔
      ∃ e f, read expression = .ok e ∧
        e.meaning { caseInsensitive := !caseSensitive } = .ok (p, f) ∧ p.fits = true := by
  simp only [compileText, bind_eq_ok, mapError_eq_ok, Expression.pattern]
  constructor
  · rintro ⟨e, hread, ⟨p', f⟩, hmeaning, h⟩
    dsimp only at h
    split at h
    · rename_i hfits
      cases h
      exact ⟨e, f, hread, hmeaning, hfits⟩
    · cases h
  · rintro ⟨e, f, hread, hmeaning, hfits⟩
    exact ⟨e, hread, (p, f), hmeaning, if_pos hfits⟩

/-- Whether an expression can be read and is not nested so deeply that it could not stand below two
other pieces. -/
def LeavesRoom (expression : Text) : Prop :=
  ∃ e, read expression = .ok e ∧ e.tooDeep 2 = none

/-- The pattern that whole texts are compared with is that of the expression between the anchors. -/
theorem compileText_anchored_eq_ok {caseSensitive : Bool} {expression : Text} {p q : Pattern}
    (h : compileText caseSensitive expression = .ok p) :
    compileText caseSensitive (anchored expression) = .ok q ↔
      (¬ EndsInComment expression ∧ LeavesRoom expression ∧ p.anchored.fits = true) ∧
        q = (p.moved 5).anchored := by
  obtain ⟨e, f, hread, hmeaning, -⟩ := compileText_eq_ok.mp h
  have hanchored : e.anchored.meaning { caseInsensitive := !caseSensitive } =
      .ok ((p.moved 5).anchored, { caseInsensitive := !caseSensitive }) := by
    rw [Expression.meaning_anchored, hmeaning]
    rfl
  simp only [compileText_eq_ok, read_anchored_eq_ok hread, LeavesRoom, hread, Except.ok.injEq,
    exists_eq_left']
  constructor
  · rintro ⟨e', f', ⟨hcomment, hshallow, rfl⟩, hmeaning', hfits⟩
    cases hanchored.symm.trans hmeaning'
    rw [Pattern.fits_anchored_moved] at hfits
    exact ⟨⟨hcomment, hshallow, hfits⟩, rfl⟩
  · rintro ⟨⟨hcomment, hshallow, hfits⟩, rfl⟩
    refine ⟨_, _, ⟨hcomment, hshallow, rfl⟩, hanchored, ?_⟩
    rw [Pattern.fits_anchored_moved, hfits]

/-! ### From the start to the end of a text -/

namespace Spot

theorem Reaches.refl (x : Spot) : x.Reaches x := ⟨[], rfl⟩

theorem Reaches.trans {x y z : Spot} (h : x.Reaches y) (h' : y.Reaches z) : x.Reaches z := by
  obtain ⟨s, hs⟩ := h
  obtain ⟨t, ht⟩ := h'
  refine ⟨s ++ t, ?_⟩
  rw [spells_append]
  exact ⟨y, hs, ht⟩

/-- A place behind another one is that place, or has a character in front of it. -/
theorem Reaches.eq_or_isSome {x y : Spot} (h : x.Reaches y) : y = x ∨ y.before.isSome = true := by
  obtain ⟨t, ht⟩ := h
  induction t generalizing x with
  | nil => exact .inl ht.symm
  | cons c t ih =>
    obtain ⟨z, ⟨_⟩, hz⟩ := ht
    rcases ih hz with rfl | hsome
    · exact .inr rfl
    · exact .inr hsome

/-- The place behind a text is the only one where nothing is left of it. -/
theorem Reaches.eq_stop {t : Text} {y : Spot} (h : (start t).Reaches y) (hrest : y.rest = []) :
    y = stop t := by
  have hend : ∀ (t : Text) (before : Option Char) {y : Spot},
      Reaches ⟨before, t⟩ y → y.rest = [] → y = ⟨t.getLast?.or before, []⟩ := by
    intro t
    induction t with
    | nil =>
      intro before y h _
      exact reaches_nil_iff.mp h
    | cons c t ih =>
      intro before y h hrest
      rcases reaches_cons_iff.mp h with rfl | h
      · cases hrest
      · rw [ih (some c) h hrest]
        cases t with
        | nil => rfl
        | cons d t =>
          rw [List.getLast?_cons_cons, List.getLast?_cons, Option.some_or, Option.some_or]
  rw [hend t none h hrest, Option.or_none, stop]

end Spot

theorem Copies.reaches {R : Spot → Spot → Prop} (hR : ∀ x y, R x y → x.Reaches y) :
    ∀ (count : Nat) {x y : Spot}, Copies R count x y → x.Reaches y
  | 0, x, _, h => h ▸ .refl x
  | count + 1, _, _, ⟨_, hfirst, hrest⟩ => (hR _ _ hfirst).trans (Copies.reaches hR count hrest)

mutual

/-- A match does not end in front of where it starts. -/
theorem Pattern.Takes.reaches : ∀ (p : Pattern) {x y : Spot}, p.Takes x y → x.Reaches y
  | .empty, x, y, h => by
    rw [Pattern.Takes] at h
    exact h ▸ .refl x
  | .literal t, x, y, h => by
    rw [Pattern.Takes] at h
    exact ⟨t, h⟩
  | .set s, x, y, h => by
    rw [Pattern.Takes] at h
    obtain ⟨hmem⟩ := h
    exact Spot.reaches_cons_iff.mpr (.inr (.refl _))
  | .place p, x, y, h => by
    rw [Pattern.Takes] at h
    exact h.2 ▸ .refl x
  | .group _ body, x, y, h => by
    rw [Pattern.Takes] at h
    exact Pattern.Takes.reaches body h
  | .sequence items, x, y, h => by
    rw [Pattern.Takes] at h
    exact reaches_of_takesAll items h
  | .choice branches, x, y, h => by
    rw [Pattern.Takes] at h
    exact reaches_of_takesOne branches h
  | .repeated body _ _ _, x, y, h => by
    rw [Pattern.Takes] at h
    obtain ⟨count, -, -, hcopies⟩ := h
    exact Copies.reaches (fun _ _ => Pattern.Takes.reaches body) count hcopies

theorem reaches_of_takesAll : ∀ (ps : List Pattern) {x y : Spot}, takesAll ps x y → x.Reaches y
  | [], x, y, h => by
    rw [takesAll] at h
    exact h ▸ .refl x
  | p :: rest, x, y, h => by
    rw [takesAll] at h
    obtain ⟨z, hfirst, hrest⟩ := h
    exact (Pattern.Takes.reaches p hfirst).trans (reaches_of_takesAll rest hrest)

theorem reaches_of_takesOne : ∀ (ps : List Pattern) {x y : Spot}, takesOne ps x y → x.Reaches y
  | [], x, y, h => by
    rw [takesOne] at h
    exact h.elim
  | p :: rest, x, y, h => by
    rw [takesOne] at h
    exact h.elim (Pattern.Takes.reaches p) (reaches_of_takesOne rest)

end

/-- A search for a pattern between the anchors finds something if the pattern takes the whole
text. -/
theorem isSome_search_anchored (p : Pattern) (k : Nat) (t : Text) :
    ((Automaton.ofPattern (p.moved k).anchored).search t 0).isSome = true ↔
      p.Takes (.start t) (.stop t) := by
  rw [Automaton.isSome_search_ofPattern, Pattern.anchored]
  simp only [Pattern.takes_join, takesAll, Pattern.takes_moved, Pattern.Takes, comp_eq]
  constructor
  · rintro ⟨x, y, hx, z, ⟨hstart, rfl⟩, w, htakes, hend, rfl⟩
    -- The anchors leave only one place for each end.
    have hx : x = .start t := by
      rcases hx.eq_or_isSome with rfl | hsome
      · rfl
      · rw [Place.holds, Option.isNone_iff_eq_none] at hstart
        rw [hstart] at hsome
        cases hsome
    subst hx
    have hrest : w.rest = [] := by
      rw [Place.holds, Option.isNone_iff_eq_none, List.head?_eq_none_iff] at hend
      exact hend
    rwa [← (htakes.reaches).eq_stop hrest]
  · intro htakes
    exact ⟨.start t, .stop t, .refl _, .start t, ⟨rfl, rfl⟩, .stop t, htakes, rfl, rfl⟩

/-! ### Using expressions -/

/-- There are hits in a text if the pattern takes some stretch of it. -/
theorem find_ne_nil_iff (p : Pattern) (whole : Automaton) (t : Text) :
    find ⟨.ofPattern p, whole⟩ t ≠ [] ↔ ∃ x y, (Spot.start t).Reaches x ∧ p.Takes x y := by
  rw [find, Ne, List.map_eq_nil_iff]
  exact (Automaton.findAll_ne_nil_iff _ t).trans (Automaton.isSome_search_ofPattern p t)

/-- The conditions for an expression, accepted by itself, to be compiled, and what it is compiled
to. -/
theorem compile_eq_ok {caseSensitive : Bool} {expression : Text} {p : Pattern} {r : Regex}
    (h : compileText caseSensitive expression = .ok p) :
    compile caseSensitive expression = .ok r ↔
      (¬ EndsInComment expression ∧ LeavesRoom expression ∧ p.anchored.fits = true) ∧
        r = ⟨.ofPattern p, .ofPattern (p.moved 5).anchored⟩ := by
  simp only [compile, h, bind_eq_ok, mapError_eq_ok, Except.ok.injEq, exists_eq_left',
    compileText_anchored_eq_ok h]
  constructor
  · rintro ⟨q, ⟨hconditions, rfl⟩, hr⟩
    cases hr
    exact ⟨hconditions, rfl⟩
  · rintro ⟨hconditions, rfl⟩
    exact ⟨_, ⟨hconditions, rfl⟩, rfl⟩

/-- **Which expressions are usable.**  An expression that is accepted by itself is compiled unless it
ends in a comment, is nested too deeply to stand between the anchors, or leaves no room for them.
If it is compiled, it has hits in a text exactly if its pattern takes a stretch of the text, and it
matches the whole text exactly if its pattern takes the text from its start to its end. -/
theorem compile_usable {caseSensitive : Bool} {expression : Text} {p : Pattern}
    (h : compileText caseSensitive expression = .ok p) :
    ((∃ r, compile caseSensitive expression = .ok r) ↔
      ¬ EndsInComment expression ∧ LeavesRoom expression ∧ p.anchored.fits = true) ∧
    ∀ r, compile caseSensitive expression = .ok r → ∀ t,
      (r.find t ≠ [] ↔ ∃ x y, (Spot.start t).Reaches x ∧ p.Takes x y) ∧
        (r.isWhole t = true ↔ p.Takes (.start t) (.stop t)) := by
  constructor
  · constructor
    · rintro ⟨r, hr⟩
      exact ((compile_eq_ok h).mp hr).1
    · exact fun hconditions => ⟨_, (compile_eq_ok h).mpr ⟨hconditions, rfl⟩⟩
  · intro r hr t
    obtain ⟨-, rfl⟩ := (compile_eq_ok h).mp hr
    exact ⟨find_ne_nil_iff p _ t, isSome_search_anchored p 5 t⟩

/-- A shorter choice that is preferred does not keep a longer one from spanning a text. -/
theorem compile_usable_choice :
    ∃ p r, compileText true "a|ab".toList = .ok p ∧ compile true "a|ab".toList = .ok r ∧
      ¬ EndsInComment "a|ab".toList ∧ r.isWhole "ab".toList = true ∧
        p.Takes (.start "ab".toList) (.stop "ab".toList) := by
  have haccepted : (compileText true "a|ab".toList).isOk = true := by decide +kernel
  have hwhole : (compile true "a|ab".toList).toOption.any (·.isWhole "ab".toList) = true := by
    decide +kernel
  cases hp : compileText true "a|ab".toList with
  | error fault =>
    rw [hp] at haccepted
    cases haccepted
  | ok p =>
    cases hr : compile true "a|ab".toList with
    | error fault =>
      rw [hr] at hwhole
      cases hwhole
    | ok r =>
      rw [hr] at hwhole
      obtain ⟨husable, hmatches⟩ := compile_usable hp
      obtain ⟨hcomment, -, -⟩ := husable.mp ⟨r, hr⟩
      exact ⟨p, r, rfl, rfl, hcomment, hwhole, ((hmatches r hr _).2).mp hwhole⟩

/-- A comment at the end of an expression takes in the closing parenthesis, so that an expression
that is accepted by itself is refused. -/
theorem compile_comment_refused :
    (compileText true "(?x)a # comment".toList).isOk = true ∧
      (compile true "(?x)a # comment".toList).isOk = false := by
  decide +kernel

end PhoneticSearch.Regex
