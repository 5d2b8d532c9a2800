import PhoneticSearch.Proofs.Transcription.Legible

/-!
# Reading is local to words

A space parts a text into two that do not see each other.  No token looks across it: what is
no token in front of a space is none without it either (`NoToken.append_space`), so the
tokens are those of the two texts (`tokens_append_space`).  Placing them does not look back
across it either, since behind a word boundary the same tokens have a place as at the start
of a text (`placeAll_behind`), and the default constituents are assigned word by word
(`syllabify_boundary`).

Two texts without letters of constituents are therefore read as one behind the other, with
a word boundary between them, and the first fault of either is that of both
(`read_append_space`).
-/

namespace PhoneticSearch.Transcription

variable {table : FeatureTable}

/-! ### Tokens -/

/-- A pause is not continued by a space. -/
theorem prefix_of_prefix_append_space {mark front behind : Text} (hmark : ' ' ∉ mark)
    (h : mark <+: front ++ ' ' :: behind) : mark <+: front := by
  rcases List.prefix_or_prefix_of_prefix h (List.prefix_append front _) with hfront | ⟨more, rfl⟩
  · exact hfront
  · rw [List.prefix_append_right_inj] at h
    cases more with
    | nil => simp
    | cons c more =>
      obtain rfl : c = ' ' := (List.cons_prefix_cons.mp h).1
      exact absurd (List.mem_append_right front List.mem_cons_self) hmark

theorem pauseAt?_append_space {front : Text} (h : pauseAt? front = none) (behind : Text) :
    pauseAt? (front ++ ' ' :: behind) = none := by
  rw [pauseAt?, List.find?_eq_none] at h ⊢
  intro l hl hprefix
  have hmark : ' ' ∉ l.text := by cases l <;> decide
  rw [List.isPrefixOf_iff_prefix] at hprefix
  exact h l hl (List.isPrefixOf_iff_prefix.mpr (prefix_of_prefix_append_space hmark hprefix))

/-- A space does not make a token of what is none. -/
theorem NoToken.append_space {c : Char} {rest : Text} {f : Fault} (h : NoToken c rest f)
    (behind : Text) : NoToken c (rest ++ ' ' :: behind) f := by
  cases h with
  | pause h => exact .pause (pauseAt?_append_space h behind)
  | close => exact .close
  | constituent h =>
    cases rest with
    | nil => exact .constituent rfl
    | cons letter rest => exact .constituent h
  | tied hbar h =>
    cases rest with
    | nil => exact .tied hbar rfl
    | cons glyph rest => exact .tied hbar h

theorem tokensFrom_append_space (front behind : Text) : ∀ offset,
    tokensFrom offset 0 (front ++ ' ' :: behind) = tokensFrom offset 0 front ++
      if (tokensFrom offset 0 front).any (·.2.isFaulty) then []
      else tokensFrom (offset + front.length) 0 (' ' :: behind) := by
  induction front using pieces_induction with
  | nil => intro offset; rfl
  | noToken h =>
    -- Nothing behind what is no token is looked at, the space neither.
    intro offset
    rw [List.cons_append, tokensFrom_noToken (h.append_space behind), tokensFrom_noToken h]
    rfl
  | piece rest h ih =>
    intro offset
    have hfaulty := h.isFaulty
    rw [List.append_assoc, tokensFrom_piece h, tokensFrom_piece h, ih, List.any_cons, hfaulty,
      Bool.false_or, List.length_append, Nat.add_assoc, List.cons_append]

/-- Where a text starts only moves its tokens. -/
theorem tokensFrom_add (n : Nat) (t : Text) : ∀ offset,
    tokensFrom (n + offset) 0 t = (tokensFrom offset 0 t).map fun k => (n + k.1, k.2) := by
  induction t using pieces_induction with
  | nil => intro offset; rfl
  | noToken h =>
    intro offset
    rw [tokensFrom_noToken h, tokensFrom_noToken h]
    rfl
  | piece rest h ih =>
    intro offset
    rw [tokensFrom_piece h, tokensFrom_piece h, List.map_cons, Nat.add_assoc, ih]

/-- A space parts the tokens of a text. -/
theorem tokens_append_space (front behind : Text) :
    tokens (front ++ ' ' :: behind) = tokens front ++
      if (tokens front).any (·.2.isFaulty) then []
      else (front.length, .blank) ::
        (tokens behind).map fun k => (front.length + 1 + k.1, k.2) := by
  have hspace := tokensFrom_piece (.written .blank) front.length behind
  rw [List.singleton_append, List.length_singleton, ← Nat.add_zero (front.length + 1),
    tokensFrom_add] at hspace
  rw [tokens, tokensFrom_append_space, Nat.zero_add, hspace]
  rfl

/-! ### Places -/

theorem placeAll_append (done : List Element) (first second : List (Nat × Token)) :
    placeAll table done (first ++ second) =
      (placeAll table done first).bind fun done => placeAll table done second := by
  induction first generalizing done with
  | nil => rfl
  | cons k first ih =>
    rw [List.cons_append, placeAll, placeAll]
    cases place table done k.2 with
    | ok done => exact ih done
    | error f => rfl

/-- What is no token has no place. -/
theorem isFaulty_of_placeAll {ks : List (Nat × Token)} : ∀ {done done' : List Element},
    placeAll table done ks = .ok done' → ks.any (·.2.isFaulty) = false := by
  induction ks with
  | nil => intro _ _ _; rfl
  | cons k ks ih =>
    intro done done' h
    rw [placeAll] at h
    rw [List.any_cons, Bool.or_eq_false_iff]
    split at h
    · next next hplace =>
      refine ⟨?_, ih h⟩
      cases hkind : k.2 with
      | faulty f => rw [hkind] at hplace; cases hplace
      | _ => rfl
    · cases h

theorem placeAll_add (n : Nat) (ks : List (Nat × Token)) : ∀ done,
    placeAll table done (ks.map fun k => (n + k.1, k.2)) =
      (placeAll table done ks).mapError fun e => (n + e.1, e.2) := by
  induction ks with
  | nil => intro done; rfl
  | cons k ks ih =>
    intro done
    rw [List.map_cons, placeAll, placeAll]
    cases place table done k.2 with
    | ok done => exact ih done
    | error f => rfl

/-- Behind a word boundary a token has the place that it has at the start of a text. -/
theorem place_behind (before done : List Element) (k : Token) :
    place table (done ++ .wordBoundary :: before) k =
      (place table done k).map (· ++ .wordBoundary :: before) := by
  -- No token looks further back than to the last element, and none needs a word boundary.
  cases done with
  | nil => cases k <;> rfl
  | cons e done => cases k <;> cases e <;> rfl

theorem placeAll_behind (before : List Element) (ks : List (Nat × Token)) : ∀ done,
    placeAll table (done ++ .wordBoundary :: before) ks =
      (placeAll table done ks).map (· ++ .wordBoundary :: before) := by
  induction ks with
  | nil => intro done; rfl
  | cons k ks ih =>
    intro done
    rw [placeAll, placeAll, place_behind]
    cases place table done k.2 with
    | ok done => exact ih done
    | error f => rfl

theorem placeAll_boundary (before : List Element) (ks : List (Nat × Token)) :
    placeAll table (.wordBoundary :: before) ks =
      (placeAll table [] ks).map (· ++ .wordBoundary :: before) :=
  placeAll_behind before ks []

/-! ### Reading -/

theorem dropBoundary_behind {done : List Element} (h : dropBoundary done ≠ [])
    (before : List Element) :
    dropBoundary (done ++ .wordBoundary :: before) = dropBoundary done ++ .wordBoundary :: before := by
  cases done with
  | nil => exact absurd rfl h
  | cons e done => cases e <;> rfl

/-- White space behind a text is a word boundary, whether or not there is one already. -/
theorem place_blank_of_dropBoundary {done : List Element} (h : dropBoundary done ≠ []) :
    place table done .blank = .ok (.wordBoundary :: dropBoundary done) := by
  cases done with
  | nil => exact absurd rfl h
  | cons e done => cases e <;> rfl

/-- Behind white space a text starts, or a word does. -/
theorem place_blank_cases (table : FeatureTable) (done : List Element) :
    ∃ done', place table done .blank = .ok done' ∧
      (done' = [] ∨ ∃ before, done' = .wordBoundary :: before) := by
  cases done with
  | nil => exact ⟨_, rfl, .inl rfl⟩
  | cons e done => cases e <;> exact ⟨_, rfl, .inr ⟨_, rfl⟩⟩

theorem syllabifyFrom_boundary (first second : Transcription) : ∀ word,
    syllabifyFrom word (first ++ .wordBoundary :: second) =
      syllabifyFrom word first ++ .wordBoundary :: syllabify second := by
  induction first with
  | nil => intro word; rfl
  | cons e first ih =>
    intro word
    rw [List.cons_append, syllabifyFrom, syllabifyFrom]
    split
    · rw [ih, List.append_assoc, List.cons_append]
    · exact ih _

/-- The default constituents on one side of a word boundary do not depend on the other. -/
theorem syllabify_boundary (first second : Transcription) :
    syllabify (first ++ .wordBoundary :: second) =
      syllabify first ++ .wordBoundary :: syllabify second :=
  syllabifyFrom_boundary first second []

/-- What is placed behind a space is placed behind what stands in front of it. -/
theorem placeAll_append_space {front : Text} {done done' : List Element}
    (h : placeAll table [] (tokens front) = .ok done) (hblank : place table done .blank = .ok done')
    (behind : Text) : placeAll table [] (tokens (front ++ ' ' :: behind)) =
      (placeAll table done' (tokens behind)).mapError fun e =>
        (front.length + 1 + e.1, e.2) := by
  rw [tokens_append_space, placeAll_append, h, isFaulty_of_placeAll h, if_neg Bool.false_ne_true]
  simp only [Except.bind, placeAll, hblank, placeAll_add]

/-- The fault of a text is not mended behind a space. -/
theorem placeAll_append_space_of_error {front : Text} {e : Nat × Fault}
    (h : placeAll table [] (tokens front) = .error e) (behind : Text) :
    placeAll table [] (tokens (front ++ ' ' :: behind)) = .error e := by
  rw [tokens_append_space, placeAll_append, h]
  rfl

/-- A fault at the start of a text is one behind white space too. -/
theorem placeAll_behind_blank {done done' : List Element} {ks : List (Nat × Token)}
    {e : Nat × Fault} (hblank : place table done .blank = .ok done')
    (h : placeAll table [] ks = .error e) : placeAll table done' ks = .error e := by
  -- The text starts anew, or it goes on behind a word boundary.
  obtain ⟨done'', hblank', hdone⟩ := place_blank_cases table done
  obtain rfl : done'' = done' := Except.ok.inj (hblank'.symm.trans hblank)
  rcases hdone with rfl | ⟨before, rfl⟩
  · exact h
  · rw [placeAll_boundary, h]
    rfl

theorem any_isConstituent_append_space {front behind : Text}
    (hfront : (tokens front).any (·.2.isConstituent) = false)
    (hbehind : (tokens behind).any (·.2.isConstituent) = false) :
    (tokens (front ++ ' ' :: behind)).any (·.2.isConstituent) = false := by
  rw [tokens_append_space, List.any_append, hfront, Bool.false_or]
  split
  · rfl
  · rw [List.any_cons, List.any_map]
    exact hbehind

/-- **Reading is local to words.**  Two texts without letters of constituents that are read
as something each are read, with a space between them, as the one, a word boundary and the
other, with the constituents that each has on its own.  If one of two texts is not read,
then they are not read with a space between them either, and the fault is that of the first
of the two that is not read, where it stands. -/
theorem read_append_space (table : FeatureTable) (front behind : Text) :
    (∀ s t, (∀ k ∈ tokens front, k.2.isConstituent = false) →
      (∀ k ∈ tokens behind, k.2.isConstituent = false) →
      read table front = .ok s → read table behind = .ok t → s ≠ [] → t ≠ [] →
      read table (front ++ ' ' :: behind) = .ok (s ++ .wordBoundary :: t)) ∧
    (∀ e, read table front = .error e →
      read table (front ++ ' ' :: behind) =
        .error ⟨front ++ ' ' :: behind, e.offset, e.fault⟩) ∧
    (∀ s e, read table front = .ok s → read table behind = .error e →
      read table (front ++ ' ' :: behind) =
        .error ⟨front ++ ' ' :: behind, front.length + 1 + e.offset, e.fault⟩) := by
  refine ⟨?_, ?_, ?_⟩
  · intro s t hfront hbehind hs ht hs0 ht0
    have hfront : (tokens front).any (·.2.isConstituent) = false := by simpa using hfront
    have hbehind : (tokens behind).any (·.2.isConstituent) = false := by simpa using hbehind
    obtain ⟨done, hdone, hs⟩ := exists_placeAll_of_read hs
    obtain ⟨done', hdone', ht⟩ := exists_placeAll_of_read ht
    rw [hfront, if_neg Bool.false_ne_true] at hs
    rw [hbehind, if_neg Bool.false_ne_true] at ht
    have hne : dropBoundary done ≠ [] := fun h => hs0 (by rw [hs, h]; rfl)
    have hne' : dropBoundary done' ≠ [] := fun h => ht0 (by rw [ht, h]; rfl)
    -- The second text is placed behind the boundary as it is placed alone.
    have hplaced : placeAll table [] (tokens (front ++ ' ' :: behind)) =
        .ok (done' ++ .wordBoundary :: dropBoundary done) := by
      rw [placeAll_append_space hdone (place_blank_of_dropBoundary hne), placeAll_boundary, hdone']
      rfl
    rw [read_of_placeAll hplaced, any_isConstituent_append_space hfront hbehind,
      if_neg Bool.false_ne_true, dropBoundary_behind hne', List.reverse_append, List.reverse_cons,
      List.append_assoc, List.singleton_append, syllabify_boundary, hs, ht]
  · intro e he
    obtain ⟨-, he⟩ := read_eq_error_iff.mp he
    exact read_eq_error_iff.mpr ⟨rfl, placeAll_append_space_of_error he behind⟩
  · intro s e hs he
    obtain ⟨-, he⟩ := read_eq_error_iff.mp he
    obtain ⟨done, hdone, -⟩ := exists_placeAll_of_read hs
    obtain ⟨done', hblank, -⟩ := place_blank_cases table done
    refine read_eq_error_iff.mpr ⟨rfl, ?_⟩
    rw [placeAll_append_space hdone hblank, placeAll_behind_blank hblank he]
    rfl

/-- An affricate and a pause with white space around them, a pause that the space breaks off,
and a diacritic that does not reach the phone in front of the space. -/
theorem read_append_space_pause :
    (∃ s t, read .builtin " ˈt\u0361ʃa ".toList = .ok s ∧
      read .builtin "  (.)na\n".toList = .ok t ∧
      read .builtin (" ˈt\u0361ʃa ".toList ++ ' ' :: "  (.)na\n".toList) =
        .ok (s ++ .wordBoundary :: t)) ∧
    read .builtin ("ka(".toList ++ ' ' :: ".)".toList) =
      .error ⟨"ka( .)".toList, 2, .malformedPause⟩ ∧
    read .builtin ("ka".toList ++ ' ' :: "ʰa".toList) =
      .error ⟨"ka ʰa".toList, 3, .diacriticWithoutPhone⟩ := by
  have hs : read .builtin " ˈt\u0361ʃa ".toList = .ok _ := rfl
  have ht : read .builtin "  (.)na\n".toList = .ok _ := rfl
  have hka : read .builtin "ka".toList = .ok _ := rfl
  refine ⟨⟨_, _, hs, ht, ?_⟩, ?_, ?_⟩
  · exact (read_append_space .builtin _ _).1 _ _ (by decide) (by decide) hs ht
      (by decide +kernel) (by decide +kernel)
  · exact (read_append_space .builtin _ _).2.1 ⟨"ka(".toList, 2, .malformedPause⟩ rfl
  · exact (read_append_space .builtin _ _).2.2 _ ⟨"ʰa".toList, 0, .diacriticWithoutPhone⟩ hka rfl

end PhoneticSearch.Transcription
