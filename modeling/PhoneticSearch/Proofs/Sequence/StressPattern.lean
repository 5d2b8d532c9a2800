import PhoneticSearch.Proofs.Sequence.Slices

/-!
# The stress pattern and its symbols

The stress pattern of a transcription is written by one scan of its syllables and the symbols that
stress patterns are searched in are put together by another one, which also says what elements each
of them stands for.  Without the hyphens between the syllables of a word the first gives the letters
of the second (`stressPattern_without_hyphens`).

Both scans hold on to the syllable in front, so that the lemmas are about the syllables that follow
one.  A gap is made of the ends of two syllables of different words, and these do not touch.
-/

namespace PhoneticSearch.Sequence

theorem symbol_ne_hyphen (stress : SyllableStress) : stress.symbol ≠ '-' := by
  cases stress <;> decide

theorem symbol_ne_space (stress : SyllableStress) : stress.symbol ≠ ' ' := by
  cases stress <;> decide

/-- Behind a syllable both scans tell words apart alike. -/
theorem filter_stressPatternAfter : ∀ (syllables : List Syllable) (p : Syllable),
    (Transcription.stressPatternAfter p.word syllables).filter (· != '-') =
      (stressSymbolsAfter (some p) syllables).map (·.letter) := by
  intro syllables
  induction syllables with
  | nil => exact fun _ => rfl
  | cons s rest ih =>
    intro p
    rw [Transcription.stressPatternAfter, stressSymbolsAfter_cons, List.map_append, List.map_cons,
      ← ih s, gapBefore]
    by_cases hword : p.word = s.word
    · simp [hword, symbol_ne_hyphen, syllableSymbol]
    · simp [hword, Ne.symm hword, symbol_ne_hyphen, syllableSymbol]

/-- Without the gaps the symbols are those of the syllables. -/
theorem filter_stressSymbolsAfter : ∀ (syllables : List Syllable) (previous : Option Syllable),
    (stressSymbolsAfter previous syllables).filter (·.letter != ' ') =
      syllables.map syllableSymbol := by
  intro syllables
  induction syllables with
  | nil => exact fun _ => rfl
  | cons s rest ih =>
    intro previous
    have hgap : (gapBefore previous s).filter (·.letter != ' ') = [] := by
      rcases isGap_gapBefore previous s with h | ⟨_, h⟩ <;> rw [h] <;> rfl
    rw [stressSymbolsAfter_cons, List.filter_append, hgap, List.nil_append,
      List.filter_cons_of_pos (by simp [syllableSymbol, symbol_ne_space]), ih (some s),
      List.map_cons]

/-- Whether a symbol stands for the gap between two syllables that follow each other. -/
structure IsGapBetween (syllables : List Syllable) (gap : Symbol) (a b : Syllable) : Prop where
  /-- No syllable is between them. -/
  neighbours : [a, b] <:+: syllables
  /-- They belong to different words. -/
  word_ne : a.word ≠ b.word
  /-- The gap is all that is between them. -/
  span : gap.span = ⟨a.span.stop, b.span.start⟩

/-- A space stands between the symbols of the syllables whose gap it is. -/
theorem exists_gapBetween : ∀ (syllables : List Syllable) {previous : Option Syllable}
    {front back : List Symbol} {gap : Symbol},
    stressSymbolsAfter previous syllables = front ++ gap :: back → gap.letter = ' ' →
    ∃ a b, IsGapBetween (previous.toList ++ syllables) gap a b ∧
      (previous.toList.map syllableSymbol ++ front).getLast? = some (syllableSymbol a) ∧
      back.head? = some (syllableSymbol b) := by
  intro syllables
  induction syllables with
  | nil =>
    intro previous front back gap h _
    exact absurd h.symm (by simp [stressSymbolsAfter])
  | cons s rest ih =>
    intro previous front back gap h hspace
    have hne : syllableSymbol s ≠ gap := by
      rintro rfl
      exact symbol_ne_space s.stress hspace
    -- Behind the symbol of the syllable it is the one in front.
    have hlater : ∀ {later : List Symbol},
        syllableSymbol s :: stressSymbolsAfter (some s) rest = later ++ gap :: back →
        ∃ a b, IsGapBetween (previous.toList ++ s :: rest) gap a b ∧
          later.getLast? = some (syllableSymbol a) ∧ back.head? = some (syllableSymbol b) := by
      intro later hlater
      cases later with
      | nil => exact absurd (List.cons.inj hlater).1 hne
      | cons symbol later =>
        obtain ⟨rfl, hrest⟩ := List.cons.inj hlater
        obtain ⟨a, b, hgap, hfront, hback⟩ := ih hrest hspace
        exact ⟨a, b, ⟨hgap.neighbours.trans (List.suffix_append _ _).isInfix, hgap.word_ne,
          hgap.span⟩, hfront, hback⟩
    have hlast : ∀ {later : List Symbol} {a : Syllable},
        later.getLast? = some (syllableSymbol a) →
        ∀ before : List Symbol, (before ++ later).getLast? = some (syllableSymbol a) := by
      intro later a h before
      rw [List.getLast?_append, h, Option.some_or]
    rw [stressSymbolsAfter_cons] at h
    rcases isGap_gapBefore previous s with hnone | ⟨span, hone⟩
    · rw [hnone, List.nil_append] at h
      obtain ⟨a, b, hgap, hfront, hback⟩ := hlater h
      exact ⟨a, b, hgap, hlast hfront _, hback⟩
    · rw [hone, List.singleton_append] at h
      cases front with
      | cons symbol front =>
        obtain ⟨-, hrest⟩ := List.cons.inj h
        obtain ⟨a, b, hgap, hfront, hback⟩ := hlater hrest
        exact ⟨a, b, hgap, hlast (hlast hfront [symbol]) _, hback⟩
      | nil =>
        -- This is the gap in front of the syllable.
        obtain ⟨rfl, rfl⟩ := List.cons.inj h
        cases previous with
        | none => cases hone
        | some p =>
          rw [gapBefore] at hone
          split at hone
          · cases hone
          · next hword =>
            obtain rfl := Symbol.mk.inj (List.singleton_inj.mp hone) |>.2
            exact ⟨p, s, ⟨(List.prefix_append [p, s] rest).isInfix, hword, rfl⟩, rfl, rfl⟩

/-- **The stress pattern and its symbols.**  The stress pattern without its hyphens is what stress
patterns are searched in.  The symbols that are no spaces stand for the syllables, one by one in
order.  A space stands between the symbols of two syllables that follow each other, and for the
elements between them, of which there is one at least. -/
theorem stressPattern_without_hyphens (t : Transcription) :
    t.stressPattern.filter (· != '-') = spelling .stress t ∧
      ((symbols .stress t).filter (·.letter != ' ')).map (·.span) = t.syllables.map (·.span) ∧
      ∀ front gap back, symbols .stress t = front ++ gap :: back → gap.letter = ' ' →
        ∃ a b, IsGapBetween t.syllables gap a b ∧
          front.getLast? = some (syllableSymbol a) ∧ back.head? = some (syllableSymbol b) ∧
          a.span.stop ≤ gap.span.start ∧ gap.span.start < gap.span.stop ∧
          gap.span.stop ≤ b.span.start := by
  refine ⟨?_, ?_, fun front gap back h hspace => ?_⟩
  · rw [Transcription.stressPattern, spelling, symbols]
    cases t.syllables with
    | nil => rfl
    | cons s rest =>
      rw [List.filter_cons_of_pos (by simp [symbol_ne_hyphen]), filter_stressPatternAfter]
      rfl
  · rw [symbols, filter_stressSymbolsAfter, List.map_map]
    rfl
  · obtain ⟨a, b, hgap, hfront, hback⟩ := exists_gapBetween _ h hspace
    have hpair := t.syllables_apart.sublist hgap.neighbours.sublist
    have hlt : a.span.stop < b.span.start :=
      (List.rel_of_pairwise_cons hpair (List.mem_singleton_self b)).2 hgap.word_ne
    refine ⟨a, b, hgap, hfront, hback, ?_⟩
    rw [hgap.span]
    exact ⟨Nat.le_refl _, hlt, Nat.le_refl _⟩

/-- Between a word of two syllables and a word of one the gap is the word boundary. -/
theorem stressPattern_without_hyphens_two : ∃ t,
    Transcription.read .builtin "ˌbʌˈtə kæt".toList = .ok t ∧
      Transcription.stressPattern t = "2-1 U".toList ∧ spelling .stress t = "21 U".toList ∧
      symbols .stress t = [⟨'2', ⟨0, 3⟩⟩, ⟨'1', ⟨3, 6⟩⟩] ++ ⟨' ', ⟨6, 7⟩⟩ :: [⟨'U', ⟨7, 10⟩⟩] ∧
      ∃ a b, IsGapBetween (Transcription.syllables t) ⟨' ', ⟨6, 7⟩⟩ a b ∧
        some ⟨'1', ⟨3, 6⟩⟩ = some (syllableSymbol a) ∧
        some ⟨'U', ⟨7, 10⟩⟩ = some (syllableSymbol b) ∧
        a.span.stop ≤ 6 ∧ 6 < 7 ∧ 7 ≤ b.span.start := by
  have hread : Transcription.read .builtin "ˌbʌˈtə kæt".toList = .ok _ := rfl
  refine ⟨_, hread, ?pattern, ?letters, ?symbols,
    (stressPattern_without_hyphens _).2.2 _ _ _ ?symbols rfl⟩
  all_goals decide +kernel

end PhoneticSearch.Sequence
