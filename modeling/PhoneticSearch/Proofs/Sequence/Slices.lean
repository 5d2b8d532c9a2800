import Mathlib.Data.List.Nodup
import PhoneticSearch.Proofs.Pattern.Found
import PhoneticSearch.Proofs.Pattern.SoundClass
import PhoneticSearch.Proofs.Text.Items
import PhoneticSearch.Proofs.Transcription.Cuts

/-!
# The spelling of what was found

The value of a hit is a part of the transcription, and spelled by itself it gives the letters that
were matched.  By sound class this is because each element has a letter of its own.  By stress the
part is divided into syllables anew: the ends of a hit are ends of symbols, so that they split no
syllable, and the syllables of the part are those of the whole whose symbols were matched.  That
they belong to the same words can be told from the elements between them
(`syllables_word_iff`).  The spaces at the ends of what was matched stand for gaps with no syllable
of the hit on their other side, and these are left out (`find_respelled`).
-/

namespace PhoneticSearch

/-! ### The gaps between words -/

namespace Transcription

/-- Whether a word ends between two spans, the first in front of the second. -/
def breaksBetween (t : Transcription) (a b : Span) : Bool :=
  (t.subsection ⟨a.stop, b.start⟩).any Element.isWordBreak

theorem breaksBetween_iff {t : Transcription} {a b : Span} : t.breaksBetween a b = true ↔
    ∃ i e, a.stop ≤ i ∧ i < b.start ∧ t[i]? = some e ∧ e.isWordBreak = true := by
  simp only [breaksBetween, List.any_eq_true, mem_subsection, Span.mem_iff]
  constructor
  · rintro ⟨e, ⟨i, ⟨hle, hlt⟩, he⟩, hbreak⟩
    exact ⟨i, e, hle, hlt, he, hbreak⟩
  · rintro ⟨i, e, hle, hlt, he, hbreak⟩
    exact ⟨e, ⟨i, ⟨hle, hlt⟩, he⟩, hbreak⟩

/-- In a part, what breaks words is what does so at the same place of the whole. -/
theorem breaksBetween_subsection {t : Transcription} {s a b : Span}
    (h : b.start ≤ (t.subsection s).length) : (t.subsection s).breaksBetween a b =
      t.breaksBetween (a.shift s.start) (b.shift s.start) := by
  unfold breaksBetween
  rw [subsection_subsection h]
  rfl

/-- Of two syllables the second belongs to the word of the first if and only if no word ends between
them. -/
theorem syllables_word_iff (t : Transcription) : t.syllables.Pairwise fun a b =>
    (a.word = b.word ↔ t.breaksBetween a.span b.span = false) := by
  refine t.syllables_apart.imp_of_mem fun {a b} ha hb hab => ?_
  obtain ⟨v, hv, hvstart, hvstop⟩ := t.syllables_inWord a ha
  obtain ⟨w, hw, hwstart, hwstop⟩ := t.syllables_inWord b hb
  have hapos := t.syllables_nonempty a ha
  have hbpos := t.syllables_nonempty b hb
  rw [Bool.eq_false_iff, Ne, breaksBetween_iff]
  constructor
  · -- All that is between the syllables belongs to their word.
    rintro hword ⟨i, e, hle, hlt, he, hbreak⟩
    rw [← hword, hv] at hw
    obtain rfl := Option.some.inj hw
    refine (isWordBreak_iff t he).mp hbreak ⟨v, List.mem_of_getElem? hv, Span.mem_iff.mpr ?_⟩
    omega
  · -- The element behind the word of the first syllable breaks it.
    intro hnone
    by_contra hne
    have hlt : a.word < b.word := by
      refine Nat.lt_of_le_of_ne (Nat.le_of_not_lt fun hgt => ?_) hne
      have := rel_of_getElem? t.wordSpans_apart hgt hw hv
      omega
    have hvw := rel_of_getElem? t.wordSpans_apart hlt hv hw
    have hwithin := (t.syllables_within b hb).1
    refine hnone ⟨v.stop, _, hvstop, by omega, List.getElem?_eq_getElem (by omega), ?_⟩
    rw [isWordBreak_iff t (List.getElem?_eq_getElem (by omega))]
    rintro ⟨u, hu, hin⟩
    obtain ⟨k, hk⟩ := List.getElem?_of_mem hu
    rw [Span.mem_iff] at hin
    rcases Nat.lt_trichotomy k a.word with hk' | rfl | hk'
    · have := rel_of_getElem? t.wordSpans_apart hk' hk hv
      omega
    · obtain rfl := Option.some.inj (hk.symm.trans hv)
      omega
    · have := rel_of_getElem? t.wordSpans_apart hk' hv hk
      omega

end Transcription

namespace Sequence

/-! ### The letters of syllables -/

/-- The symbol of a syllable. -/
def syllableSymbol (s : Syllable) : Symbol := ⟨s.stress.symbol, s.span⟩

/-- The symbol of the gap in front of a syllable, if a word ends there. -/
def gapBefore (previous : Option Syllable) (s : Syllable) : List Symbol :=
  match previous with
  | some p => if p.word = s.word then [] else [⟨' ', ⟨p.span.stop, s.span.start⟩⟩]
  | none => []

/-- At most the symbol of one gap. -/
def IsGap (l : List Symbol) : Prop := l = [] ∨ ∃ s, l = [⟨' ', s⟩]

theorem isGap_gapBefore (previous : Option Syllable) (s : Syllable) :
    IsGap (gapBefore previous s) := by
  cases previous with
  | none => exact .inl rfl
  | some p =>
    rw [gapBefore]
    split
    · exact .inl rfl
    · exact .inr ⟨_, rfl⟩

theorem stressSymbolsAfter_cons (previous : Option Syllable) (s : Syllable)
    (rest : List Syllable) : stressSymbolsAfter previous (s :: rest) =
      gapBefore previous s ++ syllableSymbol s :: stressSymbolsAfter (some s) rest := rfl

/-- The letters of stresses at spans that follow `previous`, with a space where a word ends. -/
def stressLettersAfter (ends : Span → Span → Bool) (previous : Option Span) :
    List (Span × SyllableStress) → Text
  | [] => []
  | (s, stress) :: rest =>
    (if previous.any (ends · s) then [' '] else []) ++
      stress.symbol :: stressLettersAfter ends (some s) rest

/-- What is needed of the words of syllables to spell them is where they end. -/
theorem map_letter_stressSymbolsAfter {ends : Span → Span → Bool} : ∀ (syllables : List Syllable)
    (previous : Option Syllable), (previous.toList ++ syllables).Pairwise (fun a b =>
      (a.word = b.word ↔ ends a.span b.span = false)) →
    (stressSymbolsAfter previous syllables).map (·.letter) =
      stressLettersAfter ends (previous.map (·.span))
        (syllables.map fun s => (s.span, s.stress)) := by
  intro syllables
  induction syllables with
  | nil => exact fun _ _ => rfl
  | cons s rest ih =>
    intro previous hwords
    have hrest := ih (some s) (List.pairwise_append.mp hwords).2.1
    rw [stressSymbolsAfter_cons, List.map_append, List.map_cons, hrest, List.map_cons,
      stressLettersAfter]
    congr 1
    cases previous with
    | none => rfl
    | some p =>
      have hiff := (List.pairwise_append.mp hwords).2.2 p (List.mem_singleton_self p) s
        List.mem_cons_self
      by_cases hword : p.word = s.word
      · simp [gapBefore, hword, hiff.mp hword]
      · have hends : ends p.span s.span = true := by
          rw [← Bool.not_eq_false]
          exact mt hiff.mpr hword
        simp [gapBefore, hword, hends]

/-- Letters are not changed by moving the spans. -/
theorem stressLettersAfter_shift {ends : Span → Span → Bool} (distance : Nat) :
    ∀ (stresses : List (Span × SyllableStress)) (previous : Option Span),
      stressLettersAfter (fun a b => ends (a.shift distance) (b.shift distance)) previous stresses =
        stressLettersAfter ends (previous.map (·.shift distance))
          (stresses.map fun x => (x.1.shift distance, x.2)) := by
  intro stresses
  induction stresses with
  | nil => exact fun _ => rfl
  | cons x rest ih =>
    intro previous
    rw [List.map_cons, stressLettersAfter, stressLettersAfter, ih]
    cases previous <;> rfl

theorem mem_stressSymbolsAfter {s : Syllable} {syllables : List Syllable}
    (previous : Option Syllable) (h : s ∈ syllables) :
    syllableSymbol s ∈ stressSymbolsAfter previous syllables := by
  induction syllables generalizing previous with
  | nil => cases h
  | cons x rest ih =>
    rw [stressSymbolsAfter_cons, List.mem_append, List.mem_cons]
    rcases List.mem_cons.mp h with rfl | h
    · exact .inr (.inl rfl)
    · exact .inr (.inr (ih (some x) h))

/-- Where the symbols of syllables are divided, the syllables are, and a gap there belongs to one
of the parts. -/
theorem stressSymbolsAfter_eq_append : ∀ (syllables : List Syllable) {previous : Option Syllable}
    {front back : List Symbol}, stressSymbolsAfter previous syllables = front ++ back →
    ∃ before behind trail lead, syllables = before ++ behind ∧ IsGap trail ∧ IsGap lead ∧
      front = stressSymbolsAfter previous before ++ trail ∧
      back = lead ++ stressSymbolsAfter none behind := by
  intro syllables
  induction syllables with
  | nil =>
    intro previous front back h
    obtain ⟨rfl, rfl⟩ := List.append_eq_nil_iff.mp h.symm
    exact ⟨[], [], [], [], rfl, .inl rfl, .inl rfl, rfl, rfl⟩
  | cons s rest ih =>
    intro previous front back h
    have hgap := isGap_gapBefore previous s
    rw [stressSymbolsAfter_cons] at h
    rcases List.append_eq_append_iff.mp h with ⟨more, rfl, hmore⟩ | ⟨lead, hlead, rfl⟩
    · cases more with
      | nil =>
        refine ⟨[], s :: rest, gapBefore previous s, [], rfl, hgap, .inl rfl, ?_, hmore.symm⟩
        exact List.append_nil _
      | cons symbol more =>
        -- The syllable belongs to the part in front.
        rw [List.cons_append] at hmore
        obtain ⟨rfl, hrest⟩ := List.cons.inj hmore
        obtain ⟨before, behind, trail, lead, rfl, htrail, hlead, rfl, rfl⟩ := ih hrest
        refine ⟨s :: before, behind, trail, lead, rfl, htrail, hlead, ?_, rfl⟩
        rw [stressSymbolsAfter_cons, List.append_assoc]
        rfl
    · -- All of the part in front belongs to the gap.
      have hgaps : IsGap front ∧ IsGap lead := by
        rcases hgap with hnil | ⟨gap, hone⟩
        · rw [hlead, List.append_eq_nil_iff] at hnil
          exact ⟨.inl hnil.1, .inl hnil.2⟩
        · rw [hlead, List.append_eq_singleton_iff] at hone
          rcases hone with ⟨hfront, hrest⟩ | ⟨hfront, hrest⟩
          · exact ⟨.inl hfront, .inr ⟨gap, hrest⟩⟩
          · exact ⟨.inr ⟨gap, hfront⟩, .inl hrest⟩
      exact ⟨[], s :: rest, front, lead, rfl, hgaps.1, hgaps.2, rfl, rfl⟩

/-- Symbols in the middle of those of syllables are the symbols of the syllables in the middle, with
gaps at the ends. -/
theorem exists_syllables_middle {syllables : List Syllable} {front middle back : List Symbol}
    (h : stressSymbolsAfter none syllables = front ++ (middle ++ back)) (hmiddle : middle ≠ []) :
    ∃ before between behind lead trail, syllables = before ++ (between ++ behind) ∧
      IsGap lead ∧ IsGap trail ∧ middle = lead ++ stressSymbolsAfter none between ++ trail ∧
      (∀ s ∈ before, syllableSymbol s ∈ front) ∧ ∀ s ∈ behind, syllableSymbol s ∈ back := by
  obtain ⟨before, later, gap, lead, rfl, -, hlead, rfl, hlater⟩ := stressSymbolsAfter_eq_append _ h
  have hbefore : ∀ s ∈ before, syllableSymbol s ∈ stressSymbolsAfter none before ++ gap :=
    fun s hs => List.mem_append_left _ (mem_stressSymbolsAfter none hs)
  -- The gap in front of the first syllable is part of the middle.
  obtain ⟨rest, rfl, hrest⟩ : ∃ rest, middle = lead ++ rest ∧
      stressSymbolsAfter none later = rest ++ back := by
    rcases hlead with rfl | ⟨s, rfl⟩
    · exact ⟨middle, rfl, hlater.symm⟩
    · obtain ⟨symbol, rest, rfl⟩ := List.exists_cons_of_ne_nil hmiddle
      obtain ⟨rfl, hrest⟩ := List.cons.inj hlater
      exact ⟨rest, rfl, hrest.symm⟩
  obtain ⟨between, behind, trail, gap', rfl, htrail, -, rfl, rfl⟩ :=
    stressSymbolsAfter_eq_append _ hrest
  refine ⟨before, between, behind, lead, trail, rfl, hlead, htrail,
    (List.append_assoc _ _ _).symm, hbefore, fun s hs => ?_⟩
  exact List.mem_append_right _ (mem_stressSymbolsAfter none hs)

theorem isBlank_symbol (stress : SyllableStress) : isBlank stress.symbol = false := by
  cases stress <;> rfl

/-- The last symbol is that of a syllable. -/
theorem isBlank_getLast : ∀ (syllables : List Syllable) (previous : Option Syllable),
    ∀ c ∈ ((stressSymbolsAfter previous syllables).map (·.letter)).getLast?,
      isBlank c = false := by
  intro syllables
  induction syllables with
  | nil => intro previous c hc; cases hc
  | cons s rest ih =>
    intro previous c hc
    rw [stressSymbolsAfter_cons, List.map_append, List.map_cons, List.getLast?_append,
      List.getLast?_cons, Option.some_or] at hc
    obtain rfl := Option.some.inj hc
    cases hlast : ((stressSymbolsAfter (some s) rest).map (·.letter)).getLast? with
    | none => exact isBlank_symbol s.stress
    | some c => exact ih (some s) c hlast

/-- Without the gaps at the ends there is what the syllables in the middle are spelled by. -/
theorem trim_gaps {lead trail : List Symbol} (hlead : IsGap lead) (htrail : IsGap trail)
    (syllables : List Syllable) :
    Text.trim ((lead ++ stressSymbolsAfter none syllables ++ trail).map (·.letter)) =
      (stressSymbolsAfter none syllables).map (·.letter) := by
  have hblank : ∀ {gap : List Symbol}, IsGap gap → ∀ c ∈ gap.map (·.letter), isBlank c = true := by
    rintro gap (rfl | ⟨s, rfl⟩) c hc
    · cases hc
    · obtain rfl := List.mem_singleton.mp hc
      rfl
  rw [List.map_append, List.map_append]
  refine Text.trim_padded (hblank hlead) (hblank htrail) ?_ (isBlank_getLast syllables none)
  intro c hc
  cases syllables with
  | nil => cases hc
  | cons s rest =>
    obtain rfl := Option.some.inj hc
    exact isBlank_symbol s.stress

/-! ### What was matched -/

/-- The symbols with some numbers. -/
def matchedSymbols (kind : Kind) (t : Transcription) (s : Span) : List Symbol :=
  ((symbols kind t).take s.stop).drop s.start

/-- The letters with some numbers. -/
def matched (kind : Kind) (t : Transcription) (s : Span) : Text :=
  ((spelling kind t).take s.stop).drop s.start

/-- The syllables that some of the symbols stand for. -/
def matchedSyllables (t : Transcription) (s : Span) : List Syllable :=
  t.syllables.filter (syllableSymbol · ∈ matchedSymbols .stress t s)

theorem matched_eq (kind : Kind) (t : Transcription) (s : Span) :
    matched kind t s = (matchedSymbols kind t s).map (·.letter) := by
  rw [matched, matchedSymbols, spelling, List.map_drop, List.map_take]

section Slice

variable {t : Transcription} {s : Span}

theorem mem_matchedSymbols (hlt : s.start < s.stop) (hstop : s.stop ≤ (symbols .stress t).length)
    {x : Syllable} (hx : x ∈ t.syllables) : syllableSymbol x ∈ matchedSymbols .stress t s ↔
      (elementSpan (symbols .stress t) s).encloses x.span = true := by
  rw [matchedSymbols, ← (symbols_inOrder .stress t).filter_encloses hlt
    (covers_elementSpan hlt hstop), List.mem_filter]
  exact and_iff_right (mem_stressSymbolsAfter none hx)

theorem matchedSyllables_eq (hlt : s.start < s.stop)
    (hstop : s.stop ≤ (symbols .stress t).length) : matchedSyllables t s =
      t.syllables.filter fun x => (elementSpan (symbols .stress t) s).encloses x.span := by
  refine List.filter_congr fun x hx => ?_
  rw [Bool.eq_iff_iff, decide_eq_true_eq]
  exact mem_matchedSymbols hlt hstop hx

/-- What was matched is spelled by the syllables that were, with gaps at the ends. -/
theorem trim_matched (hlt : s.start < s.stop) (hstop : s.stop ≤ (symbols .stress t).length) :
    Text.trim (matched .stress t s) =
      (stressSymbolsAfter none (matchedSyllables t s)).map (·.letter) := by
  have hsplit : symbols .stress t = (symbols .stress t).take s.start ++
      (matchedSymbols .stress t s ++ (symbols .stress t).drop s.stop) := by
    have htake := List.take_append_drop s.start ((symbols .stress t).take s.stop)
    rw [List.take_take, Nat.min_eq_left (Nat.le_of_lt hlt)] at htake
    rw [matchedSymbols, ← List.append_assoc, htake, List.take_append_drop]
  have hmiddle : matchedSymbols .stress t s ≠ [] := by
    refine List.ne_nil_of_length_pos ?_
    rw [matchedSymbols, List.length_drop, List.length_take]
    omega
  have hnodup : (symbols .stress t).Nodup := List.Nodup.of_map _ (symbols_inOrder .stress t).nodup
  obtain ⟨before, between, behind, lead, trail, hsyllables, hlead, htrail, heq, hbefore, hbehind⟩ :=
    exists_syllables_middle hsplit hmiddle
  rw [hsplit, List.nodup_append, List.nodup_append] at hnodup
  obtain ⟨-, ⟨-, -, hback⟩, hfront⟩ := hnodup
  have hmatched : matchedSyllables t s = between := by
    rw [matchedSyllables, hsyllables, List.filter_append, List.filter_append]
    rw [List.filter_eq_nil_iff.mpr, List.filter_eq_self.mpr, List.filter_eq_nil_iff.mpr]
    · rw [List.nil_append, List.append_nil]
    · intro x hx hin
      exact hback _ (of_decide_eq_true hin) _ (hbehind x hx) rfl
    · intro x hx
      refine decide_eq_true ?_
      rw [heq]
      exact List.mem_append_left _ (List.mem_append_right _ (mem_stressSymbolsAfter none hx))
    · intro x hx hin
      exact hfront _ (hbefore x hx) _ (List.mem_append_left _ (of_decide_eq_true hin)) rfl
  rw [matched_eq, heq, trim_gaps hlead htrail, hmatched]

/-- The syllables of the part that a hit covers are those that were matched. -/
theorem placedSyllables_slice (hlt : s.start < s.stop)
    (hstop : s.stop ≤ (symbols .stress t).length) {span : Span}
    (hspan : span = elementSpan (symbols .stress t) s) :
    Transcription.placedSyllables span.start (t.subsection span) =
      (matchedSyllables t s).map fun x => (x.span, x.stress) := by
  have horder := symbols_inOrder .stress t
  have hcovers := covers_elementSpan hlt hstop
  have hends : ∀ x ∈ t.syllables, ¬ x.span.Splits span.start ∧ ¬ x.span.Splits span.stop := by
    intro x hx
    rw [hspan]
    exact horder.not_splits hcovers
      (List.mem_map_of_mem (f := Symbol.span) (mem_stressSymbolsAfter none hx))
  have hle : span.start ≤ span.stop := by
    rw [hspan]
    exact Nat.le_of_lt (horder.lt_of_covers hlt hcovers)
  have hwithin : span.stop ≤ t.length := by
    rw [hspan]
    exact elementSpan_stop (symbols_stop .stress t) s
  rw [Transcription.placedSyllables_subsection hle hwithin hends, matchedSyllables_eq hlt hstop,
    Transcription.placedSyllables_zero, List.filter_map, hspan]
  rfl

/-- By stress, the part that a hit covers is spelled like what was matched, without the gaps at the
ends. -/
theorem spelling_stress_slice (hlt : s.start < s.stop)
    (hstop : s.stop ≤ (symbols .stress t).length) {span : Span}
    (hspan : span = elementSpan (symbols .stress t) s) :
    spelling .stress (t.subsection span) = Text.trim (matched .stress t s) := by
  have hwords : (t.subsection span).syllables.Pairwise fun a b => (a.word = b.word ↔
      t.breaksBetween (a.span.shift span.start) (b.span.shift span.start) = false) := by
    refine (t.subsection span).syllables_word_iff.imp_of_mem fun {a b} _ hb hab => ?_
    rwa [Transcription.breaksBetween_subsection
      ((t.subsection span).syllables_within b hb).1] at hab
  have hmatched : (matchedSyllables t s).Pairwise fun a b =>
      (a.word = b.word ↔ t.breaksBetween a.span b.span = false) :=
    t.syllables_word_iff.sublist List.filter_sublist
  calc spelling .stress (t.subsection span)
    _ = stressLettersAfter (fun a b => t.breaksBetween (a.shift span.start) (b.shift span.start))
        none ((t.subsection span).syllables.map fun x => (x.span, x.stress)) :=
      map_letter_stressSymbolsAfter _ none hwords
    _ = stressLettersAfter t.breaksBetween none
        (Transcription.placedSyllables span.start (t.subsection span)) := by
      rw [stressLettersAfter_shift, List.map_map]
      rfl
    _ = stressLettersAfter t.breaksBetween none
        ((matchedSyllables t s).map fun x => (x.span, x.stress)) := by
      rw [placedSyllables_slice hlt hstop hspan]
    _ = (stressSymbolsAfter none (matchedSyllables t s)).map (·.letter) :=
      (map_letter_stressSymbolsAfter _ none hmatched).symm
    _ = Text.trim (matched .stress t s) := (trim_matched hlt hstop).symm

/-- The symbols of elements from a position on stand there. -/
theorem soundClassSymbols_within {part : Transcription} {i : Nat} : ∀ symbol ∈
    (part.zipIdx i).filterMap (fun x => soundClassSymbol x.1 x.2),
      i ≤ symbol.span.start ∧ symbol.span.start < symbol.span.stop ∧
        symbol.span.stop ≤ i + part.length := by
  intro symbol h
  obtain ⟨x, hx, hsymbol⟩ := List.mem_filterMap.mp h
  have hle := List.le_snd_of_mem_zipIdx hx
  have hlt := List.snd_lt_add_of_mem_zipIdx hx
  rw [soundClassSymbol_span hsymbol]
  exact ⟨hle, Nat.lt_succ_self _, Nat.succ_le_of_lt (by omega)⟩

/-- By sound class, the part that a hit covers is spelled like what was matched. -/
theorem spelling_soundClass_slice (hlt : s.start < s.stop)
    (hstop : s.stop ≤ (symbols .soundClass t).length) {span : Span}
    (hspan : span = elementSpan (symbols .soundClass t) s) :
    spelling .soundClass (t.subsection span) = matched .soundClass t s := by
  have horder := symbols_inOrder .soundClass t
  have hcovers := covers_elementSpan hlt hstop
  have hwithin := elementSpan_stop (symbols_stop .soundClass t) s
  have hle := Nat.le_of_lt (horder.lt_of_covers hlt hcovers)
  rw [← hspan] at hcovers hwithin hle
  have hfront : (t.take span.start).length = span.start := by
    rw [List.length_take]
    omega
  have hpart : (t.subsection span).length = span.stop - span.start := by
    rw [Transcription.length_subsection]
    omega
  have hsplit : t = t.take span.start ++ (t.subsection span ++ t.drop span.stop) := by
    rw [← List.append_assoc, Transcription.take_append_subsection hle, List.take_append_drop]
  -- The symbols in front of the part, of the part and behind it.
  have hsymbols : symbols .soundClass t =
      ((t.take span.start).zipIdx 0).filterMap (fun x => soundClassSymbol x.1 x.2) ++
        (((t.subsection span).zipIdx span.start).filterMap (fun x => soundClassSymbol x.1 x.2) ++
          ((t.drop span.stop).zipIdx span.stop).filterMap
            (fun x => soundClassSymbol x.1 x.2)) := by
    have hstart : 0 + (t.take span.start).length = span.start := by omega
    have hend : span.start + (t.subsection span).length = span.stop := by omega
    show (t.zipIdx 0).filterMap (fun x => soundClassSymbol x.1 x.2) = _
    conv_lhs => rw [hsplit]
    rw [List.zipIdx_append, List.filterMap_append, hstart, List.zipIdx_append,
      List.filterMap_append, hend]
  rw [matched_eq, matchedSymbols, ← horder.filter_encloses hlt hcovers, hsymbols,
    List.filter_append, List.filter_append, List.filter_eq_nil_iff.mpr, List.filter_eq_self.mpr,
    List.filter_eq_nil_iff.mpr, List.nil_append, List.append_nil, map_letter_soundClassSymbol,
    spelling_soundClass]
  · intro symbol hsymbol
    have := soundClassSymbols_within symbol hsymbol
    rw [Span.encloses_iff]
    omega
  · intro symbol hsymbol
    have := soundClassSymbols_within symbol hsymbol
    rw [Span.encloses_iff]
    omega
  · intro symbol hsymbol
    have := soundClassSymbols_within symbol hsymbol
    rw [Span.encloses_iff]
    omega

end Slice

/-- **The spelling of what was found.**  The hits of a search take rows of symbols, one after the
other, and the value of each is a part of the transcription.  By sound class the part by itself is
spelled as it was matched; by stress it is so but for the spaces at the ends of what was matched,
and the syllables of the part, moved to where it starts, are those that were matched, with their
stresses. -/
theorem find_respelled (kind : Kind) (items : List Item) (t : Transcription) :
    List.Forall₂ (fun s hit => hit.value = .transcription (t.subsection hit.span) ∧
      match kind with
      | .soundClass => spelling .soundClass (t.subsection hit.span) = matched .soundClass t s
      | .stress => spelling .stress (t.subsection hit.span) = Text.trim (matched .stress t s) ∧
          Transcription.placedSyllables hit.span.start (t.subsection hit.span) =
            (matchedSyllables t s).map fun x => (x.span, x.stress))
      (foundSpans kind items t) (find kind items t) := by
  show List.Forall₂ _ _ ((foundSpans kind items t).map _)
  rw [List.forall₂_map_right_iff, List.forall₂_same]
  intro s hs
  obtain ⟨hlt, hstop⟩ := foundSpans_within s hs
  refine ⟨rfl, ?_⟩
  cases kind with
  | soundClass => exact spelling_soundClass_slice hlt hstop rfl
  | stress =>
    exact ⟨spelling_stress_slice hlt hstop rfl, placedSyllables_slice hlt hstop rfl⟩

end Sequence

end PhoneticSearch
