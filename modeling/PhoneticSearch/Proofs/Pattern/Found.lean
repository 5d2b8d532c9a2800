import PhoneticSearch.Filter.Pattern
import PhoneticSearch.Proofs.Phonex.Search
import PhoneticSearch.Proofs.Sequence.Search
import PhoneticSearch.Proofs.Transcription.Subsection
import PhoneticSearch.Proofs.Transcription.Syllable

/-!
# What is found is there

A hit says where it was found in a value and what was found.  `FoundIn` says that the
two agree: a text stands at its bytes in the written value, and a transcription is the
part of the value that its span covers.  Every dialect finds such hits only
(`CompiledPattern.find_foundIn`), and so does a filter that asks for whole values
(`PatternFilter.find_foundIn`).
-/

namespace PhoneticSearch

/-- A hit is what a value has where the hit was found. -/
inductive FoundIn : Value → Hit → Prop where
  /-- A text, at the bytes of the written value. -/
  | text {v : Value} {s : Span} {part : Text} (h : part.StandsAt v.render s) :
    FoundIn v ⟨s, .text part⟩
  /-- The elements of a span of a transcription. -/
  | elements {t : Transcription} {s : Span} (h : s.stop ≤ t.length) :
    FoundIn (.transcription t) ⟨s, .transcription (t.subsection s)⟩
  /-- A phone as a whole. -/
  | phone {p : Phone} : FoundIn (.phone p) ⟨⟨0, 1⟩, .phone p⟩

/-- A hit moved to the right. -/
def Hit.shift (hit : Hit) (distance : Nat) : Hit := { hit with span := hit.span.shift distance }

theorem Hit.shift_shift (hit : Hit) (a b : Nat) : (hit.shift a).shift b = hit.shift (a + b) := by
  simp only [Hit.shift, Span.shift, Nat.add_assoc]

/-- The hits of plain patterns behind `before`. -/
theorem Plain.hitsFrom_standsAt (p : Plain) : ∀ (rest before : Text) (skip : Nat),
    ∀ hit ∈ p.hitsFrom (Text.size before) skip rest,
      ∃ part, hit.value = .text part ∧ part.StandsAt (before ++ rest) hit.span := by
  intro rest
  induction rest with
  | nil =>
    intro before skip hit h
    cases skip <;> cases h
  | cons c rest ih =>
    intro before skip hit h
    have later : ∀ skip, hit ∈ p.hitsFrom (Text.size before + c.utf8Size) skip rest →
        ∃ part, hit.value = .text part ∧ part.StandsAt (before ++ c :: rest) hit.span := by
      intro skip h
      have hsize : Text.size before + c.utf8Size = Text.size (before ++ [c]) := by simp
      rw [hsize] at h
      simpa using ih (before ++ [c]) skip hit h
    cases skip with
    | succ skip => exact later skip h
    | zero =>
      rw [hitsFrom] at h
      split at h
      · rcases List.mem_cons.mp h with rfl | h
        · refine ⟨_, rfl, before, (c :: rest).drop p.needle.length, ?_, rfl, rfl⟩
          rw [List.append_assoc, List.take_append_drop]
        · exact later _ h
      · exact later _ h

theorem Plain.find_foundIn (p : Plain) (v : Value) : ∀ hit ∈ p.find v.render, FoundIn v hit := by
  intro hit h
  unfold find at h
  split at h
  · cases h
  · obtain ⟨part, hvalue, hpart⟩ := p.hitsFrom_standsAt v.render [] 0 hit h
    obtain ⟨s, value⟩ := hit
    obtain rfl : value = .text part := hvalue
    exact .text hpart

theorem Regex.find_foundIn (r : Regex) (v : Value) : ∀ hit ∈ r.find v.render, FoundIn v hit := by
  intro hit h
  obtain ⟨s, -, rfl⟩ := List.mem_map.mp h
  refine .text ⟨v.render.take s.start, (v.render.drop s.start).drop s.length, ?_, rfl, rfl⟩
  rw [List.append_assoc, List.take_append_drop, List.take_append_drop]

theorem Phonex.find_foundIn (root : Phonex.Node) (t : Transcription) :
    ∀ hit ∈ Phonex.find root t, FoundIn (.transcription t) hit := by
  intro hit h
  rw [Phonex.find_eq] at h
  obtain ⟨s, hs, rfl⟩ := List.mem_map.mp h
  obtain ⟨e, last, hlast, hstop⟩ := (Phonex.hitAt_of_mem hs).stops
  obtain ⟨hlt, -⟩ := List.getElem?_eq_some_iff.mp (Phonex.visible_getElem? hlast).1
  refine .elements ?_
  show (Phonex.hitOf t ((Phonex.visible t).map (·.2)) s).span.stop ≤ t.length
  omega

namespace Sequence

/-- The symbols of syllables end where syllables do. -/
theorem stressSymbolsAfter_stop {size : Nat} : ∀ (syllables : List Syllable)
    (previous : Option Syllable), (∀ s ∈ syllables, Transcription.EndsWithin size s.span) →
    ∀ symbol ∈ stressSymbolsAfter previous syllables, symbol.span.stop ≤ size := by
  intro syllables
  induction syllables with
  | nil =>
    intro previous _ symbol h
    cases h
  | cons s rest ih =>
    intro previous hwithin symbol h
    have hs := hwithin s List.mem_cons_self
    simp only [stressSymbolsAfter] at h
    rcases List.mem_append.mp h with h | h
    · cases previous with
      | none => cases h
      | some p =>
        dsimp only at h
        split at h
        · cases h
        · obtain rfl := List.mem_singleton.mp h
          exact hs.1
    · rcases List.mem_cons.mp h with rfl | h
      · exact hs.2
      · exact ih (some s) (fun s hs => hwithin s (List.mem_cons_of_mem _ hs)) symbol h

/-- The symbols of a transcription end inside it. -/
theorem symbols_stop (kind : Kind) (t : Transcription) :
    ∀ symbol ∈ symbols kind t, symbol.span.stop ≤ t.length := by
  intro symbol h
  cases kind with
  | stress =>
    exact stressSymbolsAfter_stop _ none (Transcription.syllables_within t) symbol h
  | soundClass =>
    obtain ⟨⟨e, i⟩, hmem, hsymbol⟩ := List.mem_filterMap.mp h
    have hi : i < t.length := by
      have := List.snd_lt_of_mem_zipIdx hmem
      simpa using this
    rw [soundClassSymbol_span hsymbol]
    exact hi

theorem elementSpan_stop {size : Nat} {symbols : List Symbol}
    (h : ∀ symbol ∈ symbols, symbol.span.stop ≤ size) (s : Span) :
    (elementSpan symbols s).stop ≤ size := by
  unfold elementSpan
  split
  · rename_i first last _ hlast
    exact h last (List.mem_of_getElem? hlast)
  · exact Nat.zero_le size

theorem find_foundIn (kind : Kind) (items : List Item) (t : Transcription) :
    ∀ hit ∈ find kind items t, FoundIn (.transcription t) hit := by
  intro hit h
  obtain ⟨s, -, rfl⟩ := List.mem_map.mp h
  exact .elements (elementSpan_stop (symbols_stop kind t) s)

end Sequence

/-- The hits of a pattern are there. -/
theorem CompiledPattern.find_foundIn (p : CompiledPattern) (v : Value) :
    ∀ hit ∈ p.find v, FoundIn v hit := by
  intro hit h
  cases p with
  | plain p => exact p.find_foundIn v hit h
  | regex r => exact r.find_foundIn v hit h
  | phonex root =>
    cases v with
    | transcription t => exact Phonex.find_foundIn root t hit h
    | text t => cases h
    | phone p => cases h
  | sequence kind items =>
    cases v with
    | transcription t => exact Sequence.find_foundIn kind items t hit h
    | text t => cases h
    | phone p => cases h

namespace PatternFilter

theorem wholeHit_foundIn (f : PatternFilter) (v : Value) : FoundIn v (f.wholeHit v) := by
  unfold wholeHit
  split
  · exact .text (Text.StandsAt.refl v.render)
  · cases v with
    | text t => exact .text (Text.StandsAt.refl t)
    | phone p => exact .phone
    | transcription t =>
      have hwhole : t.subsection ⟨0, t.length⟩ = t := List.take_length
      have h : FoundIn (.transcription t) _ := .elements (s := ⟨0, t.length⟩) (Nat.le_refl t.length)
      rwa [hwhole] at h

/-- A filter finds the hits of its pattern, or the whole of a value that the pattern matches. -/
theorem mem_find {f : PatternFilter} {v : Value} {hit : Hit} (h : hit ∈ f.find v) :
    ∃ p, f.pattern? = some p ∧ (f.spec.exact = false ∧ hit ∈ p.find v ∨
      f.spec.exact = true ∧ p.isWhole v = true ∧ hit = f.wholeHit v) := by
  unfold find at h
  split at h
  · cases h
  · rename_i p hp
    refine ⟨p, hp, ?_⟩
    split at h
    · rename_i hexact
      exact .inl ⟨by simpa using hexact, h⟩
    · rename_i hexact
      split at h
      · rename_i hwhole
        exact .inr ⟨by simpa using hexact, hwhole, List.mem_singleton.mp h⟩
      · cases h

/-- The hits of a filter are there, be they parts or wholes of values. -/
theorem find_foundIn (f : PatternFilter) (v : Value) : ∀ hit ∈ f.find v, FoundIn v hit := by
  intro hit h
  obtain ⟨p, -, ⟨-, hhit⟩ | ⟨-, -, rfl⟩⟩ := mem_find h
  · exact p.find_foundIn v hit hhit
  · exact f.wholeHit_foundIn v

end PatternFilter

end PhoneticSearch
