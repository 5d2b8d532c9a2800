import PhoneticSearch.Proofs.Pattern.Found
import PhoneticSearch.Proofs.Tier.Data
import PhoneticSearch.Search.Location

/-!
# Addresses in the values of a group

A value of a result names a tier, a group and a span of bytes.  `ResultValue.IsAt` says
that this is an address: the data of the value stand at the span in what the group has
on the tier.  It holds of every value that a result is made of, be it placed
(`place_result_isAt`), aligned (`alignedResult_isAt`) or read from a stored tier
(`data_isAt`).

What an object has on a tier is a part of what its group has there, and the offsets of
the object say where that part begins, in elements and in bytes.  `GroupView.HasAt` is
the one statement of this that covers groups, words and syllables
(`hasAt_of_tierValue`).
-/

namespace PhoneticSearch

namespace GroupView

/-- What a group has on a tier as it is written; nothing where it has no value. -/
def written (g : GroupView) (tier : TierName) : Text := (g.tierValue tier).elim [] Value.render

theorem written_eq {g : GroupView} {tier : TierName} {v : Value} (h : g.tierValue tier = some v) :
    g.written tier = v.render := by
  rw [written, h]
  rfl

/-- A value is a part of what a group has on a tier, and begins at two offsets: one
counts elements, as far as the tier has any, and one counts bytes. -/
inductive HasAt (g : GroupView) : TierName → (elementOffset tierOffset : Nat) → Value → Prop where
  /-- The elements of a span. -/
  | elements (side : Side) (s : Span) :
    HasAt g (.ipa side) s.start ((g.group.transcription side).byteOffset s.start)
      (.transcription ((g.group.transcription side).subsection s))
  /-- A part of a text. -/
  | text {tier : TierName} {full part : Text} {elementOffset tierOffset : Nat}
      (hfull : g.tierValue tier = some (.text full))
      (hpart : part.StandsAt full ⟨tierOffset, tierOffset + Text.size part⟩) :
    HasAt g tier elementOffset tierOffset (.text part)

/-- A part of a value as it is written stands in the written value of the group. -/
theorem HasAt.standsAt {g : GroupView} {tier : TierName} {elementOffset tierOffset : Nat}
    {v : Value} (h : g.HasAt tier elementOffset tierOffset v) :
    v.render.StandsAt (g.written tier) ⟨tierOffset, tierOffset + Text.size v.render⟩ := by
  cases h with
  | elements side s => exact Transcription.standsAt_subsection _ s
  | text hfull hpart =>
    rw [written_eq hfull]
    exact hpart

/-- Only transcriptions have parts that are transcriptions. -/
theorem HasAt.of_transcription {g : GroupView} {tier : TierName} {elementOffset tierOffset : Nat}
    {t : Transcription} (h : g.HasAt tier elementOffset tierOffset (.transcription t)) :
    ∃ side s, tier = .ipa side ∧ elementOffset = s.start ∧
      t = (g.group.transcription side).subsection s := by
  cases h with
  | elements side s => exact ⟨side, s, rfl, rfl, rfl⟩

theorem not_hasAt_phone {g : GroupView} {tier : TierName} {elementOffset tierOffset : Nat}
    {p : Phone} : ¬ g.HasAt tier elementOffset tierOffset (.phone p) := by
  intro h
  cases h

/-- A group has texts on the tiers that are no transcriptions. -/
theorem tierValue_text {g : GroupView} {tier : TierName} {v : Value}
    (htier : tier.side? = none) (h : g.tierValue tier = some v) : ∃ t, v = .text t := by
  cases tier with
  | ipa side => cases htier
  | orthography => exact ⟨_, (Option.some.inj h).symm⟩
  | notes =>
    obtain ⟨t, -, rfl⟩ := Option.map_eq_some_iff.mp h
    exact ⟨t, rfl⟩
  | user name =>
    simp only [tierValue] at h
    split at h
    · exact ⟨_, (Option.some.inj h).symm⟩
    · obtain ⟨t, -, rfl⟩ := Option.map_eq_some_iff.mp h
      exact ⟨t, rfl⟩

/-- What a group stores itself goes before what its record has. -/
theorem tierValue_of_text? {g : GroupView} {tier : TierName} {t : Text}
    (h : g.group.text? tier = some t) : g.tierValue tier = some (.text t) := by
  cases tier with
  | ipa side => cases h
  | notes => cases h
  | orthography => exact congrArg (Option.map Value.text) h
  | user name =>
    have hlookup : g.group.tiers.lookup name = some t := h
    simp only [tierValue, hlookup]

end GroupView

namespace Word

variable {tier : TierName}

/-- All texts are cut into words alike, so the tier only decides which text it is. -/
theorem tierValue_of_side? (htier : tier.side? = none) (w : Word) :
    w.tierValue tier = (w.textWord? tier).map fun word => .text word.2 := by
  cases tier with
  | ipa side => cases htier
  | orthography | notes | user name => rfl

theorem tierOffset_of_side? (htier : tier.side? = none) (w : Word) :
    w.tierOffset tier = (w.textWord? tier).elim 0 (·.1) := by
  cases tier with
  | ipa side => cases htier
  | orthography | notes | user name => rfl

end Word

/-! ### The offsets of objects -/

/-- Whether a scope is a group or a word of it. -/
def Scope.IsIn (g : GroupView) : Scope → Prop
  | group g' => g' = g
  | word w => w.group = g.group ∧ w.groupIndex = g.index

namespace Scope

variable {g : GroupView} {scope : Scope} {tier : TierName} {v : Value}

theorem IsIn.inGroup_eq (h : scope.IsIn g) : scope.inGroup = g.group := by
  cases scope with
  | group g' => exact congrArg GroupView.group h
  | word w => exact h.1

theorem IsIn.groupIndex_eq (h : scope.IsIn g) : scope.groupIndex = g.index := by
  cases scope with
  | group g' => exact congrArg GroupView.index h
  | word w => exact h.2

/-- A group begins where it begins. -/
theorem group_hasAt (h : g.tierValue tier = some v) : g.HasAt tier 0 0 v := by
  cases hside : tier.side? with
  | none =>
    obtain ⟨t, rfl⟩ := GroupView.tierValue_text hside h
    refine .text h ?_
    rw [Nat.zero_add]
    exact Text.StandsAt.refl t
  | some side =>
    cases tier with
    | ipa side =>
      obtain rfl := Option.some.inj h
      have hwhole := GroupView.HasAt.elements (g := g) side
        ⟨0, (g.group.transcription side).length⟩
      rwa [Transcription.subsection, List.take_length] at hwhole
    | orthography | notes | user name => cases hside

/-- A word begins at its offsets: those of its elements in a transcription, and that of
the word of the text otherwise. -/
theorem word_hasAt {w : Word} (hgroup : w.group = g.group) (h : w.tierValue tier = some v) :
    g.HasAt tier (w.elementOffset tier) (w.tierOffset tier) v := by
  cases hside : tier.side? with
  | some side =>
    cases tier with
    | ipa side =>
      obtain ⟨s, hs, rfl⟩ := Option.map_eq_some_iff.mp h
      simp only [Word.elementOffset, Word.tierOffset, hs, hgroup]
      exact .elements side s
    | orthography | notes | user name => cases hside
  | none =>
    rw [Word.tierValue_of_side? hside] at h
    obtain ⟨⟨start, part⟩, hfound, rfl⟩ := Option.map_eq_some_iff.mp h
    obtain ⟨full, hfull, hpart⟩ := Option.bind_eq_some_iff.mp hfound
    rw [hgroup] at hfull
    rw [Word.tierOffset_of_side? hside, hfound]
    exact .text (GroupView.tierValue_of_text? hfull)
      (Text.standsAt_of_mem_words (List.mem_of_getElem? hpart))

theorem hasAt_of_tierValue (hin : scope.IsIn g) (h : scope.tierValue tier = some v) :
    g.HasAt tier (scope.elementOffset tier) (scope.tierOffset tier) v := by
  cases scope with
  | group g' =>
    obtain rfl : g' = g := hin
    exact group_hasAt h
  | word w => exact word_hasAt hin.1 h

end Scope

namespace SearchObject

/-- Whether an object belongs to a group. -/
def IsIn (g : GroupView) (o : SearchObject) : Prop := o.toScope.IsIn g

variable {g : GroupView} {o : SearchObject} {tier : TierName} {v : Value}

/-- What an object has on a tier begins at the offsets of the object. -/
theorem hasAt_of_tierValue (hin : o.IsIn g) (h : o.tierValue tier = some v) :
    g.HasAt tier (o.elementOffset tier) (o.tierOffset tier) v := by
  cases o with
  | scope scope => exact Scope.hasAt_of_tierValue hin h
  | syllable s =>
    show g.HasAt tier (s.elementOffset tier) (s.tierOffset tier) v
    change s.tierValue tier = some v at h
    have hgroup : s.scope.inGroup = g.group := Scope.IsIn.inGroup_eq hin
    unfold SyllableView.tierValue at h
    unfold SyllableView.elementOffset SyllableView.tierOffset
    split at h
    · rename_i hown
      obtain rfl : tier = .ipa s.side := beq_iff_eq.mp hown
      obtain rfl := Option.some.inj h
      rw [if_pos hown, if_pos hown, SyllableView.transcription, hgroup]
      exact .elements s.side s.span
    · rename_i hother
      rw [if_neg hother, if_neg hother]
      exact Scope.hasAt_of_tierValue hin h

end SearchObject

/-! ### Values of results -/

/-- Whether the data of a value stand where the value says, in a group. -/
def ResultValue.IsAt (g : GroupView) (v : ResultValue) : Prop :=
  v.groupIndex = g.index ∧ v.data.StandsAt (g.written v.tier) v.span

namespace SearchObject

variable {g : GroupView} {o : SearchObject} {tier : TierName} {v : Value} {hit : Hit}

/-- A hit in an object that has been placed is at its address. -/
theorem place_result_isAt (hin : o.IsIn g) (h : o.tierValue tier = some v)
    (hfound : FoundIn v hit) : (o.place tier hit).result.IsAt g := by
  have hat := hasAt_of_tierValue hin h
  refine ⟨Scope.IsIn.groupIndex_eq hin, ?_⟩
  cases hfound with
  | text hpart => exact hpart.trans hat.standsAt
  | phone => exact absurd hat GroupView.not_hasAt_phone
  | @elements t inner hstop =>
    have hgroup : o.group = g.group := Scope.IsIn.inGroup_eq hin
    obtain ⟨side, s, rfl, hoffset, rfl⟩ := hat.of_transcription
    -- The elements of the hit are moved first and then turned into bytes.
    have hplace := Transcription.standsAt_byteSpan (g.group.transcription side)
      (inner.shift s.start)
    rw [← Transcription.subsection_subsection hstop] at hplace
    show Text.StandsAt _ _ ((o.group.transcription side).byteSpan
      (inner.shift (o.elementOffset (.ipa side))))
    rw [hgroup, hoffset]
    exact hplace

/-- What is aligned with a hit is at its address. -/
theorem alignedResult_isAt (hin : o.IsIn g) {aligned : AlignedHit}
    (h : (o.place tier hit).aligned? = some aligned) :
    ((o.place tier hit).alignedResult aligned).IsAt g := by
  have hgroup : o.group = g.group := Scope.IsIn.inGroup_eq hin
  refine ⟨Scope.IsIn.groupIndex_eq hin, ?_⟩
  obtain ⟨side, -, h⟩ := Option.bind_eq_some_iff.mp h
  obtain ⟨elements, -, h⟩ := Option.bind_eq_some_iff.mp h
  obtain ⟨projected, -, h⟩ := Option.bind_eq_some_iff.mp h
  obtain rfl := Option.some.inj h
  show Text.StandsAt ((o.group.transcription side.other).subsection projected).render
    (g.group.transcription side.other).render ((o.group.transcription side.other).byteSpan projected)
  rw [hgroup]
  exact Transcription.standsAt_byteSpan _ projected

/-- A hit in an object that begins in its group is placed alike where positions are words of
64 bits, if what the group has is not too long for them. -/
theorem placeWord_eq_place (hin : o.IsIn g) (h : o.tierValue tier = some v)
    (hfound : FoundIn v hit) (hspan : hit.span.start ≤ hit.span.stop)
    (hstart : ∀ side, o.elementOffset (.ipa side) ≤ (g.group.transcription side).length)
    (hbytes : Text.size (g.written tier) < Span.wordCount)
    (helements : ∀ side, (g.group.transcription side).length < Span.wordCount) :
    o.placeWord tier hit = o.place tier hit := by
  have hat := hasAt_of_tierValue hin h
  have hstop : hit.span.stop + o.hitOffset tier hit < Span.wordCount := by
    cases hfound with
    | text hpart => exact Nat.lt_of_le_of_lt (hpart.trans hat.standsAt).stop_le_size hbytes
    | phone => exact absurd hat GroupView.not_hasAt_phone
    | @elements t inner hstop =>
      obtain ⟨side, s, rfl, hoffset, rfl⟩ := hat.of_transcription
      have hlength := hstart side
      rw [hoffset] at hlength
      rw [Transcription.length_subsection] at hstop
      refine Nat.lt_of_le_of_lt ?_ (helements side)
      show inner.stop + o.elementOffset (.ipa side) ≤ (g.group.transcription side).length
      rw [hoffset]
      omega
  have hshift := Span.shiftWord_eq_shift (Nat.lt_of_le_of_lt (Nat.add_le_add_right hspan _) hstop)
    hstop
  rw [placeWord, place, hshift]

end SearchObject

namespace TierSelection

variable {g : GroupView} {o : SearchObject}

/-- What an object has on a stored tier is at its address; an object without a value
gives the empty text. -/
theorem storedValue_isAt (hin : o.IsIn g) (label : Text) (tier : TierName) :
    (storedValue label o tier).IsAt g := by
  refine ⟨Scope.IsIn.groupIndex_eq hin, ?_⟩
  unfold storedValue
  cases h : o.tierValue tier with
  | none => exact Text.StandsAt.nil _
  | some v =>
    have hpart := (SearchObject.hasAt_of_tierValue hin h).standsAt
    simpa [Span.shift, Nat.add_comm] using hpart

/-- The values that a selection finds are at their addresses. -/
theorem data_isAt (s : TierSelection) (hin : o.IsIn g) (record : Record) (label : Text) :
    ∀ v ∈ (s.data record label o).values, v.IsAt g :=
  s.data_forall (storedValue_isAt hin label) record

end TierSelection

end PhoneticSearch
