import PhoneticSearch.Corpus.SearchObject
import PhoneticSearch.Proofs.Alignment.Matching

/-!
# Exchanging the two transcriptions

The target and the actual transcription of a group may be exchanged, the sides of its
alignment with them.  A word or a syllable of the group is then one of the exchanged group,
and it has on the exchanged tier what it had on the tier before, at the same place
(`SearchObject.tierValue_exchanged`, `tierOffset_exchanged` and `elementOffset_exchanged`).
-/

namespace PhoneticSearch

namespace TierName

/-- The tier of the other transcription; other tiers are their own. -/
def exchanged : TierName → TierName
  | ipa side => ipa side.other
  | tier => tier

@[simp] theorem side?_exchanged (tier : TierName) :
    tier.exchanged.side? = tier.side?.map Side.other := by
  cases tier <;> rfl

end TierName

/-! ### Groups and records -/

/-- A group with its transcriptions exchanged, and the sides of its alignment with them. -/
def Group.exchanged (g : Group) : Group :=
  { g with target := g.actual, actual := g.target, alignment := g.alignment.exchanged }

namespace Group

@[simp] theorem exchanged_exchanged (g : Group) : g.exchanged.exchanged = g := by
  simp [exchanged]

theorem transcription_exchanged (g : Group) :
    g.exchanged.transcription = fun side => g.transcription side.other := by
  funext side
  cases side <;> rfl

@[simp] theorem transcription_other_exchanged (g : Group) (side : Side) :
    g.exchanged.transcription side.other = g.transcription side := by
  cases side <;> rfl

theorem tierValue_exchanged (g : Group) (tier : TierName) :
    g.exchanged.tierValue tier.exchanged = g.tierValue tier := by
  cases tier with
  | ipa side => exact congrArg (some ∘ Value.transcription) (g.transcription_other_exchanged side)
  | orthography | notes | user _ => rfl

theorem wordCount_exchanged (g : Group) : g.exchanged.wordCount = g.wordCount := by
  rw [wordCount, wordCount, Nat.max_comm]
  rfl

end Group

/-- A record with both transcriptions of its groups exchanged. -/
def Record.exchanged (r : Record) : Record := { r with groups := r.groups.map Group.exchanged }

theorem Record.hasTier_exchanged (r : Record) (tier : TierName) :
    r.exchanged.hasTier tier.exchanged = r.hasTier tier := by
  cases tier with
  | user name =>
    have hgroups : r.exchanged.groups.any (·.hasUserTier name) =
        r.groups.any (·.hasUserTier name) := List.any_map
    exact congrArg ((r.tiers.lookup name).isSome || ·) hgroups
  | orthography | ipa _ | notes => rfl

/-! ### Words -/

namespace Word

/-- A word of the exchanged group. -/
def exchanged (w : Word) : Word := { w with group := w.group.exchanged }

variable (w : Word) (tier : TierName)

@[simp] theorem elementSpan?_exchanged (side : Side) :
    w.exchanged.elementSpan? side.other = w.elementSpan? side := by
  cases side <;> rfl

theorem tierValue_exchanged : w.exchanged.tierValue tier.exchanged = w.tierValue tier := by
  cases tier with
  | ipa side => cases side <;> rfl
  | orthography | notes | user _ => rfl

theorem tierOffset_exchanged : w.exchanged.tierOffset tier.exchanged = w.tierOffset tier := by
  cases tier with
  | ipa side => cases side <;> rfl
  | orthography | notes | user _ => rfl

theorem elementOffset_exchanged :
    w.exchanged.elementOffset tier.exchanged = w.elementOffset tier := by
  cases tier with
  | ipa side => cases side <;> rfl
  | orthography | notes | user _ => rfl

end Word

theorem Group.words_exchanged (g : Group) (groupIndex : Nat) :
    g.exchanged.words groupIndex = (g.words groupIndex).map Word.exchanged := by
  rw [words, words, wordCount_exchanged, List.map_map]
  rfl

/-! ### Groups as they are searched -/

namespace GroupView

/-- A group of the exchanged record. -/
def exchanged (g : GroupView) : GroupView := ⟨g.record.exchanged, g.group.exchanged, g.index⟩

theorem tierValue_exchanged (g : GroupView) (tier : TierName) :
    g.exchanged.tierValue tier.exchanged = g.tierValue tier := by
  cases tier with
  | ipa side => exact g.group.tierValue_exchanged (.ipa side)
  | orthography | notes | user _ => rfl

theorem words_exchanged (g : GroupView) : g.exchanged.words = g.words.map Word.exchanged :=
  g.group.words_exchanged g.index

end GroupView

theorem Record.groupViews_exchanged (r : Record) :
    r.exchanged.groupViews = r.groupViews.map GroupView.exchanged := by
  simp only [groupViews, exchanged, List.zipIdx_map, List.map_map]
  rfl

/-! ### Scopes and syllables -/

namespace Scope

/-- A scope in the exchanged group. -/
def exchanged : Scope → Scope
  | group g => group g.exchanged
  | word w => word w.exchanged

variable (s : Scope) (tier : TierName)

@[simp] theorem inGroup_exchanged : s.exchanged.inGroup = s.inGroup.exchanged := by
  cases s <;> rfl

@[simp] theorem groupIndex_exchanged : s.exchanged.groupIndex = s.groupIndex := by
  cases s <;> rfl

theorem tierValue_exchanged : s.exchanged.tierValue tier.exchanged = s.tierValue tier := by
  cases s with
  | group g => exact g.tierValue_exchanged tier
  | word w => exact w.tierValue_exchanged tier

theorem tierOffset_exchanged : s.exchanged.tierOffset tier.exchanged = s.tierOffset tier := by
  cases s with
  | group _ => rfl
  | word w => exact w.tierOffset_exchanged tier

theorem elementOffset_exchanged :
    s.exchanged.elementOffset tier.exchanged = s.elementOffset tier := by
  cases s with
  | group _ => rfl
  | word w => exact w.elementOffset_exchanged tier

@[simp] theorem elementSpan?_exchanged (side : Side) :
    s.exchanged.elementSpan? side.other = s.elementSpan? side := by
  cases s with
  | group g => cases side <;> rfl
  | word w => exact w.elementSpan?_exchanged side

end Scope

namespace SyllableView

/-- A syllable of the other side in the exchanged group. -/
def exchanged (s : SyllableView) : SyllableView :=
  { s with scope := s.scope.exchanged, side := s.side.other }

variable (s : SyllableView) (tier : TierName)

theorem isOwnTier_exchanged : s.exchanged.isOwnTier tier.exchanged = s.isOwnTier tier := by
  -- A tier and its exchanged one are those of a side and the other one.
  obtain ⟨_, side, _, _, _, _⟩ := s
  cases tier with
  | ipa side' => cases side <;> cases side' <;> rfl
  | orthography | notes | user _ => rfl

theorem transcription_exchanged : s.exchanged.transcription = s.transcription := by
  simp [transcription, exchanged]

theorem tierValue_exchanged : s.exchanged.tierValue tier.exchanged = s.tierValue tier := by
  rw [tierValue, tierValue, isOwnTier_exchanged, transcription_exchanged]
  exact congrArg (ite _ _) (s.scope.tierValue_exchanged tier)

theorem tierOffset_exchanged : s.exchanged.tierOffset tier.exchanged = s.tierOffset tier := by
  rw [tierOffset, tierOffset, isOwnTier_exchanged, transcription_exchanged]
  exact congrArg (ite _ _) (s.scope.tierOffset_exchanged tier)

theorem elementOffset_exchanged :
    s.exchanged.elementOffset tier.exchanged = s.elementOffset tier := by
  rw [elementOffset, elementOffset, isOwnTier_exchanged]
  exact congrArg (ite _ _) (s.scope.elementOffset_exchanged tier)

end SyllableView

/-! ### What is searched -/

namespace SearchObject

/-- An object in the exchanged group. -/
def exchanged : SearchObject → SearchObject
  | scope s => scope s.exchanged
  | syllable s => syllable s.exchanged

variable (o : SearchObject) (tier : TierName)

@[simp] theorem group_exchanged : o.exchanged.group = o.group.exchanged := by
  cases o with
  | scope s => exact s.inGroup_exchanged
  | syllable s => exact s.scope.inGroup_exchanged

@[simp] theorem groupIndex_exchanged : o.exchanged.groupIndex = o.groupIndex := by
  cases o with
  | scope s => exact s.groupIndex_exchanged
  | syllable s => exact s.scope.groupIndex_exchanged

/-- An object has on the exchanged tier what it had on the tier. -/
theorem tierValue_exchanged : o.exchanged.tierValue tier.exchanged = o.tierValue tier := by
  cases o with
  | scope s => exact s.tierValue_exchanged tier
  | syllable s => exact s.tierValue_exchanged tier

theorem tierOffset_exchanged : o.exchanged.tierOffset tier.exchanged = o.tierOffset tier := by
  cases o with
  | scope s => exact s.tierOffset_exchanged tier
  | syllable s => exact s.tierOffset_exchanged tier

theorem elementOffset_exchanged :
    o.exchanged.elementOffset tier.exchanged = o.elementOffset tier := by
  cases o with
  | scope s => exact s.elementOffset_exchanged tier
  | syllable s => exact s.elementOffset_exchanged tier

end SearchObject

end PhoneticSearch
