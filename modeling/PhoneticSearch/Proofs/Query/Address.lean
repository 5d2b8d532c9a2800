import PhoneticSearch.Proofs.Pattern.Order
import PhoneticSearch.Proofs.Search.Address
import PhoneticSearch.Proofs.Transcription.Words
import PhoneticSearch.Query.Basic

/-!
# Addresses of results

A query looks at objects that belong to a group of the record (`candidates_searchedIn`), so
all the values of its results have addresses in that group (`groupResults_isAt`).  From
this it follows that who has a result and the record can go back to what was found:
every value of a result is read again from the bytes of its span.

Hits are moved to their places by numbers without bound.  Where these are words of 64 bits the
places are the same (`place_eq_placeWord`).
-/

namespace PhoneticSearch

/-! ### What is searched belongs to a group -/

theorem Group.mem_words {g : Group} {groupIndex : Nat} {w : Word} (h : w ∈ g.words groupIndex) :
    w.group = g ∧ w.groupIndex = groupIndex := by
  obtain ⟨index, -, rfl⟩ := List.mem_map.mp h
  exact ⟨rfl, rfl⟩

namespace Scope

variable {scope : Scope} {side : Side} {s : SyllableView}

/-- The elements of a scope begin in the transcription of its group. -/
theorem start_le_of_elementSpan? {span : Span} (h : scope.elementSpan? side = some span) :
    span.start ≤ (scope.inGroup.transcription side).length := by
  cases scope with
  | group g =>
    obtain rfl := Option.some.inj h
    exact Nat.zero_le _
  | word w =>
    obtain ⟨hlt, hle⟩ := Transcription.wordSpans_within _ span (List.mem_of_getElem? h)
    exact Nat.le_trans (Nat.le_of_lt hlt) hle

theorem elementOffset_le (scope : Scope) (side : Side) :
    scope.elementOffset (.ipa side) ≤ (scope.inGroup.transcription side).length := by
  cases scope with
  | group g => exact Nat.zero_le _
  | word w =>
    show (w.elementSpan? side).elim 0 (·.start) ≤ _
    cases h : w.elementSpan? side with
    | none => exact Nat.zero_le _
    | some span =>
      have hspan : (Scope.word w).elementSpan? side = some span := h
      exact start_le_of_elementSpan? hspan

/-- A syllable belongs to its scope and its side, and begins in the transcription of the group. -/
theorem of_mem_syllables (h : s ∈ scope.syllables side) : s.scope = scope ∧ s.side = side ∧
    s.span.start ≤ (scope.inGroup.transcription side).length := by
  unfold Scope.syllables at h
  split at h
  · cases h
  · rename_i span hspan
    obtain ⟨⟨found, index⟩, hfound, rfl⟩ := List.mem_map.mp h
    refine ⟨rfl, rfl, ?_⟩
    have hscope := start_le_of_elementSpan? hspan
    have hwithin := (Transcription.syllables_within _ found (List.fst_mem_of_mem_zipIdx hfound)).1
    rw [Transcription.length_subsection] at hwithin
    show found.span.start + span.start ≤ _
    omega

end Scope

theorem PositionFlags.mem_of_mem_select {α : Type} {flags : PositionFlags} {items : List α}
    {i : Nat} {p : Position} {x : α} (h : (i, p, x) ∈ flags.select items) : items[i]? = some x := by
  obtain ⟨found, hfound, heq⟩ := List.mem_map.mp (List.mem_filter.mp h).1
  obtain ⟨rfl, -, rfl⟩ : found.2 = i ∧ _ = p ∧ found.1 = x := by
    simpa only [Prod.mk.injEq] using heq
  exact List.mem_zipIdx_iff_getElem?.mp hfound

/-- A group that is selected is the one with its number. -/
theorem GroupFilter.getElem?_of_mem_select {f : GroupFilter} {record : Record} {i : Nat}
    {p : Position} {g : GroupView} (h : (i, p, g) ∈ f.select record) :
    record.groupViews[g.index]? = some g := by
  have hget := PositionFlags.mem_of_mem_select h
  obtain ⟨found, hfound, rfl⟩ := List.mem_map.mp (List.mem_of_getElem? hget)
  have hgroup := List.mem_zipIdx_iff_getElem?.mp hfound
  simp [Record.groupViews, hgroup]

/-- What is searched of a group: the group, its words and the syllables of either. -/
inductive SearchObject.SearchedIn (g : GroupView) : SearchObject → Prop where
  | scope {scope : Scope} (hin : scope.IsIn g) : SearchedIn g (.scope scope)
  | syllable {scope : Scope} {side : Side} {s : SyllableView} (hin : scope.IsIn g)
    (h : s ∈ scope.syllables side) : SearchedIn g (.syllable s)

namespace SearchObject.SearchedIn

variable {g : GroupView} {o : SearchObject}

theorem isIn (h : o.SearchedIn g) : o.IsIn g := by
  cases h with
  | scope hin => exact hin
  | @syllable scope side s hin h =>
    show s.scope.IsIn g
    rwa [(Scope.of_mem_syllables h).1]

/-- What is searched begins in the transcriptions of the group. -/
theorem elementOffset_le (h : o.SearchedIn g) (side : Side) :
    o.elementOffset (.ipa side) ≤ (g.group.transcription side).length := by
  cases h with
  | @scope scope hin =>
    rw [← hin.inGroup_eq]
    exact scope.elementOffset_le side
  | @syllable scope side' s hin h =>
    obtain ⟨rfl, rfl, hstart⟩ := Scope.of_mem_syllables h
    rw [← hin.inGroup_eq]
    show s.elementOffset (.ipa side) ≤ _
    unfold SyllableView.elementOffset
    split
    · rename_i hown
      obtain rfl := TierName.ipa.inj (beq_iff_eq.mp hown)
      exact hstart
    · exact s.scope.elementOffset_le side

end SearchObject.SearchedIn

namespace Query

variable (q : Query) {g : GroupView}

theorem wordsOf_isIn {position : Position} {w : Word} (h : (position, w) ∈ q.wordsOf g) :
    (Scope.word w).IsIn g := by
  obtain ⟨⟨i, p, w'⟩, hselect, hword⟩ := List.mem_filterMap.mp h
  dsimp only at hword
  split at hword
  · obtain ⟨rfl, rfl⟩ := Prod.mk.inj (Option.some.inj hword)
    exact Group.mem_words (List.mem_of_getElem? (PositionFlags.mem_of_mem_select hselect))
  · cases hword

theorem syllablesOf_searchedIn {scope : Scope} (hin : scope.IsIn g) {position : Option Position}
    {c : Candidate} (h : c ∈ q.syllablesOf scope position) : c.object.SearchedIn g := by
  unfold syllablesOf at h
  split at h
  · cases h
  · obtain ⟨s, hs, rfl⟩ := List.mem_map.mp h
    exact .syllable hin (List.mem_filter.mp hs).1

/-- What the pattern is applied to in a group is the group or a part of it. -/
theorem candidates_searchedIn {c : Candidate} (h : c ∈ q.candidates g) :
    c.object.SearchedIn g := by
  have hgroup : (Scope.group g).IsIn g := rfl
  unfold candidates at h
  split at h
  · obtain rfl := List.mem_singleton.mp h
    exact .scope hgroup
  · obtain ⟨⟨position, w⟩, hw, rfl⟩ := List.mem_map.mp h
    exact .scope (q.wordsOf_isIn hw)
  · split at h
    · obtain ⟨⟨position, w⟩, hw, h⟩ := List.mem_flatMap.mp h
      exact q.syllablesOf_searchedIn (q.wordsOf_isIn hw) h
    · exact q.syllablesOf_searchedIn hgroup h

/-- The hits of a query are at the places that they have where positions are words of 64 bits, as
long as what the group has is not too long for them. -/
theorem place_eq_placeWord {c : Candidate} (hc : c ∈ q.candidates g) {found : Value}
    (hvalue : c.object.tierValue q.searchTier = some found) {hit : Hit}
    (hhit : hit ∈ q.primary.find found)
    (hbytes : Text.size (g.written q.searchTier) < Span.wordCount)
    (helements : ∀ side, (g.group.transcription side).length < Span.wordCount) :
    c.object.place q.searchTier hit = c.object.placeWord q.searchTier hit :=
  have hsearched := q.candidates_searchedIn hc
  (SearchObject.placeWord_eq_place hsearched.isIn hvalue (q.primary.find_foundIn found hit hhit)
    (q.primary.start_le_stop found hit hhit) hsearched.elementOffset_le hbytes helements).symm

/-! ### What is found has an address -/

theorem wordData_isAt {c : Candidate} (hin : c.object.IsIn g) (record : Record) :
    ∀ v ∈ (q.wordData record c).values, v.IsAt g := by
  unfold wordData SearchObject.word?
  unfold SearchObject.IsIn at hin
  cases hscope : c.object.toScope with
  | group g' =>
    intro v hv
    cases hv
  | word w =>
    rw [hscope] at hin
    exact q.wordTiers.data_isAt (o := .scope (.word w)) hin record "Word".toList

/-- The values of a result are placed, stored or aligned ones. -/
theorem result_isAt {session : Session} {recordIndex : Nat} {record : Record}
    {groupData : TierData} (hdata : ∀ v ∈ groupData.values, v.IsAt g) {c : Candidate}
    (hin : c.object.IsIn g) {found : Value} (hvalue : c.object.tierValue q.searchTier = some found)
    {hit : Hit} (hfound : FoundIn found hit) {r : QueryResult}
    (h : q.result session recordIndex record g groupData c hit = some r) :
    ∀ v ∈ r.values, v.IsAt g := by
  unfold result at h
  dsimp only at h
  split at h
  · obtain rfl := Option.some.inj h
    intro v hv
    rcases List.mem_cons.mp hv with rfl | hv
    · exact SearchObject.place_result_isAt hin hvalue hfound
    · rcases List.mem_append.mp hv with hv | hv
      · rcases List.mem_append.mp hv with hv | hv
        · exact hdata v hv
        · exact q.wordData_isAt hin record v hv
      · split at hv
        · obtain ⟨aligned, haligned, rfl⟩ := List.mem_map.mp hv
          exact SearchObject.alignedResult_isAt hin (Option.mem_toList.mp haligned)
        · cases hv
  · cases h

theorem groupResults_isAt {session : Session} {recordIndex : Nat} {record : Record}
    {r : QueryResult} (h : r ∈ q.groupResults session recordIndex record g) :
    ∀ v ∈ r.values, v.IsAt g := by
  unfold groupResults at h
  split at h
  · obtain ⟨c, hc, h⟩ := List.mem_flatMap.mp h
    have hin := (q.candidates_searchedIn hc).isIn
    have hdata := q.groupTiers.data_isAt (o := .scope (.group g)) rfl record "Group".toList
    unfold candidateResults at h
    split at h
    · cases h
    · rename_i found hvalue
      obtain ⟨hit, hhit, hr⟩ := List.mem_filterMap.mp h
      exact q.result_isAt hdata hin hvalue (q.primary.find_foundIn found hit hhit) hr
  · cases h

/-- Every value of a result is at an address: its group is one of the record, both ends
of its span lie between two characters of what the group has on its tier, in order and
inside of it, and the bytes between them are those of its data. -/
theorem results_addressable (q : Query) (session : Session) (recordIndex : Nat)
    (record : Record) :
    ∀ r ∈ q.results session recordIndex record, ∀ v ∈ r.values,
      ∃ g, record.groupViews[v.groupIndex]? = some g ∧
        v.span.start ≤ v.span.stop ∧ v.span.stop ≤ Text.size (g.written v.tier) ∧
        Text.IsBoundary (g.written v.tier) v.span.start ∧
        Text.IsBoundary (g.written v.tier) v.span.stop ∧
        ((Text.bytes (g.written v.tier)).take v.span.stop).drop v.span.start =
          Text.bytes v.data := by
  intro r hr v hv
  unfold results at hr
  split at hr
  · obtain ⟨⟨i, p, g⟩, hg, hr⟩ := List.mem_flatMap.mp hr
    obtain ⟨hindex, hat⟩ := q.groupResults_isAt hr v hv
    refine ⟨g, ?_, hat.start_le_stop, hat.stop_le_size, hat.isBoundary_start,
      hat.isBoundary_stop, hat.bytes_eq⟩
    rw [hindex]
    exact GroupFilter.getElem?_of_mem_select hg
  · cases hr

/-- A record with two words, whose second vowel is spoken as another one. -/
def vowelRecord : Record :=
  let consonant c := Element.phone (.ofGlyph c (.ofList [.consonant]))
  let vowel c := Element.phone (.ofGlyph c (.ofList [.vowel]))
  let target := [consonant 'ʃ', vowel 'a', .wordBoundary, consonant 's', vowel 'i']
  let actual := [consonant 's', vowel 'a', .wordBoundary, consonant 'ʃ', vowel 'ɪ']
  let alignment := ⟨[0, 1, 3, 4].map fun i => ⟨some i, some i⟩⟩
  ⟨none, none, [⟨[], target, actual, alignment, []⟩], none, []⟩

/-- A search for the vowels of each word. -/
def vowelConfig : QueryConfig :=
  { searchBy := .word, primary := { expression := ['V'], dialect := .soundClass } }

/-- The vowel that is spoken last is at the two bytes that it is written with. -/
theorem vowels_addressable :
    ∃ q, ofConfig vowelConfig true = .ok q ∧
      ∃ r ∈ q.results ⟨[], none, [], [vowelRecord]⟩ 0 vowelRecord, ∃ v ∈ r.values,
        (v.tier = .ipa .actual ∧ v.span = ⟨5, 7⟩ ∧ v.data = ['ɪ']) ∧
        ∃ g, vowelRecord.groupViews[v.groupIndex]? = some g ∧
          v.span.start ≤ v.span.stop ∧ v.span.stop ≤ Text.size (g.written v.tier) ∧
          Text.IsBoundary (g.written v.tier) v.span.start ∧
          Text.IsBoundary (g.written v.tier) v.span.stop ∧
          ((Text.bytes (g.written v.tier)).take v.span.stop).drop v.span.start =
            Text.bytes v.data := by
  obtain ⟨q, hq, r, hr, v, hv, hvowel⟩ : ∃ q, ofConfig vowelConfig true = .ok q ∧
      ∃ r ∈ q.results ⟨[], none, [], [vowelRecord]⟩ 0 vowelRecord, ∃ v ∈ r.values,
        v.tier = .ipa .actual ∧ v.span = ⟨5, 7⟩ ∧ v.data = ['ɪ'] :=
    ⟨_, rfl, by decide +kernel⟩
  exact ⟨q, hq, r, hr, v, hv, hvowel, results_addressable q _ _ _ r hr v hv⟩

end Query

end PhoneticSearch
