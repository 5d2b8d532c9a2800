import PhoneticSearch.Corpus.Reader
import PhoneticSearch.Proofs.Corpus.Words
import PhoneticSearch.Proofs.Phonex.Words
import PhoneticSearch.Proofs.Query.Filtering

/-!
# Searching words and searching groups

What is read off the results of a record is gathered from the groups that are searched
(`results_map`), so that two searches are compared group by group.

A hit in a word is moved to its place in the group, and from there on nothing of its result
depends on the word but the tiers that are stored with it: the value of the hit and of what
is aligned with it are those of the placed hit (`result_hitValues`).  For an expression
without boundaries the hits in the words are those in the group (`Phonex.find_words`), so
both searches give the same values in the same order (`word_values_eq_group_values`).

That is so for patterns that are searched for.  A pattern that has to match a whole value
matches words that are no groups (`whole_words_are_no_groups`).
-/

namespace PhoneticSearch

/-! ### What is gathered from a record -/

namespace Query

variable {α : Type} (q : Query) {session : Session} {recordIndex : Nat} {record : Record}

/-- What is gathered from the groups of a record that are searched, in order. -/
def gathered (found : GroupView → List α) (session : Session) (record : Record) : List α :=
  if q.acceptsRecord session record then
    (q.groups.select record).flatMap fun (_, _, g) => if q.acceptsGroup g then found g else []
  else []

/-- Only the groups of the record are looked at. -/
theorem gathered_congr {found found' : GroupView → List α}
    (h : ∀ g ∈ record.groupViews, found g = found' g) :
    q.gathered found session record = q.gathered found' session record := by
  unfold gathered
  split
  · refine List.flatMap_congr fun (i, p, g) hg => ?_
    have hmem := List.mem_of_getElem? (GroupFilter.getElem?_of_mem_select hg)
    dsimp only
    rw [h g hmem]
  · rfl

/-- What is read off the results of the candidates is gathered. -/
theorem results_map {read : QueryResult → α} {values : Candidate → List α}
    (h : ∀ g c, (q.candidateResults session recordIndex record g
      (q.groupTiers.data record "Group".toList (.scope (.group g))) c).map read = values c) :
    (q.results session recordIndex record).map read =
      q.gathered (fun g => (q.candidates g).flatMap values) session record := by
  unfold results gathered
  split
  · rw [List.map_flatMap]
    refine List.flatMap_congr fun (_, _, g) _ => ?_
    dsimp only
    unfold groupResults
    split
    · rw [List.map_flatMap]
      exact List.flatMap_congr fun c _ => h g c
    · rfl
  · rfl

end Query

/-! ### The values of a hit -/

/-- The value of a result for what is aligned with a hit on a side. -/
def QueryResult.alignedValue? (r : QueryResult) (side : Side) : Option ResultValue :=
  r.values.find? (·.name == (TierName.ipa side.other).text)

/-- The values of a result for a hit on a side and for what is aligned with it. -/
def QueryResult.hitValues (side : Side) (r : QueryResult) :
    Option ResultValue × Option ResultValue :=
  (r.primary, r.alignedValue? side)

/-- A name with a label is no name of a transcription. -/
theorem TierSelection.labelled_ne_ipa (name label : Text) (side : Side) :
    labelled name label ≠ (TierName.ipa side).text := by
  intro h
  have hlabelled : (labelled name label).getLast? = some ')' := List.getLast?_concat
  have hname : (TierName.ipa side).text.getLast? ≠ some ')' := by cases side <;> decide
  exact hname (h ▸ hlabelled)

theorem TierName.ipa_other_ne (side : Side) :
    ((TierName.ipa side).text == (TierName.ipa side.other).text) = false := by
  cases side <;> decide

theorem PlacedHit.aligned?_side {p : PlacedHit} {side : Side} (htier : p.tier = .ipa side)
    {aligned : AlignedHit} (h : p.aligned? = some aligned) : aligned.side = side.other := by
  obtain ⟨side', hside, h⟩ := Option.bind_eq_some_iff.mp h
  obtain ⟨elements, -, h⟩ := Option.bind_eq_some_iff.mp h
  obtain ⟨projected, -, h⟩ := Option.bind_eq_some_iff.mp h
  obtain rfl := Option.some.inj h
  rw [htier] at hside
  obtain rfl : side = side' := Option.some.inj hside
  rfl

/-- What is aligned with a hit is found under the name of the other transcription. -/
theorem PlacedHit.find?_aligned {p : PlacedHit} {side : Side} (htier : p.tier = .ipa side) :
    (p.aligned?.toList.map p.alignedResult).find? (·.name == (TierName.ipa side.other).text) =
      p.aligned?.map p.alignedResult := by
  cases h : p.aligned? with
  | none => rfl
  | some aligned =>
    have hname : (p.alignedResult aligned).name = (TierName.ipa side.other).text := by
      rw [← PlacedHit.aligned?_side htier h]
      rfl
    simp [hname]

namespace Query

variable (q : Query) {side : Side}

/-- The values of a hit at its place in a group, if its two sides are accepted. -/
def placedValues (p : PlacedHit) : Option (Option ResultValue × Option ResultValue) :=
  if q.acceptsSides p.hit p.aligned? then
    some (some p.result, if q.includeAligned then p.aligned?.map p.alignedResult else none)
  else none

/-- The values that a selection of tiers finds are none of a transcription. -/
theorem find?_data_eq_none (s : TierSelection) (record : Record) (label : Text) (o : SearchObject)
    (side : Side) : (s.data record label o).values.find? (·.name == (TierName.ipa side).text) =
      none := by
  refine List.find?_eq_none.mpr (s.data_forall (fun tier => ?_) record)
  have hname : (TierSelection.storedValue label o tier).name =
      TierSelection.labelled tier.text label := rfl
  simpa [hname] using TierSelection.labelled_ne_ipa tier.text label side

/-- The values of a hit are those of the hit at its place. -/
theorem result_hitValues (htier : q.searchTier = .ipa side) {session : Session} {recordIndex : Nat}
    {record : Record} {g : GroupView} {groupData : TierData}
    (hgroup : groupData.values.find? (·.name == (TierName.ipa side.other).text) = none)
    {c : Candidate} {hit : Hit} :
    (q.result session recordIndex record g groupData c hit).map (·.hitValues side) =
      q.placedValues (c.object.place q.searchTier hit) := by
  have hplaced : (c.object.place q.searchTier hit).tier = .ipa side := htier
  have hword : (q.wordData record c).values.find? (·.name == (TierName.ipa side.other).text) =
      none := by
    unfold wordData
    split
    · exact find?_data_eq_none _ _ _ _ _
    · rfl
  have haligned := PlacedHit.find?_aligned hplaced
  have hprimary : ((c.object.place q.searchTier hit).result.name ==
      (TierName.ipa side.other).text) = false := by
    rw [← TierName.ipa_other_ne side, ← hplaced]
    rfl
  by_cases hsides : q.acceptsSides (c.object.place q.searchTier hit).hit
      (c.object.place q.searchTier hit).aligned? = true
  · have hresult : q.acceptsSides hit (c.object.place q.searchTier hit).aligned? = true := hsides
    simp only [result, placedValues, if_pos hsides, if_pos hresult, Option.map_some]
    refine congrArg some (Prod.ext rfl ?_)
    rw [QueryResult.hitValues, QueryResult.alignedValue?]
    simp only [List.cons_append, List.find?_cons, hprimary, List.find?_append, hgroup, hword,
      Option.none_or]
    cases q.includeAligned with
    | false => rfl
    | true => exact haligned
  · have hresult : ¬ q.acceptsSides hit (c.object.place q.searchTier hit).aligned? = true := hsides
    simp only [result, placedValues, if_neg hsides, if_neg hresult, Option.map_none]

/-- The values of the hits in an object, where `find` is what is found in a value. -/
def objectValues (find : Value → List Hit) (side : Side) (o : SearchObject) :
    List (Option ResultValue × Option ResultValue) :=
  (o.tierValue (.ipa side)).elim [] fun v =>
    (find v).filterMap fun hit => q.placedValues (o.place (.ipa side) hit)

/-- The values of the hits in a record. -/
def recordValues (find : Value → List Hit) (side : Side) (session : Session) (record : Record) :
    List (Option ResultValue × Option ResultValue) :=
  q.gathered (fun g => (q.candidates g).flatMap fun c => q.objectValues find side c.object)
    session record

theorem candidateResults_hitValues (htier : q.searchTier = .ipa side) {session : Session}
    {recordIndex : Nat} {record : Record} {g : GroupView} {groupData : TierData}
    (hgroup : groupData.values.find? (·.name == (TierName.ipa side.other).text) = none)
    (c : Candidate) :
    (q.candidateResults session recordIndex record g groupData c).map (·.hitValues side) =
      q.objectValues q.primary.find side c.object := by
  rw [candidateResults, objectValues, ← htier]
  cases c.object.tierValue q.searchTier with
  | none => rfl
  | some v =>
    rw [List.map_filterMap]
    exact congrArg (List.filterMap · _) (funext fun hit => q.result_hitValues htier hgroup)

/-- The values of the results are those of what is found in the record. -/
theorem results_hitValues (htier : q.searchTier = .ipa side) (session : Session)
    (recordIndex : Nat) (record : Record) :
    (q.results session recordIndex record).map (·.hitValues side) =
      q.recordValues q.primary.find side session record :=
  q.results_map fun _ c => q.candidateResults_hitValues htier (find?_data_eq_none _ _ _ _ _) c

/-! ### Words and groups -/

variable {root : Phonex.Node}

/-- The values of the hits of an expression in a group. -/
def groupValues (root : Phonex.Node) (side : Side) (g : GroupView) :
    List (Option ResultValue × Option ResultValue) :=
  (Phonex.find root (g.group.transcription side)).filterMap fun hit =>
    q.placedValues ⟨g.group, g.index, .ipa side, hit⟩

theorem objectValues_group (g : GroupView) :
    q.objectValues (CompiledPattern.phonex root).find side (.scope (.group g)) =
      q.groupValues root side g := by
  have hplace : ∀ hit : Hit, (SearchObject.scope (.group g)).place (.ipa side) hit =
      ⟨g.group, g.index, .ipa side, hit⟩ := by
    intro hit
    have hoffset : (SearchObject.scope (.group g)).hitOffset (.ipa side) hit = 0 := ite_self 0
    rw [SearchObject.place, hoffset]
    rfl
  show (Phonex.find root (g.group.transcription side)).filterMap _ = _
  simp only [hplace]
  rfl

/-- The hits in a word have their places in the group. -/
theorem objectValues_word (w : Word) :
    q.objectValues (CompiledPattern.phonex root).find side (.scope (.word w)) =
      (w.elementSpan? side).elim [] fun s =>
        (Phonex.wordHits root (w.group.transcription side) s).filterMap fun hit =>
          q.placedValues ⟨w.group, w.groupIndex, .ipa side, hit⟩ := by
  have hvalue : (SearchObject.scope (.word w)).tierValue (.ipa side) =
      (w.elementSpan? side).map fun s =>
        .transcription ((w.group.transcription side).subsection s) := rfl
  rw [objectValues, hvalue]
  cases hspan : w.elementSpan? side with
  | none => rfl
  | some s =>
    rw [Option.map_some, Option.elim_some, Option.elim_some, Phonex.wordHits, List.filterMap_map]
    refine List.filterMap_congr fun hit hhit => ?_
    have hcounts : hit.isInTranscription (.ipa side) = true := by
      have hhit : hit ∈ Phonex.find root ((w.group.transcription side).subsection s) := hhit
      rw [Phonex.find_eq] at hhit
      obtain ⟨_, -, rfl⟩ := List.mem_map.mp hhit
      rfl
    have hstart : (SearchObject.scope (.word w)).elementOffset (.ipa side) = s.start := by
      show (w.elementSpan? side).elim 0 (·.start) = s.start
      rw [hspan, Option.elim_some]
    have hmoved : (SearchObject.scope (.word w)).hitOffset (.ipa side) hit = s.start :=
      (if_pos hcounts).trans hstart
    rw [SearchObject.place, hmoved]
    rfl

/-! ### All words -/

/-- Where all words are searched, they are the words of the group in order. -/
theorem wordsOf_all (hflags : q.words.flags.allowsAll = true)
    (haccepts : ∀ w, q.acceptsWord w = true) (g : GroupView) :
    (q.wordsOf g).map (·.2) = g.words := by
  have hallows : ∀ p, q.words.flags.allows p = true := by
    simp only [PositionFlags.allowsAll, Bool.and_eq_true] at hflags
    intro p
    cases p
    · exact hflags.1.1.1
    · exact hflags.1.1.2
    · exact hflags.1.2
    · exact hflags.2
  simp only [wordsOf, WordFilter.select, PositionFlags.select, hallows, haccepts, List.filter_true,
    if_true, List.filterMap_eq_map', List.map_map]
  exact List.zipIdx_map_fst 0 g.words

/-- A search of all words goes through the words of the group in order. -/
theorem flatMap_candidates_word {β : Type} (hby : q.searchBy = .word)
    (hflags : q.words.flags.allowsAll = true) (haccepts : ∀ w, q.acceptsWord w = true)
    (g : GroupView) (f : SearchObject → List β) :
    ((q.candidates g).flatMap fun c => f c.object) =
      g.words.flatMap fun w => f (.scope (.word w)) := by
  rw [candidates, hby, ← q.wordsOf_all hflags haccepts g, List.flatMap_map, List.flatMap_map]

/-- A search of all words finds the values that a search of the group finds. -/
theorem candidates_word (side : Side) (hfree : root.isBoundaryFree = true)
    (hby : q.searchBy = .word) (hflags : q.words.flags.allowsAll = true)
    (haccepts : ∀ w, q.acceptsWord w = true) (g : GroupView) :
    ((q.candidates g).flatMap fun c =>
        q.objectValues (CompiledPattern.phonex root).find side c.object) =
      q.groupValues root side g := by
  let find := (CompiledPattern.phonex root).find
  let t := g.group.transcription side
  let values (hit : Hit) := q.placedValues ⟨g.group, g.index, .ipa side, hit⟩
  calc ((q.candidates g).flatMap fun c => q.objectValues find side c.object)
      = (List.range g.group.wordCount).flatMap fun i =>
          q.objectValues find side (.scope (.word ⟨g.group, g.index, i⟩)) := by
        rw [q.flatMap_candidates_word hby hflags haccepts, GroupView.words, Group.words,
          List.flatMap_map]
    _ = (List.range g.group.wordCount).flatMap fun i =>
          t.wordSpans[i]?.elim [] fun s => (Phonex.wordHits root t s).filterMap values := by
        simp only [find, objectValues_word]
        rfl
    _ = t.wordSpans.flatMap fun s => (Phonex.wordHits root t s).filterMap values :=
        flatMap_range_getElem? _ _ (g.group.length_wordSpans_le side)
    _ = q.groupValues root side g := by
        rw [groupValues, Phonex.find_words hfree, List.filterMap_flatMap]

theorem candidates_group (root : Phonex.Node) (side : Side) (hby : q.searchBy = .group)
    (g : GroupView) :
    ((q.candidates g).flatMap fun c =>
        q.objectValues (CompiledPattern.phonex root).find side c.object) =
      q.groupValues root side g := by
  rw [candidates, hby, List.flatMap_singleton, objectValues_group]

end Query

/-! ### Configurations -/

/-- What an expression finds, without a table of its ends. -/
theorem CompiledPattern.find_phonex_eq (root : Phonex.Node) : (phonex root).find = fun v =>
    v.transcription?.elim [] fun t =>
      (Phonex.foundSpans root t).map (Phonex.hitOf t (Phonex.places t)) := by
  funext v
  exact congrArg (v.transcription?.elim []) (funext fun t => Phonex.find_eq root t)

/-- What an expression matches as a whole, without a table of its ends. -/
theorem CompiledPattern.isWhole_phonex_eq (root : Phonex.Node) : (phonex root).isWhole = fun v =>
    v.transcription?.any fun t => (root.ends (Phonex.visibleElements t) 0).contains
      (Phonex.visibleElements t).length := by
  funext v
  exact congrArg v.transcription?.any (funext fun t => Phonex.isWhole_eq root t)

namespace PatternFilter

variable {spec : PatternSpec} {root : Phonex.Node}

/-- The pattern of a filter with an expression that can be read. -/
theorem pattern?_phonex (id : Text) (hdialect : spec.dialect = .phonex)
    (hread : Phonex.read spec.expression = .ok root) :
    (ofSpec id (QueryConfig.resolveCase spec)).pattern? = some (.phonex root) := by
  have hnonempty : ¬ (QueryConfig.resolveCase spec).expression.isEmpty = true := by
    intro hempty
    have hnil : spec.expression = [] := List.isEmpty_iff.mp hempty
    rw [hnil] at hread
    cases hread
  have hcompile : CompiledPattern.compile (QueryConfig.resolveCase spec) = .ok (.phonex root) := by
    have hdialect' : (QueryConfig.resolveCase spec).dialect = .phonex := hdialect
    have hread' : Phonex.read (QueryConfig.resolveCase spec).expression = .ok root := hread
    simp only [CompiledPattern.compile, if_neg hnonempty, hdialect', hread']
    rfl
  simp only [pattern?, ofSpec, if_neg hnonempty, hcompile]

/-- An expression is searched for, unless it has to match whole values. -/
theorem find_phonex (id : Text) (hdialect : spec.dialect = .phonex) (hexact : spec.exact = false)
    (hread : Phonex.read spec.expression = .ok root) :
    (ofSpec id (QueryConfig.resolveCase spec)).find = (CompiledPattern.phonex root).find := by
  have hsearched : (ofSpec id (QueryConfig.resolveCase spec)).spec.exact = false := hexact
  funext v
  simp only [PatternFilter.find, pattern?_phonex id hdialect hread, hsearched]
  rfl

/-- An expression that has to match whole values finds those that it matches. -/
theorem find_whole_phonex (id : Text) (hdialect : spec.dialect = .phonex)
    (hexact : spec.exact = true) (hread : Phonex.read spec.expression = .ok root) :
    (ofSpec id (QueryConfig.resolveCase spec)).find = fun v =>
      if (CompiledPattern.phonex root).isWhole v then [⟨⟨0, v.extent⟩, v⟩] else [] := by
  have hwhole : (ofSpec id (QueryConfig.resolveCase spec)).spec.exact = true := hexact
  have hkeeps : (ofSpec id (QueryConfig.resolveCase spec)).spec.dialect.supportsCase = false :=
    congrArg Dialect.supportsCase hdialect
  funext v
  simp [PatternFilter.find, pattern?_phonex id hdialect hread, wholeHit, hwhole, hkeeps]

end PatternFilter

namespace QueryConfig

/-- A configuration with something else that is searched. -/
def searchedBy (c : QueryConfig) (s : SearchBy) : QueryConfig := { c with searchBy := s }

/-- Whether a configuration searches a transcription for an expression that asks for phones
only, wherever it is found, and leaves out no words. -/
structure SearchesPhones (c : QueryConfig) (root : Phonex.Node) (side : Side) : Prop where
  searchTier : c.searchTier = .ipa side
  dialect : c.primary.dialect = .phonex
  exact : c.primary.exact = false
  read : Phonex.read c.primary.expression = .ok root
  boundaryFree : root.isBoundaryFree = true
  words : c.words.allowsAll = true
  wordPattern : c.wordPattern.IsIdle
  alignedWord : c.alignedWord.IsIdle

variable {c : QueryConfig} {root : Phonex.Node} {side : Side}

theorem SearchesPhones.searchedBy (h : c.SearchesPhones root side) (s : SearchBy) :
    (c.searchedBy s).SearchesPhones root side :=
  { h with }

theorem resolve_searchTier_primary (c : QueryConfig) :
    c.resolve.searchTier = c.searchTier ∧ c.resolve.primary = resolveCase c.primary := by
  have hsearchBy : c.resolveSearchBy.searchTier = c.searchTier ∧
      c.resolveSearchBy.primary = c.primary := by
    unfold resolveSearchBy
    split <;> exact ⟨rfl, rfl⟩
  have hwords : c.resolveSearchBy.resolveWords.searchTier = c.resolveSearchBy.searchTier ∧
      c.resolveSearchBy.resolveWords.primary = c.resolveSearchBy.primary := by
    unfold resolveWords
    split <;> exact ⟨rfl, rfl⟩
  exact ⟨hwords.1.trans hsearchBy.1, congrArg resolveCase (hwords.2.trans hsearchBy.2)⟩

end QueryConfig

namespace Query

variable {c : QueryConfig} {root : Phonex.Node} {side : Side}

/-- The values of the results of a configuration that searches for an expression. -/
theorem build_results_hitValues (h : c.SearchesPhones root side) (speaker : SpeakerFilter)
    (session : Session) (recordIndex : Nat) (record : Record) :
    ((build c.resolve speaker).results session recordIndex record).map (·.hitValues side) =
      (build c.resolve speaker).recordValues (CompiledPattern.phonex root).find side session
        record := by
  have htier : (build c.resolve speaker).searchTier = .ipa side :=
    c.resolve_searchTier_primary.1.trans h.searchTier
  have hprimary : (build c.resolve speaker).primary =
      .ofSpec (filterId "primary") (QueryConfig.resolveCase c.primary) :=
    congrArg (PatternFilter.ofSpec _) c.resolve_searchTier_primary.2
  rw [results_hitValues _ htier, hprimary, PatternFilter.find_phonex _ h.dialect h.exact h.read]

/-- A search by word leaves out no word where the filters of words cannot be used. -/
theorem acceptsWord_of_isIdle (hpattern : c.wordPattern.IsIdle) (htier : c.alignedWord.IsIdle)
    (speaker : SpeakerFilter) (w : Word) :
    (build (c.searchedBy .word).resolve speaker).acceptsWord w = true := by
  have hpattern : (build (c.searchedBy .word).resolve speaker).wordPattern.inUse = false :=
    PatternFilter.inUse_of_pattern? (PatternFilter.pattern?_of_isIdle _ hpattern.resolveCase)
  have htier : (build (c.searchedBy .word).resolve speaker).alignedWord.inUse = false :=
    TierFilter.inUse_of_isIdle _ htier.resolve
  rw [acceptsWord, passes, hpattern, htier]
  rfl

/-- A search by word leaves out no word. -/
theorem acceptsWord_build (h : c.SearchesPhones root side) (speaker : SpeakerFilter) (w : Word) :
    (build (c.searchedBy .word).resolve speaker).acceptsWord w = true :=
  acceptsWord_of_isIdle h.wordPattern h.alignedWord speaker w

/-- What is searched does not decide which speakers are. -/
theorem ofConfig_searchedBy_congr {α : Type} {read : Query → α} {s s' : SearchBy}
    (h : ∀ speaker, read (build (c.searchedBy s).resolve speaker) =
      read (build (c.searchedBy s').resolve speaker)) (anySpeaker : Bool) :
    (ofConfig (c.searchedBy s) anySpeaker).map read =
      (ofConfig (c.searchedBy s') anySpeaker).map read := by
  have hspeaker : speakerOf (c.searchedBy s).resolve anySpeaker =
      speakerOf (c.searchedBy s').resolve anySpeaker :=
    speakerOf_congr ((c.searchedBy s).resolve_participant.trans
      (c.searchedBy s').resolve_participant.symm) anySpeaker
  rw [ofConfig, ofConfig, hspeaker]
  cases speakerOf (c.searchedBy s').resolve anySpeaker with
  | error e => rfl
  | ok speaker => exact congrArg Except.ok (h speaker)

/-- A search of all words for an expression without boundaries finds the same values in the
same order as the search of the groups. -/
theorem word_values_eq_group_values (h : c.SearchesPhones root side) (anySpeaker : Bool)
    (session : Session) (recordIndex : Nat) (record : Record) :
    (ofConfig (c.searchedBy .word) anySpeaker).map
        (fun q => (q.results session recordIndex record).map (·.hitValues side)) =
      (ofConfig (c.searchedBy .group) anySpeaker).map
        (fun q => (q.results session recordIndex record).map (·.hitValues side)) := by
  have hspeaker : speakerOf (c.searchedBy .word).resolve anySpeaker =
      speakerOf (c.searchedBy .group).resolve anySpeaker :=
    speakerOf_congr ((QueryConfig.resolve_participant _).trans
      (QueryConfig.resolve_participant _).symm) anySpeaker
  rw [ofConfig, ofConfig, hspeaker]
  cases speakerOf (c.searchedBy .group).resolve anySpeaker with
  | error e => rfl
  | ok speaker =>
    have hword := build_results_hitValues (h.searchedBy .word) speaker session recordIndex record
    have hgroup := build_results_hitValues (h.searchedBy .group) speaker session recordIndex record
    have hwords := (build (c.searchedBy .word).resolve speaker).candidates_word side h.boundaryFree
      rfl h.words (acceptsWord_build h speaker)
    have hgroups := (build (c.searchedBy .group).resolve speaker).candidates_group root side rfl
    refine congrArg Except.ok ?_
    dsimp only
    rw [hword, hgroup, recordValues, recordValues]
    simp only [hwords, hgroups]
    -- What is left is read off the parts that both configurations share.
    rfl

/-- A session with one record of two words. -/
def twoWords : Corpus.WrittenSession where
  name := ['S']
  date := none
  participants := []
  records := [⟨none, none, none, [],
    [⟨[], ['ʃ', 'a', ' ', 's', 'i'], ['s', 'a', ' ', 'ʃ', 'ɪ'], none, []⟩]⟩]

/-- A search for the longest sequences of phones. -/
def phonesConfig (exact : Bool) : QueryConfig :=
  { primary := { expression := ['.', '+'], dialect := .phonex, exact } }

/-- The phones of each word are found, in the words as in the group. -/
theorem twoWords_values_eq :
    ∃ s r root, twoWords.build .builtin = .ok s ∧ s.records = [r] ∧
      (phonesConfig false).SearchesPhones root .target ∧
      (ofConfig ((phonesConfig false).searchedBy .word) true).map
          (fun q => (q.results s 0 r).map (·.hitValues .target)) =
        (ofConfig ((phonesConfig false).searchedBy .group) true).map
          (fun q => (q.results s 0 r).map (·.hitValues .target)) ∧
      ∃ q, ofConfig ((phonesConfig false).searchedBy .group) true = .ok q ∧
        ((q.results s 0 r).map (·.hitValues .target)).map (fun (found, _) => found.map (·.data)) =
          [some ['ʃ', 'a'], some ['s', 'i']] := by
  have hsearches : (phonesConfig false).SearchesPhones _ .target :=
    { searchTier := rfl
      dialect := rfl
      exact := rfl
      read := rfl
      boundaryFree := rfl
      words := rfl
      wordPattern := Or.inl rfl
      alignedWord := Or.inl QueryConfig.isIdle_absent }
  refine ⟨_, _, _, rfl, rfl, hsearches, word_values_eq_group_values hsearches true _ 0 _,
    build ((phonesConfig false).searchedBy .group).resolve .anyone, rfl, ?_⟩
  rw [build_results_hitValues (hsearches.searchedBy .group), CompiledPattern.find_phonex_eq]
  decide +kernel

/-- An expression that has to match a whole value matches words where it matches no group. -/
theorem whole_words_are_no_groups :
    ∃ s r root q q', twoWords.build .builtin = .ok s ∧ s.records = [r] ∧
      Phonex.read (phonesConfig true).primary.expression = .ok root ∧
      root.isBoundaryFree = true ∧
      ofConfig ((phonesConfig true).searchedBy .word) true = .ok q ∧
      ofConfig ((phonesConfig true).searchedBy .group) true = .ok q' ∧
      (q.results s 0 r).map (·.hitValues .target) ≠
        (q'.results s 0 r).map (·.hitValues .target) := by
  have hprimary : ∀ s : SearchBy,
      (build ((phonesConfig true).searchedBy s).resolve .anyone).primary =
        .ofSpec (filterId "primary") (QueryConfig.resolveCase (phonesConfig true).primary) :=
    fun s => congrArg (PatternFilter.ofSpec _)
      ((phonesConfig true).searchedBy s).resolve_searchTier_primary.2
  have hread : Phonex.read (phonesConfig true).primary.expression = .ok _ := rfl
  refine ⟨_, _, _, build ((phonesConfig true).searchedBy .word).resolve .anyone,
    build ((phonesConfig true).searchedBy .group).resolve .anyone, rfl, rfl, hread, rfl, rfl, rfl,
    ?_⟩
  rw [results_hitValues _ rfl, results_hitValues _ rfl, hprimary, hprimary,
    PatternFilter.find_whole_phonex _ rfl rfl hread, CompiledPattern.isWhole_phonex_eq]
  decide +kernel

end Query

end PhoneticSearch
