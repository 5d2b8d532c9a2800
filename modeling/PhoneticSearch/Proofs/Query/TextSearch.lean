import PhoneticSearch.Proofs.Pattern.PlainSearch
import PhoneticSearch.Proofs.Pattern.PlainWords
import PhoneticSearch.Proofs.Query.WordSearch

/-!
# Searching the words of texts

A text that a group stores on a tier is cut into words by its white space, and a word of the group
has its part of the text if the text has so many words; other tiers may have more.  A hit in a word
is moved by the bytes in front of the word, so that what is found in the words of a group is what is
found in the group if the search itself goes word by word (`flatMap_words_primaryValues`).

For a plain pattern without white space it does (`Plain.find_words`), wherever its occurrences
overlap and whatever white space there is.  So both searches give the same values in the same order
(`word_texts_eq_group_texts`).
-/

namespace PhoneticSearch

/-! ### Stored texts -/

/-- Whether every group of a record stores a text on a tier: its orthography, or what it has on a
user tier of its own. -/
inductive Record.StoresText (r : Record) : TierName → Prop where
  | orthography : r.StoresText .orthography
  | user {name : Text} (h : ∀ g ∈ r.groups, g.hasUserTier name = true) : r.StoresText (.user name)

namespace Record.StoresText

variable {r : Record} {tier : TierName}

theorem side?_eq_none (h : r.StoresText tier) : tier.side? = none := by
  cases h <;> rfl

theorem exists_text (h : r.StoresText tier) {g : GroupView} (hg : g ∈ r.groupViews) :
    ∃ t, g.group.text? tier = some t := by
  obtain ⟨⟨group, i⟩, hmem, rfl⟩ := List.mem_map.mp hg
  cases h with
  | orthography => exact ⟨_, rfl⟩
  | user h => exact Option.isSome_iff_exists.mp (h group (List.fst_mem_of_mem_zipIdx hmem))

end Record.StoresText

/-! ### The values of hits in texts -/

/-- The value of a result for a hit in the text of a group. -/
def ResultValue.ofHit (tier : TierName) (groupIndex : Nat) (hit : Hit) : ResultValue :=
  .ofTier tier groupIndex hit.span hit.value.render

/-- A hit that counts bytes is moved to where the object has its text. -/
theorem SearchObject.place_result {tier : TierName} (htier : tier.side? = none) (o : SearchObject)
    (hit : Hit) :
    (o.place tier hit).result = .ofHit tier o.groupIndex (hit.shift (o.tierOffset tier)) := by
  have hcounts : hit.isInTranscription tier = false := by simp [Hit.isInTranscription, htier]
  have hoffset : o.hitOffset tier hit = o.tierOffset tier := if_neg (by simp [hcounts])
  have hbytes : ∀ p : PlacedHit, p.tier.side? = none → p.bytes = p.hit.span := by
    intro p hp
    simp [PlacedHit.bytes, hp]
  rw [PlacedHit.result, hbytes _ htier, SearchObject.place, hoffset]
  rfl

namespace Query

variable {tier : TierName} {find : Value → List Hit}

/-- The values of the hits in an object, where `find` is what is found in a value. -/
def primaryValues (tier : TierName) (find : Value → List Hit) (o : SearchObject) :
    List (Option ResultValue) :=
  (o.tierValue tier).elim [] fun v => (find v).map fun hit => some (o.place tier hit).result

/-- On a tier that is no transcription every hit has a result. -/
theorem candidateResults_primary (q : Query) (htier : q.searchTier.side? = none)
    (session : Session) (recordIndex : Nat) (record : Record) (g : GroupView)
    (groupData : TierData) (c : Candidate) :
    (q.candidateResults session recordIndex record g groupData c).map (·.primary) =
      primaryValues q.searchTier q.primary.find c.object := by
  have hsides : ∀ hit aligned, q.acceptsSides hit aligned = true := by
    intro hit aligned
    simp [acceptsSides, htier]
  rw [candidateResults, primaryValues]
  cases c.object.tierValue q.searchTier with
  | none => rfl
  | some v =>
    show List.map _ (List.filterMap _ _) = List.map _ (q.primary.find v)
    rw [List.map_filterMap, ← List.filterMap_eq_map]
    refine congrArg (List.filterMap · _) (funext fun hit => ?_)
    simp only [result, hsides, if_true]
    rfl

theorem primaryValues_group {g : GroupView} {t : Text} (htier : tier.side? = none)
    (htext : g.group.text? tier = some t) :
    primaryValues tier find (.scope (.group g)) =
      (find (.text t)).map fun hit => some (.ofHit tier g.index hit) := by
  have hvalue : (SearchObject.scope (.group g)).tierValue tier = some (.text t) :=
    GroupView.tierValue_of_text? htext
  rw [primaryValues, hvalue]
  simp only [SearchObject.place_result htier]
  rfl

/-- The hits in a word of a text have their places in the text. -/
theorem primaryValues_word {w : Word} {t : Text} (htier : tier.side? = none)
    (htext : w.group.text? tier = some t) :
    primaryValues tier find (.scope (.word w)) =
      (Text.words t)[w.index]?.elim [] fun word =>
        (find (.text word.2)).map fun hit => some (.ofHit tier w.groupIndex (hit.shift word.1)) := by
  have hword : w.textWord? tier = (Text.words t)[w.index]? := by
    rw [Word.textWord?, htext, Option.bind_some]
  have hvalue : (SearchObject.scope (.word w)).tierValue tier =
      ((Text.words t)[w.index]?).map fun word => .text word.2 :=
    (w.tierValue_of_side? htier).trans (congrArg _ hword)
  have hoffset : (SearchObject.scope (.word w)).tierOffset tier =
      ((Text.words t)[w.index]?).elim 0 (·.1) :=
    (w.tierOffset_of_side? htier).trans (congrArg (Option.elim · 0 _) hword)
  simp only [primaryValues, hvalue, SearchObject.place_result htier, hoffset]
  cases (Text.words t)[w.index]? <;> rfl

/-- **A search that goes word by word** finds in the words of a group what it finds in the group:
the numbers of the words are those of the words of the text, and some that stand for none. -/
theorem flatMap_words_primaryValues {g : GroupView} {t : Text} (htier : tier.side? = none)
    (htext : g.group.text? tier = some t)
    (hfind : find (.text t) =
      (Text.words t).flatMap fun word => (find (.text word.2)).map (·.shift word.1)) :
    (g.words.flatMap fun w => primaryValues tier find (.scope (.word w))) =
      primaryValues tier find (.scope (.group g)) := by
  let values (word : Nat × Text) : List (Option ResultValue) :=
    (find (.text word.2)).map fun hit => some (.ofHit tier g.index (hit.shift word.1))
  calc g.words.flatMap (fun w => primaryValues tier find (.scope (.word w)))
      = (List.range g.group.wordCount).flatMap fun i => (Text.words t)[i]?.elim [] values := by
        rw [GroupView.words, Group.words, List.flatMap_map]
        exact List.flatMap_congr fun i _ => primaryValues_word (w := ⟨g.group, g.index, i⟩)
          htier htext
    _ = (Text.words t).flatMap values :=
        flatMap_range_getElem? _ _ (Group.length_words_le htext)
    _ = primaryValues tier find (.scope (.group g)) := by
        rw [primaryValues_group htier htext, hfind, List.map_flatMap]
        simp only [List.map_map]
        rfl

end Query

/-! ### Configurations -/

theorem Plain.eq_of_compile {needle : Text} {caseSensitive : Bool} {p : Plain}
    (h : compile needle caseSensitive = .ok p) : p = ⟨needle, caseSensitive⟩ := by
  rw [compile_eq] at h
  split at h
  · exact (Except.ok.inj h).symm
  · cases h

/-- The pattern of a plain filter stands for its expression. -/
theorem PatternFilter.eq_of_pattern?_plain {id : Text} {spec : PatternSpec} {p : CompiledPattern}
    (hdialect : spec.dialect = .plain) (h : (ofSpec id spec).pattern? = some p) :
    p = .plain ⟨spec.expression, spec.caseSensitive⟩ := by
  by_cases hempty : spec.expression.isEmpty = true
  · simp [pattern?, ofSpec, hempty] at h
  · have hcompile : CompiledPattern.compile spec =
        ((Plain.compile spec.expression spec.caseSensitive).mapError (⟨none, .plain ·⟩)).map
          .plain := by
      simp only [CompiledPattern.compile, if_neg hempty, hdialect]
    cases hplain : Plain.compile spec.expression spec.caseSensitive with
    | error fault =>
      rw [hplain] at hcompile
      simp [pattern?, ofSpec, hempty, hcompile, Except.map, Except.mapError] at h
    | ok plain =>
      rw [hplain, Plain.eq_of_compile hplain] at hcompile
      have hpattern : (ofSpec id spec).pattern? =
          some (.plain ⟨spec.expression, spec.caseSensitive⟩) := by
        simp [pattern?, ofSpec, hempty, hcompile, Except.map, Except.mapError]
      exact Option.some.inj (h.symm.trans hpattern)

/-- A plain pattern without white space is searched for word by word. -/
theorem PatternFilter.find_words (id : Text) {spec : PatternSpec} (hdialect : spec.dialect = .plain)
    (hexact : spec.exact = false) (hexpression : Text.Unbroken spec.expression) (t : Text) :
    (ofSpec id spec).find (.text t) = (Text.words t).flatMap fun word =>
      ((ofSpec id spec).find (.text word.2)).map (·.shift word.1) := by
  have hsearched : (ofSpec id spec).spec.exact = false := hexact
  simp only [PatternFilter.find, hsearched]
  cases hpattern : (ofSpec id spec).pattern? with
  | none => simp
  | some p =>
    rw [eq_of_pattern?_plain hdialect hpattern]
    exact Plain.find_words (p := ⟨spec.expression, spec.caseSensitive⟩) hexpression t

/-- Whether a configuration searches texts of a record for a plain pattern without white space,
wherever it is found, and leaves out no words. -/
structure QueryConfig.SearchesText (c : QueryConfig) (record : Record) : Prop where
  searchTier : record.StoresText c.searchTier
  dialect : c.primary.dialect = .plain
  exact : c.primary.exact = false
  expression : Text.Unbroken c.primary.expression
  words : c.words.allowsAll = true
  wordPattern : c.wordPattern.IsIdle
  alignedWord : c.alignedWord.IsIdle

theorem QueryConfig.SearchesText.searchedBy {c : QueryConfig} {record : Record}
    (h : c.SearchesText record) (s : SearchBy) : (c.searchedBy s).SearchesText record :=
  { h with }

namespace Query

variable {c : QueryConfig} {record : Record}

/-- The values that a configuration finds in an object. -/
def valuesFor (c : QueryConfig) (o : SearchObject) : List (Option ResultValue) :=
  primaryValues c.searchTier
    (PatternFilter.ofSpec (filterId "primary") (QueryConfig.resolveCase c.primary)).find o

/-- The values of the results of a configuration that searches texts. -/
theorem build_results_primary (h : c.SearchesText record) (speaker : SpeakerFilter)
    (session : Session) (recordIndex : Nat) :
    ((build c.resolve speaker).results session recordIndex record).map (·.primary) =
      (build c.resolve speaker).gathered
        (fun g => ((build c.resolve speaker).candidates g).flatMap fun candidate =>
          valuesFor c candidate.object) session record := by
  have htier : (build c.resolve speaker).searchTier = c.searchTier := c.resolve_searchTier_primary.1
  have hprimary : (build c.resolve speaker).primary =
      .ofSpec (filterId "primary") (QueryConfig.resolveCase c.primary) :=
    congrArg (PatternFilter.ofSpec _) c.resolve_searchTier_primary.2
  refine results_map _ fun g candidate => ?_
  rw [candidateResults_primary _ (htier ▸ h.searchTier.side?_eq_none), htier, hprimary]
  rfl

/-- The values in the words of a group are those in the group. -/
theorem candidates_word_texts (h : c.SearchesText record) (speaker : SpeakerFilter) {g : GroupView}
    (hg : g ∈ record.groupViews) :
    (((build (c.searchedBy .word).resolve speaker).candidates g).flatMap fun candidate =>
      valuesFor c candidate.object) = valuesFor c (.scope (.group g)) := by
  obtain ⟨t, htext⟩ := h.searchTier.exists_text hg
  have hdialect : (QueryConfig.resolveCase c.primary).dialect = .plain := h.dialect
  rw [flatMap_candidates_word _ rfl h.words
    (acceptsWord_of_isIdle h.wordPattern h.alignedWord speaker)]
  exact flatMap_words_primaryValues h.searchTier.side?_eq_none htext
    (PatternFilter.find_words _ hdialect h.exact h.expression t)

theorem candidates_group_texts (c : QueryConfig) (speaker : SpeakerFilter) (g : GroupView) :
    (((build (c.searchedBy .group).resolve speaker).candidates g).flatMap fun candidate =>
      valuesFor c candidate.object) = valuesFor c (.scope (.group g)) :=
  List.flatMap_singleton _ _

/-- A search of all words of stored texts for a plain pattern without white space finds the same
values in the same order as the search of the groups, with or without regard to case. -/
theorem word_texts_eq_group_texts (h : c.SearchesText record) (anySpeaker : Bool)
    (session : Session) (recordIndex : Nat) :
    (ofConfig (c.searchedBy .word) anySpeaker).map
        (fun q => (q.results session recordIndex record).map (·.primary)) =
      (ofConfig (c.searchedBy .group) anySpeaker).map
        (fun q => (q.results session recordIndex record).map (·.primary)) := by
  refine ofConfig_searchedBy_congr (fun speaker => ?_) anySpeaker
  have hword := build_results_primary (h.searchedBy .word) speaker session recordIndex
  have hgroup := build_results_primary (h.searchedBy .group) speaker session recordIndex
  rw [hword, hgroup]
  calc _ = (build (c.searchedBy .word).resolve speaker).gathered
        (fun g => valuesFor c (.scope (.group g))) session record :=
      gathered_congr _ fun g hg => candidates_word_texts h speaker hg
    -- Both configurations share what decides which groups are searched.
    _ = (build (c.searchedBy .group).resolve speaker).gathered
        (fun g => valuesFor c (.scope (.group g))) session record := rfl
    _ = _ := gathered_congr _ fun g _ => (candidates_group_texts c speaker g).symm

/-- A session with one record, whose group has three words on a tier of its own and four in its
orthography. -/
def threeGlosses : Corpus.WrittenSession where
  name := ['S']
  date := none
  participants := []
  records := [⟨none, none, none, [],
    [⟨"o o o o".toList, [], [], none, [(['G'], "aaaaa\u2003b aa".toList)]⟩]⟩]

/-- A search for two letters in glosses. -/
def glossConfig : QueryConfig :=
  { searchTier := .user ['G']
    primary := { expression := ['a', 'a'], caseSensitive := true } }

/-- Two occurrences in the first word and one in the last, with the bytes of the white space between
them, are found in the words as in the group. -/
theorem threeGlosses_texts_eq :
    ∃ s r, threeGlosses.build .builtin = .ok s ∧ s.records = [r] ∧ glossConfig.SearchesText r ∧
      (ofConfig (glossConfig.searchedBy .word) true).map
          (fun q => (q.results s 0 r).map (·.primary)) =
        (ofConfig (glossConfig.searchedBy .group) true).map
          (fun q => (q.results s 0 r).map (·.primary)) ∧
      ∃ q, ofConfig (glossConfig.searchedBy .word) true = .ok q ∧
        ((q.results s 0 r).map (·.primary)).map (·.map (·.span)) =
          [some ⟨0, 2⟩, some ⟨2, 4⟩, some ⟨10, 12⟩] := by
  obtain ⟨s, r, hbuild, hrecords, hstores, hfound⟩ : ∃ s r, threeGlosses.build .builtin = .ok s ∧
      s.records = [r] ∧ (∀ g ∈ r.groups, g.hasUserTier ['G'] = true) ∧
      ∃ q, ofConfig (glossConfig.searchedBy .word) true = .ok q ∧
        ((q.results s 0 r).map (·.primary)).map (·.map (·.span)) =
          [some ⟨0, 2⟩, some ⟨2, 4⟩, some ⟨10, 12⟩] :=
    ⟨_, _, rfl, rfl, by decide, _, rfl, by decide +kernel⟩
  have hsearches : glossConfig.SearchesText r :=
    { searchTier := .user hstores
      dialect := rfl
      exact := rfl
      expression := List.forall_mem_cons.mpr ⟨rfl, List.forall_mem_singleton.mpr rfl⟩
      words := rfl
      wordPattern := Or.inl rfl
      alignedWord := Or.inl QueryConfig.isIdle_absent }
  exact ⟨s, r, hbuild, hrecords, hsearches, word_texts_eq_group_texts hsearches true s 0, hfound⟩

end Query

end PhoneticSearch
