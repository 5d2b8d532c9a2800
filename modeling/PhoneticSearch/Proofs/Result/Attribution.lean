import Mathlib.Algebra.Ring.Nat
import Mathlib.Data.List.Basic
import Mathlib.Data.List.Nodup
import Mathlib.Data.List.Perm.Basic
import PhoneticSearch.Corpus.Reader
import PhoneticSearch.Proofs.Query.Address
import PhoneticSearch.Proofs.Query.Run
import PhoneticSearch.Proofs.Result.Tally
import PhoneticSearch.Proofs.Score.Sum

/-!
# Attribution of results

Results do not carry the record that they are from, only the name of its session and its number
there, and what they amount to is reckoned by these keys.  Where no two sessions of a corpus
have the same name, the keys of its records are distinct (`Corpus.nodup_recordKeys`) and lead
back to them (`Aggregates.record?_of_mem`).  So the aggregates attribute every result to the
record that it was found in (`Aggregates.ofResults_attributes`).

Where two sessions do share a name, the results of records with the same number are taken
together and attributed to the later session (`Aggregates.namesakes_are_merged`).
-/

namespace PhoneticSearch

/-! ### Records and their keys -/

namespace Corpus

variable {corpus : Corpus}

/-- The name of the session of a record, and the number of the record there. -/
def recordKey (x : Session × Nat × Record) : Text × Nat := (x.1.name, x.2.1)

theorem nodup_recordKeys (h : (corpus.map (·.name)).Nodup) :
    (corpus.records.map recordKey).Nodup := by
  rw [records, List.map_flatMap, List.nodup_flatMap]
  constructor
  · intro s _
    refine List.Nodup.of_map Prod.snd ?_
    have hnumbers : ((s.records.zipIdx.map fun x => (s, x.2, x.1)).map recordKey).map Prod.snd =
        s.records.zipIdx.map Prod.snd := by
      rw [List.map_map, List.map_map]
      rfl
    rw [hnumbers, List.zipIdx_map_snd]
    exact List.nodup_range'
  · refine (List.pairwise_map.mp h).imp fun hne => ?_
    rintro ⟨name, i⟩ hs hs'
    have hname : ∀ {t : Session},
        (name, i) ∈ (t.records.zipIdx.map fun x => (t, x.2, x.1)).map recordKey →
          t.name = name := by
      intro t ht
      obtain ⟨x, hx, hkey⟩ := List.mem_map.mp ht
      obtain ⟨_, -, rfl⟩ := List.mem_map.mp hx
      exact (Prod.mk.inj hkey).1
    exact hne ((hname hs).trans (hname hs').symm)

end Corpus

namespace Aggregates

variable {corpus : Corpus} {s : Session} {i : Nat} {r : Record}

/-- Where no two sessions have the same name, the key of a record leads back to it. -/
theorem record?_of_mem (hnames : (corpus.map (·.name)).Nodup) (h : (s, i, r) ∈ corpus.records) :
    record? corpus (s.name, i) = some r := by
  obtain ⟨hs, hr⟩ := Corpus.mem_records.mp h
  have hfound : (corpus.filterMap fun t => if t.name == s.name then t.records[i]? else none) =
      [r] := by
    clear h
    induction corpus with
    | nil => cases hs
    | cons t corpus ih =>
      rw [List.map_cons, List.nodup_cons] at hnames
      rcases List.mem_cons.mp hs with rfl | hs
      · -- The sessions behind have other names, so that the last one found is this one.
        have hrest : ∀ u ∈ corpus,
            (if u.name == s.name then u.records[i]? else none) = none := by
          intro u hu
          have hne : u.name ≠ s.name := fun heq =>
            hnames.1 (heq ▸ List.mem_map_of_mem hu)
          rw [if_neg (by simpa using hne)]
        rw [List.filterMap_cons_some (by rw [if_pos (beq_self_eq_true _), hr]),
          List.filterMap_eq_nil_iff.mpr hrest]
      · have hne : t.name ≠ s.name := fun heq => hnames.1 (heq ▸ List.mem_map_of_mem hs)
        rw [List.filterMap_cons_none (by rw [if_neg (by simpa using hne)])]
        exact ih hnames.2 hs
  rw [record?, hfound]
  rfl

end Aggregates

/-! ### Results and their records -/

theorem Record.groups_of_groupViews {r : Record} {i : Nat} {g : GroupView}
    (h : r.groupViews[i]? = some g) : r.groups[i]? = some g.group := by
  rw [groupViews, List.getElem?_map] at h
  obtain ⟨⟨group, n⟩, hget, rfl⟩ := Option.map_eq_some_iff.mp h
  rw [List.getElem?_zipIdx] at hget
  obtain ⟨found, hfound, heq⟩ := Option.map_eq_some_iff.mp hget
  obtain rfl := (Prod.mk.inj heq).1
  exact hfound

namespace Query

variable (q : Query)

/-- The results of a corpus, record by record. -/
def corpusResults (corpus : Corpus) : List QueryResult :=
  corpus.records.flatMap fun (s, i, r) => q.results s i r

/-- A run that is not cancelled collects the results of the corpus. -/
theorem run_never (corpus : Corpus) :
    (q.run corpus .never).1.added = q.corpusResults corpus := by
  have h := q.runState_upTo corpus .never
  have hrunning : (q.runState corpus .never).cancelled = false := by
    refine Bool.eq_false_iff.mpr fun hcancelled => ?_
    rcases h.cancelled hcancelled with hbefore | ⟨n, -, hafter⟩
    · cases hbefore
    · cases hafter
  show (q.runState corpus .never).collection.added = _
  rw [h.collected, h.running hrunning, List.take_length]
  rfl

/-- The groups of a record that the primary value of a result is from, with their numbers. -/
def foundGroups (s : Session) (i : Nat) (r : Record) : List (Group × Nat) :=
  r.groups.zipIdx.filter fun (_, k) =>
    (q.results s i r).any fun x => x.primary.any (·.groupIndex == k)

/-- A result has the key of its record, and a primary value in its group. -/
theorem groupResults_source {s : Session} {i : Nat} {r : Record} {g : GroupView}
    {x : QueryResult} (h : x ∈ q.groupResults s i r g) :
    x.key = (s.name, i) ∧ ∃ v, x.primary = some v ∧ v.groupIndex = g.index := by
  have hat := q.groupResults_isAt h
  unfold groupResults at h
  split at h
  · obtain ⟨c, -, h⟩ := List.mem_flatMap.mp h
    unfold candidateResults at h
    split at h
    · cases h
    · obtain ⟨hit, -, h⟩ := List.mem_filterMap.mp h
      unfold result at h
      dsimp only at h
      split at h
      · obtain rfl := Option.some.inj h
        exact ⟨rfl, _, rfl, (hat _ (List.mem_cons_self ..)).1⟩
      · cases h
  · cases h

/-- A result is from the record with its key, and from a group of the record. -/
theorem results_source {s : Session} {i : Nat} {r : Record} {x : QueryResult}
    (h : x ∈ q.results s i r) : x.key = (s.name, i) ∧
      ∃ v g, x.primary = some v ∧ r.groups[v.groupIndex]? = some g := by
  unfold results at h
  split at h
  · obtain ⟨⟨_, _, g⟩, hg, hx⟩ := List.mem_flatMap.mp h
    obtain ⟨hkey, v, hv, hindex⟩ := q.groupResults_source hx
    have hview := GroupFilter.getElem?_of_mem_select hg
    rw [← hindex] at hview
    exact ⟨hkey, v, g.group, hv, Record.groups_of_groupViews hview⟩
  · cases h

theorem mem_corpusResults {q : Query} {corpus : Corpus} {x : QueryResult} :
    x ∈ q.corpusResults corpus ↔ ∃ y ∈ corpus.records, x ∈ q.results y.1 y.2.1 y.2.2 :=
  List.mem_flatMap

theorem mem_foundGroups {q : Query} {s : Session} {i : Nat} {r : Record} {g : Group} {k : Nat} :
    (g, k) ∈ q.foundGroups s i r ↔ r.groups[k]? = some g ∧
      ∃ x ∈ q.results s i r, ∃ v, x.primary = some v ∧ v.groupIndex = k := by
  simp [foundGroups, List.mem_zipIdx_iff_getElem?, Option.any_eq_true]

/-- The groups with results of a corpus, record by record. -/
def corpusGroups (corpus : Corpus) : List Group :=
  corpus.records.flatMap fun (s, i, r) => (q.foundGroups s i r).map Prod.fst

/-- The number of results of the records with a speaker. -/
def speakerTotal (corpus : Corpus) (name : Text) : Nat :=
  (corpus.records.map fun (s, i, r) =>
    if Aggregates.speakerName (some r) = name then (q.results s i r).length else 0).sum

end Query

namespace Aggregates

variable (q : Query) (corpus : Corpus)

/-- The keys of the groups with results, record by record. -/
def foundKeys : List GroupKey :=
  corpus.records.flatMap fun x =>
    (q.foundGroups x.1 x.2.1 x.2.2).map fun (_, k) => (Corpus.recordKey x, k)

theorem length_foundKeys : (foundKeys q corpus).length = (q.corpusGroups corpus).length := by
  simp [foundKeys, Query.corpusGroups, List.length_flatMap]

variable {corpus} (hnames : (corpus.map (·.name)).Nodup)

include hnames in
theorem nodup_foundKeys : (foundKeys q corpus).Nodup := by
  rw [foundKeys, List.nodup_flatMap]
  constructor
  · intro x _
    refine List.Nodup.of_map Prod.snd ?_
    rw [List.map_map]
    have hnumbers : ((q.foundGroups x.1 x.2.1 x.2.2).map Prod.snd).Sublist
        (x.2.2.groups.zipIdx.map Prod.snd) := List.filter_sublist.map _
    rw [List.zipIdx_map_snd] at hnumbers
    exact hnumbers.nodup List.nodup_range'
  · refine (List.pairwise_map.mp (Corpus.nodup_recordKeys hnames)).imp fun hne => ?_
    intro key hx hy
    obtain ⟨_, -, rfl⟩ := List.mem_map.mp hx
    obtain ⟨_, -, heq⟩ := List.mem_map.mp hy
    exact hne (Prod.mk.inj heq).1.symm

include hnames in
/-- The keys of groups in results are those of the groups with results. -/
theorem groupKeys_perm : (groupKeys (q.corpusResults corpus)).Perm (foundKeys q corpus) := by
  refine eraseDups_perm (nodup_foundKeys q hnames) fun (key, k) => ?_
  simp only [List.mem_filterMap, Option.map_eq_some_iff, foundKeys, List.mem_flatMap, List.mem_map,
    Query.mem_corpusResults]
  constructor
  · rintro ⟨x, ⟨y, hy, hx⟩, v, hv, heq⟩
    obtain ⟨rfl, rfl⟩ := Prod.mk.inj heq
    obtain ⟨hkey, v', g, hv', hg⟩ := q.results_source hx
    obtain rfl := Option.some.inj (hv.symm.trans hv')
    exact ⟨y, hy, (g, v.groupIndex), Query.mem_foundGroups.mpr ⟨hg, x, hx, v, hv, rfl⟩,
      by rw [hkey]; rfl⟩
  · rintro ⟨y, hy, ⟨g, k'⟩, hfound, heq⟩
    obtain ⟨rfl, rfl⟩ := Prod.mk.inj heq
    obtain ⟨-, x, hx, v, hv, rfl⟩ := Query.mem_foundGroups.mp hfound
    exact ⟨x, ⟨y, hy, hx⟩, v, hv, by rw [(q.results_source hx).1]; rfl⟩

include hnames in
/-- The keys of groups with results lead back to the groups. -/
theorem filterMap_foundKeys :
    ((foundKeys q corpus).filterMap fun (key, k) => (record? corpus key).bind (·.groups[k]?)) =
      q.corpusGroups corpus := by
  rw [foundKeys, List.filterMap_flatMap]
  refine List.flatMap_congr fun ⟨s, i, r⟩ hr => ?_
  rw [List.filterMap_map, ← List.filterMap_eq_map]
  refine List.filterMap_congr fun ⟨g, k⟩ hg => ?_
  show (record? corpus (s.name, i)).bind (·.groups[k]?) = some g
  rw [record?_of_mem hnames hr]
  exact (Query.mem_foundGroups.mp hg).1

include hnames in
theorem totalScore_eq (features : FeatureSet) (ignoreDiacritics : Bool) :
    totalScore corpus (groupKeys (q.corpusResults corpus)) features ignoreDiacritics =
      .sum (q.corpusGroups corpus) features ignoreDiacritics := by
  rw [← filterMap_foundKeys q hnames]
  exact AlignedScore.sum_perm ((groupKeys_perm q hnames).filterMap _) features ignoreDiacritics

include hnames in
theorem recordKeys_perm :
    ((q.corpusResults corpus).map QueryResult.key).eraseDups.Perm
      ((corpus.records.filter fun (s, i, r) => !(q.results s i r).isEmpty).map
        Corpus.recordKey) := by
  refine eraseDups_perm ((Corpus.nodup_recordKeys hnames).sublist (List.filter_sublist.map _))
    fun key => ?_
  simp only [List.mem_map, Query.mem_corpusResults, List.mem_filter]
  constructor
  · rintro ⟨x, ⟨y, hy, hx⟩, rfl⟩
    refine ⟨y, ⟨hy, ?_⟩, (q.results_source hx).1.symm⟩
    simpa using List.ne_nil_of_mem hx
  · rintro ⟨y, ⟨hy, hsome⟩, rfl⟩
    obtain ⟨x, hx⟩ := List.exists_mem_of_ne_nil (q.results y.1 y.2.1 y.2.2) (by simpa using hsome)
    exact ⟨x, ⟨y, hy, hx⟩, (q.results_source hx).1⟩

include hnames in
/-- The speakers of results are those of the records that the results are from. -/
theorem count_speakers (name : Text) :
    ((q.corpusResults corpus).map fun x => speakerName (record? corpus x.key)).count name =
      q.speakerTotal corpus name := by
  rw [Query.corpusResults, List.map_flatMap, List.count_flatMap, Query.speakerTotal]
  refine congrArg List.sum (List.map_congr_left fun ⟨s, i, r⟩ hr => ?_)
  -- The results of one record all have its speaker.
  have hspeaker : (q.results s i r).map (fun x => speakerName (record? corpus x.key)) =
      List.replicate (q.results s i r).length (speakerName (some r)) := by
    refine List.eq_replicate_iff.mpr ⟨List.length_map _, fun name hname => ?_⟩
    obtain ⟨x, hx, rfl⟩ := List.mem_map.mp hname
    rw [(q.results_source hx).1, record?_of_mem hnames hr]
  show ((q.results s i r).map _).count name = _
  rw [hspeaker, List.count_replicate]
  simp

/-- **Attribution.**  Where no two sessions of a corpus have the same name, the aggregates of a
query's results attribute each result to the record that it was found in: they count the records
with results, by position; give each speaker the results of his records; count the groups with
results, record by record; and score exactly these groups, each of them once.  The scores are what
those of the groups add up to, if this fits into words of 64 bits, and the other numbers are words
of 32 bits if there are less than 2 ^ 32 results. -/
theorem ofResults_attributes (q : Query) (corpus : Corpus) (options : ScoreOptions)
    (hnames : (corpus.map (·.name)).Nodup) :
    let a := ofResults (q.corpusResults corpus) corpus options
    let total (f : Feature) := ScoreTotal.ofScore
      (.sum (q.corpusGroups corpus) (.ofList [f]) options.ignoreDiacritics)
    a.recordsWithResults =
        corpus.records.countP (fun (s, i, r) => !(q.results s i r).isEmpty) ∧
      (∀ name, a.bySpeaker.lookup name =
        if q.speakerTotal corpus name = 0 then none else some (q.speakerTotal corpus name)) ∧
      a.groupsWithResults = (q.corpusGroups corpus).length ∧
      (a.scores = if options.isEnabled then some
          { consonants := if options.consonants then some (total .consonant) else none
            vowels := if options.vowels then some (total .vowel) else none }
        else none) ∧
      (∀ f : Feature,
        let scores := (q.corpusGroups corpus).map
          (AlignedScore.ofGroup · (.ofList [f]) options.ignoreDiacritics)
        (AlignedScore.total scores).Fits → total f = .ofScore (.total scores)) ∧
      ((q.corpusResults corpus).length < 2 ^ 32 → ∀ n ∈ a.counters, n < 2 ^ 32) := by
  refine ⟨?_, fun name => ?_, ?_, ?_, fun f hfits => ?_, fun hless n hn => ?_⟩
  · show ((q.corpusResults corpus).map QueryResult.key).eraseDups.length = _
    rw [(recordKeys_perm q hnames).length_eq, List.length_map, List.countP_eq_length_filter]
  · show (nameTally ((q.corpusResults corpus).map _)).lookup name = _
    rw [lookup_nameTally, count_speakers q hnames]
  · show (groupKeys (q.corpusResults corpus)).length = _
    rw [(groupKeys_perm q hnames).length_eq, length_foundKeys]
  · show (if options.isEnabled then some (scoreTotals corpus _ options) else none) = _
    simp only [scoreTotals, totalScore_eq q hnames]
  · exact congrArg ScoreTotal.ofScore (AlignedScore.sum_eq_total hfits)
  · exact (counters_le _ corpus options n hn).trans_lt hless

/-- A corpus of two sessions of one record each: the child says `ta` for `ka`, and the mother
says `pa`. -/
def twoSessions (first second : String) : Json :=
  let text (t : String) := Json.string (some t.toList)
  let record (fields : List (String × Json)) : Json :=
    .object (fields.map fun (name, j) => (some name.toList, j))
  let participants := Json.array [record [("id", text "CHI")], record [("id", text "MOT")]]
  let aligned (k : Nat) := Json.array [.number (some k), .number (some k)]
  let session (name speaker target actual : String) :=
    let group := record [("ipa_target", text target), ("ipa_actual", text actual),
      ("alignment", .array [aligned 0, aligned 1])]
    record [("name", text name), ("participants", participants),
      ("records", .array [record [("speaker", text speaker), ("groups", .array [group])]])]
  record [("sessions", .array [session first "CHI" "ka" "ta", session second "MOT" "pa" "pa"])]

/-- A search for consonants. -/
def consonantConfig : QueryConfig :=
  { primary := { expression := ['C'], dialect := .soundClass } }

theorem ofResults_attributes_two : ∃ corpus q,
    Corpus.ofJson .builtin (twoSessions "S" "T") = .ok corpus ∧
    Query.ofConfig consonantConfig true = .ok q ∧ (corpus.map (·.name)).Nodup ∧
    q.speakerTotal corpus "CHI".toList = 1 ∧
    (.sum (q.corpusGroups corpus) (.ofList [.consonant]) true : AlignedScore) = ⟨1, 2, 0, 2, 0⟩ ∧
    let a := ofResults (q.corpusResults corpus) corpus { consonants := true }
    a.bySpeaker.lookup "CHI".toList = some 1 ∧
    a.scores = some ⟨some (.ofScore ⟨1, 2, 0, 2, 0⟩), none⟩ := by
  obtain ⟨corpus, q, hcorpus, hq, hnames, hchild, hscore⟩ : ∃ corpus q,
      Corpus.ofJson .builtin (twoSessions "S" "T") = .ok corpus ∧
      Query.ofConfig consonantConfig true = .ok q ∧ (corpus.map (·.name)).Nodup ∧
      q.speakerTotal corpus "CHI".toList = 1 ∧
      (.sum (q.corpusGroups corpus) (.ofList [.consonant]) true : AlignedScore) =
        ⟨1, 2, 0, 2, 0⟩ :=
    ⟨_, _, rfl, rfl, by decide +kernel⟩
  obtain ⟨-, hspeakers, -, hscores, -⟩ :=
    ofResults_attributes q corpus { consonants := true } hnames
  refine ⟨corpus, q, hcorpus, hq, hnames, hchild, hscore, ?_, ?_⟩
  · rw [hspeakers, hchild]
    rfl
  · rw [hscores, ← hscore]
    rfl

/-- The results of two sessions with the same name are attributed to the record of the second
one, and its group is the only one that is scored. -/
theorem namesakes_are_merged : ∃ corpus q,
    Corpus.ofJson .builtin (twoSessions "S" "S") = .ok corpus ∧
    Query.ofConfig consonantConfig true = .ok q ∧
    let a := ofResults (q.corpusResults corpus) corpus { consonants := true }
    (corpus.records.countP (fun (s, i, r) => !(q.results s i r).isEmpty) = 2 ∧
      a.recordsWithResults = 1) ∧
    (q.speakerTotal corpus "CHI".toList = 1 ∧ a.bySpeaker = [("MOT".toList, 2)]) ∧
    ((q.corpusGroups corpus).length = 2 ∧ a.groupsWithResults = 1) ∧
    (.sum (q.corpusGroups corpus) (.ofList [.consonant]) true : AlignedScore) = ⟨1, 2, 0, 2, 0⟩ ∧
    totalScore corpus (groupKeys (q.corpusResults corpus)) (.ofList [.consonant]) true =
      ⟨1, 1, 0, 1, 0⟩ :=
  ⟨_, _, rfl, rfl, by decide +kernel⟩

end Aggregates

end PhoneticSearch
