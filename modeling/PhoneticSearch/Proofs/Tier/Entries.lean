import Mathlib.Data.List.Dedup
import Mathlib.Data.List.Forall2
import Mathlib.Data.List.Perm.Subperm
import PhoneticSearch.Corpus.Reader
import PhoneticSearch.Proofs.Tier.Data
import PhoneticSearch.Proofs.Tier.Selection

/-!
# What a selection of tiers finds

Every selected tier that a record stores gives a value, in the order of the names, and every
other one that is derived is put under its title into the metadata (`data_values`, `data_metadata`).  Texts under
one title replace each other, the last one stays (`Metadata.mem_merge_nil`), and only where all
titles are different nothing is lost (`Metadata.nodup_of_length_merge`).  Titles of different
tiers can only be the same if one of the tiers is a cover (`nodup_headings_iff`): a selection
delivers every tier that can be resolved if and only if no cover has the title of another
derived tier (`delivers_iff_titles`).
-/

namespace PhoneticSearch

/-! ### Metadata -/

namespace Metadata

variable {m entries : Metadata} {e : Text × Text} {name value : Text}

theorem mem_set : e ∈ m.set name value ↔ e = (name, value) ∨ e ∈ m ∧ e.1 ≠ name := by
  rw [set, List.mem_append, List.mem_filter, List.mem_singleton, or_comm, bne_iff_ne]

theorem set_of_notMem (h : name ∉ m.map Prod.fst) : m.set name value = m ++ [(name, value)] := by
  refine congrArg (· ++ _) (List.filter_eq_self.mpr fun e he => bne_iff_ne.mpr fun heq => h ?_)
  exact heq ▸ List.mem_map_of_mem he

theorem merge_concat : m.merge (entries ++ [e]) = (m.merge entries).set e.1 e.2 := by
  rw [merge, List.foldl_append]
  rfl

/-- Of the texts under one name the last one stays. -/
theorem mem_merge_nil : e ∈ merge [] entries ↔
    ∃ front back, entries = front ++ e :: back ∧ e.1 ∉ back.map Prod.fst := by
  induction entries using List.reverseRecOn with
  | nil =>
    refine ⟨fun h => (List.not_mem_nil h).elim, ?_⟩
    rintro ⟨front, back, h, -⟩
    exact (List.append_ne_nil_of_right_ne_nil front (List.cons_ne_nil e back) h.symm).elim
  | append_singleton entries last ih =>
    rw [merge_concat, mem_set, ih]
    constructor
    · rintro (rfl | ⟨⟨front, back, rfl, hback⟩, hne⟩)
      · exact ⟨entries, [], rfl, List.not_mem_nil⟩
      · refine ⟨front, back ++ [last], by rw [List.append_assoc, List.cons_append], ?_⟩
        rw [List.map_append, List.mem_append, not_or]
        exact ⟨hback, by simpa using hne⟩
    · rintro ⟨front, back, h, hback⟩
      rcases List.eq_nil_or_concat' back with rfl | ⟨back, last', rfl⟩
      · obtain ⟨-, hlast⟩ := List.append_inj' h rfl
        exact Or.inl (List.cons.inj hlast).1.symm
      · rw [← List.cons_append, ← List.append_assoc] at h
        obtain ⟨rfl, hlast⟩ := List.append_inj' h rfl
        obtain rfl := (List.cons.inj hlast).1
        rw [List.map_append, List.mem_append, not_or] at hback
        exact Or.inr ⟨⟨front, back, rfl, hback.1⟩, by simpa using hback.2⟩

theorem nodup_merge_nil (entries : Metadata) : ((merge [] entries).map Prod.fst).Nodup := by
  induction entries using List.reverseRecOn with
  | nil => exact List.nodup_nil
  | append_singleton entries last ih =>
    rw [merge_concat, set, List.map_append, List.nodup_append']
    refine ⟨ih.sublist (List.filter_sublist.map _), List.nodup_singleton _, ?_⟩
    intro name hname hlast
    obtain rfl := List.mem_singleton.mp hlast
    obtain ⟨e, he, heq⟩ := List.mem_map.mp hname
    exact bne_iff_ne.mp (List.mem_filter.mp he).2 heq

/-- Nothing is lost of entries with different names. -/
theorem merge_nil_of_nodup (h : (entries.map Prod.fst).Nodup) : merge [] entries = entries := by
  induction entries using List.reverseRecOn with
  | nil => rfl
  | append_singleton entries last ih =>
    rw [List.map_append, List.nodup_append'] at h
    rw [merge_concat, ih h.1, set_of_notMem fun hname => h.2.2 hname (List.mem_singleton_self _)]

/-- Something is lost of entries with the same name. -/
theorem nodup_of_length_merge (h : (merge [] entries).length = entries.length) :
    (entries.map Prod.fst).Nodup := by
  have hsubset : (merge [] entries).map Prod.fst ⊆ entries.map Prod.fst := by
    refine List.map_subset _ fun e he => ?_
    obtain ⟨front, back, rfl, -⟩ := mem_merge_nil.mp he
    exact List.mem_append_right _ List.mem_cons_self
  have hperm : ((merge [] entries).map Prod.fst).Perm (entries.map Prod.fst) := by
    refine (List.subperm_of_subset (nodup_merge_nil entries) hsubset).perm_of_length_le ?_
    rw [List.length_map, List.length_map, h]
  exact hperm.nodup_iff.mp (nodup_merge_nil entries)

end Metadata

/-! ### The names of tiers -/

theorem TierName.read_trim (t : Text) : TierName.read (Text.trim t) = TierName.read t := by
  rw [TierName.read, TierName.read, Text.trim_trim]

namespace TierRequest

/-- A name that asks for a stored tier asks for the one with this name. -/
theorem eq_read_of_stored {name : Text} {tier : TierName} (h : read name = .ok (.stored tier)) :
    tier = TierName.read name := by
  unfold read at h
  dsimp only at h
  split at h
  · cases h
  split at h
  · cases h
  split at h
  · cases h
  split at h
  · cases h
  split at h
  · next map _ =>
    cases hmap : SymbolMap.read (Text.trim map) with
    | error fault => rw [hmap] at h; cases h
    | ok symbols => rw [hmap] at h; cases h
  · cases h
    exact TierName.read_trim name

theorem isSome_render {request : TierRequest} (h : request.isDerived = true) (o : SearchObject) :
    ∃ text, request.render o = some text := by
  cases request with
  | stored tier => cases h
  | alignment | soundClasses _ | stress _ | syllabification _ | cover _ _ _ => exact ⟨_, rfl⟩

end TierRequest

namespace TierSelection

variable {id names : Text} {record : Record} {label : Text} {o : SearchObject} {t t' : SelectedTier}

/-! ### Selected tiers -/

theorem isFor_of_mem (h : t ∈ (read id names).tiers) : t.IsFor t.name := by
  rw [read_tiers] at h
  obtain ⟨item, hitem, hselected⟩ := List.mem_filterMap.mp h
  obtain ⟨part, -, rfl⟩ := List.mem_map.mp (List.mem_of_mem_filter hitem)
  have hname := selected?_eq_some hselected
  rw [← hname] at hselected
  refine ⟨by rw [hname, Text.trim_trim], ?_⟩
  unfold selected? at hselected
  split at hselected
  · next request hread =>
    rw [hread, ← Option.some.inj hselected]
  · cases hselected

/-- A tier is stored if the record has the tier with its name. -/
theorem storedTier?_eq (h : t.IsFor t.name) : storedTier? record t =
    if record.hasTier (TierName.read t.name) then some (TierName.read t.name) else none := by
  unfold storedTier?
  split
  · next tier hrequest =>
    rw [TierRequest.eq_read_of_stored (h.2.trans (congrArg Except.ok hrequest))]
  · rfl

/-- A tier that is no cover has its name as title. -/
theorem heading_eq_name (h : t.IsFor t.name)
    (hcover : ∀ side title symbols, t.request ≠ .cover side title symbols) :
    heading t = t.name := by
  unfold heading
  cases hrequest : t.request with
  | cover side title symbols => exact absurd hrequest (hcover side title symbols)
  | stored _ | alignment | soundClasses _ | stress _ | syllabification _ => exact h.1.symm

/-! ### What is found -/

theorem data_metadata : ((read id names).data record label o).metadata =
    .merge [] (((read id names).derived record).map (entry label o)) :=
  congrArg TierData.metadata (foldl_addTier _ {})

/-- The values that are found are those of the names that the record stores, in order, each
under the name it was asked for by. -/
theorem data_values : ((read id names).data record label o).values =
    ((read id names).names.filter fun name => record.hasTier (TierName.read name)).map fun name =>
      { storedValue label o (TierName.read name) with name := labelled name label } := by
  have hvalues : ((read id names).data record label o).values =
      ((read id names).tiers.filterMap (storedTier? record)).map (storedValue label o) :=
    congrArg TierData.values (foldl_addTier _ {})
  rw [hvalues, TierSelection.names, List.filter_map, List.map_map, List.map_filterMap,
    ← List.filterMap_eq_map, List.filterMap_filter]
  refine List.filterMap_congr fun t ht => ?_
  have hfor := isFor_of_mem ht
  rw [storedTier?_eq hfor]
  by_cases hstored : record.hasTier (TierName.read t.name) = true
  · simp [hstored, storedValue, TierName.text_read, ← hfor.1]
  · simp [hstored]

theorem mem_derived : t ∈ (read id names).derived record ↔ t ∈ (read id names).tiers ∧
    record.hasTier (TierName.read t.name) = false ∧ t.request.isDerived = true := by
  rw [derived, List.mem_filter]
  refine and_congr_right fun ht => ?_
  rw [isDerivedIn, storedTier?_eq (isFor_of_mem ht), Bool.and_eq_true]
  cases record.hasTier (TierName.read t.name) <;> simp

/-! ### One entry for each tier -/

/-- Whether a selection delivers each tier that can be resolved for an object, once: the tiers
that the record stores as values in order, each of the other derived tiers with an entry of its
own in the metadata, and nothing else. -/
structure Delivers (s : TierSelection) (record : Record) (label : Text) (o : SearchObject) :
    Prop where
  values : (s.data record label o).values =
    (s.names.filter fun name => record.hasTier (TierName.read name)).map fun name =>
      { storedValue label o (TierName.read name) with name := labelled name label }
  metadata : ∃ entries : Metadata, entries.Perm (s.data record label o).metadata ∧
    List.Forall₂ (fun t e => t.request.render o = some e.2) (s.derived record) entries
  count : (s.data record label o).values.length + (s.data record label o).metadata.length =
    (s.tiers.filter fun t =>
      record.hasTier (TierName.read t.name) || t.request.isDerived).length

theorem labelled_injective (label : Text) : Function.Injective (labelled · label) := by
  intro name name' h
  simpa [labelled] using h

/-- What is resolved is stored or derived, and not both. -/
theorem length_resolved :
    ((read id names).tiers.filter fun t =>
      record.hasTier (TierName.read t.name) || t.request.isDerived).length =
    ((read id names).names.filter fun name => record.hasTier (TierName.read name)).length +
      ((read id names).derived record).length := by
  rw [List.length_eq_length_filter_add fun t => record.hasTier (TierName.read t.name),
    List.filter_filter, List.filter_filter, TierSelection.names, List.filter_map, List.length_map]
  have hstored : ((read id names).tiers.filter fun t => record.hasTier (TierName.read t.name) &&
      (record.hasTier (TierName.read t.name) || t.request.isDerived)) =
      (read id names).tiers.filter
        ((fun name => record.hasTier (TierName.read name)) ∘ fun t => t.name) := by
    refine List.filter_congr fun t _ => ?_
    rw [Function.comp_apply]
    cases record.hasTier (TierName.read t.name) <;> rfl
  have hderived : ((read id names).tiers.filter fun t => !record.hasTier (TierName.read t.name) &&
      (record.hasTier (TierName.read t.name) || t.request.isDerived)) =
      (read id names).derived record := by
    refine List.filter_congr fun t ht => ?_
    rw [isDerivedIn, storedTier?_eq (isFor_of_mem ht)]
    cases record.hasTier (TierName.read t.name) <;> rfl
  rw [hstored, hderived]

/-- Every derived tier has an entry of its own if and only if their titles are different. -/
theorem delivers_iff_nodup : Delivers (read id names) record label o ↔
    (((read id names).derived record).map heading).Nodup := by
  have hkeys : ((((read id names).derived record).map (entry label o)).map Prod.fst).Nodup ↔
      (((read id names).derived record).map heading).Nodup := by
    have hmap : (((read id names).derived record).map (entry label o)).map Prod.fst =
        (((read id names).derived record).map heading).map (labelled · label) := by
      rw [List.map_map, List.map_map]
      rfl
    rw [hmap, List.nodup_map_iff (labelled_injective label)]
  constructor
  · intro h
    have hcount := h.count
    rw [length_resolved, data_values, List.length_map, Nat.add_left_cancel_iff, data_metadata,
      ← List.length_map (f := entry label o)] at hcount
    exact hkeys.mp (Metadata.nodup_of_length_merge hcount)
  · intro h
    have hmetadata : ((read id names).data record label o).metadata =
        ((read id names).derived record).map (entry label o) := by
      rw [data_metadata, Metadata.merge_nil_of_nodup (hkeys.mpr h)]
    refine ⟨data_values, ⟨_, List.Perm.of_eq hmetadata.symm, ?_⟩, ?_⟩
    · rw [List.forall₂_map_right_iff, List.forall₂_same]
      intro t ht
      obtain ⟨text, htext⟩ := TierRequest.isSome_render (mem_derived.mp ht).2.2 o
      rw [entry, htext]
      rfl
    · rw [length_resolved, data_values, hmetadata, List.length_map, List.length_map]

/-- Titles of different tiers can only be the same if one of the tiers is a cover. -/
theorem nodup_headings_iff (hnames : (read id names).names.Nodup) :
    (((read id names).derived record).map heading).Nodup ↔
    ∀ t ∈ (read id names).derived record, ∀ t' ∈ (read id names).derived record,
      t.name ≠ t'.name → ∀ side title symbols, t.request = .cover side title symbols →
        heading t' ≠ title := by
  have hnames' : (((read id names).derived record).map (·.name)).Nodup :=
    hnames.sublist (List.filter_sublist.map _)
  constructor
  · intro h t ht t' ht' hne side title symbols hcover heq
    have hheading : heading t = title := by rw [heading, hcover, TierRequest.title]
    exact hne (congrArg _ (List.inj_on_of_nodup_map h ht ht' (hheading.trans heq.symm)))
  · intro h
    refine (List.Nodup.of_map _ hnames').map_on fun t ht t' ht' heq => ?_
    by_contra hne
    have hname : t.name ≠ t'.name := fun hname =>
      hne (List.inj_on_of_nodup_map hnames' ht ht' hname)
    by_cases hcover : ∃ side title symbols, t.request = .cover side title symbols
    · obtain ⟨side, title, symbols, hcover⟩ := hcover
      refine h t ht t' ht' hname side title symbols hcover ?_
      rw [← heq, heading, hcover, TierRequest.title]
    by_cases hcover' : ∃ side title symbols, t'.request = .cover side title symbols
    · obtain ⟨side, title, symbols, hcover'⟩ := hcover'
      refine h t' ht' t ht hname.symm side title symbols hcover' ?_
      rw [heq, heading, hcover', TierRequest.title]
    · rw [heading_eq_name (isFor_of_mem (mem_derived.mp ht).1) (by simpa using hcover),
        heading_eq_name (isFor_of_mem (mem_derived.mp ht').1) (by simpa using hcover')] at heq
      exact hname heq

/-- **Entries of selected tiers.**  A selection whose names are different delivers each tier
that can be resolved, once, if and only if no cover has the title of another derived tier.  In
any case the tiers that the record stores have their values, in order, and a title has the
text of the last derived tier with this title. -/
theorem delivers_iff_titles (id names : Text) (hnames : (read id names).names.Nodup)
    (record : Record) (label : Text) (o : SearchObject) :
    let s := read id names
    (s.Delivers record label o ↔
      ∀ t ∈ s.derived record, ∀ t' ∈ s.derived record, t.name ≠ t'.name →
        ∀ side title symbols, t.request = .cover side title symbols →
          heading t' ≠ title) ∧
    (s.data record label o).values =
      (s.names.filter fun name => record.hasTier (TierName.read name)).map (fun name =>
        { storedValue label o (TierName.read name) with name := labelled name label }) ∧
    ∀ e, e ∈ (s.data record label o).metadata ↔ ∃ front t back,
      s.derived record = front ++ t :: back ∧ (∀ t' ∈ back, heading t' ≠ heading t) ∧
        e.1 = labelled (heading t) label ∧ t.request.render o = some e.2 := by
  refine ⟨delivers_iff_nodup.trans (nodup_headings_iff hnames), data_values, fun e => ?_⟩
  rw [data_metadata, Metadata.mem_merge_nil]
  constructor
  · rintro ⟨front, back, h, hback⟩
    obtain ⟨front, rest, hsplit, rfl, hrest⟩ := List.map_eq_append_iff.mp h
    obtain ⟨t, back, rfl, rfl, rfl⟩ := List.map_eq_cons_iff.mp hrest
    have ht : t ∈ (read id names).derived record := by
      rw [hsplit]
      exact List.mem_append_right _ List.mem_cons_self
    obtain ⟨text, htext⟩ := TierRequest.isSome_render (mem_derived.mp ht).2.2 o
    refine ⟨front, t, back, hsplit, fun t' ht' heq => hback ?_, rfl, by rw [entry, htext]; rfl⟩
    exact List.mem_map.mpr ⟨_, List.mem_map_of_mem ht', congrArg (labelled · label) heq⟩
  · rintro ⟨front, t, back, hsplit, hback, hname, htext⟩
    have he : entry label o t = e := by
      rw [entry, htext, ← hname]
      rfl
    refine ⟨front.map (entry label o), back.map (entry label o), ?_, fun hmem => ?_⟩
    · rw [hsplit, List.map_append, List.map_cons, he]
    · obtain ⟨e', he', heq⟩ := List.mem_map.mp hmem
      obtain ⟨t', ht', rfl⟩ := List.mem_map.mp he'
      exact hback t' ht' (labelled_injective label (heq.trans hname))

/-- A session whose one record says `ta` for `ka`. -/
def taSession : Corpus.WrittenSession :=
  let group : Corpus.WrittenGroup := ⟨[], "ka".toList, "ta".toList, none, []⟩
  ⟨['S'], none, [], [⟨none, none, none, [], [group]⟩]⟩

/-- A stored and two derived tiers, and one that the record does not have. -/
def fourNames : Text :=
  "Target CV, Orthography, Cover IPA Actual (Shape; C=\\c; V=\\v), Gloss".toList

/-- Three of the four tiers can be resolved, and no cover has the title of another tier. -/
theorem delivers_fourNames : ∃ s r g, taSession.build .builtin = .ok s ∧ s.records[0]? = some r ∧
    r.groupViews[0]? = some g ∧ (read [] fourNames).names.Nodup ∧
    (read [] fourNames).Delivers r "Group".toList (.scope (.group g)) := by
  have hnames : (read [] fourNames).names.Nodup := by decide +kernel
  refine ⟨_, _, _, rfl, rfl, rfl, hnames, (delivers_iff_titles [] fourNames hnames _ _ _).1.mpr ?_⟩
  exact (nodup_headings_iff hnames).mp (by decide +kernel)

/-- Covers of the two transcriptions that have the same title. -/
def shapeNames : Text :=
  "Cover IPA Target (Shape; V=\\v), Cover IPA Actual (Shape; V=\\v)".toList

/-- Of two covers with the same title only the second one is found, although the names are
different and both of them can be resolved. -/
theorem shapeNames_replace : ∃ s r g, taSession.build .builtin = .ok s ∧ s.records[0]? = some r ∧
    r.groupViews[0]? = some g ∧ (read [] shapeNames).names.Nodup ∧
    ((read [] shapeNames).derived r).map (fun t => t.request.render (.scope (.group g))) =
      [some "kV".toList, some "tV".toList] ∧
    (read [] shapeNames).data r "Group".toList (.scope (.group g)) =
      ⟨[], [("Shape (Group)".toList, "tV".toList)]⟩ ∧
    ¬ (read [] shapeNames).Delivers r "Group".toList (.scope (.group g)) := by
  refine ⟨_, _, _, rfl, rfl, rfl, ?_, ?_, ?_, fun h => ?_⟩
  · decide +kernel
  · decide +kernel
  · decide +kernel
  · exact absurd (delivers_iff_nodup.mp h) (by decide +kernel)

end TierSelection

end PhoneticSearch
