import PhoneticSearch.Tier.Selection

/-!
# What a selection of tiers does with one tier after another

A selected tier that a record stores adds a value to what is found for an object, and one that
is derived in the record (`isDerivedIn`) sets the text under its title (`addTier_eq`).  So the
values are those of the stored tiers and the metadata is that of the derived ones, merged in
their order (`foldl_addTier`); what holds of every stored value holds of all values
(`data_forall`).
-/

namespace PhoneticSearch

/-- A tier has the name that it was read from. -/
theorem TierName.text_read (t : Text) : (TierName.read t).text = Text.trim t := by
  show ((named.find? (·.text == Text.trim t)).getD (user (Text.trim t))).text = _
  cases h : named.find? (·.text == Text.trim t) with
  | none => rfl
  | some tier =>
    have hname : (tier.text == Text.trim t) = true :=
      List.find?_some (p := fun tier : TierName => tier.text == Text.trim t) h
    exact beq_iff_eq.mp hname

namespace TierSelection

variable {record : Record} {label : Text} {o : SearchObject} {t : SelectedTier}

/-- The title of a selected tier. -/
def heading (t : SelectedTier) : Text := t.request.title t.name

/-- Whether a selected tier is derived in a record: it is a derived tier, and the record does
not store its name. -/
def isDerivedIn (record : Record) (t : SelectedTier) : Bool :=
  (storedTier? record t).isNone && t.request.isDerived

/-- The selected tiers that are derived in a record. -/
def derived (s : TierSelection) (record : Record) : List SelectedTier :=
  s.tiers.filter (isDerivedIn record)

/-- What a derived tier puts into the metadata. -/
def entry (label : Text) (o : SearchObject) (t : SelectedTier) : Text × Text :=
  (labelled (heading t) label, (t.request.render o).getD [])

theorem addTier_eq (data : TierData) : addTier record label o data t =
    ⟨data.values ++ ((storedTier? record t).map (storedValue label o)).toList,
      data.metadata.merge (if isDerivedIn record t then [entry label o t] else [])⟩ := by
  unfold addTier isDerivedIn
  cases hstored : storedTier? record t with
  | some tier => rfl
  | none =>
    cases hrequest : t.request with
    | stored tier => simp [TierRequest.render, TierRequest.isDerived, Metadata.merge]
    | alignment | soundClasses _ | stress _ | syllabification _ | cover _ _ _ =>
      simp [TierRequest.render, TierRequest.isDerived, Metadata.merge, entry, heading, hrequest]

/-- What a selection finds: the values of the stored tiers, and the entries of the derived
ones, as far as they do not replace each other. -/
theorem foldl_addTier (tiers : List SelectedTier) (data : TierData) :
    tiers.foldl (addTier record label o) data =
      ⟨data.values ++ (tiers.filterMap (storedTier? record)).map (storedValue label o),
        data.metadata.merge ((tiers.filter (isDerivedIn record)).map (entry label o))⟩ := by
  induction tiers generalizing data with
  | nil => simp [Metadata.merge]
  | cons t tiers ih =>
    rw [List.foldl_cons, ih, addTier_eq, List.filterMap_cons, List.filter_cons, Metadata.merge,
      Metadata.merge, ← List.foldl_append, List.append_assoc]
    congr 2
    · cases storedTier? record t <;> rfl
    · cases isDerivedIn record t <;> rfl

/-- What holds of every stored value holds of the values of a selection. -/
theorem data_forall {P : ResultValue → Prop} (hstored : ∀ tier, P (storedValue label o tier))
    (s : TierSelection) (record : Record) : ∀ v ∈ (s.data record label o).values, P v := by
  intro v hv
  rw [data] at hv
  split at hv
  · rw [foldl_addTier, List.nil_append] at hv
    obtain ⟨tier, -, rfl⟩ := List.mem_map.mp hv
    exact hstored tier
  · cases hv

end TierSelection

end PhoneticSearch
