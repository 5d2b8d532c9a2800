import Mathlib.Data.List.Forall2
import PhoneticSearch.Proofs.Text.Items
import PhoneticSearch.Tier.Selection

/-!
# What a selection of tiers asks for

A selection is written as a list of names with commas between them, and what it asks for are
the tiers of the parts between the commas.  Names without a comma are asked for one by one,
each as it would be alone (`read_join`).  A name with a comma is cut apart and is not asked
for: a list asks for exactly the derived tiers that are written in it if and only if none of
their names has a comma (`requests_written_iff`).  Only covers can have one, in their titles
and symbol maps, as `{nasal,-voiced}` (`TierRequest.exists_cover_of_comma`).
-/

namespace PhoneticSearch

namespace TierRequest

theorem read_trim (t : Text) : read (Text.trim t) = read t := by
  rw [read, read, Text.trim_trim]

/-- A side in front of an ending is the whole of a name. -/
theorem eq_of_sideBefore_eq_some {ending : String} {name : Text} {side : Side}
    (h : sideBefore ending name = some side) : name = side.label.toList ++ ending.toList := by
  unfold sideBefore at h
  split at h
  · next start hstart =>
    have hname := Text.eq_of_before?_eq_some hstart
    split at h
    · next hlabel =>
      obtain rfl := Option.some.inj h
      rw [hname, beq_iff_eq.mp hlabel]
    · split at h
      · next hlabel =>
        obtain rfl := Option.some.inj h
        rw [hname, beq_iff_eq.mp hlabel]
      · cases h
  · cases h

theorem comma_not_mem_of_sideBefore {ending : String} {name : Text} {side : Side}
    (hending : ',' ∉ ending.toList) (h : sideBefore ending name = some side) : ',' ∉ name := by
  have hlabel : ',' ∉ side.label.toList := by cases side <;> decide +kernel
  rw [eq_of_sideBefore_eq_some h, List.mem_append]
  exact fun hc => hc.elim hlabel hending

/-- Of the names of derived tiers only those of covers can have a comma. -/
theorem exists_cover_of_comma {name : Text} {request : TierRequest}
    (hread : read name = .ok request) (hderived : request.isDerived = true)
    (hcomma : ',' ∈ name) : ∃ side title symbols, request = cover side title symbols := by
  rw [← Text.mem_trim (by decide)] at hcomma
  unfold read at hread
  dsimp only at hread
  split at hread
  · next halignment =>
    rw [beq_iff_eq.mp halignment] at hcomma
    exact absurd hcomma (by decide +kernel)
  split at hread
  · next hside => exact absurd hcomma (comma_not_mem_of_sideBefore (by decide +kernel) hside)
  split at hread
  · next hside => exact absurd hcomma (comma_not_mem_of_sideBefore (by decide +kernel) hside)
  split at hread
  · next hside => exact absurd hcomma (comma_not_mem_of_sideBefore (by decide +kernel) hside)
  split at hread
  · next side title map _ =>
    obtain ⟨symbols, rfl⟩ : ∃ symbols, cover side (Text.trim title) symbols = request := by
      cases hmap : SymbolMap.read (Text.trim map) with
      | error fault => rw [hmap] at hread; cases hread
      | ok symbols => rw [hmap] at hread; exact ⟨symbols, Except.ok.inj hread⟩
    exact ⟨side, _, symbols, rfl⟩
  · cases hread
    cases hderived

/-- Every derived tier has a name that is not blank. -/
theorem trim_ne_nil_of_isDerived {name : Text} {request : TierRequest}
    (hread : read name = .ok request) (hderived : request.isDerived = true) :
    Text.trim name ≠ [] := by
  intro hblank
  rw [← read_trim, hblank] at hread
  obtain rfl : stored (.user []) = request := Except.ok.inj hread
  cases hderived

theorem exists_derived {name : Text} (h : (read name).toOption.any isDerived = true) :
    ∃ request, read name = .ok request ∧ request.isDerived = true := by
  cases hread : read name with
  | error fault => rw [hread] at h; cases h
  | ok request => rw [hread] at h; exact ⟨request, rfl, h⟩

end TierRequest

/-- Whether a selected tier is the one that a name asks for: it is called by that name and
asks for what the name asks for alone. -/
def SelectedTier.IsFor (name : Text) (t : SelectedTier) : Prop :=
  t.name = Text.trim name ∧ TierRequest.read name = .ok t.request

namespace TierSelection

/-- The tier that an item of a list selects, if it can be read. -/
def selected? (name : Text) : Option SelectedTier :=
  match TierRequest.read name with
  | .ok request => some ⟨name, request⟩
  | .error _ => none

theorem read_tiers (id names : Text) :
    (read id names).tiers = (Text.items ',' names).filterMap selected? := rfl

theorem selected?_eq_some {name : Text} {t : SelectedTier} (h : selected? name = some t) :
    t.name = name := by
  unfold selected? at h
  split at h
  · obtain rfl := Option.some.inj h
    rfl
  · cases h

theorem selected?_trim {name : Text} {request : TierRequest}
    (h : TierRequest.read name = .ok request) :
    selected? (Text.trim name) = some ⟨Text.trim name, request⟩ := by
  rw [selected?, TierRequest.read_trim, h]

/-- No selected tier has a comma in its name. -/
theorem comma_not_mem_name {id names : Text} {t : SelectedTier}
    (h : t ∈ (read id names).tiers) : ',' ∉ t.name := by
  rw [read_tiers] at h
  obtain ⟨item, hitem, hselected⟩ := List.mem_filterMap.mp h
  rw [selected?_eq_some hselected]
  exact Text.not_mem_of_mem_items (by decide) hitem

/-- Tiers that are asked for by names are called by them. -/
theorem map_name_eq {written : List Text} {tiers : List SelectedTier}
    (h : List.Forall₂ SelectedTier.IsFor written tiers) :
    tiers.map (·.name) = written.map Text.trim := by
  rw [← List.forall₂_eq_eq_eq, List.forall₂_map_left_iff, List.forall₂_map_right_iff]
  exact h.flip.imp fun t name hfor => hfor.1

/-- Names without a comma are asked for one by one. -/
theorem read_join {id : Text} {names : List Text}
    (hread : ∀ name ∈ names, ∃ request, TierRequest.read name = .ok request)
    (hblank : ∀ name ∈ names, Text.trim name ≠ []) (hcomma : ∀ name ∈ names, ',' ∉ name) :
    List.Forall₂ SelectedTier.IsFor names (read id (Text.join [',', ' '] names)).tiers := by
  have hnames : (names.map Text.trim).filter (!·.isEmpty) = names.map Text.trim := by
    refine List.filter_eq_self.mpr (List.forall_mem_map.mpr fun name hname => ?_)
    simpa using hblank name hname
  rw [read_tiers, Text.items_join (by decide) hcomma, hnames]
  clear hnames hblank hcomma
  induction names with
  | nil => exact .nil
  | cons name names ih =>
    obtain ⟨request, hrequest⟩ := hread name List.mem_cons_self
    rw [List.map_cons, List.filterMap_cons_some (selected?_trim hrequest)]
    exact .cons ⟨rfl, hrequest⟩ (ih fun name hname => hread name (List.mem_cons_of_mem _ hname))

/-- A list asks for exactly the derived tiers that are written in it, in order and each as it
is alone, if and only if none of their names has a comma; only the names of covers can. -/
theorem requests_written_iff (id : Text) {names : List Text}
    (hderived : ∀ name ∈ names, ∃ request,
      TierRequest.read name = .ok request ∧ request.isDerived = true) :
    (List.Forall₂ SelectedTier.IsFor names (read id (Text.join [',', ' '] names)).tiers ↔
      ∀ name ∈ names, ',' ∉ name) ∧
    ∀ name ∈ names, ',' ∈ name →
      ∃ side title symbols, TierRequest.read name = .ok (.cover side title symbols) := by
  refine ⟨⟨fun hfor name hname hcomma => ?_, fun hcomma => ?_⟩, fun name hname hcomma => ?_⟩
  · have hcalled : Text.trim name ∈ names.map Text.trim := List.mem_map_of_mem hname
    rw [← map_name_eq hfor] at hcalled
    obtain ⟨t, ht, htrim⟩ := List.mem_map.mp hcalled
    rw [← Text.mem_trim (by decide), ← htrim] at hcomma
    exact comma_not_mem_name ht hcomma
  · refine read_join (fun name hname => ?_) (fun name hname => ?_) hcomma
    · obtain ⟨request, hread, -⟩ := hderived name hname
      exact ⟨request, hread⟩
    · obtain ⟨request, hread, hrequest⟩ := hderived name hname
      exact TierRequest.trim_ne_nil_of_isDerived hread hrequest
  · obtain ⟨request, hread, hrequest⟩ := hderived name hname
    obtain ⟨side, title, symbols, rfl⟩ :=
      TierRequest.exists_cover_of_comma hread hrequest hcomma
    exact ⟨side, title, symbols, hread⟩

/-- Three derived tiers, one of them a cover. -/
def threeNames : List Text :=
  ["Target CV".toList, " Phone Alignment".toList,
    "Cover IPA Actual (Shape; C=\\c; V=\\v)".toList]

/-- Three derived tiers without commas are asked for by the list of them. -/
theorem requests_threeNames :
    (∀ name ∈ threeNames, ∃ request,
      TierRequest.read name = .ok request ∧ request.isDerived = true) ∧
    List.Forall₂ SelectedTier.IsFor threeNames
      (read [] (Text.join [',', ' '] threeNames)).tiers := by
  have hread : ∀ name ∈ threeNames,
      (TierRequest.read name).toOption.any TierRequest.isDerived = true := by decide +kernel
  have hderived := fun name hname => TierRequest.exists_derived (hread name hname)
  exact ⟨hderived, (requests_written_iff [] hderived).1.mpr (by decide +kernel)⟩

/-- A cover whose symbol map has a set of two features. -/
def nasalCover : Text := "Cover IPA Target (Shape; N=\x7bnasal,-voiced\x7d)".toList

/-- A cover of the phones with one feature and without another one is a derived tier, and a
list that has only this tier in it asks for two others. -/
theorem nasalCover_is_cut_apart :
    (∃ request, TierRequest.read nasalCover = .ok request ∧ request.isDerived = true) ∧
    (read [] (Text.join [',', ' '] [nasalCover])).names =
      ["Cover IPA Target (Shape; N=\x7bnasal".toList, "-voiced\x7d)".toList] ∧
    ¬ List.Forall₂ SelectedTier.IsFor [nasalCover]
      (read [] (Text.join [',', ' '] [nasalCover])).tiers := by
  have hnames : (read [] (Text.join [',', ' '] [nasalCover])).names =
      ["Cover IPA Target (Shape; N=\x7bnasal".toList, "-voiced\x7d)".toList] := by
    decide +kernel
  refine ⟨TierRequest.exists_derived (by decide +kernel), hnames, fun hfor => ?_⟩
  have hcalled := (hnames.symm.trans (map_name_eq hfor)).symm
  exact absurd hcalled (by decide +kernel)

end TierSelection

end PhoneticSearch
