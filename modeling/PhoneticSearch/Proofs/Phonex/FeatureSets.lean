import Mathlib.Data.List.Nodup
import PhoneticSearch.Proofs.Outcome
import PhoneticSearch.Proofs.Text.Items
import PhoneticSearch.Proofs.Phonex.Grammar

/-!
# Reading feature sets

What stands between the braces of a feature set is read as the list of features that the
grammar has for it: the commas cut it in entries, the blank entries are passed over, and each
other one names a feature, in small or capital letters and with white space around it.
-/

namespace PhoneticSearch.Phonex

open Grammar

/-! ### Names of features -/

theorem nodup_names : (Feature.all.map (·.name.toList)).Nodup := by
  decide +kernel

/-- A feature is read from its name, with white space around it and in either case. -/
theorem feature_read_iff {t : Text} {f : Feature} :
    Feature.read t = some f ↔ Names (Text.trim t) f := by
  have hnamed : ∀ {g}, Feature.read t = some g → Names (Text.trim t) g := fun h =>
    (beq_iff_eq.mp (List.find?_some (p := fun g : Feature => g.name.toList ==
      (Text.trim t).map Text.asciiLower) h)).symm
  refine ⟨hnamed, fun h => ?_⟩
  cases hread : Feature.read t with
  | none =>
    have hnone := List.find?_eq_none.mp hread f (Feature.mem_all f)
    exact absurd (beq_iff_eq.mpr h.symm) hnone
  | some g =>
    have hname : g.name.toList = f.name.toList := (hnamed hread).symm.trans h
    rw [List.inj_on_of_nodup_map nodup_names (Feature.mem_all g) (Feature.mem_all f) hname]

theorem name_letters : ∀ f ∈ Feature.all,
    f.name.toList.all (fun c => 'a'.toNat ≤ c.toNat && c.toNat ≤ 'z'.toNat) = true := by
  decide +kernel

namespace Grammar

variable {name core w : Text} {f : Feature}

/-- The characters of a name are letters, and nothing that has a meaning in a feature set. -/
theorem Names.letter (h : Names name f) {c : Char} (hc : c ∈ name) :
    isBlank c = false ∧ c ∉ [',', '-', '\x7d'] := by
  have hlower : Text.asciiLower c ∈ f.name.toList := h ▸ List.mem_map_of_mem hc
  have hletter := List.all_eq_true.mp (name_letters f (Feature.mem_all f)) _ hlower
  rw [Bool.and_eq_true, decide_eq_true_eq, decide_eq_true_eq] at hletter
  have hcode : 'A'.toNat ≤ c.toNat ∧ c.toNat ≤ 'z'.toNat := by
    rw [Text.asciiLower] at hletter
    split at hletter
    · next hupper => exact ⟨hupper.1, Nat.le_trans hupper.2 (by decide)⟩
    · exact ⟨Nat.le_trans (by decide) hletter.1, hletter.2⟩
  have hA : 'A'.toNat = 65 := rfl
  have hz : 'z'.toNat = 122 := rfl
  refine ⟨?_, ?_⟩
  · simp only [isBlank, Bool.or_eq_false_iff, Bool.and_eq_false_iff, decide_eq_false_iff_not,
      beq_eq_false_iff_ne]
    omega
  · simp only [List.mem_cons, List.not_mem_nil, or_false]
    rintro (rfl | rfl | rfl) <;> exact absurd hcode (by decide)

theorem Names.trim (h : Names name f) : Text.trim name = name := by
  have hpadded : Text.trim ([] ++ name ++ []) = name :=
    Text.trim_padded (fun _ hc => absurd hc List.not_mem_nil)
      (fun _ hc => absurd hc List.not_mem_nil)
      (fun c hc => (h.letter (List.mem_of_mem_head? hc)).1)
      (fun c hc => (h.letter (List.mem_of_getLast? hc)).1)
  simpa using hpadded

theorem Padded.trim (h : Padded core w) : Text.trim w = Text.trim core := by
  obtain ⟨lead, trail, hlead, htrail, rfl⟩ := h
  rw [Text.trim_append_blanks htrail, Text.trim_blanks_append hlead]

theorem padded_trim (w : Text) : Padded (Text.trim w) w := Text.exists_padding w

theorem entry_none_iff : Entry w none ↔ Text.trim w = [] := by
  rw [Text.trim_eq_nil_iff]
  exact ⟨fun h => by cases h with | blank h => exact h, .blank⟩

theorem readFeature_minus (u : Text) : readFeature ('-' :: u) =
    match Feature.read (Text.trim u) with
    | some f => .ok (true, f)
    | none => .error (Text.trim u) := rfl

theorem readFeature_plain (h : w.head? ≠ some '-') : readFeature w =
    match Feature.read w with
    | some f => .ok (false, f)
    | none => .error w := by
  cases w with
  | nil => rfl
  | cons c u =>
    have hc : c ≠ '-' := by simpa using h
    cases hread : Feature.read (c :: u) <;> simp [readFeature, hc, hread]

theorem readFeature_eq_ok {x : Bool × Feature} : readFeature w = .ok x ↔
    (x.1 = true ∧ ∃ u, w = '-' :: u ∧ Names (Text.trim u) x.2) ∨
      (x.1 = false ∧ w.head? ≠ some '-' ∧ Names (Text.trim w) x.2) := by
  obtain ⟨negated, f⟩ := x
  have hmade : ∀ (b : Bool) (u : Text), (match Feature.read u with
      | some f => Except.ok (b, f)
      | none => .error u) = .ok (negated, f) ↔ negated = b ∧ Names (Text.trim u) f := by
    intro b u
    rw [← feature_read_iff]
    cases Feature.read u <;> simp [eq_comm]
  by_cases hhead : w.head? = some '-'
  · obtain ⟨u, rfl⟩ := List.head?_eq_some_iff.mp hhead
    rw [readFeature_minus, hmade, Text.trim_trim]
    simp
  · have hne : ∀ u, w ≠ '-' :: u := fun u h => hhead (by rw [h]; rfl)
    rw [readFeature_plain hhead, hmade]
    simp [hhead, hne]

/-- What is not blank between two commas is read as the entry that it is. -/
theorem readFeature_trim_iff {x : Bool × Feature} :
    readFeature (Text.trim w) = .ok x ↔ Entry w (some x) := by
  obtain ⟨negated, f⟩ := x
  rw [readFeature_eq_ok, Text.trim_trim]
  constructor
  · rintro (⟨rfl, u, hw, h⟩ | ⟨rfl, -, h⟩)
    · have hpadded := padded_trim w
      rw [hw] at hpadded
      exact .excluded h (padded_trim u) hpadded
    · exact .included h (padded_trim w)
  · intro h
    cases h with
    | @included name _ _ h hw =>
      rw [hw.trim, h.trim]
      refine .inr ⟨rfl, fun hhead => ?_, h⟩
      exact (h.letter (List.mem_of_mem_head? hhead)).2 (by simp)
    | @excluded name v _ _ h hv hw =>
      refine .inl ⟨rfl, Text.trimEnd v, ?_, ?_⟩
      · rw [hw.trim, Text.trim_cons_of_not rfl]
      · rwa [Text.trim_trimEnd, hv.trim, h.trim]

/-- A character that is no white space and has no meaning in an entry is not in one. -/
theorem Entry.notMem {x : Option (Bool × Feature)} (h : Entry w x) {c : Char}
    (hc : c = ',' ∨ c = '\x7d') : c ∉ w := by
  have hblank : isBlank c = false := by rcases hc with rfl | rfl <;> rfl
  have hname : ∀ {name f}, Names name f → c ∉ name := fun h hmem =>
    (h.letter hmem).2 (by rcases hc with rfl | rfl <;> simp)
  have hpadded : ∀ {core w}, Padded core w → c ∉ core → c ∉ w := by
    rintro core w ⟨lead, trail, hlead, htrail, rfl⟩ hcore hmem
    simp only [List.mem_append] at hmem
    rcases hmem with (hmem | hmem) | hmem
    · simp [hlead c hmem] at hblank
    · exact hcore hmem
    · simp [htrail c hmem] at hblank
  cases h with
  | blank h => exact fun hmem => by simp [h c hmem] at hblank
  | included h hw => exact hpadded hw (hname h)
  | excluded h hv hw =>
    refine hpadded hw fun hmem => ?_
    rcases List.mem_cons.mp hmem with rfl | hmem
    · simp at hc
    · exact hpadded hv (hname h) hmem

theorem notMem_of_entries {entries : List Text} {options : List (Option (Bool × Feature))}
    (h : List.Forall₂ Entry entries options) {c : Char} (hc : c = ',' ∨ c = '\x7d') :
    ∀ w ∈ entries, c ∉ w := by
  induction h with
  | nil => exact fun _ hw => absurd hw List.not_mem_nil
  | cons hx _ ih => exact List.forall_mem_cons.mpr ⟨hx.notMem hc, ih⟩

/-- The entries between the commas are read one after the other, without the blank ones. -/
theorem mapM_readFeature_iff : ∀ {entries : List Text} {named : List (Bool × Feature)},
    ((entries.map Text.trim).filter (!·.isEmpty)).mapM readFeature = .ok named ↔
      ∃ options, List.Forall₂ Entry entries options ∧ named = options.reduceOption := by
  intro entries
  induction entries with
  | nil =>
    intro named
    constructor
    · intro h
      cases h
      exact ⟨[], .nil, rfl⟩
    · rintro ⟨options, hoptions, rfl⟩
      cases hoptions
      rfl
  | cons w entries ih =>
    intro named
    rw [List.map_cons]
    by_cases hw : Text.trim w = []
    · rw [List.filter_cons_of_neg (by simp [hw]), ih]
      constructor
      · rintro ⟨options, hoptions, rfl⟩
        exact ⟨none :: options, .cons (entry_none_iff.mpr hw) hoptions, rfl⟩
      · rintro ⟨_, hoptions, rfl⟩
        cases hoptions with
        | @cons _ x _ options hx hoptions =>
          cases x with
          | none => exact ⟨options, hoptions, rfl⟩
          | some x =>
            rw [← readFeature_trim_iff, hw] at hx
            cases hx
    · rw [List.filter_cons_of_pos (by simp [hw]), List.mapM_cons]
      simp only [bind_eq_ok, readFeature_trim_iff, ih]
      constructor
      · rintro ⟨x, hx, _, ⟨options, hoptions, rfl⟩, hnamed⟩
        cases hnamed
        exact ⟨some x :: options, .cons hx hoptions, rfl⟩
      · rintro ⟨_, hoptions, rfl⟩
        cases hoptions with
        | @cons _ x _ options hx hoptions =>
          cases x with
          | none => exact absurd (entry_none_iff.mp hx) hw
          | some x => exact ⟨x, hx, _, ⟨options, hoptions, rfl⟩, rfl⟩

theorem FeatureList.notMem {body : Text} {named : List (Bool × Feature)}
    (h : FeatureList body named) : '\x7d' ∉ body := by
  obtain ⟨entries, options, -, rfl, hentries, -⟩ := h
  exact Text.notMem_intercalate (by decide) (notMem_of_entries hentries (.inr rfl))

/-- The items of a list are read as the features that it names. -/
theorem mapM_items_iff {body : Text} {named : List (Bool × Feature)} :
    (Text.items ',' body).mapM readFeature = .ok named ↔ FeatureList body named := by
  rw [Text.items, mapM_readFeature_iff]
  constructor
  · rintro ⟨options, hoptions, hnamed⟩
    exact ⟨_, options, List.splitOn_ne_nil _ _, (List.intercalate_splitOn ',').symm, hoptions,
      hnamed⟩
  · rintro ⟨entries, options, hne, rfl, hentries, hnamed⟩
    rw [List.splitOn_intercalate ',' (notMem_of_entries hentries (.inl rfl)) hne]
    exact ⟨options, hentries, hnamed⟩

end Grammar

end PhoneticSearch.Phonex
