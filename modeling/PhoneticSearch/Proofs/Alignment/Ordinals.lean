import PhoneticSearch.Proofs.Alignment.Matching

/-!
# Alignments by the numbers of phones

A list of pairs of numbers is accepted as the alignment of two transcriptions if each number
is that of a phone of its side, none is given twice for a side and no pair is empty
(`Admits`, `ofOrdinals_eq_ok`).  The numbers then become the positions of the phones, so
that two phones are partners if and only if their numbers are given together
(`partner?_ofOrdinals`).

The alignment by the order of the phones is that of the pairs of equal numbers
(`ofOrdinals_numbered`).
-/

namespace PhoneticSearch

theorem Side.forall {P : Side → Prop} : (∀ side, P side) ↔ P .target ∧ P .actual :=
  ⟨fun h => ⟨h .target, h .actual⟩, fun h side => side.casesOn h.1 h.2⟩

/-- The position of the phone with a number. -/
def Transcription.phonePosition (t : Transcription) (k : Nat) : Nat := t.phonePositions.getD k 0

namespace Transcription

variable {t : Transcription} {k j i : Nat}

theorem phonePosition_of_getElem? (h : t.phonePositions[k]? = some i) : t.phonePosition k = i := by
  rw [phonePosition, List.getD_eq_getElem?_getD, h]
  rfl

theorem getElem?_phonePosition (h : k < t.phones.length) :
    t.phonePositions[k]? = some (t.phonePosition k) := by
  rw [← length_phonePositions] at h
  rw [phonePosition, List.getD_eq_getElem?_getD, List.getElem?_eq_getElem h]
  rfl

/-- Phones with different numbers have different positions. -/
theorem phonePosition_inj (hk : k < t.phones.length) (hj : j < t.phones.length)
    (h : t.phonePosition k = t.phonePosition j) : k = j := by
  have hsame : t.phonePositions[k]? = t.phonePositions[j]? := by
    rw [getElem?_phonePosition hk, getElem?_phonePosition hj, h]
  rw [← length_phonePositions] at hk
  exact (List.getElem?_inj hk t.phonePositions_nodup).mp hsame

end Transcription

namespace Alignment

variable {t : Side → Transcription} {ordinals : List (Option Nat × Option Nat)}

/-! ### The check of pairs -/

theorem filterMap_at_cons (p : AlignedPair) (pairs : List AlignedPair) (side : Side) :
    (p :: pairs).filterMap (·.at side) = (p.at side).toList ++ pairs.filterMap (·.at side) := by
  rw [List.filterMap_cons]
  cases p.at side <;> rfl

/-- A pair passes the check if it has a side and its positions are new; they are seen from
there on. -/
theorem check_cons {p : AlignedPair} {pairs : List AlignedPair} {seenTarget seenActual : List Nat} :
    check seenTarget seenActual (p :: pairs) = .ok () ↔
      p ≠ ⟨none, none⟩ ∧ (∀ side, ∀ i ∈ p.at side, i ∉ side.choose seenTarget seenActual) ∧
        check (p.target.toList ++ seenTarget) (p.actual.toList ++ seenActual) pairs = .ok () := by
  obtain ⟨target, actual⟩ := p
  by_cases hempty : target = none ∧ actual = none
  · obtain ⟨rfl, rfl⟩ := hempty
    simp [check]
  · have hnonempty : (⟨target, actual⟩ : AlignedPair) ≠ ⟨none, none⟩ := by
      intro h
      cases h
      exact hempty ⟨rfl, rfl⟩
    have hnew : (∀ side, ∀ i ∈ (⟨target, actual⟩ : AlignedPair).at side,
        i ∉ side.choose seenTarget seenActual) ↔
          target.filter seenTarget.contains = none ∧ actual.filter seenActual.contains = none := by
      simp [Side.forall, Option.filter_eq_none_iff, AlignedPair.at, Side.choose]
    rw [check, hnew]
    · split <;> simp_all
    · rintro rfl rfl
      exact hempty ⟨rfl, rfl⟩

/-- Pairs pass the check if none is empty and they share no position, neither with each other
nor with those that were seen. -/
theorem check_eq_ok : ∀ {pairs : List AlignedPair} {seenTarget seenActual : List Nat},
    check seenTarget seenActual pairs = .ok () ↔
      ⟨none, none⟩ ∉ pairs ∧ ∀ side, (pairs.filterMap (·.at side)).Nodup ∧
        ∀ i ∈ pairs.filterMap (·.at side), i ∉ side.choose seenTarget seenActual := by
  intro pairs
  induction pairs with
  | nil => intro seenTarget seenActual; simp [check]
  | cons p pairs ih =>
    intro seenTarget seenActual
    have hchoose : ∀ side : Side,
        side.choose (p.target.toList ++ seenTarget) (p.actual.toList ++ seenActual) =
          (p.at side).toList ++ side.choose seenTarget seenActual := by
      intro side
      cases side <;> rfl
    have hside : ∀ side, ((∀ i ∈ p.at side, i ∉ side.choose seenTarget seenActual) ∧
        (pairs.filterMap (·.at side)).Nodup ∧ ∀ i ∈ pairs.filterMap (·.at side),
          i ∉ (p.at side).toList ++ side.choose seenTarget seenActual) ↔
        ((p :: pairs).filterMap (·.at side)).Nodup ∧
          ∀ i ∈ (p :: pairs).filterMap (·.at side), i ∉ side.choose seenTarget seenActual := by
      intro side
      rw [filterMap_at_cons]
      cases p.at side with
      | none => simp
      | some i => simp; grind
    rw [check_cons, ih]
    simp only [hchoose, ← hside, List.mem_cons, not_or, forall_and]
    constructor
    · rintro ⟨hp, hnew, hpairs, hrest⟩
      exact ⟨⟨Ne.symm hp, hpairs⟩, hnew, hrest⟩
    · rintro ⟨⟨hp, hpairs⟩, hnew, hrest⟩
      exact ⟨Ne.symm hp, hnew, hpairs, hrest⟩

theorem ofPairs_eq_ok {pairs : List AlignedPair} {a : Alignment} :
    ofPairs pairs = .ok a ↔ check [] [] pairs = .ok () ∧ a = ⟨pairs⟩ := by
  refine bind_eq_ok.trans ⟨?_, ?_⟩
  · rintro ⟨_, hcheck, h⟩
    cases h
    exact ⟨hcheck, rfl⟩
  · rintro ⟨hcheck, rfl⟩
    exact ⟨_, hcheck, rfl⟩

/-! ### Numbers and positions -/

/-- The number that a pair gives for a side. -/
def ordinalAt (side : Side) (p : Option Nat × Option Nat) : Option Nat := side.choose p.1 p.2

/-- Whether pairs of numbers align the phones of two transcriptions: each number is that of a
phone, no phone is in two pairs, and no pair is empty. -/
structure Admits (t : Side → Transcription) (ordinals : List (Option Nat × Option Nat)) :
    Prop where
  inRange : ∀ side, ∀ k ∈ ordinals.filterMap (ordinalAt side), k < (t side).phones.length
  nodup : ∀ side, (ordinals.filterMap (ordinalAt side)).Nodup
  nonempty : (none, none) ∉ ordinals

/-- The positions of the phones that a pair of numbers stands for. -/
def placed (t : Side → Transcription) (p : Option Nat × Option Nat) : AlignedPair :=
  ⟨p.1.map (t .target).phonePosition, p.2.map (t .actual).phonePosition⟩

theorem at_placed (p : Option Nat × Option Nat) (side : Side) :
    (placed t p).at side = (ordinalAt side p).map (t side).phonePosition := by
  cases side <;> rfl

theorem filterMap_at_placed (side : Side) : (ordinals.map (placed t)).filterMap (·.at side) =
    (ordinals.filterMap (ordinalAt side)).map (t side).phonePosition := by
  rw [List.filterMap_map, List.map_filterMap]
  exact congrArg (List.filterMap · ordinals) (funext fun p => at_placed p side)

/-- The positions of different phones in range are different. -/
theorem nodup_filterMap_at_placed {side : Side}
    (h : ∀ k ∈ ordinals.filterMap (ordinalAt side), k < (t side).phones.length) :
    ((ordinals.map (placed t)).filterMap (·.at side)).Nodup ↔
      (ordinals.filterMap (ordinalAt side)).Nodup := by
  rw [filterMap_at_placed]
  constructor
  · exact List.Nodup.of_map _
  · exact List.Nodup.map_on fun k hk j hj => Transcription.phonePosition_inj (h k hk) (h j hj)

theorem position_eq_ok {side : Side} {k i : Option Nat} :
    position side (t side).phonePositions k = .ok i ↔
      (∀ n ∈ k, n < (t side).phones.length) ∧ i = k.map (t side).phonePosition := by
  cases k with
  | none => simp [position, eq_comm]
  | some n =>
    by_cases hn : n < (t side).phones.length
    · simp [position, Transcription.getElem?_phonePosition hn, hn, eq_comm]
    · have hnone : (t side).phonePositions[n]? = none := by
        rw [List.getElem?_eq_none_iff, Transcription.length_phonePositions]
        exact Nat.le_of_not_lt hn
      simp [position, hnone, hn]

/-- The alignments that are put together from numbers. -/
theorem ofOrdinals_eq_ok {a : Alignment} :
    ofOrdinals (t .target) (t .actual) ordinals = .ok a ↔
      Admits t ordinals ∧ a = ⟨ordinals.map (placed t)⟩ := by
  have hrange : (∀ p ∈ ordinals, ∀ side, ∀ k ∈ ordinalAt side p, k < (t side).phones.length) ↔
      ∀ side, ∀ k ∈ ordinals.filterMap (ordinalAt side), k < (t side).phones.length := by
    simp only [List.mem_filterMap]
    constructor
    · rintro h side k ⟨p, hp, hk⟩
      exact h p hp side k hk
    · intro h p hp side k hk
      exact h side k ⟨p, hp, hk⟩
  have hempty : ⟨none, none⟩ ∈ ordinals.map (placed t) ↔ (none, none) ∈ ordinals := by
    simp [placed]
  rw [ofOrdinals, bind_eq_ok]
  simp only [ofPairs_eq_ok]
  -- Pairs of numbers in range are put in their places one by one.
  rw [exists_congr fun pairs => and_congr_left' (mapM_eq_ok
    (P := fun p => ∀ side, ∀ k ∈ ordinalAt side p, k < (t side).phones.length)
    (g := placed t) ?_)]
  · constructor
    · rintro ⟨_, ⟨hall, rfl⟩, hcheck, rfl⟩
      obtain ⟨hnonempty, hsides⟩ := check_eq_ok.mp hcheck
      have hordinals := hrange.mp hall
      refine ⟨⟨hordinals, fun side => ?_, mt hempty.mpr hnonempty⟩, rfl⟩
      exact (nodup_filterMap_at_placed (hordinals side)).mp (hsides side).1
    · rintro ⟨h, rfl⟩
      have hnonempty := mt hempty.mp h.nonempty
      refine ⟨_, ⟨hrange.mpr h.inRange, rfl⟩, check_eq_ok.mpr ⟨hnonempty, fun side => ?_⟩, rfl⟩
      refine ⟨(nodup_filterMap_at_placed (h.inRange side)).mpr (h.nodup side), fun i _ => ?_⟩
      cases side <;> exact List.not_mem_nil
  · intro p pair
    obtain ⟨k, j⟩ := p
    simp only [bind_eq_ok, position_eq_ok, Side.forall]
    constructor
    · rintro ⟨k', ⟨hk, rfl⟩, j', ⟨hj, rfl⟩, hpair⟩
      cases hpair
      exact ⟨⟨hk, hj⟩, rfl⟩
    · rintro ⟨⟨hk, hj⟩, rfl⟩
      exact ⟨_, ⟨hk, rfl⟩, _, ⟨hj, rfl⟩, rfl⟩

/-- The alignment by the numbers of the phones matches them. -/
theorem ofOrdinals_matches {a : Alignment}
    (h : ofOrdinals (t .target) (t .actual) ordinals = .ok a) : a.Matches t := by
  obtain ⟨hadmits, rfl⟩ := ofOrdinals_eq_ok.mp h
  refine ⟨fun side => ?_, fun side i hi => ?_⟩
  · exact (nodup_filterMap_at_placed (hadmits.inRange side)).mpr (hadmits.nodup side)
  · rw [positions, filterMap_at_placed] at hi
    obtain ⟨k, hk, rfl⟩ := List.mem_map.mp hi
    exact List.mem_of_getElem? (Transcription.getElem?_phonePosition (hadmits.inRange side k hk))

/-- Phones are partners if their numbers are given together. -/
theorem partner?_ofOrdinals {a : Alignment}
    (h : ofOrdinals (t .target) (t .actual) ordinals = .ok a) {k j i i' : Nat}
    (hk : (t .target).phonePositions[k]? = some i)
    (hj : (t .actual).phonePositions[j]? = some i') :
    a.partner? .target i = some i' ↔ (some k, some j) ∈ ordinals := by
  have hmatches := ofOrdinals_matches h
  obtain ⟨hadmits, rfl⟩ := ofOrdinals_eq_ok.mp h
  -- The number of a phone in a pair is read off its position.
  have hnumber : ∀ side n m i, n ∈ ordinals.filterMap (ordinalAt side) →
      (t side).phonePositions[m]? = some i → (t side).phonePosition n = i → n = m := by
    intro side n m i hn hm hi
    have hrange := hadmits.inRange side n hn
    have hplace := Transcription.getElem?_phonePosition hrange
    rw [← Transcription.length_phonePositions] at hrange
    refine (List.getElem?_inj hrange (t side).phonePositions_nodup).mp ?_
    rw [hplace, hm, hi]
  rw [hmatches.partner?_eq_some]
  constructor
  · rintro ⟨_, hp, hi, hi'⟩
    obtain ⟨⟨p, q⟩, hpair, rfl⟩ := List.mem_map.mp hp
    obtain ⟨n, rfl, hn⟩ := Option.map_eq_some_iff.mp hi
    obtain ⟨m, rfl, hm⟩ := Option.map_eq_some_iff.mp hi'
    obtain rfl := hnumber .target n k i (List.mem_filterMap.mpr ⟨_, hpair, rfl⟩) hk hn
    obtain rfl := hnumber .actual m j i' (List.mem_filterMap.mpr ⟨_, hpair, rfl⟩) hj hm
    exact hpair
  · intro hpair
    refine ⟨_, List.mem_map.mpr ⟨_, hpair, rfl⟩, ?_, ?_⟩
    · exact congrArg some (Transcription.phonePosition_of_getElem? hk)
    · exact congrArg some (Transcription.phonePosition_of_getElem? hj)

/-! ### The order of the phones -/

/-- The first `n` numbers for one side beside the first `m` numbers for the other one, the
shorter list padded. -/
def numbered (n m : Nat) : List (Option Nat × Option Nat) :=
  (List.range (max n m)).map fun k =>
    (if k < n then some k else none, if k < m then some k else none)

theorem padded_eq : ∀ target actual : List Nat, padded target actual =
    (List.range (max target.length actual.length)).map fun k => ⟨target[k]?, actual[k]?⟩ := by
  intro target
  induction target with
  | nil =>
    intro actual
    induction actual with
    | nil => simp [padded]
    | cons j actual ih =>
      rw [padded, ih]
      simp [List.range_succ_eq_map, Function.comp_def]
  | cons i target ih =>
    intro actual
    cases actual with
    | nil =>
      rw [padded, ih []]
      simp [List.range_succ_eq_map, Function.comp_def]
    | cons j actual =>
      rw [padded, ih actual]
      simp [List.range_succ_eq_map, Function.comp_def]

theorem numbered_admits (t : Side → Transcription) :
    Admits t (numbered (t .target).phones.length (t .actual).phones.length) := by
  have hordinals : ∀ side, (numbered (t .target).phones.length
      (t .actual).phones.length).filterMap (ordinalAt side) =
      (List.range (max (t .target).phones.length (t .actual).phones.length)).filterMap fun k =>
        if k < (t side).phones.length then some k else none := by
    intro side
    rw [numbered, List.filterMap_map]
    cases side <;> rfl
  have hnumber : ∀ {side k j}, (if k < (t side).phones.length then some k else none) = some j →
      k < (t side).phones.length ∧ k = j := by
    intro side k j h
    obtain ⟨hlt, h⟩ := Option.ite_none_right_eq_some.mp h
    exact ⟨hlt, Option.some.inj h⟩
  refine ⟨fun side k hk => ?_, fun side => ?_, ?_⟩
  · rw [hordinals] at hk
    obtain ⟨_, -, hk⟩ := List.mem_filterMap.mp hk
    obtain ⟨hlt, rfl⟩ := hnumber hk
    exact hlt
  · rw [hordinals]
    exact List.nodup_range.filterMap fun k k' j hk hk' =>
      (hnumber hk).2.trans (hnumber hk').2.symm
  · intro h
    obtain ⟨k, hk, hnone⟩ := List.mem_map.mp h
    have hlt := List.mem_range.mp hk
    simp only [Prod.mk.injEq, ite_eq_right_iff, reduceCtorEq, imp_false] at hnone
    omega

/-- Aligning the phones by their order is aligning those of equal numbers. -/
theorem ofOrdinals_numbered (target actual : Transcription) :
    ofOrdinals target actual (numbered target.phones.length actual.phones.length) =
      .ok (positional target actual) := by
  have hposition : ∀ (t : Transcription) (k : Nat),
      (if k < t.phones.length then some k else none).map t.phonePosition =
        t.phonePositions[k]? := by
    intro t k
    split
    · next h => exact (Transcription.getElem?_phonePosition h).symm
    · next h =>
      rw [← Transcription.length_phonePositions] at h
      exact (List.getElem?_eq_none (Nat.le_of_not_lt h)).symm
  refine (ofOrdinals_eq_ok (t := Side.choose target actual)).mpr ⟨numbered_admits _, ?_⟩
  rw [positional, padded_eq, numbered, List.map_map, Transcription.length_phonePositions,
    Transcription.length_phonePositions]
  refine congrArg Alignment.mk (List.map_congr_left fun k _ => ?_)
  rw [← hposition target, ← hposition actual]
  rfl

end Alignment

end PhoneticSearch
