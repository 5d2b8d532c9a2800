import PhoneticSearch.Feature.Basic

/-!
# Sets of features

A `FeatureSet` holds one bit for each feature.  Two sets with the same features
are equal, and `FeatureSet.toList` lists the features of a set in their order.
-/

namespace PhoneticSearch

/-- A set of features, one bit for each. -/
structure FeatureSet where
  /-- The bit of a feature stands at its place. -/
  bits : BitVec 36
deriving DecidableEq

namespace FeatureSet

/-- The set of no features. -/
def empty : FeatureSet := ⟨0⟩

instance : Inhabited FeatureSet := ⟨empty⟩

/-- Whether a feature belongs to a set. -/
def contains (s : FeatureSet) (f : Feature) : Bool := s.bits.getLsbD f.place

/-- A set with one more feature. -/
def insert (s : FeatureSet) (f : Feature) : FeatureSet := ⟨s.bits ||| BitVec.twoPow 36 f.place⟩

/-- The features of either set. -/
def union (s t : FeatureSet) : FeatureSet := ⟨s.bits ||| t.bits⟩

/-- The set of the listed features. -/
def ofList (features : List Feature) : FeatureSet := features.foldl insert empty

/-- The features of a set, in order. -/
def toList (s : FeatureSet) : List Feature := Feature.all.filter s.contains

/-- Whether a set has no features. -/
def isEmpty (s : FeatureSet) : Bool := s.bits == 0

/-- Whether every feature of `other` belongs to a set. -/
def containsAll (s other : FeatureSet) : Bool := other.bits &&& s.bits == other.bits

/-- Whether two sets share a feature. -/
def intersects (s other : FeatureSet) : Bool := s.bits &&& other.bits != 0

/-- Reads a comma separated list of feature names; the error is the first name
that is no feature's. -/
def read (t : Text) : Except Text FeatureSet := do
  let features ← (Text.items ',' t).mapM fun name =>
    match Feature.read name with
    | some f => Except.ok f
    | none => Except.error name
  return ofList features

/-! ### The view of a set -/

theorem getElem?_all_place (f : Feature) : Feature.all[f.place]? = some f := by
  cases f <;> rfl

theorem place_injective {f g : Feature} (h : f.place = g.place) : f = g := by
  have hf := getElem?_all_place f
  rw [h, getElem?_all_place g] at hf
  exact (Option.some.inj hf).symm

@[simp] theorem contains_empty (f : Feature) : empty.contains f = false := by
  simp [contains, empty]

@[simp] theorem contains_insert (s : FeatureSet) (f g : Feature) :
    (s.insert f).contains g = (s.contains g || f == g) := by
  simp only [contains, insert, BitVec.getLsbD_or, BitVec.getLsbD_twoPow]
  congr 1
  by_cases h : f = g
  · subst h
    simp [f.place_lt]
  · have hp : f.place ≠ g.place := fun e => h (place_injective e)
    simp [h, hp]

@[simp] theorem contains_union (s t : FeatureSet) (f : Feature) :
    (s.union t).contains f = (s.contains f || t.contains f) := by
  simp [contains, union]

@[simp] theorem mem_toList (s : FeatureSet) (f : Feature) : f ∈ s.toList ↔ s.contains f = true := by
  simp [toList, Feature.mem_all]

end FeatureSet

end PhoneticSearch
