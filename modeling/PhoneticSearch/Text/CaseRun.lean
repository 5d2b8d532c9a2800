/-!
# Runs of letters

Letters that change case in the same way stand next to each other or at every
other place: a `CaseRun` is a first and a last character, the distance between
neighbours, and the distance from each to its image.
-/

namespace PhoneticSearch

/-- The characters `first`, `first + stride`, ... up to `last`, each sent to the
character `shift` places on. -/
structure CaseRun where
  /-- The first character. -/
  first : Nat
  /-- The last character. -/
  last : Nat
  /-- The distance between neighbours. -/
  stride : Nat
  /-- The distance from a character to its image. -/
  shift : Int

namespace CaseRun

/-- Whether a character belongs to a run. -/
def covers (r : CaseRun) (c : Char) : Bool :=
  r.first ≤ c.toNat && c.toNat ≤ r.last && (c.toNat - r.first) % r.stride == 0

/-- The character `shift` places after `c`. -/
def image (r : CaseRun) (c : Char) : Char := Char.ofNat (c.toNat + r.shift).toNat

/-- The character of the run whose image is `c`, if there is one. -/
def source? (r : CaseRun) (c : Char) : Option Char :=
  let s := Char.ofNat (c.toNat - r.shift).toNat
  if r.covers s && r.image s == c then some s else none

/-- The image of a character under the first run it belongs to; a character of
no run is its own image. -/
def apply (runs : List CaseRun) (c : Char) : Char :=
  match runs.find? (·.covers c) with
  | some r => r.image c
  | none => c

end CaseRun

end PhoneticSearch
