/-!
# Faults with a place

A pattern that cannot be read has a fault, and mostly the character offset that
the fault was found at.
-/

namespace PhoneticSearch

/-- A fault, and the character offset it was found at if that is known. -/
structure Located (φ : Type) where
  offset : Option Nat
  fault : φ
deriving DecidableEq

namespace Located

/-- A fault at an offset. -/
def found {φ : Type} (offset : Nat) (fault : φ) : Located φ := ⟨some offset, fault⟩

/-- A fault of another kind at the same place. -/
def map {φ ψ : Type} (f : φ → ψ) (e : Located φ) : Located ψ := ⟨e.offset, f e.fault⟩

/-- The message of a fault, with its offset in front. -/
def message {φ : Type} (text : φ → String) (e : Located φ) : String :=
  match e.offset with
  | some n => "error at index " ++ Nat.repr n ++ ": " ++ text e.fault
  | none => text e.fault

end Located

end PhoneticSearch
