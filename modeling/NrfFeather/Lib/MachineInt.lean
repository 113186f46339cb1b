import Mathlib.Algebra.Group.Int.Defs
import Mathlib.Algebra.Group.Nat.Defs

/-!
# Machine integers

A computation in C is the same expression whether or not its operations overflow. Here such an
expression is written over a function `keep`, which says what the machine keeps of the exact value
of an operation: `wrapUnsigned` and `wrapSigned` keep its residue, as the hardware does, and
`checkUnsigned` and `checkSigned` give up on a value that is out of range. `Refines` relates a
checked function to the wrapping one: where the checked computation has a result, no
operation in it overflowed, and the wrapping one has the same result.
-/

namespace MachineInt

def wrapUnsigned (w : Nat) (n : Int) : Option Int := some (n % 2 ^ w)

def wrapSigned (w : Nat) (n : Int) : Option Int := some (Int.bmod n (2 ^ w))

def checkUnsigned (w : Nat) (n : Int) : Option Int := if 0 ≤ n ∧ n < 2 ^ w then some n else none

def checkSigned (w : Nat) (n : Int) : Option Int :=
  if -2 ^ w ≤ n * 2 ∧ n * 2 < 2 ^ w then some n else none

/-- Where the first function has a value, the second has the same. -/
def Refines (keep keep' : Int → Option Int) : Prop := ∀ n v, keep n = some v → keep' n = some v

variable {w : Nat} {n v : Int}

/-- A number in range passes the unsigned check. -/
theorem checkUnsigned_eq (h0 : 0 ≤ n) (h : n < 2 ^ w) : checkUnsigned w n = some n :=
  if_pos ⟨h0, h⟩

/-- A number in range passes the signed check. -/
theorem checkSigned_eq (h0 : -2 ^ w ≤ n * 2) (h : n * 2 < 2 ^ w) : checkSigned w n = some n :=
  if_pos ⟨h0, h⟩

/-- Where the unsigned check passes, wrapping changes nothing. -/
theorem checkUnsigned_refines (w : Nat) : Refines (checkUnsigned w) (wrapUnsigned w) := by
  intro n v h
  unfold checkUnsigned at h
  split at h
  · next hn =>
    cases h
    rw [wrapUnsigned, Int.emod_eq_of_lt hn.1 hn.2]
  · cases h

/-- Where the signed check passes, wrapping changes nothing. -/
theorem checkSigned_refines (w : Nat) : Refines (checkSigned w) (wrapSigned w) := by
  intro n v h
  unfold checkSigned at h
  split at h
  · next hn =>
    cases h
    rw [wrapSigned, Int.bmod_eq_of_le_mul_two]
    · exact_mod_cast hn.1
    · exact_mod_cast hn.2
  · cases h

end MachineInt
