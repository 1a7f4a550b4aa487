import Mathlib.Data.BitVec

/-!
# Registers written through a mask

Peripherals offer "set" and "clear" aliases of a register: writing a mask to the alias changes
exactly the bits the mask names.  This file gives the two writes and the combined *assignment* of a
level to the masked bits, for a register of any width, and reads each of them back bit by bit.

* `getLsbD_setBits` / `getLsbD_clearBits` / `getLsbD_assignBits` — the value of one bit after a
  masked write, in terms of the bit before and of the mask.
* `getLsbD_pinMask` — a one-pin mask names its own pin and no other.
* `assignBits_pinMask_self` / `assignBits_pinMask_other` — the **frame law** of a one-pin write.
* `assignBits_assignBits` — a write made in two parts.
-/

namespace SoundingSoil
namespace Support

variable {w : Nat}

/-- The register after its mask was written to the "set" alias. -/
def setBits (reg mask : BitVec w) : BitVec w :=
  reg ||| mask

/-- The register after its mask was written to the "clear" alias. -/
def clearBits (reg mask : BitVec w) : BitVec w :=
  reg &&& ~~~mask

/-- The register after the level `b` was given to every bit of the mask. -/
def assignBits (reg mask : BitVec w) (b : Bool) : BitVec w :=
  if b then setBits reg mask else clearBits reg mask

/-- The mask that names one pin. -/
def pinMask (w i : Nat) : BitVec w :=
  1#w <<< i

@[simp] theorem getLsbD_setBits (reg mask : BitVec w) (i : Nat) :
    (setBits reg mask).getLsbD i = (reg.getLsbD i || mask.getLsbD i) := by
  simp [setBits]

@[simp] theorem getLsbD_clearBits (reg mask : BitVec w) (i : Nat) :
    (clearBits reg mask).getLsbD i = (reg.getLsbD i && !mask.getLsbD i) := by
  unfold clearBits
  by_cases hi : i < w
  · simp [hi]
  · simp [BitVec.getLsbD_of_ge _ _ (Nat.le_of_not_lt hi)]

/-- An assignment gives the level to the masked bits and keeps the others. -/
@[simp] theorem getLsbD_assignBits (reg mask : BitVec w) (b : Bool) (i : Nat) :
    (assignBits reg mask b).getLsbD i = if mask.getLsbD i then b else reg.getLsbD i := by
  cases b with
  | false => cases h : mask.getLsbD i <;> simp [assignBits, h]
  | true => cases h : mask.getLsbD i <;> simp [assignBits, h]

/-- A one-pin mask names its own pin and no other. -/
@[simp] theorem getLsbD_pinMask {i : Nat} (hi : i < w) (j : Nat) :
    (pinMask w i).getLsbD j = decide (i = j) := by
  rw [pinMask, ← BitVec.twoPow_eq, BitVec.getLsbD_twoPow]
  simp [hi]

theorem assignBits_pinMask_self {i : Nat} (hi : i < w) (reg : BitVec w) (b : Bool) :
    (assignBits reg (pinMask w i) b).getLsbD i = b := by
  rw [getLsbD_assignBits, getLsbD_pinMask hi]
  simp

theorem assignBits_pinMask_other {i j : Nat} (hi : i < w) (hij : i ≠ j) (reg : BitVec w)
    (b : Bool) :
    (assignBits reg (pinMask w i) b).getLsbD j = reg.getLsbD j := by
  rw [getLsbD_assignBits, getLsbD_pinMask hi]
  simp [hij]

/-- Two assignments of one level are one assignment to the union of the masks. -/
theorem assignBits_assignBits (reg m n : BitVec w) (b : Bool) :
    assignBits (assignBits reg m b) n b = assignBits reg (m ||| n) b := by
  apply BitVec.eq_of_getLsbD_eq
  intro i hi
  rw [getLsbD_assignBits, getLsbD_assignBits, getLsbD_assignBits, BitVec.getLsbD_or]
  cases m.getLsbD i <;> cases n.getLsbD i <;> rfl

/-- A mask of `n` low ones keeps exactly the `n` low bits. -/
theorem getLsbD_and_lowOnes (reg : BitVec w) (n i : Nat) :
    (reg &&& (BitVec.allOnes n).setWidth w).getLsbD i = (reg.getLsbD i && decide (i < n)) := by
  rw [BitVec.getLsbD_and, BitVec.getLsbD_setWidth, BitVec.getLsbD_allOnes]
  by_cases hi : i < w
  · rw [decide_eq_true hi, Bool.true_and]
  · rw [BitVec.getLsbD_of_ge reg i (Nat.le_of_not_lt hi), Bool.false_and, Bool.false_and]

end Support
end SoundingSoil
