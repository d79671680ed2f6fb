import Mathlib.Data.BitVec

/-!
# Fields of a register

Several values share one register of `w` bits, each under a mask of its own.  A
field is changed by clearing the bits under its mask and placing the new ones.

* `take_put`: what is read after a change.
* `take_put_of_disjoint`: fields whose masks have no bit in common are independent.
-/

namespace BrBox
namespace PackedField

universe u v

/-- A value of `α` under a mask of a register. -/
structure Field (w : Nat) (α : Type u) where
  mask : BitVec w
  place : α → BitVec w
  take : BitVec w → α
  /-- Nothing is placed outside of the mask. -/
  place_and_mask : ∀ v, place v &&& mask = place v
  /-- Nothing is read outside of the mask. -/
  take_and_mask : ∀ b, take (b &&& mask) = take b

namespace Field

variable {w : Nat}
variable {α : Type u}
variable {β : Type v}

/-- Change the field and leave the bits outside of its mask. -/
def put (f : Field w α) (v : α) (b : BitVec w) : BitVec w :=
  (b &&& ~~~f.mask) ||| f.place v

/-- The values that are read back as they were placed. -/
def Holds (f : Field w α) (v : α) : Prop :=
  f.take (f.place v) = v

instance [DecidableEq α] (f : Field w α) (v : α) : Decidable (f.Holds v) :=
  inferInstanceAs (Decidable (f.take (f.place v) = v))

theorem put_and_mask
    (f : Field w α)
    (v : α)
    (b : BitVec w) :
    f.put v b &&& f.mask = f.place v := by
  have hclear : b &&& ~~~f.mask &&& f.mask = 0#w := by
    rw [BitVec.and_assoc, BitVec.not_and_self]
    exact BitVec.and_zero
  rw [put, BitVec.and_or_distrib_right, hclear, BitVec.zero_or, f.place_and_mask]

/-- The bits under a mask that has none in common with the field stay. -/
theorem put_and_of_disjoint
    (f : Field w α)
    {m : BitVec w}
    (hdisjoint : f.mask &&& m = 0#w)
    (v : α)
    (b : BitVec w) :
    f.put v b &&& m = b &&& m := by
  have hplace : f.place v &&& m = 0#w := by
    rw [← f.place_and_mask, BitVec.and_assoc, hdisjoint, BitVec.and_zero]
  have hkeep : ~~~f.mask &&& m = m := by
    have hsplit : (f.mask ||| ~~~f.mask) &&& m = m := by
      rw [BitVec.or_not_self, BitVec.allOnes_and]
    rw [BitVec.and_or_distrib_right, hdisjoint, BitVec.zero_or] at hsplit
    exact hsplit
  rw [put, BitVec.and_or_distrib_right, hplace, BitVec.or_zero, BitVec.and_assoc, hkeep]

theorem take_put
    (f : Field w α)
    (v : α)
    (b : BitVec w) :
    f.take (f.put v b) = f.take (f.place v) := by
  rw [← f.take_and_mask, put_and_mask]

theorem take_put_of_holds
    (f : Field w α)
    {v : α}
    (hholds : f.Holds v)
    (b : BitVec w) :
    f.take (f.put v b) = v :=
  (f.take_put v b).trans hholds

theorem take_put_of_disjoint
    (f : Field w α)
    (g : Field w β)
    (hdisjoint : f.mask &&& g.mask = 0#w)
    (v : α)
    (b : BitVec w) :
    g.take (f.put v b) = g.take b := by
  rw [← g.take_and_mask, f.put_and_of_disjoint hdisjoint, g.take_and_mask]

end Field

end PackedField
end BrBox
