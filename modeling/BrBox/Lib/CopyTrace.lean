import BrBox.Lib.CText

/-!
# Programs that copy strings into fixed arrays

A `char` array is its name and its capacity.  A traced program is the value it
computes together with the copies it makes on the way, in order; it fits when
no copy writes past the end of its array.

`fits_bind` splits the question along the program, and `fits_copy` answers it
for one copy.
-/

namespace BrBox
namespace CopyTrace

open CText

/-- A `char` array of a fixed size. -/
structure CharArray where
  name : String
  capacity : Nat
deriving DecidableEq, Repr

/-- One `strcpy`, or one `sprintf`, of a text into an array. -/
structure StrCopy where
  dest : CharArray
  text : Bytes
deriving DecidableEq, Repr

/-- The characters written, the terminator included. -/
def StrCopy.written (c : StrCopy) : Nat :=
  c.text.length + 1

/-- The copy stays inside its array. -/
def StrCopy.Fits (c : StrCopy) : Prop :=
  c.written ≤ c.dest.capacity

instance (c : StrCopy) : Decidable c.Fits :=
  inferInstanceAs (Decidable (_ ≤ _))

/-- A value and the copies made on the way to it. -/
structure Traced (α : Type) where
  copies : List StrCopy
  value : α

namespace Traced

variable {α β : Type}

instance : Monad Traced where
  pure := fun a => { copies := [], value := a }
  bind := fun x f =>
    { copies := x.copies ++ (f x.value).copies, value := (f x.value).value }

/-- Copy a text into an array; the text is what the array holds then. -/
def copy (dest : CharArray) (text : Bytes) : Traced Bytes :=
  { copies := [{ dest := dest, text := text }], value := text }

/-- Every copy stays inside its array. -/
def Fits (x : Traced α) : Prop :=
  ∀ c ∈ x.copies, c.Fits

instance (x : Traced α) : Decidable x.Fits :=
  inferInstanceAs (Decidable (∀ c ∈ x.copies, c.Fits))

@[simp] theorem value_pure (a : α) :
    (pure a : Traced α).value = a := by
  rfl

@[simp] theorem value_bind (x : Traced α) (f : α → Traced β) :
    (x >>= f).value = (f x.value).value := by
  rfl

@[simp] theorem value_copy (dest : CharArray) (text : Bytes) :
    (copy dest text).value = text := by
  rfl

@[simp] theorem fits_pure (a : α) :
    (pure a : Traced α).Fits := by
  intro c hc
  cases hc

@[simp] theorem fits_bind (x : Traced α) (f : α → Traced β) :
    (x >>= f).Fits ↔ x.Fits ∧ (f x.value).Fits := by
  exact List.forall_mem_append

@[simp] theorem fits_copy (dest : CharArray) (text : Bytes) :
    (copy dest text).Fits ↔ text.length + 1 ≤ dest.capacity := by
  simp [Fits, copy, StrCopy.Fits, StrCopy.written]

end Traced

end CopyTrace
end BrBox
