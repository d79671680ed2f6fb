import Mathlib.Data.List.Basic

/-!
# Programs that access memory

A program notes what it does to its memory on the way to its value, and it may stop
before it has one.  A statement about all accesses is proved along the program.

* `keeps_bind`: the accesses of two parts, the second only if there is a value.
-/

namespace BrBox
namespace AccessTrace

universe u v

/-- The accesses of a program, and its value if it has not been stopped. -/
structure Accessed (ε : Type u) (α : Type v) where
  events : List ε
  value : Option α

namespace Accessed

variable {ε : Type u}
variable {α β : Type v}

/-- A program without an access. -/
def done (a : α) : Accessed ε α :=
  { events := [], value := some a }

/-- An access that ends the program. -/
def stop (e : ε) : Accessed ε α :=
  { events := [e], value := none }

/-- Go on with the value, if there is one. -/
def andThen (x : Accessed ε α) (f : α → Accessed ε β) : Accessed ε β :=
  match x.value with
  | none => { events := x.events, value := none }
  | some a => { events := x.events ++ (f a).events, value := (f a).value }

instance : Monad (Accessed.{u, v} ε) where
  pure := done
  bind := andThen

/-- Every access has the property. -/
def Keeps (P : ε → Prop) (x : Accessed ε α) : Prop :=
  ∀ e ∈ x.events, P e

@[simp] theorem value_pure
    (a : α) :
    (pure a : Accessed ε α).value = some a := by
  rfl

@[simp] theorem value_bind
    (x : Accessed ε α)
    (f : α → Accessed ε β) :
    (x >>= f).value = x.value.bind fun a => (f a).value := by
  change (andThen x f).value = _
  unfold andThen
  cases x.value <;> rfl

@[simp] theorem keeps_pure
    (P : ε → Prop)
    (a : α) :
    Keeps P (pure a : Accessed ε α) := by
  intro e he
  cases he

@[simp] theorem keeps_stop
    (P : ε → Prop)
    (e : ε) :
    Keeps P (stop e : Accessed ε α) ↔ P e := by
  simp [Keeps, stop]

@[simp] theorem keeps_bind
    (P : ε → Prop)
    (x : Accessed ε α)
    (f : α → Accessed ε β) :
    Keeps P (x >>= f) ↔ Keeps P x ∧ ∀ a, x.value = some a → Keeps P (f a) := by
  change Keeps P (andThen x f) ↔ _
  unfold andThen
  cases hvalue : x.value with
  | none => simp [Keeps]
  | some a =>
      simp only [Keeps, Option.some.injEq, forall_eq']
      exact List.forall_mem_append

/-- The same, when the value is known. -/
theorem keeps_bind_of_value
    (P : ε → Prop)
    {x : Accessed ε α}
    {a : α}
    (hvalue : x.value = some a)
    (f : α → Accessed ε β) :
    Keeps P (x >>= f) ↔ Keeps P x ∧ Keeps P (f a) := by
  rw [keeps_bind, hvalue]
  simp only [Option.some.injEq, forall_eq']

theorem value_bind_of_value
    {x : Accessed ε α}
    {a : α}
    (hvalue : x.value = some a)
    (f : α → Accessed ε β) :
    (x >>= f).value = (f a).value := by
  rw [value_bind, hvalue]
  rfl

end Accessed

end AccessTrace
end BrBox
