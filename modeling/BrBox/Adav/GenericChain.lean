import BrBox.Lib.CText

/-!
# The generic chain

`ADGenericChain` as its clients see it: a queue of data pointers with an
ident generator.  Every operation takes the chain's mutex, so each of them is
one atomic step of the concurrent models built on top.

The linked representation (base node, forward and backward links, size
counters) is not part of this module.  Allocation succeeds and the chain has
not been released, so `chainPut` always succeeds.
-/

namespace BrBox
namespace Adav

open CText

universe u

/-- The elements in insertion order and the last ident handed out. -/
structure GenericChain (α : Type u) where
  elems : List α
  identGenerator : Int
deriving DecidableEq, Repr

namespace GenericChain

variable {α : Type u}

/-- A constructed chain: no element, ident generator at zero. -/
def new : GenericChain α :=
  { elems := [], identGenerator := 0 }

/-- `chain_put`: add at the tail. -/
def chainPut (c : GenericChain α) (data : α) : GenericChain α :=
  { c with elems := c.elems ++ [data] }

/-- `chain_get`: take the oldest element, if there is one. -/
def chainGet (c : GenericChain α) : Option α × GenericChain α :=
  match c.elems with
  | [] => (none, c)
  | data :: rest => (some data, { c with elems := rest })

/-- `chain_get_by_ident`: the first element the helper identifies. -/
def chainGetByIdent
    (c : GenericChain α) (identify : α → Bool) : Option α :=
  c.elems.find? identify

/-- `chain_remove_by_ident`: unlink the first identified element. -/
def chainRemoveByIdent
    (c : GenericChain α) (identify : α → Bool) :
    Option α × GenericChain α :=
  (c.elems.find? identify,
    { c with elems := c.elems.eraseP identify })

/-- `chain_generate_ident`: pre-increment of a C `int`. -/
def chainGenerateIdent (c : GenericChain α) : Int × GenericChain α :=
  (wrapInt32 (c.identGenerator + 1),
    { c with identGenerator := wrapInt32 (c.identGenerator + 1) })

/-- `chain_empty`: drop every element and restart the ident generator. -/
def chainEmpty (_ : GenericChain α) : GenericChain α :=
  { elems := [], identGenerator := 0 }

@[simp] theorem new_elems :
    (new : GenericChain α).elems = [] := by
  rfl

@[simp] theorem chainPut_elems
    (c : GenericChain α) (data : α) :
    (c.chainPut data).elems = c.elems ++ [data] := by
  rfl

@[simp] theorem chainPut_identGenerator
    (c : GenericChain α) (data : α) :
    (c.chainPut data).identGenerator = c.identGenerator := by
  rfl

@[simp] theorem chainRemoveByIdent_fst
    (c : GenericChain α) (identify : α → Bool) :
    (c.chainRemoveByIdent identify).1 = c.elems.find? identify := by
  rfl

@[simp] theorem chainRemoveByIdent_elems
    (c : GenericChain α) (identify : α → Bool) :
    (c.chainRemoveByIdent identify).2.elems =
      c.elems.eraseP identify := by
  rfl

@[simp] theorem chainGenerateIdent_elems
    (c : GenericChain α) :
    c.chainGenerateIdent.2.elems = c.elems := by
  rfl

/-- The two outcomes of `chain_get`. -/
theorem chainGet_cases
    (c : GenericChain α) :
    (c.elems = [] ∧ c.chainGet = (none, c)) ∨
    (∃ data rest,
      c.elems = data :: rest ∧
      c.chainGet = (some data, { c with elems := rest })) := by
  cases hc : c.elems with
  | nil =>
      exact Or.inl ⟨rfl, by simp [chainGet, hc]⟩
  | cons data rest =>
      exact Or.inr ⟨data, rest, rfl, by simp [chainGet, hc]⟩

end GenericChain

end Adav
end BrBox
