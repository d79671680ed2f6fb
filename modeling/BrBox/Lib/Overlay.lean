import Mathlib.Data.List.Basic
import Mathlib.Logic.Function.Basic
import Mathlib.Tactic.Common

/-!
# Lists laid over a memory

A memory is a function from addresses to cells; a list laid over it at an address takes the
cells from there on.

* `overlay_apply_of_lt`, `overlay_apply_add`, `overlay_apply_of_le`: what a cell holds.
* `overlay_append`: one list behind the other.
* `overlay_map_range`: a list made from a function shows that function.
-/

namespace BrBox
namespace Overlay

universe u

variable {α : Type u}

/-- A list laid over a memory from an address on. -/
def overlay (memory : Nat → α) (start : Nat) (cells : List α) : Nat → α :=
  fun address =>
    if start ≤ address then
      (cells[address - start]?).getD (memory address)
    else
      memory address

variable (memory : Nat → α) (start : Nat)

theorem overlay_apply_of_lt
    (cells : List α)
    {address : Nat}
    (hlt : address < start) :
    overlay memory start cells address = memory address := by
  rw [overlay, if_neg (Nat.not_le.mpr hlt)]

theorem overlay_apply_of_le
    (cells : List α)
    {address : Nat}
    (hle : start + cells.length ≤ address) :
    overlay memory start cells address = memory address := by
  have hend : cells.length ≤ address - start := by omega
  rw [overlay, if_pos (by omega), List.getElem?_eq_none hend, Option.getD_none]

theorem overlay_apply_add
    (cells : List α)
    {i : Nat}
    (hi : i < cells.length) :
    overlay memory start cells (start + i) = cells[i] := by
  rw [overlay, if_pos (Nat.le_add_right _ _), Nat.add_sub_cancel_left,
    List.getElem?_eq_getElem hi, Option.getD_some]

@[simp] theorem overlay_nil :
    overlay memory start [] = memory := by
  funext address
  simp [overlay]

/-- The first cell first. -/
theorem overlay_cons
    (cell : α)
    (cells : List α) :
    overlay memory start (cell :: cells) =
      overlay (Function.update memory start cell) (start + 1) cells := by
  funext address
  rcases Nat.lt_trichotomy address start with hlt | rfl | hgt
  · rw [overlay_apply_of_lt _ _ _ hlt, overlay_apply_of_lt _ _ _ (by omega),
      Function.update_of_ne (by omega)]
  · have hfirst : overlay memory address (cell :: cells) address = cell := by
      simp [overlay]
    rw [hfirst, overlay_apply_of_lt _ _ _ (Nat.lt_succ_self address), Function.update_self]
  · have hsub : address - start = (address - (start + 1)) + 1 := by omega
    rw [overlay, overlay, if_pos (by omega), if_pos (by omega), hsub, List.getElem?_cons_succ,
      Function.update_of_ne (by omega)]

/-- One list behind the other. -/
theorem overlay_append
    (cells cells' : List α) :
    overlay memory start (cells ++ cells') =
      overlay (overlay memory start cells) (start + cells.length) cells' := by
  induction cells generalizing memory start with
  | nil =>
      simp
  | cons cell cells ih =>
      rw [List.cons_append, overlay_cons, ih, ← overlay_cons, List.length_cons]
      congr 1
      omega

/-- A list made from a function shows that function. -/
theorem overlay_map_range
    (value : Nat → α)
    (length : Nat)
    (address : Nat) :
    overlay memory start ((List.range length).map fun i => value (start + i)) address =
      if start ≤ address ∧ address < start + length then value address else memory address := by
  by_cases hlow : start ≤ address
  · obtain ⟨i, rfl⟩ := Nat.exists_eq_add_of_le hlow
    by_cases hi : i < length
    · rw [if_pos (by omega), overlay_apply_add _ _ _ (by simpa using hi)]
      simp
    · rw [if_neg (by omega), overlay_apply_of_le _ _ _ (by simpa using hi)]
  · rw [if_neg (by omega), overlay_apply_of_lt _ _ _ (by omega)]

end Overlay
end BrBox
