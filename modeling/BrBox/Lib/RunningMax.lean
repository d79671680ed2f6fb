import Mathlib.Order.Basic
import Mathlib.Data.List.Basic

/-!
# Running maximum in a partial order

One pass over a list keeps a bound and a key, and exchanges both at an element
that is selected and not below the bound.  In a partial order the last bound need
not be above all selected elements, but no selected element is above it.

* `runningMax_maximal`: no selected element is larger.
* `runningMax_cases`: the key is that of a selected element, or the first one.
-/

namespace BrBox
namespace RunningMax

universe u v w

section RunningMax

variable {α : Type u}
variable {β : Type v} [PartialOrder β] [DecidableLE β]
variable {κ : Type w}
variable (size : α → β) (sel : α → Prop) [DecidablePred sel] (key : α → κ)

/-- Exchange the bound and the key at a selected element that is not below it. -/
def update (best : β × κ) (a : α) : β × κ :=
  if best.1 ≤ size a ∧ sel a then (size a, key a) else best

def runningMax (best : β × κ) (xs : List α) : β × κ :=
  xs.foldl (update size sel key) best

/-- The bound only grows. -/
theorem le_update
    (best : β × κ)
    (a : α) :
    best.1 ≤ (update size sel key best a).1 := by
  unfold update
  split
  · next hexchange => exact hexchange.1
  · exact le_rfl

theorem le_runningMax
    (best : β × κ)
    (xs : List α) :
    best.1 ≤ (runningMax size sel key best xs).1 := by
  induction xs generalizing best with
  | nil => exact le_rfl
  | cons a xs ih => exact (le_update size sel key best a).trans (ih _)

/-- After an element was met, the bound is not below it. -/
theorem not_update_lt
    (best : β × κ)
    {a : α}
    (hsel : sel a) :
    ¬(update size sel key best a).1 < size a := by
  unfold update
  split
  · exact lt_irrefl _
  · next hexchange => exact fun hlt => hexchange ⟨hlt.le, hsel⟩

/-- No selected element is above the last bound. -/
theorem runningMax_maximal
    (best : β × κ)
    {xs : List α}
    {a : α}
    (hmem : a ∈ xs)
    (hsel : sel a) :
    ¬(runningMax size sel key best xs).1 < size a := by
  induction xs generalizing best with
  | nil => cases hmem
  | cons b xs ih =>
      rcases List.mem_cons.mp hmem with rfl | hmem
      · intro hlt
        -- an element above the last bound was above the bound when it was met
        have hle := le_runningMax size sel key (update size sel key best a) xs
        exact not_update_lt size sel key best hsel (hle.trans_lt hlt)
      · exact ih (update size sel key best b) hmem

/-- The bound and the key are those of a selected element, or nothing was exchanged. -/
theorem runningMax_cases
    (best : β × κ)
    (xs : List α) :
    (∃ a ∈ xs, sel a ∧ runningMax size sel key best xs = (size a, key a)) ∨
      runningMax size sel key best xs = best ∧ ∀ a ∈ xs, sel a → ¬best.1 ≤ size a := by
  induction xs generalizing best with
  | nil => exact .inr ⟨rfl, by simp⟩
  | cons b xs ih =>
      have hrec :
          runningMax size sel key best (b :: xs) =
            runningMax size sel key (update size sel key best b) xs := rfl
      rw [hrec]
      rcases ih (update size sel key best b) with ⟨a, hmem, hsel, heq⟩ | ⟨heq, hnone⟩
      · exact .inl ⟨a, List.mem_cons_of_mem b hmem, hsel, heq⟩
      · rw [heq]
        by_cases hexchange : best.1 ≤ size b ∧ sel b
        · refine .inl ⟨b, List.mem_cons_self, hexchange.2, ?_⟩
          rw [update, if_pos hexchange]
        · rw [update, if_neg hexchange] at hnone ⊢
          refine .inr ⟨rfl, ?_⟩
          intro a hmem hsel hle
          rcases List.mem_cons.mp hmem with rfl | hmem
          · exact hexchange ⟨hle, hsel⟩
          · exact hnone a hmem hsel hle

end RunningMax

end RunningMax
end BrBox
