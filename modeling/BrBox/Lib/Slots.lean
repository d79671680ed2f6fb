import Mathlib.Data.List.Basic
import Mathlib.Data.List.Perm.Basic
import Mathlib.Data.List.Nodup

/-!
# Slots of a list

A list whose positions are slots: threads with their program counters, chains
with the first element of a key.  Reading a slot splits the list at it, and
writing it only exchanges the element between the two parts.  Where the keys
are distinct, a key has one slot.
-/

namespace BrBox
namespace Slots

universe u

variable {α : Type u}

/-- A filled slot splits the list. -/
theorem split_at
    {l : List α} {i : Nat} {a : α}
    (hget : l[i]? = some a) :
    ∃ pre post,
      l = pre ++ a :: post ∧ pre.length = i ∧
      ∀ b, l.set i b = pre ++ b :: post := by
  obtain ⟨hlt, rfl⟩ := List.getElem?_eq_some_iff.mp hget
  refine ⟨l.take i, l.drop (i + 1), ?_, ?_, ?_⟩
  · simp
  · simp [Nat.le_of_lt hlt]
  · intro b
    rw [List.set_eq_take_append_cons_drop, if_pos hlt]

/-- The first element with a property splits the list. -/
theorem split_find
    {l : List α} {p : α → Bool} {a : α}
    (hfind : l.find? p = some a) :
    ∃ pre post,
      l = pre ++ a :: post ∧ p a = true ∧ (∀ b ∈ pre, p b = false) ∧
      l.eraseP p = pre ++ post := by
  obtain ⟨ha, pre, post, rfl, hpre⟩ := List.find?_eq_some_iff_append.mp hfind
  have hpre' : ∀ b ∈ pre, p b = false := by
    simpa using hpre
  refine ⟨pre, post, rfl, ha, hpre', ?_⟩
  rw [List.eraseP_append_right _ (by simpa using hpre'),
    List.eraseP_cons_of_pos ha]

/-- Writing a slot leaves the others alone. -/
theorem getElem?_exchange
    {pre post : List α} {a b : α} {i : Nat}
    (hne : i ≠ pre.length) :
    (pre ++ b :: post)[i]? = (pre ++ a :: post)[i]? := by
  rcases Nat.lt_or_gt_of_ne hne with hlt | hgt
  · rw [List.getElem?_append_left hlt, List.getElem?_append_left hlt]
  · rw [List.getElem?_append_right (Nat.le_of_lt hgt),
      List.getElem?_append_right (Nat.le_of_lt hgt)]
    obtain ⟨j, hj⟩ := Nat.exists_eq_add_of_lt hgt
    have hsub : i - pre.length = j + 1 := by omega
    rw [hsub, List.getElem?_cons_succ, List.getElem?_cons_succ]

/-- The slot between the two parts. -/
theorem getElem?_between
    (pre post : List α) (a : α) :
    (pre ++ a :: post)[pre.length]? = some a := by
  simp

/-- Changing a slot in place. -/
theorem modify_between
    (pre post : List α) (a : α) (f : α → α) :
    (pre ++ a :: post).modify pre.length f = pre ++ f a :: post := by
  induction pre with
  | nil =>
      rfl
  | cons b pre ih =>
      simp [ih]

/-- Exchange the first element with a property. -/
def updateFirst (p : α → Bool) (f : α → α) : List α → List α
  | [] => []
  | a :: l => if p a then f a :: l else a :: updateFirst p f l

/-- Only the first element with the property is exchanged. -/
theorem updateFirst_split
    {pre post : List α} {a : α} {p : α → Bool} (f : α → α)
    (ha : p a = true) (hpre : ∀ b ∈ pre, p b = false) :
    updateFirst p f (pre ++ a :: post) = pre ++ f a :: post := by
  induction pre with
  | nil =>
      simp [updateFirst, ha]
  | cons b pre ih =>
      have hb : p b = false := hpre b (by simp)
      simp only [List.cons_append, updateFirst, hb]
      rw [ih fun c hc => hpre c (by simp [hc])]
      rfl

/-- Nothing is exchanged if no element has the property. -/
theorem updateFirst_of_forall
    {l : List α} {p : α → Bool} (f : α → α)
    (hl : ∀ b ∈ l, p b = false) :
    updateFirst p f l = l := by
  induction l with
  | nil =>
      rfl
  | cons b l ih =>
      have hb : p b = false := hl b (by simp)
      simp only [updateFirst, hb]
      rw [ih fun c hc => hl c (by simp [hc])]
      rfl

/-- An element after the update is an old one or an updated one. -/
theorem mem_updateFirst
    {p : α → Bool}
    {f : α → α}
    {l : List α}
    {b : α}
    (hb : b ∈ updateFirst p f l) :
    b ∈ l ∨ ∃ a ∈ l, b = f a := by
  induction l with
  | nil => cases hb
  | cons a l ih =>
      cases hp : p a with
      | true =>
          rw [updateFirst, hp] at hb
          rcases List.mem_cons.mp hb with rfl | hb
          · exact .inr ⟨a, List.mem_cons_self, rfl⟩
          · exact .inl (List.mem_cons_of_mem _ hb)
      | false =>
          rw [updateFirst, hp] at hb
          rcases List.mem_cons.mp hb with rfl | hb
          · exact .inl List.mem_cons_self
          · rcases ih hb with hb | ⟨c, hc, rfl⟩
            · exact .inl (List.mem_cons_of_mem _ hb)
            · exact .inr ⟨c, List.mem_cons_of_mem _ hc, rfl⟩

/-- With distinct images at most one element has a given image. -/
theorem length_filter_image_le_one
    {β : Type*} [DecidableEq β] {f : α → β} {l : List α}
    (hnodup : (l.map f).Nodup) (b : β) :
    (l.filter fun a => decide (f a = b)).length ≤ 1 := by
  have hcount := List.nodup_iff_count_le_one.mp hnodup b
  rw [List.count, List.countP_map, List.countP_eq_length_filter] at hcount
  simpa [Function.comp_def, beq_eq_decide] using hcount

/-- With distinct images an element is the only one with its image. -/
theorem filter_image_eq_singleton
    {β : Type*} [DecidableEq β] {f : α → β} {l : List α}
    (hnodup : (l.map f).Nodup) {a : α} (ha : a ∈ l) :
    (l.filter fun a' => decide (f a' = f a)) = [a] := by
  have hle := length_filter_image_le_one hnodup (f a)
  have hmem : a ∈ l.filter fun a' => decide (f a' = f a) := by
    simp [ha]
  match hfilter : l.filter fun a' => decide (f a' = f a) with
  | [] => simp [hfilter] at hmem
  | [a'] =>
      rw [hfilter, List.mem_singleton] at hmem
      rw [hmem]
  | _ :: _ :: _ => simp [hfilter] at hle

end Slots
end BrBox
