import Mathlib.Data.List.Basic

/-!
# Loops that may run forever

A loop is a body that either goes on with a new state or leaves with a result.
`loop` runs it for a number of rounds and gives none when they are used up, so
that a loop returns a result exactly if some number of rounds is enough.

* `Returns.unique`: a loop returns one result at most.
* `exists_returns_of_measure`: a loop that lowers a measure returns.
* `Returns.invariant`: what every round preserves holds at the end.
* `diverges_of_invariant`: a loop that can always go on returns nothing.
-/

namespace BrBox
namespace WhileLoop

universe u v

section Loops

variable {σ : Type u}
variable {ρ : Type v}

/-- Run the body until it leaves, for at most `fuel` rounds. -/
def loop (body : σ → σ ⊕ ρ) : Nat → σ → Option ρ
  | 0, _ => none
  | fuel + 1, s =>
      match body s with
      | .inl t => loop body fuel t
      | .inr r => some r

/-- The loop leaves with this result. -/
def Returns (body : σ → σ ⊕ ρ) (s : σ) (r : ρ) : Prop :=
  ∃ fuel, loop body fuel s = some r

variable {body : σ → σ ⊕ ρ}

/-- A round that goes on. -/
theorem loop_of_inl
    {s t : σ}
    (hbody : body s = .inl t)
    (fuel : Nat) :
    loop body (fuel + 1) s = loop body fuel t := by
  rw [loop, hbody]

/-- A round that leaves. -/
theorem loop_of_inr
    {s : σ} {r : ρ}
    (hbody : body s = .inr r)
    (fuel : Nat) :
    loop body (fuel + 1) s = some r := by
  rw [loop, hbody]

/-- More rounds than needed do not matter. -/
theorem loop_mono
    {fuel more : Nat} {s : σ} {r : ρ}
    (hloop : loop body fuel s = some r)
    (hle : fuel ≤ more) :
    loop body more s = some r := by
  induction fuel generalizing s more with
  | zero =>
      cases hloop
  | succ fuel ih =>
      obtain ⟨more, rfl⟩ : ∃ m, more = m + 1 := ⟨more - 1, by omega⟩
      cases hbody : body s with
      | inl t =>
          rw [loop_of_inl hbody] at hloop ⊢
          exact ih hloop (by omega)
      | inr r' =>
          rw [loop_of_inr hbody] at hloop ⊢
          exact hloop

/-- A loop returns one result at most. -/
theorem Returns.unique
    {s : σ} {r r' : ρ}
    (hr : Returns body s r)
    (hr' : Returns body s r') :
    r = r' := by
  obtain ⟨fuel, hloop⟩ := hr
  obtain ⟨fuel', hloop'⟩ := hr'
  have h := loop_mono hloop (Nat.le_max_left fuel fuel')
  rw [loop_mono hloop' (Nat.le_max_right fuel fuel')] at h
  exact (Option.some.inj h).symm

/-- The last round. -/
theorem returns_of_inr
    {s : σ} {r : ρ}
    (hbody : body s = .inr r) :
    Returns body s r :=
  ⟨1, loop_of_inr hbody 0⟩

/-- One round more or less. -/
theorem returns_iff_of_inl
    {s t : σ} {r : ρ}
    (hbody : body s = .inl t) :
    Returns body s r ↔ Returns body t r := by
  constructor
  · rintro ⟨fuel, hloop⟩
    cases fuel with
    | zero =>
        cases hloop
    | succ fuel =>
        rw [loop_of_inl hbody] at hloop
        exact ⟨fuel, hloop⟩
  · rintro ⟨fuel, hloop⟩
    exact ⟨fuel + 1, (loop_of_inl hbody fuel).trans hloop⟩

/-- A loop that lowers a measure in every round returns a result. -/
theorem exists_returns_of_measure
    {I : σ → Prop} (μ : σ → Nat)
    (hround : ∀ s t, I s → body s = .inl t → I t ∧ μ t < μ s)
    {s : σ}
    (hinit : I s) :
    ∃ r, Returns body s r := by
  induction hμ : μ s using Nat.strongRecOn generalizing s with
  | ind n ih =>
      cases hbody : body s with
      | inl t =>
          obtain ⟨hinv, hlt⟩ := hround s t hinit hbody
          obtain ⟨r, hr⟩ := ih (μ t) (by omega) hinv rfl
          exact ⟨r, (returns_iff_of_inl hbody).mpr hr⟩
      | inr r =>
          exact ⟨r, returns_of_inr hbody⟩

/-- What every round preserves holds in the state that the loop leaves from. -/
theorem Returns.invariant
    {I : σ → Prop}
    (hround : ∀ s t, I s → body s = .inl t → I t)
    {s : σ} {r : ρ}
    (hinit : I s)
    (hr : Returns body s r) :
    ∃ t, I t ∧ body t = .inr r := by
  obtain ⟨fuel, hloop⟩ := hr
  induction fuel generalizing s with
  | zero =>
      cases hloop
  | succ fuel ih =>
      cases hbody : body s with
      | inl t =>
          rw [loop_of_inl hbody] at hloop
          exact ih (hround s t hinit hbody) hloop
      | inr r' =>
          rw [loop_of_inr hbody, Option.some.injEq] at hloop
          exact ⟨s, hinit, by rw [hbody, hloop]⟩

/-- A loop that goes on from every state of an invariant returns nothing. -/
theorem diverges_of_invariant
    {I : σ → Prop}
    (hround : ∀ s, I s → ∃ t, body s = .inl t ∧ I t)
    {s : σ}
    (hinit : I s)
    (r : ρ) :
    ¬ Returns body s r := by
  rintro ⟨fuel, hloop⟩
  induction fuel generalizing s with
  | zero =>
      cases hloop
  | succ fuel ih =>
      obtain ⟨t, hbody, hinv⟩ := hround s hinit
      rw [loop_of_inl hbody] at hloop
      exact ih hinv hloop

end Loops

end WhileLoop
end BrBox
