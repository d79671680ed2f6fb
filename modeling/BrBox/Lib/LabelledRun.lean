import Mathlib.Data.List.Basic

/-!
# Runs of a labelled machine

A machine is a partial step function `step : σ → ι → Option σ`.  Every choice
the environment or the scheduler makes is part of the label, so a run is just
a list of labels and can be executed.

The two rules used throughout the development are

* `run_invariant`: what every step preserves holds at the end of every run;
* `run_invariant_of_meets`: the same when every step of the run meets a side
  condition in the state it is taken from.

`forall_prefix_iff_meets` turns the second rule into an equivalence, when a step
that does not meet the condition breaks what the invariant promises.
`exists_run_of_measure` gives a run to a goal from steps that lower a measure.
A prefix of a run is a run (`run_append`, `meets_append`), so a statement about
the last state of every run is a statement about every state that is reached.
-/

namespace BrBox
namespace LabelledRun

universe u v

section Runs

variable {σ : Type u}
variable {ι : Type v}

/-- Execute a list of labels; the result is none once a label is disabled. -/
def run (step : σ → ι → Option σ) : σ → List ι → Option σ
  | s, [] => some s
  | s, l :: ls =>
      match step s l with
      | some t => run step t ls
      | none => none

/-- Every step of the run meets `cond` in the state it is taken from. -/
def Meets (step : σ → ι → Option σ) (cond : σ → ι → Prop) :
    σ → List ι → Prop
  | _, [] => True
  | s, l :: ls =>
      cond s l ∧
        match step s l with
        | some t => Meets step cond t ls
        | none => True

instance decidableMeets
    (step : σ → ι → Option σ)
    (cond : σ → ι → Prop)
    [hdec : ∀ s l, Decidable (cond s l)] :
    ∀ (s : σ) (ls : List ι), Decidable (Meets step cond s ls)
  | _, [] => isTrue trivial
  | s, l :: ls =>
      match hstep : step s l with
      | some t =>
          @decidable_of_iff _ (cond s l ∧ Meets step cond t ls)
            (by simp [Meets, hstep])
            (@instDecidableAnd _ _ (hdec s l)
              (decidableMeets step cond t ls))
      | none =>
          @decidable_of_iff _ (cond s l)
            (by simp [Meets, hstep]) (hdec s l)

variable {step : σ → ι → Option σ}
variable {cond : σ → ι → Prop}

@[simp] theorem run_nil
    (s : σ) :
    run step s [] = some s := by
  rfl

/-- Peel the first step from a successful nonempty run. -/
theorem run_cons_success
    {s u : σ} {l : ι} {ls : List ι}
    (hrun : run step s (l :: ls) = some u) :
    ∃ t, step s l = some t ∧ run step t ls = some u := by
  simp only [run] at hrun
  cases hstep : step s l with
  | none =>
      simp [hstep] at hrun
  | some t =>
      exact ⟨t, rfl, by simpa [hstep] using hrun⟩

/-- A run of a concatenation is the run of its two parts. -/
theorem run_append
    (s : σ) (ks ls : List ι) :
    run step s (ks ++ ls) =
      (run step s ks).bind fun t => run step t ls := by
  induction ks generalizing s with
  | nil =>
      rfl
  | cons k ks ih =>
      simp only [List.cons_append, run]
      cases step s k with
      | none =>
          rfl
      | some t =>
          exact ih t

/-- The first part of a run is a run. -/
theorem run_prefix
    {s u : σ} {ks ls : List ι}
    (hrun : run step s (ks ++ ls) = some u) :
    ∃ t, run step s ks = some t ∧ run step t ls = some u := by
  rw [run_append] at hrun
  cases hks : run step s ks with
  | none =>
      simp [hks] at hrun
  | some t =>
      exact ⟨t, rfl, by simpa [hks] using hrun⟩

/-- The last step of a run. -/
theorem run_concat_success
    {s u : σ} {ls : List ι} {l : ι}
    (hrun : run step s (ls ++ [l]) = some u) :
    ∃ t, run step s ls = some t ∧ step t l = some u := by
  obtain ⟨t, ht, hlast⟩ := run_prefix hrun
  obtain ⟨v, hstep, hv⟩ := run_cons_success hlast
  obtain rfl := Option.some.inj hv
  exact ⟨t, ht, hstep⟩

/-- The first part of a run meets what the whole run meets. -/
theorem meets_append
    {s : σ} {ks ls : List ι}
    (hmeets : Meets step cond s (ks ++ ls)) :
    Meets step cond s ks := by
  induction ks generalizing s with
  | nil =>
      trivial
  | cons k ks ih =>
      obtain ⟨hk, hrest⟩ := hmeets
      refine ⟨hk, ?_⟩
      cases hstep : step s k with
      | none =>
          trivial
      | some t =>
          rw [hstep] at hrest
          exact ih hrest

/-- The last step of a run meets the condition where the others have led to. -/
theorem meets_last
    {s t : σ} {ls : List ι} {l : ι}
    (hmeets : Meets step cond s (ls ++ [l]))
    (hrun : run step s ls = some t) :
    cond t l := by
  induction ls generalizing s with
  | nil =>
      simp only [run_nil, Option.some.injEq] at hrun
      exact hrun ▸ hmeets.1
  | cons k ks ih =>
      obtain ⟨u, hstep, htail⟩ := run_cons_success hrun
      obtain ⟨-, hrest⟩ := hmeets
      rw [hstep] at hrest
      exact ih hrest htail

/-- Two conditions that are met are met together. -/
theorem meets_and
    {cond' : σ → ι → Prop} {s : σ} {ls : List ι}
    (hmeets : Meets step cond s ls)
    (hmeets' : Meets step cond' s ls) :
    Meets step (fun s l => cond s l ∧ cond' s l) s ls := by
  induction ls generalizing s with
  | nil =>
      trivial
  | cons l ls ih =>
      obtain ⟨hl, hrest⟩ := hmeets
      obtain ⟨hl', hrest'⟩ := hmeets'
      refine ⟨⟨hl, hl'⟩, ?_⟩
      cases hstep : step s l with
      | none =>
          trivial
      | some t =>
          rw [hstep] at hrest hrest'
          exact ih hrest hrest'

/-- A condition on labels alone is met if every label has it. -/
theorem meets_of_forall
    {P : ι → Prop} (s : σ) {ls : List ι}
    (hall : ∀ l ∈ ls, P l) :
    Meets step (fun _ l => P l) s ls := by
  induction ls generalizing s with
  | nil =>
      trivial
  | cons l ls ih =>
      refine ⟨hall l (by simp), ?_⟩
      cases step s l with
      | none =>
          trivial
      | some t =>
          exact ih t (fun k hk => hall k (List.mem_cons_of_mem _ hk))

/-- A condition is met if it holds wherever a first part of the run gets to. -/
theorem meets_of_forall_prefix
    {s : σ} {ls : List ι}
    (hall : ∀ pre l t, pre ++ [l] <+: ls → run step s pre = some t → cond t l) :
    Meets step cond s ls := by
  induction ls generalizing s with
  | nil =>
      trivial
  | cons l ls ih =>
      refine ⟨hall [] l s (by simp) rfl, ?_⟩
      cases hstep : step s l with
      | none =>
          trivial
      | some t =>
          apply ih
          intro pre k u hpre hrun
          apply hall (l :: pre) k u
          · simpa using hpre
          · simpa [run, hstep] using hrun

/-- If every step can be taken then every list of labels is a run. -/
theorem exists_run_of_total
    (htotal : ∀ s l, ∃ t, step s l = some t)
    (s : σ) (ls : List ι) :
    ∃ u, run step s ls = some u := by
  induction ls generalizing s with
  | nil =>
      exact ⟨s, rfl⟩
  | cons l ls ih =>
      obtain ⟨t, hstep⟩ := htotal s l
      obtain ⟨u, hrun⟩ := ih t
      exact ⟨u, by simp [run, hstep, hrun]⟩

/-- What every step preserves holds at the end of every run. -/
theorem run_invariant
    {I : σ → Prop}
    (hpres : ∀ s l t, I s → step s l = some t → I t)
    {s u : σ} {ls : List ι}
    (hinit : I s)
    (hrun : run step s ls = some u) :
    I u := by
  induction ls generalizing s with
  | nil =>
      simp only [run_nil, Option.some.injEq] at hrun
      exact hrun ▸ hinit
  | cons l ls ih =>
      obtain ⟨t, hstep, htail⟩ := run_cons_success hrun
      exact ih (hpres s l t hinit hstep) htail

/-- The invariant rule for runs whose steps all meet a side condition. -/
theorem run_invariant_of_meets
    {I : σ → Prop}
    (hpres : ∀ s l t, I s → cond s l → step s l = some t → I t)
    {s u : σ} {ls : List ι}
    (hinit : I s)
    (hmeets : Meets step cond s ls)
    (hrun : run step s ls = some u) :
    I u := by
  induction ls generalizing s with
  | nil =>
      simp only [run_nil, Option.some.injEq] at hrun
      exact hrun ▸ hinit
  | cons l ls ih =>
      obtain ⟨t, hstep, htail⟩ := run_cons_success hrun
      obtain ⟨hcond, hrest⟩ := hmeets
      rw [hstep] at hrest
      exact ih (hpres s l t hinit hcond hstep) hrest htail

/-- If the condition keeps an invariant that gives a property, and a step that does
not meet the condition breaks the property, then the property holds in every state
of a run if and only if the run meets the condition. -/
theorem forall_prefix_iff_meets
    {I P : σ → Prop}
    (hpres : ∀ s l t, I s → cond s l → step s l = some t → I t)
    (hprop : ∀ s, I s → P s)
    (hbreak : ∀ s l t, I s → step s l = some t → P t → cond s l)
    {s u : σ} {ls : List ι}
    (hinit : I s)
    (hrun : run step s ls = some u) :
    (∀ pre t, pre <+: ls → run step s pre = some t → P t) ↔ Meets step cond s ls := by
  constructor
  · intro hall
    induction ls generalizing s with
    | nil =>
        trivial
    | cons l ls ih =>
        obtain ⟨t, hstep, htail⟩ := run_cons_success hrun
        have hP : P t := by
          apply hall [l] t
          · exact ⟨ls, rfl⟩
          · simp [run, hstep]
        have hcond : cond s l := hbreak s l t hinit hstep hP
        refine ⟨hcond, ?_⟩
        rw [hstep]
        apply ih (hpres s l t hinit hcond hstep) htail
        intro pre v hpre hv
        apply hall (l :: pre) v
        · exact List.prefix_cons_inj l |>.mpr hpre
        · simp [run, hstep, hv]
  · rintro hmeets pre t ⟨post, rfl⟩ ht
    exact hprop t (run_invariant_of_meets hpres hinit (meets_append hmeets) ht)

/-- If some allowed step lowers a measure until the goal is reached, then a run
of allowed steps reaches it. -/
theorem exists_run_of_measure
    {I goal : σ → Prop} {allowed : ι → Prop} (μ : σ → Nat)
    (hprogress : ∀ s, I s → ¬ goal s →
      ∃ l t, allowed l ∧ step s l = some t ∧ I t ∧ μ t < μ s)
    (s : σ) (hinv : I s) :
    ∃ ls t, (∀ l ∈ ls, allowed l) ∧ run step s ls = some t ∧ I t ∧ goal t := by
  induction hμ : μ s using Nat.strongRecOn generalizing s with
  | ind n ih =>
      by_cases hgoal : goal s
      · exact ⟨[], s, by simp, rfl, hinv, hgoal⟩
      · obtain ⟨l, t, hl, hstep, hinv', hlt⟩ := hprogress s hinv hgoal
        obtain ⟨ls, u, hls, hrun, hu, hdone⟩ := ih (μ t) (by omega) t hinv' rfl
        refine ⟨l :: ls, u, ?_, ?_, hu, hdone⟩
        · intro k hk
          rcases List.mem_cons.mp hk with rfl | hk
          · exact hl
          · exact hls k hk
        · simp [run, hstep, hrun]

end Runs

end LabelledRun
end BrBox
