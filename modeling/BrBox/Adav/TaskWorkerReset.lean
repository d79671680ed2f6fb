import BrBox.Adav.TaskWorkerIds

/-!
# Results after a reset

One thread pushes tasks, polls them and resets the ids.  If no push gets an id
that a work item or a record still carries, a poll reports a result only for
the task its id was given to last, and nobody removes another task's record.
-/

namespace BrBox
namespace Adav

open LabelledRun

universe u

variable {W : Type u}

/-- Results and deletions belong to the task an id was given to last. -/
structure ResultsOwn (s : WorkerState W) : Prop where
  /-- A reported result is that of the latest task of the id. -/
  result :
    ∀ report ∈ s.reports,
      report.taskSts ≠ .inProg → report.taskSts ≠ .taskIdNotFound →
        ∃ k, report.latest = some k ∧ report.doneBy = some k ∧
          (k, report.taskSts) ∈ s.finished
  /-- A poll removes the record of the latest task of the id. -/
  removed :
    ∀ report ∈ s.reports, ∀ k, report.removed = some k →
      report.latest = some k
  /-- The worker removes the record of the task it has run. -/
  deleted : ∀ d ∈ s.deleted, d.1 = d.2

/-- The number of callers never changes. -/
theorem callers_length_move
    {s t : WorkerState W} {l : WorkerLabel W}
    (hmove : WorkerMove s l t) :
    t.callers.length = s.callers.length := by
  cases hmove <;> simp_all

/-- With a single caller there is a single poller. -/
theorem polledBy_of_single
    {s t : WorkerState W} {l : WorkerLabel W}
    (hlen : s.callers.length = 1)
    (hmove : WorkerMove s l t) :
    PolledBy 0 l := by
  cases hmove with
  | pollMissing pre post _ hcallers _ | pollBusy pre post _ _ hcallers _ _
  | pollFound pre post _ _ hcallers _ _ | reset pre post hcallers =>
      simp only [hcallers, List.length_append, List.length_cons] at hlen
      simp only [PolledBy]
      omega
  | _ =>
      trivial

/--
In every run of a single caller in which each push gets a fresh id, results
are reported and records are removed for the right tasks only.
-/
theorem resultsOwn_run
    {ls : List (WorkerLabel W)} {s : WorkerState W}
    (hmeets : Meets workerStep FreshTaskID (startWorker 1) ls)
    (hrun : run workerStep (startWorker 1) ls = some s) :
    ResultsOwn s := by
  have hpres :
      ∀ (s : WorkerState W) l t,
        FreshInv s ∧ PollInv 0 s ∧ s.callers.length = 1 →
          FreshTaskID s l → workerStep s l = some t →
            FreshInv t ∧ PollInv 0 t ∧ t.callers.length = 1 := by
    rintro s l t ⟨hinv, hpoll, hlen⟩ hfresh hstep
    have hmove := workerStep_move hstep
    refine ⟨freshInv_move hinv hfresh hmove, ?_, ?_⟩
    · exact pollInv_move hinv.latest hinv.serial hinv.status hpoll
        (polledBy_of_single hlen hmove) hmove
    · rw [callers_length_move hmove, hlen]
  have hinit :
      FreshInv (startWorker 1 : WorkerState W) ∧
        PollInv 0 (startWorker 1 : WorkerState W) ∧
        (startWorker 1 : WorkerState W).callers.length = 1 :=
    ⟨freshInv_start 1, pollInv_start 0 1, rfl⟩
  obtain ⟨hinv, hpoll, -⟩ := run_invariant_of_meets hpres hinit hmeets hrun
  refine ⟨?_, ?_, hinv.status.deleted⟩
  · intro report hreport hprog hmissing
    cases hremoved : report.removed with
    | none =>
        rcases hpoll.reports report hreport hremoved with hsts | hsts
        · exact absurd hsts hmissing
        · exact absurd hsts hprog
    | some k =>
        obtain ⟨hlatest, hsts⟩ :=
          hinv.status.removed report hreport k hremoved
        rcases hsts with hsts | hdone
        · exact absurd hsts hprog
        · exact ⟨k, hlatest, hdone⟩
  · intro report hreport k hk
    exact (hinv.status.removed report hreport k hk).1

/-- A task is pushed, run and polled before the reset. -/
def orderlyResetRun : List (WorkerLabel Unit) :=
  [.call 0 (.pushTask 5 () .preserve), .goOn 0, .goOn 0, .goOn 0,
    .worker, .worker, .runWorkReturns .fail,
    .call 0 (.getTaskStatus 1), .goOn 0,
    .call 0 .resetTaskIdAndChain,
    .call 0 (.pushTask 6 () .preserve), .goOn 0, .goOn 0, .goOn 0]

/-- Nothing is queued at the reset, so the id 1 is fresh again. -/
theorem resultsOwn_orderlyResetRun :
    ∃ s,
      run workerStep (startWorker 1) orderlyResetRun = some s ∧
      s.reports.map Report.taskSts = [.fail] ∧ ResultsOwn s := by
  obtain ⟨s, hrun, hreports⟩ :
      ∃ s,
        run workerStep (startWorker 1) orderlyResetRun = some s ∧
        s.reports.map Report.taskSts = [.fail] :=
    ⟨_, rfl, rfl⟩
  exact ⟨s, hrun, hreports, resultsOwn_run (by decide) hrun⟩

/-- The task is still queued when the ids are reset. -/
def staleTaskRun : List (WorkerLabel Unit) :=
  [.call 0 (.pushTask 5 () .preserve), .goOn 0, .goOn 0, .goOn 0,
    .call 0 .resetTaskIdAndChain,
    .call 0 (.pushTask 6 () .preserve), .goOn 0, .goOn 0, .goOn 0,
    .worker, .worker, .runWorkReturns .fail,
    .call 0 (.getTaskStatus 1), .goOn 0]

/-- The result of the old task is reported for the new one. -/
theorem not_resultsOwn_staleTaskRun :
    ∃ s,
      run workerStep (startWorker 1) staleTaskRun = some s ∧
      ¬ ResultsOwn s := by
  refine ⟨_, rfl, ?_⟩
  intro hown
  have hremoved :=
    hown.result _ (List.mem_singleton.mpr rfl) (by decide) (by decide)
  obtain ⟨k, hlatest, hdone, -⟩ := hremoved
  have hk : (some 1 : Option Nat) = some k := hlatest
  have hk' : (some 0 : Option Nat) = some k := hdone
  rw [← hk'] at hk
  exact absurd hk (by decide)

end Adav
end BrBox
