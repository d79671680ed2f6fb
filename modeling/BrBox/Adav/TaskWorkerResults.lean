import BrBox.Adav.TaskWorkerIds

/-!
# Results are kept until they are polled

Any number of threads push tasks whose result is to be preserved, and one
thread polls.  `push_task` publishes the work item before the record, and a
wake-up of the worker is not tied to a task: the worker may run a task whose
record is not on the chain yet, and then its result is lost and the task is
reported as in progress for ever.

If the worker never finishes a task before the record is there, every result
is kept in the record until one poll returns it.
-/

namespace BrBox
namespace Adav

open LabelledRun

universe u

variable {W : Type u}

/-- Tasks to be preserved, polled by one thread, no reset. -/
def PreservingCalls (poller : Nat) : WorkerLabel W → Prop
  | .call _ (.pushTask _ _ done) => done = .preserve
  | .call thread (.getTaskStatus _) => thread = poller
  | .call _ .resetTaskIdAndChain => False
  | _ => True

/--
When `run_work` returns, no caller still holds the record of that task, and
the result is not the one that stands for a task in progress.
-/
def RecordReady (s : WorkerState W) : WorkerLabel W → Prop
  | .runWorkReturns result =>
      result ≠ .inProg ∧
        ∀ p ∈ s.worker.taskKeys,
          ∀ record ∈ s.callers.flatMap CallerPc.recordHand,
            record.serial ≠ p.2
  | _ => True

instance decidablePreservingCalls (poller : Nat) :
    ∀ l : WorkerLabel W, Decidable (PreservingCalls poller l)
  | .call _ (.pushTask _ _ done) =>
      inferInstanceAs (Decidable (done = .preserve))
  | .call thread (.getTaskStatus _) =>
      inferInstanceAs (Decidable (thread = poller))
  | .call _ .resetTaskIdAndChain => isFalse id
  | .goOn _ => isTrue trivial
  | .worker => isTrue trivial
  | .runWorkReturns _ => isTrue trivial

instance decidableRecordReady (s : WorkerState W) :
    ∀ l, Decidable (RecordReady s l)
  | .runWorkReturns result =>
      inferInstanceAs
        (Decidable (result ≠ .inProg ∧
          ∀ p ∈ s.worker.taskKeys,
            ∀ record ∈ s.callers.flatMap CallerPc.recordHand,
              record.serial ≠ p.2))
  | .call _ _ => isTrue trivial
  | .goOn _ => isTrue trivial
  | .worker => isTrue trivial

/-- What a poll may report, given how far the task had come. -/
def ReportSound (report : Report) : Prop :=
  match report.phase with
  | .finished result =>
      report.taskSts = result ∧ report.taskSts ≠ .inProg
  | .returned => report.taskSts = .taskIdNotFound
  | .opened => True
  | .unknown => True

/-- What polls have seen and reported. -/
structure PhaseInv (s : WorkerState W) : Prop where
  polls :
    ∀ taskID phase, .pollTake taskID phase ∈ s.callers →
      phase ≠ .returned ∧
        ∀ result, phase = .finished result →
          ∃ k, s.latest taskID = some k ∧ (k, result) ∈ s.finished
  reports : ∀ report ∈ s.reports, ReportSound report
  returned :
    ∀ report ∈ s.reports, ∀ k, report.removed = some k →
      (k, report.taskSts) ∈ s.finished

/-- The condition under which no result is lost. -/
def NoLostResult (s : WorkerState W) (l : WorkerLabel W) : Prop :=
  FreshTaskID s l ∧ RecordReady s l

instance decidableNoLostResult (s : WorkerState W) (l : WorkerLabel W) :
    Decidable (NoLostResult s l) :=
  inferInstanceAs (Decidable (FreshTaskID s l ∧ RecordReady s l))

end Adav
end BrBox
