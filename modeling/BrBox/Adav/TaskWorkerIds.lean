import BrBox.Adav.TaskWorker
import Mathlib.Data.List.Nodup
import Mathlib.Tactic.Tauto

/-!
# Task ids

Work items and records find each other by their task id only.  As long as
`push_task` hands out no id that a work item or a record still carries, an id
stands for the task it was given to last, the worker updates and deletes no
record but that of its own task, and a poll reports the result of the right
task.

`reset_task_id_and_chain` restarts the ids and empties the chain of records,
but not the chain of work items, so the ids of the tasks queued before a reset
are handed out again while these tasks are waiting or running.
-/

namespace BrBox
namespace Adav

open LabelledRun

universe u

variable {W : Type u}

/-- The id and the serial number of a work item. -/
def WorkCmdTask.key (task : WorkCmdTask W) : Int × Nat :=
  (task.taskID, task.serial)

/-- The id and the serial number of a record. -/
def WorkCmdTaskInProg.key (record : WorkCmdTaskInProg) : Int × Nat :=
  (record.taskID, record.serial)

/-- The work item in a caller's hand. -/
def CallerPc.taskKeys : CallerPc W → List (Int × Nat)
  | .idle => []
  | .pushWork task _ => [task.key]
  | .pushRecord _ => []
  | .pushWake _ => []
  | .pollTake _ _ => []

/-- The record in a caller's hand. -/
def CallerPc.recordHand : CallerPc W → List WorkCmdTaskInProg
  | .idle => []
  | .pushWork _ record => [record]
  | .pushRecord record => [record]
  | .pushWake _ => []
  | .pollTake _ _ => []

/-- The work item in the worker's hand. -/
def WorkerPc.taskKeys : WorkerPc W → List (Int × Nat)
  | .waiting => []
  | .awake => []
  | .running task => [task.key]

/-- All work items that have not been run to their end. -/
def taskKeys (s : WorkerState W) : List (Int × Nat) :=
  s.worker.taskKeys ++ s.workChain.elems.map WorkCmdTask.key ++
    s.callers.flatMap CallerPc.taskKeys

/-- All records, on the chain and on their way to it. -/
def allRecords (s : WorkerState W) : List WorkCmdTaskInProg :=
  s.callers.flatMap CallerPc.recordHand ++ s.workInprogChain.elems

/-- The keys of all records. -/
def recordKeys (s : WorkerState W) : List (Int × Nat) :=
  (allRecords s).map WorkCmdTaskInProg.key

/-- The ids that work items and records carry. -/
def idsInUse (s : WorkerState W) : List Int :=
  (taskKeys s ++ recordKeys s).map Prod.fst

/-- A pushed task gets an id that nothing carries. -/
def FreshTaskID (s : WorkerState W) : WorkerLabel W → Prop
  | .call _ (.pushTask _ _ _) => nextTaskID s ∉ idsInUse s
  | _ => True

instance decidableFreshTaskID (s : WorkerState W) :
    ∀ l, Decidable (FreshTaskID s l)
  | .call _ (.pushTask _ _ _) =>
      inferInstanceAs (Decidable (nextTaskID s ∉ idsInUse s))
  | .call _ (.getTaskStatus _) => isTrue trivial
  | .call _ .resetTaskIdAndChain => isTrue trivial
  | .goOn _ => isTrue trivial
  | .worker => isTrue trivial
  | .runWorkReturns _ => isTrue trivial

/-- An id in use stands for the task it was given to last. -/
structure LatestInv (s : WorkerState W) : Prop where
  keys : ∀ p ∈ taskKeys s ++ recordKeys s, s.latest p.1 = some p.2
  bound : ∀ i k, s.latest i = some k → k < s.nextSerial
  inj : ∀ i j k, s.latest i = some k → s.latest j = some k → i = j

/-- No task is run twice and no record is removed twice. -/
structure SerialInv (s : WorkerState W) : Prop where
  tasks : ((taskKeys s).map Prod.snd ++ s.finished.map Prod.fst).Nodup
  records : ((recordKeys s).map Prod.snd ++ taken s).Nodup
  bound :
    ∀ k ∈ (taskKeys s).map Prod.snd ++ s.finished.map Prod.fst ++
      ((recordKeys s).map Prod.snd ++ taken s), k < s.nextSerial

/-- A record is untouched or holds the result of its own task. -/
def RecordOk
    (finished : List (Nat × RpcSrvResult))
    (record : WorkCmdTaskInProg) : Prop :=
  record.doneBy = none ∧ record.taskSts = .inProg ∨
    record.doneBy = some record.serial ∧
      (record.serial, record.taskSts) ∈ finished

/-- The update of a record leaves all keys alone. -/
theorem map_key_updateFirst
    (p : WorkCmdTaskInProg → Bool)
    (task : WorkCmdTask W) (result : RpcSrvResult)
    (records : List WorkCmdTaskInProg) :
    (Slots.updateFirst p (setResult task result) records).map
        WorkCmdTaskInProg.key =
      records.map WorkCmdTaskInProg.key := by
  induction records with
  | nil =>
      rfl
  | cons record records ih =>
      cases hp : p record with
      | true => simp [Slots.updateFirst, hp, setResult, WorkCmdTaskInProg.key]
      | false => simp [Slots.updateFirst, hp, ih]

/-- What a push does to the keys. -/
theorem push_keys
    {s t : WorkerState W} {pre post : List (CallerPc W)}
    (command : Int) (pWorkData : W) (done : WorkCmdAfterDone)
    (hcallers : s.callers = pre ++ .idle :: post)
    (ht : t =
      { s with
        callers := pre ++
          .pushWork (newWorkObj s command pWorkData done)
            (newInprogObj s command) :: post
        workInprogChain := s.workInprogChain.chainGenerateIdent.2
        nextSerial := s.nextSerial + 1
        latest :=
          Function.update s.latest (nextTaskID s) (some s.nextSerial) }) :
    (taskKeys t).Perm ((nextTaskID s, s.nextSerial) :: taskKeys s) ∧
      (recordKeys t).Perm ((nextTaskID s, s.nextSerial) :: recordKeys s) := by
  subst ht
  constructor
  · rw [List.perm_iff_count]
    intro p
    simp only [taskKeys, hcallers, List.flatMap_append, List.flatMap_cons,
      CallerPc.taskKeys, List.count_append, List.count_cons, List.count_nil,
      WorkCmdTask.key, newWorkObj]
    omega
  · rw [List.perm_iff_count]
    intro p
    simp only [recordKeys, allRecords, hcallers, List.flatMap_append,
      List.flatMap_cons, CallerPc.recordHand, List.map_append, List.map_cons,
      List.map_nil, List.count_append, List.count_cons, List.count_nil,
      GenericChain.chainGenerateIdent_elems, WorkCmdTaskInProg.key,
      newInprogObj]
    omega

/-- What steps other than a push do to the keys. -/
structure KeysKept (s t : WorkerState W) : Prop where
  latest : t.latest = s.latest
  nextSerial : t.nextSerial = s.nextSerial
  taskKeys : taskKeys t ⊆ taskKeys s
  recordKeys : recordKeys t ⊆ recordKeys s
  tasks :
    ((Adav.taskKeys t).map Prod.snd ++ t.finished.map Prod.fst).Perm
      ((Adav.taskKeys s).map Prod.snd ++ s.finished.map Prod.fst)
  records :
    ∃ gone,
      ((Adav.recordKeys t).map Prod.snd ++ taken t ++ gone).Perm
        ((Adav.recordKeys s).map Prod.snd ++ taken s)

/-- Steps that only move work items and records from one place to another. -/
theorem KeysKept.of_perm
    {s t : WorkerState W}
    (hlatest : t.latest = s.latest)
    (hserial : t.nextSerial = s.nextSerial)
    (htasks : (Adav.taskKeys t).Perm (Adav.taskKeys s))
    (hrecords : (Adav.recordKeys t).Perm (Adav.recordKeys s))
    (hfinished : t.finished = s.finished)
    (htaken : taken t = taken s) :
    KeysKept s t := by
  refine ⟨hlatest, hserial, htasks.subset, hrecords.subset, ?_, [], ?_⟩
  · rw [hfinished]
    exact (htasks.map Prod.snd).append_right _
  · rw [htaken, List.append_nil]
    exact (hrecords.map Prod.snd).append_right _

/-- Steps that touch neither work items nor records nor reports. -/
theorem KeysKept.of_eq
    {s t : WorkerState W}
    (hlatest : t.latest = s.latest)
    (hserial : t.nextSerial = s.nextSerial)
    (htasks : Adav.taskKeys t = Adav.taskKeys s)
    (hrecords : Adav.recordKeys t = Adav.recordKeys s)
    (hfinished : t.finished = s.finished)
    (htaken : taken t = taken s) :
    KeysKept s t :=
  .of_perm hlatest hserial (.of_eq htasks) (.of_eq hrecords) hfinished htaken

/-- The keys of the callers when one of them goes on. -/
theorem flatMap_callers
    {β : Type*} (f : CallerPc W → List β)
    (pre post : List (CallerPc W)) (pc : CallerPc W) :
    (pre ++ pc :: post).flatMap f =
      pre.flatMap f ++ f pc ++ post.flatMap f := by
  simp

/-! ### What a step does to the records and the results -/

/-- After a step there are old records, that of a push, and that of the task that
has returned. -/
theorem allRecords_move
    {s t : WorkerState W} {l : WorkerLabel W}
    (hmove : WorkerMove s l t)
    {record : WorkCmdTaskInProg}
    (hrecord : record ∈ allRecords t) :
    record ∈ allRecords s ∨
      (∃ command, record = newInprogObj s command) ∨
      ∃ task result, s.worker = .running task ∧
        t.finished = s.finished ++ [(task.serial, result)] ∧
        record ∈ Slots.updateFirst (identifyByTaskID task.taskID)
          (setResult task result) s.workInprogChain.elems := by
  cases hmove with
  | push pre post command pWorkData done hcallers =>
      simp only [allRecords, hcallers, flatMap_callers, CallerPc.recordHand,
        GenericChain.chainGenerateIdent_elems, List.mem_append,
        List.mem_singleton] at hrecord ⊢
      by_cases hnew : record = newInprogObj s command
      · exact .inr (.inl ⟨command, hnew⟩)
      · exact .inl (by tauto)
  | takeRecord pre post taskID phase found hcallers hfind =>
      left
      simp only [allRecords, hcallers, flatMap_callers,
        CallerPc.recordHand, List.mem_append] at hrecord ⊢
      exact hrecord.imp id fun h => List.mem_of_mem_eraseP h
  | reset pre post hcallers =>
      left
      simp only [allRecords, GenericChain.chainEmpty, List.append_nil]
        at hrecord
      exact List.mem_append_left _ hrecord
  | putRecord pre post found hcallers =>
      left
      simp only [allRecords, hcallers, flatMap_callers, CallerPc.recordHand,
        GenericChain.chainPut_elems, List.mem_append] at hrecord ⊢
      tauto
  | pollFound pre post _ _ hcallers _ _ | putWork pre post _ _ hcallers
  | wake pre post _ hcallers | takeMissing pre post _ _ hcallers _ =>
      left
      simpa [allRecords, hcallers, CallerPc.recordHand] using hrecord
  | pollMissing _ _ _ _ _ | pollBusy _ _ _ _ _ _ _ | workerStart _ _
  | workerNothing _ _ | workerTake _ _ _ _ | doneMissing _ _ _ _ _ =>
      exact .inl hrecord
  | donePreserve task result hpc hdone =>
      rw [allRecords, List.mem_append] at hrecord
      rcases hrecord with hrecord | hrecord
      · exact .inl (List.mem_append_left _ hrecord)
      · exact .inr (.inr ⟨task, result, hpc, rfl, hrecord⟩)
  | doneDelete task result found hpc hdone hfind =>
      left
      rw [allRecords, List.mem_append] at hrecord ⊢
      exact hrecord.imp id fun h => List.mem_of_mem_eraseP h

/-- A step makes at most one report, of a record that it found or of none. -/
theorem reports_move
    {s t : WorkerState W} {l : WorkerLabel W}
    (hmove : WorkerMove s l t)
    {report : Report}
    (hreport : report ∈ t.reports) :
    report ∈ s.reports ∨
      (∃ taskID sts phase, report = reportOnly s taskID sts phase) ∨
      ∃ taskID record phase,
        s.workInprogChain.elems.find? (identifyByTaskID taskID) =
          some record ∧
        report = reportTaken s taskID record phase := by
  cases hmove with
  | pollMissing pre post taskID hcallers hfind
  | pollBusy pre post taskID _ hcallers hfind _
  | takeMissing pre post taskID _ hcallers hfind =>
      rw [List.mem_append, List.mem_singleton] at hreport
      exact hreport.imp id fun h => .inl ⟨_, _, _, h⟩
  | takeRecord pre post taskID phase record hcallers hfind =>
      rw [List.mem_append, List.mem_singleton] at hreport
      exact hreport.imp id fun h => .inr ⟨taskID, record, phase, hfind, h⟩
  | _ => exact .inl hreport

/-- A step appends to the results at most that of the running task. -/
theorem finished_move
    {s t : WorkerState W} {l : WorkerLabel W}
    (hmove : WorkerMove s l t) :
    (∃ task result, l = .runWorkReturns result ∧ s.worker = .running task ∧
        t.finished = s.finished ++ [(task.serial, result)]) ∨
      (∀ result, l ≠ .runWorkReturns result) ∧ t.finished = s.finished := by
  cases hmove with
  | donePreserve task result hpc hdone
  | doneMissing task result hpc hdone hfind
  | doneDelete task result record hpc hdone hfind =>
      exact .inl ⟨task, result, rfl, hpc, rfl⟩
  | _ => exact .inr ⟨by simp, rfl⟩

theorem finished_extends
    {s t : WorkerState W} {l : WorkerLabel W}
    (hmove : WorkerMove s l t) :
    ∃ more, t.finished = s.finished ++ more := by
  rcases finished_move hmove with ⟨task, result, -, -, hfinished⟩ | ⟨-, hfinished⟩
  · exact ⟨_, hfinished⟩
  · exact ⟨[], by rw [hfinished, List.append_nil]⟩

/-- A step deletes at most the record that is found for the running task. -/
theorem deleted_move
    {s t : WorkerState W} {l : WorkerLabel W}
    (hmove : WorkerMove s l t)
    {d : Nat × Nat}
    (hd : d ∈ t.deleted) :
    d ∈ s.deleted ∨
      ∃ task record, s.worker = .running task ∧
        s.workInprogChain.elems.find? (identifyByTaskID task.taskID) =
          some record ∧
        d = (record.serial, task.serial) := by
  cases hmove with
  | doneDelete task result record hpc hdone hfind =>
      rw [List.mem_append, List.mem_singleton] at hd
      exact hd.imp id fun h => ⟨task, record, hpc, hfind, h⟩
  | _ => exact .inl hd

/-- The finished task leaves the worker's hand. -/
theorem runWorkReturns_tasks
    {s t : WorkerState W} {task : WorkCmdTask W}
    (hpc : s.worker = .running task) (result : RpcSrvResult)
    (hworker : t.worker = .waiting)
    (hchain : t.workChain = s.workChain)
    (hcallers : t.callers = s.callers)
    (hfinished : t.finished = s.finished ++ [(task.serial, result)]) :
    taskKeys t ⊆ taskKeys s ∧
      ((taskKeys t).map Prod.snd ++ t.finished.map Prod.fst).Perm
        ((taskKeys s).map Prod.snd ++ s.finished.map Prod.fst) := by
  constructor
  · intro p hp
    simp only [taskKeys, hpc, hworker, hchain, hcallers, WorkerPc.taskKeys,
      List.mem_append] at hp ⊢
    tauto
  · rw [List.perm_iff_count]
    intro k
    simp only [taskKeys, hpc, hworker, hchain, hcallers, hfinished,
      WorkerPc.taskKeys, WorkCmdTask.key, List.map_append, List.map_cons,
      List.map_nil, List.count_append, List.count_nil]
    omega

theorem keysKept_move
    {s t : WorkerState W} {l : WorkerLabel W}
    (hmove : WorkerMove s l t)
    (hpush : ∀ th c d a, l ≠ .call th (.pushTask c d a)) :
    KeysKept s t := by
  cases hmove with
  | push pre post command pWorkData done hcallers =>
      exact absurd rfl (hpush _ _ _ _)
  | pollMissing pre post taskID hcallers hfind =>
      exact .of_eq rfl rfl rfl rfl rfl (by simp [taken, reportOnly])
  | pollBusy pre post taskID record hcallers hfind hsts =>
      exact .of_eq rfl rfl rfl rfl rfl (by simp [taken, reportOnly])
  | pollFound pre post taskID record hcallers hfind hsts =>
      refine .of_eq rfl rfl ?_ ?_ rfl rfl
      · simp [taskKeys, hcallers, CallerPc.taskKeys]
      · simp [recordKeys, allRecords, hcallers, CallerPc.recordHand]
  | wake pre post serial hcallers =>
      refine .of_eq rfl rfl ?_ ?_ rfl rfl
      · simp [taskKeys, hcallers, CallerPc.taskKeys]
      · simp [recordKeys, allRecords, hcallers, CallerPc.recordHand]
  | takeMissing pre post taskID phase hcallers hfind =>
      refine .of_eq rfl rfl ?_ ?_ rfl ?_
      · simp [taskKeys, hcallers, CallerPc.taskKeys]
      · simp [recordKeys, allRecords, hcallers, CallerPc.recordHand]
      · simp [taken, reportOnly]
  | workerStart hpc hsema =>
      exact .of_eq rfl rfl (by simp [taskKeys, hpc, WorkerPc.taskKeys])
        rfl rfl rfl
  | workerNothing hpc hchain =>
      exact .of_eq rfl rfl (by simp [taskKeys, hpc, WorkerPc.taskKeys])
        rfl rfl rfl
  | workerTake task rest hpc hchain =>
      exact .of_eq rfl rfl
        (by simp [taskKeys, hpc, hchain, WorkerPc.taskKeys]) rfl rfl rfl
  | reset pre post hcallers =>
      refine ⟨rfl, rfl, List.Subset.refl _, ?_, List.Perm.refl _,
        s.workInprogChain.elems.map WorkCmdTaskInProg.serial, ?_⟩
      · intro p hp
        simp only [recordKeys, allRecords, GenericChain.chainEmpty,
          List.append_nil, List.map_append, List.mem_append] at hp ⊢
        exact Or.inl hp
      · rw [List.perm_iff_count]
        intro k
        simp only [recordKeys, allRecords, GenericChain.chainEmpty,
          List.append_nil, List.map_append, List.map_map, taken,
          List.count_append]
        have hserial :
            Prod.snd ∘ WorkCmdTaskInProg.key = WorkCmdTaskInProg.serial := by
          rfl
        rw [hserial]
        omega
  | putWork pre post task record hcallers =>
      refine .of_perm rfl rfl ?_ (.of_eq ?_) rfl rfl
      · rw [List.perm_iff_count]
        intro p
        simp only [taskKeys, hcallers, flatMap_callers, CallerPc.taskKeys,
          GenericChain.chainPut_elems, List.map_append, List.map_cons,
          List.map_nil, List.count_append, List.count_nil]
        omega
      · simp [recordKeys, allRecords, hcallers, CallerPc.recordHand]
  | putRecord pre post record hcallers =>
      refine .of_perm rfl rfl (.of_eq ?_) ?_ rfl rfl
      · simp [taskKeys, hcallers, CallerPc.taskKeys]
      · rw [List.perm_iff_count]
        intro p
        simp only [recordKeys, allRecords, hcallers, flatMap_callers,
          CallerPc.recordHand, GenericChain.chainPut_elems, List.map_append,
          List.map_nil, List.count_append, List.count_nil]
        omega
  | takeRecord pre post taskID phase record hcallers hfind =>
      obtain ⟨before, after, hchain, -, -, herase⟩ := Slots.split_find hfind
      rw [hchain] at herase
      refine ⟨rfl, rfl, ?_, ?_, ?_, [], ?_⟩
      · intro p hp
        simpa [taskKeys, hcallers, CallerPc.taskKeys] using hp
      · intro p hp
        simp only [recordKeys, allRecords, hcallers, hchain, herase,
          flatMap_callers, CallerPc.recordHand, List.map_append, List.map_cons,
          List.map_nil, List.mem_append, List.mem_cons] at hp ⊢
        tauto
      · simp [taskKeys, hcallers, CallerPc.taskKeys]
      · rw [List.perm_iff_count]
        intro k
        simp only [recordKeys, allRecords, hcallers, hchain, herase,
          flatMap_callers, CallerPc.recordHand, taken, reportTaken,
          List.filterMap_append, List.filterMap_cons, List.filterMap_nil,
          List.map_append, List.map_cons, List.map_nil, List.count_append,
          List.count_cons, List.count_nil, WorkCmdTaskInProg.key]
        omega
  | donePreserve task result hpc hdone =>
      have hrecords :
          recordKeys
            { s with
              worker := .waiting
              workInprogChain :=
                { s.workInprogChain with
                  elems := Slots.updateFirst (identifyByTaskID task.taskID)
                    (setResult task result) s.workInprogChain.elems }
              finished := s.finished ++ [(task.serial, result)] } =
            recordKeys s := by
        simp only [recordKeys, allRecords, List.map_append,
          map_key_updateFirst]
      refine ⟨rfl, rfl, ?_, ?_, ?_, [], ?_⟩
      · exact And.left (runWorkReturns_tasks hpc result rfl rfl rfl rfl)
      · rw [hrecords]
        exact List.Subset.refl _
      · exact And.right (runWorkReturns_tasks hpc result rfl rfl rfl rfl)
      · rw [hrecords, List.append_nil]
        exact List.Perm.refl _
  | doneMissing task result hpc hdone hfind =>
      refine ⟨rfl, rfl, ?_, List.Subset.refl _, ?_, [], ?_⟩
      · exact And.left (runWorkReturns_tasks hpc result rfl rfl rfl rfl)
      · exact And.right (runWorkReturns_tasks hpc result rfl rfl rfl rfl)
      · rw [List.append_nil]
        exact List.Perm.refl _
  | doneDelete task result record hpc hdone hfind =>
      obtain ⟨before, after, hchain, -, -, herase⟩ := Slots.split_find hfind
      rw [hchain] at herase
      refine ⟨rfl, rfl, ?_, ?_, ?_, [record.serial], ?_⟩
      · exact And.left (runWorkReturns_tasks hpc result rfl rfl rfl rfl)
      · intro p hp
        simp only [recordKeys, allRecords, hchain, herase, List.map_append,
          List.map_cons, List.mem_append, List.mem_cons] at hp ⊢
        tauto
      · exact And.right (runWorkReturns_tasks hpc result rfl rfl rfl rfl)
      · rw [List.perm_iff_count]
        intro k
        simp only [recordKeys, allRecords, hchain, herase, taken,
          List.map_append, List.map_cons, List.count_append, List.count_cons,
          List.count_nil, WorkCmdTaskInProg.key]
        omega

/-- One more serial number, given to an id, is still below the next one. -/
theorem update_serial_lt
    {latest : Int → Option Nat} {next : Nat}
    (hbound : ∀ i k, latest i = some k → k < next)
    (taskID : Int)
    {i : Int} {k : Nat}
    (hi : Function.update latest taskID (some next) i = some k) :
    k < next + 1 := by
  by_cases heq : i = taskID
  · rw [heq, Function.update_self, Option.some.injEq] at hi
    omega
  · rw [Function.update_of_ne heq] at hi
    have hlt := hbound i k hi
    omega

/-- A new serial number belongs to one id only. -/
theorem update_serial_inj
    {latest : Int → Option Nat} {next : Nat}
    (hbound : ∀ i k, latest i = some k → k < next)
    (hinj : ∀ i j k, latest i = some k → latest j = some k → i = j)
    (taskID : Int)
    {i j : Int} {k : Nat}
    (hi : Function.update latest taskID (some next) i = some k)
    (hj : Function.update latest taskID (some next) j = some k) :
    i = j := by
  by_cases hii : i = taskID <;> by_cases hjj : j = taskID
  · rw [hii, hjj]
  · rw [hii, Function.update_self, Option.some.injEq] at hi
    rw [Function.update_of_ne hjj] at hj
    have hlt := hbound j k hj
    omega
  · rw [hjj, Function.update_self, Option.some.injEq] at hj
    rw [Function.update_of_ne hii] at hi
    have hlt := hbound i k hi
    omega
  · rw [Function.update_of_ne hii] at hi
    rw [Function.update_of_ne hjj] at hj
    exact hinj i j k hi hj

/-- Fresh ids keep the meaning of the ids in use. -/
theorem latestInv_move
    {s t : WorkerState W} {l : WorkerLabel W}
    (hinv : LatestInv s)
    (hfresh : FreshTaskID s l)
    (hmove : WorkerMove s l t) :
    LatestInv t := by
  by_cases hpush : ∃ th c d a, l = .call th (.pushTask c d a)
  · obtain ⟨th, c, d, a, rfl⟩ := hpush
    cases hmove with
    | push pre post command pWorkData done hcallers =>
        obtain ⟨htasks, hrecords⟩ :=
          push_keys c d a hcallers rfl
        refine ⟨?_, ?_, ?_⟩
        · intro p hp
          have hmem :
              p = (nextTaskID s, s.nextSerial) ∨
                p ∈ taskKeys s ++ recordKeys s := by
            rw [List.mem_append, htasks.mem_iff, hrecords.mem_iff] at hp
            simp only [List.mem_cons, List.mem_append] at hp ⊢
            tauto
          rcases hmem with rfl | hmem
          · simp
          · have hne : p.1 ≠ nextTaskID s := by
              intro heq
              refine hfresh ?_
              rw [← heq]
              exact List.mem_map_of_mem hmem
            simpa [hne] using hinv.keys p hmem
        · exact fun i k => update_serial_lt hinv.bound _
        · exact fun i j k => update_serial_inj hinv.bound hinv.inj _
  · have hkept :=
      keysKept_move hmove fun th c d a hl => hpush ⟨th, c, d, a, hl⟩
    refine ⟨?_, ?_, ?_⟩
    · intro p hp
      rw [hkept.latest]
      refine hinv.keys p ?_
      rw [List.mem_append] at hp ⊢
      exact hp.imp (fun h => hkept.taskKeys h) fun h => hkept.recordKeys h
    · intro i k hk
      rw [hkept.latest] at hk
      rw [hkept.nextSerial]
      exact hinv.bound i k hk
    · intro i j k hi hj
      rw [hkept.latest] at hi hj
      exact hinv.inj i j k hi hj

/-- Serial numbers stay distinct. -/
theorem serialInv_move
    {s t : WorkerState W} {l : WorkerLabel W}
    (hinv : SerialInv s)
    (hmove : WorkerMove s l t) :
    SerialInv t := by
  by_cases hpush : ∃ th c d a, l = .call th (.pushTask c d a)
  · obtain ⟨th, c, d, a, rfl⟩ := hpush
    cases hmove with
    | push pre post command pWorkData done hcallers =>
        obtain ⟨htasks, hrecords⟩ :=
          push_keys c d a hcallers rfl
        have htasks' := (htasks.map Prod.snd).append_right
          (s.finished.map Prod.fst)
        have hrecords' := (hrecords.map Prod.snd).append_right (taken s)
        refine ⟨?_, ?_, ?_⟩
        · refine htasks'.nodup_iff.mpr ?_
          rw [List.map_cons, List.cons_append, List.nodup_cons]
          refine ⟨fun hmem => ?_, hinv.tasks⟩
          have hlt := hinv.bound s.nextSerial (List.mem_append_left _ hmem)
          omega
        · refine hrecords'.nodup_iff.mpr ?_
          rw [List.map_cons, List.cons_append, List.nodup_cons]
          refine ⟨fun hmem => ?_, hinv.records⟩
          have hlt := hinv.bound s.nextSerial (List.mem_append_right _ hmem)
          omega
        · intro k hk
          have hmem :
              k = s.nextSerial ∨
                k ∈ (taskKeys s).map Prod.snd ++ s.finished.map Prod.fst ++
                  ((recordKeys s).map Prod.snd ++ taken s) := by
            have hk' := (htasks'.append hrecords').subset hk
            simp only [List.map_cons, List.cons_append, List.mem_append,
              List.mem_cons] at hk' ⊢
            tauto
          simp only
          rcases hmem with rfl | hmem
          · omega
          · have hlt := hinv.bound k hmem
            omega
  · have hkept :=
      keysKept_move hmove fun th c d a hl => hpush ⟨th, c, d, a, hl⟩
    obtain ⟨gone, hrecords⟩ := hkept.records
    refine ⟨hkept.tasks.nodup_iff.mpr hinv.tasks, ?_, ?_⟩
    · exact (hrecords.nodup_iff.mpr hinv.records).of_append_left
    · intro k hk
      rw [hkept.nextSerial]
      refine hinv.bound k ?_
      rw [List.mem_append] at hk ⊢
      rcases hk with hk | hk
      · exact Or.inl (hkept.tasks.subset hk)
      · exact Or.inr (hrecords.subset (List.mem_append_left _ hk))

/-- Records, reports and deletions belong to the right tasks. -/
structure StatusInv (s : WorkerState W) : Prop where
  records : ∀ record ∈ allRecords s, RecordOk s.finished record
  removed :
    ∀ report ∈ s.reports, ∀ k, report.removed = some k →
      report.latest = some k ∧
      (report.taskSts = .inProg ∨
        report.doneBy = some k ∧ (k, report.taskSts) ∈ s.finished)
  deleted : ∀ d ∈ s.deleted, d.1 = d.2

/-- A record found under the id of a task is the record of that task. -/
theorem LatestInv.record_of_find
    {s : WorkerState W} {taskID : Int} {record : WorkCmdTaskInProg}
    (hinv : LatestInv s)
    (hfind :
      s.workInprogChain.elems.find? (identifyByTaskID taskID) =
        some record) :
    record ∈ allRecords s ∧ record.taskID = taskID ∧
      s.latest taskID = some record.serial := by
  have hmem : record ∈ allRecords s :=
    List.mem_append_right _ (List.mem_of_find?_eq_some hfind)
  have hid : record.taskID = taskID := by
    simpa [identifyByTaskID] using List.find?_some hfind
  refine ⟨hmem, hid, ?_⟩
  have hkey := hinv.keys record.key
    (List.mem_append_right _ (List.mem_map_of_mem hmem))
  simpa [WorkCmdTaskInProg.key, hid] using hkey

/-- The running task is the latest of its id. -/
theorem LatestInv.running
    {s : WorkerState W} {task : WorkCmdTask W}
    (hinv : LatestInv s)
    (hpc : s.worker = .running task) :
    s.latest task.taskID = some task.serial := by
  refine hinv.keys task.key (List.mem_append_left _ ?_)
  simp [taskKeys, hpc, WorkerPc.taskKeys]

/-- More finished tasks leave the records as they are. -/
theorem RecordOk.mono
    {finished : List (Nat × RpcSrvResult)} {record : WorkCmdTaskInProg}
    (hok : RecordOk finished record) (more : List (Nat × RpcSrvResult)) :
    RecordOk (finished ++ more) record := by
  rcases hok with hok | ⟨hdone, hmem⟩
  · exact Or.inl hok
  · exact Or.inr ⟨hdone, List.mem_append_left _ hmem⟩

/-- More finished tasks leave the reports as they are. -/
theorem StatusInv.removed_mono
    {s : WorkerState W} (hinv : StatusInv s)
    (more : List (Nat × RpcSrvResult)) :
    ∀ report ∈ s.reports, ∀ k, report.removed = some k →
      report.latest = some k ∧
      (report.taskSts = .inProg ∨
        report.doneBy = some k ∧
          (k, report.taskSts) ∈ s.finished ++ more) := by
  intro report hreport k hk
  obtain ⟨hlatest, hsts⟩ := hinv.removed report hreport k hk
  exact ⟨hlatest, hsts.imp id fun h => ⟨h.1, List.mem_append_left _ h.2⟩⟩

/-- The update by the worker keeps the records right. -/
theorem recordOk_updateFirst
    {s : WorkerState W} {task : WorkCmdTask W}
    (hlatest : LatestInv s)
    (hrecords : ∀ record ∈ allRecords s, RecordOk s.finished record)
    (hpc : s.worker = .running task) (result : RpcSrvResult) :
    ∀ record ∈
      Slots.updateFirst (identifyByTaskID task.taskID)
        (setResult task result) s.workInprogChain.elems,
      RecordOk (s.finished ++ [(task.serial, result)]) record := by
  have hold :
      ∀ record ∈ s.workInprogChain.elems,
        RecordOk (s.finished ++ [(task.serial, result)]) record :=
    fun record hrecord =>
      (hrecords record (List.mem_append_right _ hrecord)).mono _
  cases hfind :
      s.workInprogChain.elems.find? (identifyByTaskID task.taskID) with
  | none =>
      rw [Slots.updateFirst_of_forall _ (by simpa using hfind)]
      exact hold
  | some found =>
      obtain ⟨-, -, hserial⟩ := hlatest.record_of_find hfind
      rw [hlatest.running hpc, Option.some.injEq] at hserial
      obtain ⟨before, after, hchain, hfound, hbefore, -⟩ :=
        Slots.split_find hfind
      rw [hchain, Slots.updateFirst_split _ hfound hbefore]
      rw [hchain] at hold
      intro record hrecord
      simp only [List.mem_append, List.mem_cons] at hrecord hold
      rcases hrecord with hrecord | rfl | hrecord
      · exact hold record (Or.inl hrecord)
      · right
        simp [setResult, hserial]
      · exact hold record (Or.inr (Or.inr hrecord))

theorem statusInv_move
    {s t : WorkerState W} {l : WorkerLabel W}
    (hlatest : LatestInv s)
    (hinv : StatusInv s)
    (hmove : WorkerMove s l t) :
    StatusInv t := by
  obtain ⟨more, hmore⟩ := finished_extends hmove
  refine ⟨?_, ?_, ?_⟩
  · intro record hrecord
    rcases allRecords_move hmove hrecord with
      hold | ⟨command, rfl⟩ | ⟨task, result, hpc, hfinished, hupdated⟩
    · rw [hmore]
      exact (hinv.records record hold).mono _
    · left
      exact ⟨rfl, rfl⟩
    · rw [hfinished]
      exact recordOk_updateFirst hlatest hinv.records hpc result record
        hupdated
  · intro report hreport k hk
    rcases reports_move hmove hreport with
      hold | ⟨taskID, sts, phase, rfl⟩ | ⟨taskID, record, phase, hfind, rfl⟩
    · rw [hmore]
      exact hinv.removed_mono _ report hold k hk
    · simp [reportOnly] at hk
    · obtain ⟨hmem, hid, hserial⟩ := hlatest.record_of_find hfind
      simp only [reportTaken, Option.some.injEq] at hk
      subst hk
      refine ⟨hserial, ?_⟩
      rcases hinv.records record hmem with ⟨-, hsts⟩ | hdone
      · exact Or.inl hsts
      · rw [hmore]
        exact Or.inr ⟨hdone.1, List.mem_append_left _ hdone.2⟩
  · intro d hd
    rcases deleted_move hmove hd with hold | ⟨task, record, hpc, hfind, rfl⟩
    · exact hinv.deleted d hold
    · obtain ⟨hmem, hid, hserial⟩ := hlatest.record_of_find hfind
      rw [hlatest.running hpc, Option.some.injEq] at hserial
      exact hserial.symm

/-- Only one thread polls and resets. -/
def PolledBy (poller : Nat) : WorkerLabel W → Prop
  | .call thread (.getTaskStatus _) => thread = poller
  | .call thread .resetTaskIdAndChain => thread = poller
  | _ => True

/-- A poll that found a finished task will remove its record. -/
structure PollInv (poller : Nat) (s : WorkerState W) : Prop where
  owner :
    ∀ (i : Nat) taskID phase,
      s.callers[i]? = some (.pollTake taskID phase) → i = poller
  present :
    ∀ taskID phase, .pollTake taskID phase ∈ s.callers →
      ∃ record ∈ s.workInprogChain.elems,
        record.taskID = taskID ∧ record.doneBy ≠ none
  reports :
    ∀ report ∈ s.reports, report.removed = none →
      report.taskSts = .taskIdNotFound ∨ report.taskSts = .inProg

/-- While the poller does something else no poll is under way. -/
theorem PollInv.no_poll
    {poller : Nat} {s : WorkerState W} {pre post : List (CallerPc W)}
    {pc : CallerPc W}
    (hinv : PollInv poller s)
    (hcallers : s.callers = pre ++ pc :: post)
    (hlen : pre.length = poller)
    {taskID : Int} {phase : TaskPhase}
    (hmem : .pollTake taskID phase ∈ s.callers) :
    pc = .pollTake taskID phase := by
  obtain ⟨i, hi⟩ := List.mem_iff_getElem?.mp hmem
  have howner := hinv.owner i taskID phase hi
  rw [howner, ← hlen, hcallers, Slots.getElem?_between,
    Option.some.injEq] at hi
  exact hi

/-- Ownership when a thread goes on to something that is no poll. -/
theorem PollInv.owner_exchange
    {poller : Nat} {s : WorkerState W} {pre post : List (CallerPc W)}
    {pc pc' : CallerPc W}
    (hinv : PollInv poller s)
    (hcallers : s.callers = pre ++ pc :: post)
    (hpc : ∀ taskID phase, pc' = .pollTake taskID phase →
      pre.length = poller) :
    ∀ (i : Nat) taskID phase,
      (pre ++ pc' :: post)[i]? = some (.pollTake taskID phase) →
        i = poller := by
  intro i taskID phase hi
  by_cases hpre : i = pre.length
  · rw [hpre, Slots.getElem?_between, Option.some.injEq] at hi
    rw [hpre]
    exact hpc taskID phase hi
  · rw [Slots.getElem?_exchange (a := pc) hpre, ← hcallers] at hi
    exact hinv.owner i taskID phase hi

/-- The running task has not finished. -/
theorem SerialInv.running_not_finished
    {s : WorkerState W} {task : WorkCmdTask W}
    (hinv : SerialInv s)
    (hpc : s.worker = .running task) :
    task.serial ∉ s.finished.map Prod.fst := by
  have hrun : task.serial ∈ (taskKeys s).map Prod.snd := by
    simp [taskKeys, hpc, WorkerPc.taskKeys, WorkCmdTask.key]
  exact fun hfin => (List.nodup_append.mp hinv.tasks).2.2 _ hrun _ hfin rfl

/-- A record that is done belongs to no task that is still to be run. -/
theorem done_not_running
    {s : WorkerState W} {task : WorkCmdTask W} {record : WorkCmdTaskInProg}
    (hserial : SerialInv s)
    (hok : RecordOk s.finished record)
    (hdone : record.doneBy ≠ none)
    (hpc : s.worker = .running task) :
    record.serial ≠ task.serial := by
  intro heq
  rcases hok with ⟨hnone, -⟩ | ⟨-, hmem⟩
  · exact hdone hnone
  · refine hserial.running_not_finished hpc ?_
    rw [← heq]
    exact List.mem_map_of_mem hmem

/-- Presence when a thread goes on to something that is no poll. -/
theorem PollInv.present_exchange
    {poller : Nat} {s : WorkerState W} {pre post : List (CallerPc W)}
    {pc pc' : CallerPc W}
    (hinv : PollInv poller s)
    (hcallers : s.callers = pre ++ pc :: post)
    (hpc : ∀ taskID phase, pc' ≠ .pollTake taskID phase) :
    ∀ taskID phase, .pollTake taskID phase ∈ pre ++ pc' :: post →
      ∃ record ∈ s.workInprogChain.elems,
        record.taskID = taskID ∧ record.doneBy ≠ none := by
  intro taskID phase hmem
  refine hinv.present taskID phase ?_
  rw [hcallers]
  simp only [List.mem_append, List.mem_cons] at hmem ⊢
  rcases hmem with hmem | hmem | hmem
  · exact Or.inl hmem
  · exact absurd hmem.symm (hpc taskID phase)
  · exact Or.inr (Or.inr hmem)

/-- The reports so far and one more. -/
theorem PollInv.reports_snoc
    {poller : Nat} {s : WorkerState W} {report : Report}
    (hinv : PollInv poller s)
    (hreport : report.removed = none →
      report.taskSts = .taskIdNotFound ∨ report.taskSts = .inProg) :
    ∀ report' ∈ s.reports ++ [report], report'.removed = none →
      report'.taskSts = .taskIdNotFound ∨ report'.taskSts = .inProg := by
  intro report' hmem hnone
  rw [List.mem_append, List.mem_singleton] at hmem
  rcases hmem with hmem | rfl
  · exact hinv.reports report' hmem hnone
  · exact hreport hnone

/-- A result that is filled in leaves the records that are done where they are. -/
theorem PollInv.present_setResult
    {poller : Nat} {s : WorkerState W} (hinv : PollInv poller s)
    (task : WorkCmdTask W) (result : RpcSrvResult) :
    ∀ taskID phase, .pollTake taskID phase ∈ s.callers →
      ∃ record ∈ Slots.updateFirst (identifyByTaskID task.taskID)
          (setResult task result) s.workInprogChain.elems,
        record.taskID = taskID ∧ record.doneBy ≠ none := by
  intro taskID phase hpoll
  obtain ⟨record, hrecord, hid, hby⟩ := hinv.present taskID phase hpoll
  cases hfind :
      s.workInprogChain.elems.find? (identifyByTaskID task.taskID) with
  | none =>
      rw [Slots.updateFirst_of_forall _ (by simpa using hfind)]
      exact ⟨record, hrecord, hid, hby⟩
  | some found =>
      obtain ⟨before, after, hchain, hfound, hbefore, -⟩ :=
        Slots.split_find hfind
      rw [hchain, Slots.updateFirst_split _ hfound hbefore]
      rw [hchain] at hrecord
      simp only [List.mem_append, List.mem_cons] at hrecord
      rcases hrecord with hrecord | rfl | hrecord
      · exact ⟨record, by simp [hrecord], hid, hby⟩
      · exact ⟨setResult task result record, by simp, hid,
          by simp [setResult]⟩
      · exact ⟨record, by simp [hrecord], hid, hby⟩

theorem pollInv_move
    {poller : Nat} {s t : WorkerState W} {l : WorkerLabel W}
    (hlatest : LatestInv s)
    (hserial : SerialInv s)
    (hstatus : StatusInv s)
    (hinv : PollInv poller s)
    (hpolled : PolledBy poller l)
    (hmove : WorkerMove s l t) :
    PollInv poller t := by
  cases hmove with
  | push pre post command pWorkData done hcallers =>
      exact ⟨hinv.owner_exchange hcallers (by simp),
        hinv.present_exchange hcallers (by simp), hinv.reports⟩
  | putWork pre post task record hcallers =>
      exact ⟨hinv.owner_exchange hcallers (by simp),
        hinv.present_exchange hcallers (by simp), hinv.reports⟩
  | wake pre post serial hcallers =>
      exact ⟨hinv.owner_exchange hcallers (by simp),
        hinv.present_exchange hcallers (by simp), hinv.reports⟩
  | putRecord pre post record hcallers =>
      refine ⟨hinv.owner_exchange hcallers (by simp), ?_, hinv.reports⟩
      intro taskID phase hmem
      obtain ⟨found, hfound, hid⟩ :=
        hinv.present_exchange hcallers (by simp) taskID phase hmem
      exact ⟨found, by simp [hfound], hid⟩
  | pollMissing pre post taskID hcallers hfind =>
      exact ⟨hinv.owner, hinv.present, hinv.reports_snoc fun _ => Or.inl rfl⟩
  | pollBusy pre post taskID record hcallers hfind hsts =>
      exact ⟨hinv.owner, hinv.present, hinv.reports_snoc fun _ => Or.inr rfl⟩
  | pollFound pre post taskID record hcallers hfind hsts =>
      obtain ⟨hmem, hid, -⟩ := hlatest.record_of_find hfind
      refine ⟨hinv.owner_exchange hcallers fun _ _ _ => hpolled, ?_,
        hinv.reports⟩
      intro taskID' phase' hpoll
      simp only [List.mem_append, List.mem_cons] at hpoll
      by_cases heq : taskID' = taskID
      · subst heq
        refine ⟨record, List.mem_of_find?_eq_some hfind, hid, ?_⟩
        rcases hstatus.records record hmem with ⟨-, hprog⟩ | ⟨hdone, -⟩
        · exact absurd hprog hsts
        · rw [hdone]
          simp
      · refine hinv.present taskID' phase' ?_
        rw [hcallers]
        simp only [List.mem_append, List.mem_cons]
        rcases hpoll with hpoll | hpoll | hpoll
        · exact Or.inl hpoll
        · simp only [CallerPc.pollTake.injEq] at hpoll
          exact absurd hpoll.1 heq
        · exact Or.inr (Or.inr hpoll)
  | reset pre post hcallers =>
      refine ⟨hinv.owner, ?_, hinv.reports⟩
      intro taskID phase hmem
      exact absurd (hinv.no_poll hcallers hpolled hmem) (by simp)
  | takeMissing pre post taskID phase hcallers hfind =>
      have hmem : CallerPc.pollTake taskID phase ∈ s.callers := by
        rw [hcallers]
        simp
      obtain ⟨record, hrecord, hid, -⟩ := hinv.present taskID phase hmem
      have hnone := List.find?_eq_none.mp hfind record hrecord
      simp [identifyByTaskID, hid] at hnone
  | takeRecord pre post taskID phase record hcallers hfind =>
      have hlen : pre.length = poller :=
        hinv.owner pre.length taskID phase
          (by rw [hcallers, Slots.getElem?_between])
      refine ⟨hinv.owner_exchange hcallers (by simp), ?_,
        hinv.reports_snoc (by simp [reportTaken])⟩
      intro taskID' phase' hpoll
      obtain ⟨i, hi⟩ := List.mem_iff_getElem?.mp hpoll
      have howner :=
        hinv.owner_exchange hcallers (by simp) i taskID' phase' hi
      rw [howner, ← hlen, Slots.getElem?_between] at hi
      simp at hi
  | workerStart _ _ | workerNothing _ _ | workerTake _ _ _ _
  | doneMissing _ _ _ _ _ =>
      exact ⟨hinv.owner, hinv.present, hinv.reports⟩
  | donePreserve task result hpc hdone =>
      exact ⟨hinv.owner, hinv.present_setResult task result, hinv.reports⟩
  | doneDelete task result found hpc hdone hfind =>
      refine ⟨hinv.owner, ?_, hinv.reports⟩
      intro taskID phase hpoll
      obtain ⟨record, hrecord, hid, hby⟩ := hinv.present taskID phase hpoll
      obtain ⟨-, -, hserial'⟩ := hlatest.record_of_find hfind
      rw [hlatest.running hpc, Option.some.injEq] at hserial'
      have hne : record ≠ found := by
        intro heq
        have hok :=
          hstatus.records record (List.mem_append_right _ hrecord)
        exact done_not_running hserial hok hby hpc
          (by rw [heq]; exact hserial'.symm)
      obtain ⟨before, after, hchain, -, -, herase⟩ := Slots.split_find hfind
      rw [hchain, List.mem_append, List.mem_cons] at hrecord
      refine ⟨record, ?_, hid, hby⟩
      simp only [herase, List.mem_append]
      rcases hrecord with hrecord | hrecord | hrecord
      · exact Or.inl hrecord
      · exact absurd hrecord hne
      · exact Or.inr hrecord

/-- The invariants of fresh ids. -/
structure FreshInv (s : WorkerState W) : Prop where
  latest : LatestInv s
  serial : SerialInv s
  status : StatusInv s

theorem freshInv_start (n : Nat) :
    FreshInv (startWorker n : WorkerState W) := by
  have htasks : taskKeys (startWorker n : WorkerState W) = [] := by
    simp [taskKeys, startWorker, WorkerPc.taskKeys, CallerPc.taskKeys]
  have hrecords : allRecords (startWorker n : WorkerState W) = [] := by
    simp [allRecords, startWorker, CallerPc.recordHand]
  have hfinished : (startWorker n : WorkerState W).finished = [] := rfl
  have htaken : taken (startWorker n : WorkerState W) = [] := rfl
  refine ⟨⟨?_, ?_, ?_⟩, ⟨?_, ?_, ?_⟩, ⟨?_, ?_, ?_⟩⟩
  · simp [htasks, recordKeys, hrecords]
  · intro i k hk
    simp [startWorker] at hk
  · intro i j k hk
    simp [startWorker] at hk
  · simp [htasks, hfinished]
  · simp [recordKeys, hrecords, htaken]
  · simp [htasks, hfinished, recordKeys, hrecords, htaken]
  · simp [hrecords]
  · simp [startWorker]
  · simp [startWorker]

theorem freshInv_move
    {s t : WorkerState W} {l : WorkerLabel W}
    (hinv : FreshInv s)
    (hfresh : FreshTaskID s l)
    (hmove : WorkerMove s l t) :
    FreshInv t where
  latest := latestInv_move hinv.latest hfresh hmove
  serial := serialInv_move hinv.serial hmove
  status := statusInv_move hinv.latest hinv.status hmove

theorem pollInv_start (poller n : Nat) :
    PollInv poller (startWorker n : WorkerState W) := by
  refine ⟨?_, ?_, ?_⟩
  · intro i taskID phase hi
    have hmem := List.mem_of_getElem? hi
    simp [startWorker] at hmem
  · intro taskID phase hmem
    simp [startWorker] at hmem
  · simp [startWorker]

end Adav
end BrBox
