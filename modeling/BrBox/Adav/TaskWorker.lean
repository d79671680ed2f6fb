import BrBox.Lib.LabelledRun
import BrBox.Lib.Slots
import BrBox.Adav.GenericChain
import Mathlib.Logic.Function.Basic

/-!
# The task worker

`ADTaskWorker` runs long commands in a thread of its own.  `push_task` puts a
work item on `work_chain` and an in-progress record on `work_inprog_chain`,
both under one task id, and wakes the worker; `get_task_status` looks the
record up and removes it once its result is known.

A step of the model is one operation on a chain or on the semaphore.  The
return of `run_work` and the following update of the record are one step, since
the worker touches nothing shared in between.

Every call of `push_task` has a ghost serial number, which its work item and
its record carry.  The ghost fields remember which push got an id last, which
tasks have been run with which result and what each poll has reported.
-/

namespace BrBox
namespace Adav

open LabelledRun

universe u

/-- `RPC_SRV_RESULT`. -/
inductive RpcSrvResult where
  | success
  | fail
  | inProg
  | busy
  | notStarted
  | timeout
  | argError
  | memError
  | busError
  | actionNotAllowed
  | devNotAccessible
  | fileNotFound
  | featureNotAvailable
  | featureUnsupported
  | taskIdNotFound
  | valueOutOfRange
  | fileOpenErr
  | fileReadErr
  | fileWriteErr
  | fileSame
  | fileDifferent
  | hostNotReachableErr
  | resend
  | csExposureErr
  | csI2cErr
  | itemNotFound
  | fileError
  | devinfoError
  | fileEmpty
  | itemDuplicateFound
  | unknownCommand
  | devnodeAccerr
  | devnodeOpenerr
  | offlineNode
  | unknown
  | none
deriving DecidableEq, Repr

/-- `WORK_CMD_AFTER_DONE`. -/
inductive WorkCmdAfterDone where
  | preserve
  | delete
  | unknown
  | none
deriving DecidableEq, Repr

/-- `ADLIB_ASYNC_RESP_TYPE`. -/
inductive AsyncRespType where
  | poll
  | trigger
  | event
  | unknown
  | none
deriving DecidableEq, Repr

/-- `WORK_CMD_TASK`, with its ghost serial number. -/
structure WorkCmdTask (W : Type u) where
  taskID : Int
  percentComplete : Int
  command : Int
  taskSts : RpcSrvResult
  doneAction : WorkCmdAfterDone
  respType : AsyncRespType
  pWorkData : W
  serial : Nat

/--
`WORK_CMD_TASK_IN_PROG`, with its ghost serial number and the serial number of
the task whose result it holds.
-/
structure WorkCmdTaskInProg where
  taskID : Int
  percentComplete : Int
  command : Int
  taskSts : RpcSrvResult
  serial : Nat
  doneBy : Option Nat
deriving DecidableEq, Repr

/-- How far the latest task of an id had come when a poll looked it up. -/
inductive TaskPhase where
  /-- The id was never handed out. -/
  | unknown
  /-- The task has not been run, or its push has not returned. -/
  | opened
  /-- The task has been run and its push has returned. -/
  | finished (result : RpcSrvResult)
  /-- A poll has returned the result. -/
  | returned
deriving DecidableEq, Repr

/-- The outcome of one `get_task_status`. -/
structure Report where
  taskID : Int
  taskSts : RpcSrvResult
  phase : TaskPhase
  latest : Option Nat
  removed : Option Nat
  doneBy : Option Nat
deriving DecidableEq, Repr

/-- Where a calling thread is. -/
inductive CallerPc (W : Type u) where
  | idle
  /-- In `push_task`, the id is generated and both objects are filled in. -/
  | pushWork (task : WorkCmdTask W) (record : WorkCmdTaskInProg)
  /-- In `push_task`, the work item is on its chain. -/
  | pushRecord (record : WorkCmdTaskInProg)
  /-- In `push_task`, both objects are on their chains. -/
  | pushWake (serial : Nat)
  /-- In `get_task_status`, a finished task was found. -/
  | pollTake (taskID : Int) (phase : TaskPhase)

/-- Where the worker thread is. -/
inductive WorkerPc (W : Type u) where
  | waiting
  | awake
  | running (task : WorkCmdTask W)

/-- The task worker with its callers. -/
structure WorkerState (W : Type u) where
  callers : List (CallerPc W)
  workChain : GenericChain (WorkCmdTask W)
  workInprogChain : GenericChain WorkCmdTaskInProg
  sema : Nat
  worker : WorkerPc W
  nextSerial : Nat
  latest : Int → Option Nat
  finished : List (Nat × RpcSrvResult)
  deleted : List (Nat × Nat)
  reports : List Report

/-- A new worker with `n` threads that may call it. -/
def startWorker {W : Type u} (n : Nat) : WorkerState W where
  callers := List.replicate n .idle
  workChain := GenericChain.new
  workInprogChain := GenericChain.new
  sema := 0
  worker := .waiting
  nextSerial := 0
  latest := fun _ => none
  finished := []
  deleted := []
  reports := []

/-- The public functions of the task worker. -/
inductive WorkerCall (W : Type u) where
  | pushTask (command : Int) (pWorkData : W) (done : WorkCmdAfterDone)
  | getTaskStatus (taskID : Int)
  | resetTaskIdAndChain

/-- A step of a caller or of the worker. -/
inductive WorkerLabel (W : Type u) where
  /-- The thread begins a call. -/
  | call (thread : Nat) (c : WorkerCall W)
  /-- The thread goes on with its call. -/
  | goOn (thread : Nat)
  /-- The worker thread goes on. -/
  | worker
  /-- `run_work` returns. -/
  | runWorkReturns (result : RpcSrvResult)

section Steps

variable {W : Type u}

/-- `identify_chain_element` for in-progress records. -/
def identifyByTaskID (taskID : Int) (record : WorkCmdTaskInProg) : Bool :=
  decide (record.taskID = taskID)

/-- The id that the next `push_task` hands out. -/
def nextTaskID (s : WorkerState W) : Int :=
  s.workInprogChain.chainGenerateIdent.1

/-- The work item of the next `push_task`. -/
def newWorkObj
    (s : WorkerState W)
    (command : Int) (pWorkData : W) (done : WorkCmdAfterDone) :
    WorkCmdTask W where
  taskID := nextTaskID s
  percentComplete := 0
  command := command
  taskSts := .inProg
  doneAction := done
  respType := .poll
  pWorkData := pWorkData
  serial := s.nextSerial

/-- The in-progress record of the next `push_task`. -/
def newInprogObj
    (s : WorkerState W) (command : Int) : WorkCmdTaskInProg where
  taskID := nextTaskID s
  percentComplete := 0
  command := command
  taskSts := .inProg
  serial := s.nextSerial
  doneBy := none

/-- The push that a thread is busy with. -/
def CallerPc.pushing : CallerPc W → Option Nat
  | .idle => none
  | .pushWork task _ => some task.serial
  | .pushRecord record => some record.serial
  | .pushWake serial => some serial
  | .pollTake _ _ => none

/-- The tasks whose result a poll has returned. -/
def taken (s : WorkerState W) : List Nat :=
  s.reports.filterMap Report.removed

/-- The phase of the task to which the id was given last. -/
def phaseOf (s : WorkerState W) (taskID : Int) : TaskPhase :=
  match s.latest taskID with
  | none => .unknown
  | some k =>
      if k ∈ taken s then
        .returned
      else
        match s.finished.lookup k with
        | none => .opened
        | some result =>
            if s.callers.any fun pc => pc.pushing = some k then
              .opened
            else
              .finished result

/-- A report of a poll that removed nothing. -/
def reportOnly
    (s : WorkerState W) (taskID : Int) (sts : RpcSrvResult)
    (phase : TaskPhase) : Report where
  taskID := taskID
  taskSts := sts
  phase := phase
  latest := s.latest taskID
  removed := none
  doneBy := none

/-- The report of a poll that removed a record. -/
def reportTaken
    (s : WorkerState W) (taskID : Int) (record : WorkCmdTaskInProg)
    (phase : TaskPhase) : Report where
  taskID := taskID
  taskSts := record.taskSts
  phase := phase
  latest := s.latest taskID
  removed := some record.serial
  doneBy := record.doneBy

/-- The first operation of a call. -/
def callStep (s : WorkerState W) (thread : Nat) :
    WorkerCall W → Option (WorkerState W)
  | .pushTask command pWorkData done =>
      match s.callers[thread]? with
      | some .idle =>
          some
            { s with
              callers := s.callers.set thread
                (.pushWork (newWorkObj s command pWorkData done)
                  (newInprogObj s command))
              workInprogChain := s.workInprogChain.chainGenerateIdent.2
              nextSerial := s.nextSerial + 1
              latest :=
                Function.update s.latest (nextTaskID s) (some s.nextSerial) }
      | _ => none
  | .getTaskStatus taskID =>
      match s.callers[thread]? with
      | some .idle =>
          match s.workInprogChain.chainGetByIdent (identifyByTaskID taskID) with
          | none =>
              some
                { s with
                  reports := s.reports ++
                    [reportOnly s taskID .taskIdNotFound (phaseOf s taskID)] }
          | some record =>
              if record.taskSts = .inProg then
                some
                  { s with
                    reports := s.reports ++
                      [reportOnly s taskID .inProg (phaseOf s taskID)] }
              else
                some
                  { s with
                    callers := s.callers.set thread
                      (.pollTake taskID (phaseOf s taskID)) }
      | _ => none
  | .resetTaskIdAndChain =>
      match s.callers[thread]? with
      | some .idle =>
          some { s with workInprogChain := s.workInprogChain.chainEmpty }
      | _ => none

/-- The next operation of a call. -/
def goOnStep (s : WorkerState W) (thread : Nat) : Option (WorkerState W) :=
  match s.callers[thread]? with
  | some (.pushWork task record) =>
      some
        { s with
          callers := s.callers.set thread (.pushRecord record)
          workChain := s.workChain.chainPut task }
  | some (.pushRecord record) =>
      some
        { s with
          callers := s.callers.set thread (.pushWake record.serial)
          workInprogChain := s.workInprogChain.chainPut record }
  | some (.pushWake _) =>
      some
        { s with
          callers := s.callers.set thread .idle
          sema := s.sema + 1 }
  | some (.pollTake taskID phase) =>
      match s.workInprogChain.chainRemoveByIdent
          (identifyByTaskID taskID) with
      | (none, _) =>
          some
            { s with
              callers := s.callers.set thread .idle
              reports := s.reports ++ [reportOnly s taskID .memError phase] }
      | (some record, chain) =>
          some
            { s with
              callers := s.callers.set thread .idle
              workInprogChain := chain
              reports := s.reports ++ [reportTaken s taskID record phase] }
  | _ => none

/-- The worker thread up to the call of `run_work`. -/
def workerThreadStep (s : WorkerState W) : Option (WorkerState W) :=
  match s.worker with
  | .waiting =>
      if 0 < s.sema then
        some { s with sema := s.sema - 1, worker := .awake }
      else
        none
  | .awake =>
      match s.workChain.chainGet with
      | (none, _) => some { s with worker := .waiting }
      | (some task, chain) =>
          some { s with workChain := chain, worker := .running task }
  | .running _ => none

/-- What is done with the record of a finished task. -/
def afterDone (task : WorkCmdTask W) : WorkCmdAfterDone :=
  if task.respType = .trigger then .delete else task.doneAction

/-- The update of the record of a finished task. -/
def setResult
    (task : WorkCmdTask W) (result : RpcSrvResult)
    (record : WorkCmdTaskInProg) : WorkCmdTaskInProg :=
  { record with
    taskSts := result
    percentComplete := 100
    doneBy := some task.serial }

/-- The worker thread from the return of `run_work` on. -/
def runWorkReturnsStep
    (s : WorkerState W) (result : RpcSrvResult) : Option (WorkerState W) :=
  match s.worker with
  | .running task =>
      if afterDone task = .preserve then
        some
          { s with
            worker := .waiting
            workInprogChain :=
              { s.workInprogChain with
                elems := Slots.updateFirst (identifyByTaskID task.taskID)
                  (setResult task result) s.workInprogChain.elems }
            finished := s.finished ++ [(task.serial, result)] }
      else
        match s.workInprogChain.chainRemoveByIdent
            (identifyByTaskID task.taskID) with
        | (none, _) =>
            some
              { s with
                worker := .waiting
                finished := s.finished ++ [(task.serial, result)] }
        | (some record, chain) =>
            some
              { s with
                worker := .waiting
                workInprogChain := chain
                finished := s.finished ++ [(task.serial, result)]
                deleted := s.deleted ++ [(record.serial, task.serial)] }
  | _ => none

/-- One step of the task worker. -/
def workerStep (s : WorkerState W) : WorkerLabel W → Option (WorkerState W)
  | .call thread c => callStep s thread c
  | .goOn thread => goOnStep s thread
  | .worker => workerThreadStep s
  | .runWorkReturns result => runWorkReturnsStep s result

/-- Everything that one step can do; the acting thread splits the callers. -/
inductive WorkerMove (s : WorkerState W) :
    WorkerLabel W → WorkerState W → Prop
  | push
      (pre post : List (CallerPc W))
      (command : Int) (pWorkData : W) (done : WorkCmdAfterDone)
      (hcallers : s.callers = pre ++ .idle :: post) :
      WorkerMove s (.call pre.length (.pushTask command pWorkData done))
        { s with
          callers := pre ++
            .pushWork (newWorkObj s command pWorkData done)
              (newInprogObj s command) :: post
          workInprogChain := s.workInprogChain.chainGenerateIdent.2
          nextSerial := s.nextSerial + 1
          latest :=
            Function.update s.latest (nextTaskID s) (some s.nextSerial) }
  | pollMissing
      (pre post : List (CallerPc W)) (taskID : Int)
      (hcallers : s.callers = pre ++ .idle :: post)
      (hfind :
        s.workInprogChain.elems.find? (identifyByTaskID taskID) = none) :
      WorkerMove s (.call pre.length (.getTaskStatus taskID))
        { s with
          reports := s.reports ++
            [reportOnly s taskID .taskIdNotFound (phaseOf s taskID)] }
  | pollBusy
      (pre post : List (CallerPc W)) (taskID : Int)
      (record : WorkCmdTaskInProg)
      (hcallers : s.callers = pre ++ .idle :: post)
      (hfind :
        s.workInprogChain.elems.find? (identifyByTaskID taskID) =
          some record)
      (hsts : record.taskSts = .inProg) :
      WorkerMove s (.call pre.length (.getTaskStatus taskID))
        { s with
          reports := s.reports ++
            [reportOnly s taskID .inProg (phaseOf s taskID)] }
  | pollFound
      (pre post : List (CallerPc W)) (taskID : Int)
      (record : WorkCmdTaskInProg)
      (hcallers : s.callers = pre ++ .idle :: post)
      (hfind :
        s.workInprogChain.elems.find? (identifyByTaskID taskID) =
          some record)
      (hsts : record.taskSts ≠ .inProg) :
      WorkerMove s (.call pre.length (.getTaskStatus taskID))
        { s with
          callers := pre ++ .pollTake taskID (phaseOf s taskID) :: post }
  | reset
      (pre post : List (CallerPc W))
      (hcallers : s.callers = pre ++ .idle :: post) :
      WorkerMove s (.call pre.length .resetTaskIdAndChain)
        { s with workInprogChain := s.workInprogChain.chainEmpty }
  | putWork
      (pre post : List (CallerPc W))
      (task : WorkCmdTask W) (record : WorkCmdTaskInProg)
      (hcallers : s.callers = pre ++ .pushWork task record :: post) :
      WorkerMove s (.goOn pre.length)
        { s with
          callers := pre ++ .pushRecord record :: post
          workChain := s.workChain.chainPut task }
  | putRecord
      (pre post : List (CallerPc W)) (record : WorkCmdTaskInProg)
      (hcallers : s.callers = pre ++ .pushRecord record :: post) :
      WorkerMove s (.goOn pre.length)
        { s with
          callers := pre ++ .pushWake record.serial :: post
          workInprogChain := s.workInprogChain.chainPut record }
  | wake
      (pre post : List (CallerPc W)) (serial : Nat)
      (hcallers : s.callers = pre ++ .pushWake serial :: post) :
      WorkerMove s (.goOn pre.length)
        { s with callers := pre ++ .idle :: post, sema := s.sema + 1 }
  | takeMissing
      (pre post : List (CallerPc W)) (taskID : Int) (phase : TaskPhase)
      (hcallers : s.callers = pre ++ .pollTake taskID phase :: post)
      (hfind :
        s.workInprogChain.elems.find? (identifyByTaskID taskID) = none) :
      WorkerMove s (.goOn pre.length)
        { s with
          callers := pre ++ .idle :: post
          reports := s.reports ++ [reportOnly s taskID .memError phase] }
  | takeRecord
      (pre post : List (CallerPc W)) (taskID : Int) (phase : TaskPhase)
      (record : WorkCmdTaskInProg)
      (hcallers : s.callers = pre ++ .pollTake taskID phase :: post)
      (hfind :
        s.workInprogChain.elems.find? (identifyByTaskID taskID) =
          some record) :
      WorkerMove s (.goOn pre.length)
        { s with
          callers := pre ++ .idle :: post
          workInprogChain :=
            { s.workInprogChain with
              elems := s.workInprogChain.elems.eraseP
                (identifyByTaskID taskID) }
          reports := s.reports ++ [reportTaken s taskID record phase] }
  | workerStart
      (hpc : s.worker = .waiting)
      (hsema : 0 < s.sema) :
      WorkerMove s .worker { s with sema := s.sema - 1, worker := .awake }
  | workerNothing
      (hpc : s.worker = .awake)
      (hchain : s.workChain.elems = []) :
      WorkerMove s .worker { s with worker := .waiting }
  | workerTake
      (task : WorkCmdTask W) (rest : List (WorkCmdTask W))
      (hpc : s.worker = .awake)
      (hchain : s.workChain.elems = task :: rest) :
      WorkerMove s .worker
        { s with
          workChain := { s.workChain with elems := rest }
          worker := .running task }
  | donePreserve
      (task : WorkCmdTask W) (result : RpcSrvResult)
      (hpc : s.worker = .running task)
      (hdone : afterDone task = .preserve) :
      WorkerMove s (.runWorkReturns result)
        { s with
          worker := .waiting
          workInprogChain :=
            { s.workInprogChain with
              elems := Slots.updateFirst (identifyByTaskID task.taskID)
                (setResult task result) s.workInprogChain.elems }
          finished := s.finished ++ [(task.serial, result)] }
  | doneMissing
      (task : WorkCmdTask W) (result : RpcSrvResult)
      (hpc : s.worker = .running task)
      (hdone : afterDone task ≠ .preserve)
      (hfind :
        s.workInprogChain.elems.find? (identifyByTaskID task.taskID) =
          none) :
      WorkerMove s (.runWorkReturns result)
        { s with
          worker := .waiting
          finished := s.finished ++ [(task.serial, result)] }
  | doneDelete
      (task : WorkCmdTask W) (result : RpcSrvResult)
      (record : WorkCmdTaskInProg)
      (hpc : s.worker = .running task)
      (hdone : afterDone task ≠ .preserve)
      (hfind :
        s.workInprogChain.elems.find? (identifyByTaskID task.taskID) =
          some record) :
      WorkerMove s (.runWorkReturns result)
        { s with
          worker := .waiting
          workInprogChain :=
            { s.workInprogChain with
              elems := s.workInprogChain.elems.eraseP
                (identifyByTaskID task.taskID) }
          finished := s.finished ++ [(task.serial, result)]
          deleted := s.deleted ++ [(record.serial, task.serial)] }

/-- The first operation of a call is a move. -/
theorem callStep_move
    {s t : WorkerState W} {thread : Nat} {c : WorkerCall W}
    (hstep : callStep s thread c = some t) :
    WorkerMove s (.call thread c) t := by
  cases c with
  | pushTask command pWorkData done =>
      simp only [callStep] at hstep
      split at hstep
      · rename_i hget
        obtain ⟨pre, post, hcallers, rfl, hset⟩ := Slots.split_at hget
        rw [hset] at hstep
        cases hstep
        exact .push pre post command pWorkData done hcallers
      · cases hstep
  | getTaskStatus taskID =>
      simp only [callStep, GenericChain.chainGetByIdent] at hstep
      split at hstep
      · rename_i hget
        obtain ⟨pre, post, hcallers, rfl, hset⟩ := Slots.split_at hget
        split at hstep
        · rename_i hfind
          cases hstep
          exact .pollMissing pre post taskID hcallers hfind
        · rename_i record hfind
          split at hstep
          · rename_i hsts
            cases hstep
            exact .pollBusy pre post taskID record hcallers hfind hsts
          · rename_i hsts
            rw [hset] at hstep
            cases hstep
            exact .pollFound pre post taskID record hcallers hfind hsts
      · cases hstep
  | resetTaskIdAndChain =>
      simp only [callStep] at hstep
      split at hstep
      · rename_i hget
        obtain ⟨pre, post, hcallers, rfl, -⟩ := Slots.split_at hget
        cases hstep
        exact .reset pre post hcallers
      · cases hstep

/-- The next operation of a call is a move. -/
theorem goOnStep_move
    {s t : WorkerState W} {thread : Nat}
    (hstep : goOnStep s thread = some t) :
    WorkerMove s (.goOn thread) t := by
  simp only [goOnStep] at hstep
  split at hstep
  · rename_i task record hget
    obtain ⟨pre, post, hcallers, rfl, hset⟩ := Slots.split_at hget
    rw [hset] at hstep
    cases hstep
    exact .putWork pre post task record hcallers
  · rename_i record hget
    obtain ⟨pre, post, hcallers, rfl, hset⟩ := Slots.split_at hget
    rw [hset] at hstep
    cases hstep
    exact .putRecord pre post record hcallers
  · rename_i serial hget
    obtain ⟨pre, post, hcallers, rfl, hset⟩ := Slots.split_at hget
    rw [hset] at hstep
    cases hstep
    exact .wake pre post serial hcallers
  · rename_i taskID phase hget
    obtain ⟨pre, post, hcallers, rfl, hset⟩ := Slots.split_at hget
    simp only [GenericChain.chainRemoveByIdent, hset] at hstep
    split at hstep
    · rename_i hremove
      obtain ⟨hfind, -⟩ := Prod.mk.inj hremove
      cases hstep
      exact .takeMissing pre post taskID phase hcallers hfind
    · rename_i record chain hremove
      obtain ⟨hfind, rfl⟩ := Prod.mk.inj hremove
      cases hstep
      exact .takeRecord pre post taskID phase record hcallers hfind
  · cases hstep

/-- The worker's way to `run_work` is a move. -/
theorem workerThreadStep_move
    {s t : WorkerState W}
    (hstep : workerThreadStep s = some t) :
    WorkerMove s .worker t := by
  simp only [workerThreadStep] at hstep
  split at hstep
  · rename_i hpc
    split at hstep
    · rename_i hsema
      cases hstep
      exact .workerStart hpc hsema
    · cases hstep
  · rename_i hpc
    rcases s.workChain.chainGet_cases with
      ⟨hchain, hget⟩ | ⟨task, rest, hchain, hget⟩
    · simp only [hget] at hstep
      cases hstep
      exact .workerNothing hpc hchain
    · simp only [hget] at hstep
      cases hstep
      exact .workerTake task rest hpc hchain
  · cases hstep

/-- The worker's way from `run_work` is a move. -/
theorem runWorkReturnsStep_move
    {s t : WorkerState W} {result : RpcSrvResult}
    (hstep : runWorkReturnsStep s result = some t) :
    WorkerMove s (.runWorkReturns result) t := by
  simp only [runWorkReturnsStep] at hstep
  split at hstep
  · rename_i task hpc
    split at hstep
    · rename_i hdone
      cases hstep
      exact .donePreserve task result hpc hdone
    · rename_i hdone
      simp only [GenericChain.chainRemoveByIdent] at hstep
      split at hstep
      · rename_i hremove
        obtain ⟨hfind, -⟩ := Prod.mk.inj hremove
        cases hstep
        exact .doneMissing task result hpc hdone hfind
      · rename_i record chain hremove
        obtain ⟨hfind, rfl⟩ := Prod.mk.inj hremove
        cases hstep
        exact .doneDelete task result record hpc hdone hfind
  · cases hstep

/-- Every step is a move. -/
theorem workerStep_move
    {s t : WorkerState W} {l : WorkerLabel W}
    (hstep : workerStep s l = some t) :
    WorkerMove s l t := by
  cases l with
  | call thread c =>
      exact callStep_move hstep
  | goOn thread =>
      exact goOnStep_move hstep
  | worker =>
      exact workerThreadStep_move hstep
  | runWorkReturns result =>
      exact runWorkReturnsStep_move hstep

end Steps

end Adav
end BrBox
