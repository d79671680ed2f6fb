import BrBox.Adav.TaskWorkerIds
import BrBox.Sysmgr.SysRpcCopies

/-!
# The outcome of a command and the result of its task

Firmware updates and downloads are command lines that the task worker gives to
`system`.  `run_shell_script` divides what `system` returns by 256: so an exit
status is found again, but -1 and the numbers of signals become the status 0.

* `runShellScript_success_iff`: when a script is reported as successful.
* `callsInv_step`: what the worker records with one more step.
* `success_iff_exited`: the runs in which only successful commands are recorded
  as successful.
-/

namespace BrBox
namespace Sysmgr
namespace TaskOutcome

open CText
open CxxText
open LabelledRun
open Adav

/-! ## What `system` returns -/

/-- A signal that ends a process. -/
structure Signal where
  number : Nat
  pos : 0 < number
  lt : number < 127

/-- How a command line ends. -/
inductive SystemOutcome where
  /-- No process could be started for it. -/
  | failed
  | exited (status : UInt8)
  | signaled (sig : Signal) (core : Bool)

/-- The value of `system`: a wait status, or -1. -/
def SystemOutcome.value : SystemOutcome → Int
  | failed => -1
  | exited status => status.toNat * 256
  | signaled sig core => sig.number + if core then 128 else 0

/-- The command was started and has ended by itself. -/
def SystemOutcome.Exited (outcome : SystemOutcome) : Prop :=
  ∃ status, outcome = .exited status

/-- `run_shell_script`. -/
def runShellScript
    (emulation : Bool)
    (script : Bytes)
    (system : Bytes → SystemOutcome) :
    RpcSrvResult :=
  if emulation then
    .success
  else
    -- the division of C rounds towards zero
    match (system script).value.tdiv 256 with
    | 0 => .success
    | 1 => .fileOpenErr
    | 2 => .fileReadErr
    | 3 => .fileWriteErr
    | 4 => .argError
    | 5 => .argError
    | 6 => .hostNotReachableErr
    | 7 => .fileSame
    | 8 => .fileDifferent
    | 9 => .fileNotFound
    | _ => .fail

/-! ## The tasks -/

/-- The packet of a background task. -/
inductive SysWork where
  /-- `SYSMGR_FMWUPDATE_PACKET` -/
  | fmwupdate (module : Nat) (path : Bytes)
  /-- `SYSMGR_DOWNLOAD_FILE_PACKET`, of a download with `tftp` or with `wget` -/
  | download (tftp : Bool) (url source target : Bytes)
  /-- The packets of the other tasks. -/
  | other

/-- `process_async_set_fmwupdate`. -/
def processAsyncSetFmwupdate
    (host : Host)
    (module : Nat)
    (path : Bytes)
    (system : Bytes → SystemOutcome) :
    RpcSrvResult :=
  if module = fmwModuleBrboxProject then
    runShellScript host.emulation (fmwupdateLine host path) system
  else
    .argError

/-- `process_async_download_file`. -/
def processAsyncDownloadFile
    (host : Host)
    (tftp : Bool)
    (url source target : Bytes)
    (system : Bytes → SystemOutcome) :
    RpcSrvResult :=
  runShellScript host.emulation (downloadLine host tftp url source target) system

/-- `ProcessWorkAsync`, for the tasks that are modelled. -/
def processWorkAsync
    (host : Host)
    (work : SysWork)
    (system : Bytes → SystemOutcome) :
    Option RpcSrvResult :=
  match work with
  | .fmwupdate module path => some (processAsyncSetFmwupdate host module path system)
  | .download tftp url source target =>
      some (processAsyncDownloadFile host tftp url source target system)
  | .other => none

/-- The command line that a task gives to `system`. -/
def SysWork.line (host : Host) : SysWork → Option Bytes
  | fmwupdate module path =>
      if module = fmwModuleBrboxProject then some (fmwupdateLine host path) else none
  | download tftp url source target => some (downloadLine host tftp url source target)
  | other => none

/-! ## The task worker with its commands -/

/-- A command line that a task has run. -/
structure SystemCall where
  serial : Nat
  line : Bytes
  outcome : SystemOutcome

/-- The task worker, and the history of the commands of its tasks. -/
structure SysState where
  worker : WorkerState SysWork
  calls : List SystemCall

def SysState.start (n : Nat) : SysState where
  worker := startWorker n
  calls := []

inductive SysLabel where
  | call (thread : Nat) (c : WorkerCall SysWork)
  | goOn (thread : Nat)
  | worker
  /-- The running task returns, and `system` has answered it like this. -/
  | taskReturns (system : Bytes → SystemOutcome)
  /-- A task of another kind returns. -/
  | otherReturns (result : RpcSrvResult)

/-- The commands of a task with what `system` has answered. -/
def systemCalls
    (host : Host)
    (task : WorkCmdTask SysWork)
    (system : Bytes → SystemOutcome) :
    List SystemCall :=
  match task.pWorkData.line host with
  | none => []
  | some line => [{ serial := task.serial, line := line, outcome := system line }]

/-- The worker makes a step that runs no command. -/
def workerOnly (s : SysState) (l : WorkerLabel SysWork) : Option SysState :=
  (workerStep s.worker l).map fun worker => { s with worker := worker }

def sysStep (host : Host) (s : SysState) : SysLabel → Option SysState
  | .call thread c => workerOnly s (.call thread c)
  | .goOn thread => workerOnly s (.goOn thread)
  | .worker => workerOnly s .worker
  | .taskReturns system =>
      match s.worker.worker with
      | .running task =>
          match processWorkAsync host task.pWorkData system with
          | none => none
          | some result =>
              (workerStep s.worker (.runWorkReturns result)).map fun worker =>
                { worker := worker, calls := s.calls ++ systemCalls host task system }
      | _ => none
  | .otherReturns result =>
      match s.worker.worker with
      | .running task =>
          match task.pWorkData with
          | .other => workerOnly s (.runWorkReturns result)
          | _ => none
      | _ => none

/--
A task that has run a command is recorded as successful only if the command has:
in the results, in the records and in what polls have been told.
-/
structure Honest (s : SysState) : Prop where
  finished :
    ∀ call ∈ s.calls, (call.serial, .success) ∈ s.worker.finished →
      call.outcome = .exited 0
  records :
    ∀ call ∈ s.calls, ∀ record ∈ s.worker.workInprogChain.elems,
      record.doneBy = some call.serial → record.taskSts = .success →
        call.outcome = .exited 0
  reports :
    ∀ call ∈ s.calls, ∀ report ∈ s.worker.reports,
      report.doneBy = some call.serial → report.taskSts = .success →
        call.outcome = .exited 0

/-- A command that a task runs is started and ends by itself. -/
def CommandExits (host : Host) (s : SysState) : SysLabel → Prop
  | .taskReturns system =>
      ∀ task line, s.worker.worker = .running task → task.pWorkData.line host = some line →
        (system line).Exited
  | _ => True

/-! ## One command -/

/-- The quotient is the exit status, and 0 if there is none. -/
theorem value_tdiv
    (outcome : SystemOutcome) :
    outcome.value.tdiv 256 =
      match outcome with
      | .exited status => (status.toNat : Int)
      | _ => 0 := by
  cases outcome with
  | failed => rfl
  | exited status => exact Int.mul_tdiv_cancel _ (by decide)
  | signaled sig core =>
      have hlt := sig.lt
      apply Int.tdiv_eq_zero_of_lt
      · simp only [SystemOutcome.value]
        split <;> omega
      · simp only [SystemOutcome.value]
        split <;> omega

/-- A script is reported as successful also if no exit status is known. -/
theorem runShellScript_success_iff
    (script : Bytes)
    (system : Bytes → SystemOutcome) :
    runShellScript false script system = .success ↔
      system script = .exited 0 ∨ ¬(system script).Exited := by
  have hquotient :
      runShellScript false script system = .success ↔
        (system script).value.tdiv 256 = 0 := by
    simp only [runShellScript, Bool.false_eq_true, if_false]
    constructor
    · intro hresult
      split at hresult <;> first | assumption | cases hresult
    · intro hzero
      rw [hzero]
      rfl
  rw [hquotient, value_tdiv]
  cases system script with
  | failed => simp [SystemOutcome.Exited]
  | exited status =>
      have hstatus : status.toNat = 0 ↔ status = 0 := by
        rw [← UInt8.toNat_inj]
        rfl
      simp [SystemOutcome.Exited, hstatus]
  | signaled sig core => simp [SystemOutcome.Exited]

/-- The scripts whose report is right. -/
theorem runShellScript_honest_iff
    (script : Bytes)
    (system : Bytes → SystemOutcome) :
    (runShellScript false script system = .success ↔ system script = .exited 0) ↔
      (system script).Exited := by
  rw [runShellScript_success_iff]
  constructor
  · intro hhonest
    by_contra hexited
    exact hexited ⟨0, hhonest.mp (.inr hexited)⟩
  · intro hexited
    exact ⟨fun h => h.resolve_right (not_not.mpr hexited), .inl⟩

/-- A task with a command has the result of its script. -/
theorem processWorkAsync_line
    {host : Host}
    {work : SysWork}
    {line : Bytes}
    (hline : work.line host = some line)
    (system : Bytes → SystemOutcome) :
    processWorkAsync host work system =
      some (runShellScript host.emulation line system) := by
  cases work with
  | fmwupdate module path =>
      simp only [SysWork.line] at hline
      split at hline
      · next hmodule =>
          obtain rfl := Option.some.inj hline
          simp [processWorkAsync, processAsyncSetFmwupdate, hmodule]
      · cases hline
  | download tftp url source target =>
      obtain rfl := Option.some.inj hline
      rfl
  | other => cases hline

/-! ## What the worker records -/

/-- Every result in a record or a report is that of the task named there. -/
structure DoneInv {W : Type} (s : WorkerState W) : Prop where
  records :
    ∀ record ∈ allRecords s, ∀ k, record.doneBy = some k →
      (k, record.taskSts) ∈ s.finished
  reports :
    ∀ report ∈ s.reports, ∀ k, report.doneBy = some k →
      (k, report.taskSts) ∈ s.finished

theorem doneInv_move
    {W : Type}
    {s t : WorkerState W}
    {l : WorkerLabel W}
    (hinv : DoneInv s)
    (hmove : WorkerMove s l t) :
    DoneInv t := by
  obtain ⟨more, hmore⟩ := finished_extends hmove
  have hold :
      ∀ record ∈ allRecords s, ∀ k, record.doneBy = some k →
        (k, record.taskSts) ∈ t.finished := by
    intro record hrecord k hk
    rw [hmore]
    exact List.mem_append_left _ (hinv.records record hrecord k hk)
  refine ⟨?_, ?_⟩
  · intro record hrecord k hk
    rcases allRecords_move hmove hrecord with
      hrecord | ⟨command, rfl⟩ | ⟨task, result, -, hfinished, hupdated⟩
    · exact hold record hrecord k hk
    · cases hk
    · rcases Slots.mem_updateFirst hupdated with hrecord | ⟨old, -, rfl⟩
      · exact hold record (List.mem_append_right _ hrecord) k hk
      · obtain rfl : task.serial = k := Option.some.inj hk
        rw [hfinished]
        exact List.mem_append_right _ (List.mem_singleton.mpr rfl)
  · intro report hreport k hk
    rcases reports_move hmove hreport with
      hreport | ⟨taskID, sts, phase, rfl⟩ | ⟨taskID, record, phase, hfind, rfl⟩
    · rw [hmore]
      exact List.mem_append_left _ (hinv.reports report hreport k hk)
    · cases hk
    · exact hold record
        (List.mem_append_right _ (List.mem_of_find?_eq_some hfind)) k hk

/-! ## Runs -/

/-- What each step of the worker keeps about the commands. -/
structure CallsInv (s : SysState) : Prop where
  serial : SerialInv s.worker
  done : DoneInv s.worker
  ended : ∀ call ∈ s.calls, call.serial ∈ s.worker.finished.map Prod.fst
  honest :
    ∀ call ∈ s.calls, (call.serial, .success) ∈ s.worker.finished →
      call.outcome = .exited 0

theorem callsInv_start
    (n : Nat) :
    CallsInv (SysState.start n) where
  serial := (freshInv_start n).serial
  done := ⟨by simp [allRecords, SysState.start, startWorker, CallerPc.recordHand,
      GenericChain.new], by simp [SysState.start, startWorker]⟩
  ended := by simp [SysState.start]
  honest := by simp [SysState.start]

theorem CallsInv.to_honest
    {s : SysState}
    (hinv : CallsInv s) :
    Honest s where
  finished := hinv.honest
  records := by
    intro call hcall record hrecord hdone hsts
    have hmem := hinv.done.records record (List.mem_append_right _ hrecord) _ hdone
    rw [hsts] at hmem
    exact hinv.honest call hcall hmem
  reports := by
    intro call hcall report hreport hdone hsts
    have hmem := hinv.done.reports report hreport _ hdone
    rw [hsts] at hmem
    exact hinv.honest call hcall hmem

theorem workerOnly_some
    {s t : SysState}
    {l : WorkerLabel SysWork}
    (hstep : workerOnly s l = some t) :
    WorkerMove s.worker l t.worker ∧ t.calls = s.calls := by
  obtain ⟨worker, hworker, rfl⟩ := Option.map_eq_some_iff.mp hstep
  exact ⟨workerStep_move hworker, rfl⟩

/-- A step is one of the worker, and only a task that returns runs commands. -/
theorem sysStep_cases
    {host : Host}
    {s t : SysState}
    {l : SysLabel}
    (hstep : sysStep host s l = some t) :
    (∃ wl, WorkerMove s.worker wl t.worker ∧ t.calls = s.calls ∧
        ∀ system, l ≠ .taskReturns system) ∨
      ∃ task system result, l = .taskReturns system ∧
        s.worker.worker = .running task ∧
        processWorkAsync host task.pWorkData system = some result ∧
        WorkerMove s.worker (.runWorkReturns result) t.worker ∧
        t.calls = s.calls ++ systemCalls host task system := by
  cases l with
  | call thread c =>
      obtain ⟨hmove, hcalls⟩ := workerOnly_some hstep
      exact .inl ⟨_, hmove, hcalls, by simp⟩
  | goOn thread =>
      obtain ⟨hmove, hcalls⟩ := workerOnly_some hstep
      exact .inl ⟨_, hmove, hcalls, by simp⟩
  | worker =>
      obtain ⟨hmove, hcalls⟩ := workerOnly_some hstep
      exact .inl ⟨_, hmove, hcalls, by simp⟩
  | taskReturns system =>
      simp only [sysStep] at hstep
      split at hstep
      · next task hpc =>
          split at hstep
          · cases hstep
          · next result hresult =>
              obtain ⟨worker, hworker, rfl⟩ := Option.map_eq_some_iff.mp hstep
              exact .inr ⟨task, system, result, rfl, hpc, hresult,
                workerStep_move hworker, rfl⟩
      · cases hstep
  | otherReturns result =>
      simp only [sysStep] at hstep
      split at hstep
      · split at hstep
        · obtain ⟨hmove, hcalls⟩ := workerOnly_some hstep
          exact .inl ⟨_, hmove, hcalls, by simp⟩
        · cases hstep
      · cases hstep

/-- What was recorded of earlier commands stays right. -/
theorem CallsInv.old_calls
    {s : SysState}
    {wl : WorkerLabel SysWork}
    {worker : WorkerState SysWork}
    (hinv : CallsInv s)
    (hmove : WorkerMove s.worker wl worker) :
    ∀ call ∈ s.calls, call.serial ∈ worker.finished.map Prod.fst ∧
      ((call.serial, .success) ∈ worker.finished → call.outcome = .exited 0) := by
  intro call hcall
  have hended := hinv.ended call hcall
  rcases finished_move hmove with ⟨task, result, -, hpc, hfinished⟩ | ⟨-, hfinished⟩
  · rw [hfinished]
    refine ⟨?_, ?_⟩
    · rw [List.map_append]
      exact List.mem_append_left _ hended
    · intro hmem
      rcases List.mem_append.mp hmem with hmem | hmem
      · exact hinv.honest call hcall hmem
      · -- the running task has a serial number of its own
        have hserial : call.serial = task.serial :=
          (Prod.mk.inj (List.mem_singleton.mp hmem)).1
        rw [hserial] at hended
        exact absurd hended (hinv.serial.running_not_finished hpc)
  · rw [hfinished]
    exact ⟨hended, hinv.honest call hcall⟩

theorem mem_systemCalls
    {host : Host}
    {task : WorkCmdTask SysWork}
    {system : Bytes → SystemOutcome}
    {call : SystemCall} :
    call ∈ systemCalls host task system ↔
      ∃ line, task.pWorkData.line host = some line ∧
        call = { serial := task.serial, line := line, outcome := system line } := by
  unfold systemCalls
  split
  · next hline => simp [hline]
  · next line hline => simp [hline]

/-- The result of the running task is the last one. -/
theorem runWorkReturns_finished
    {W : Type}
    {s t : WorkerState W}
    {task : WorkCmdTask W}
    {result : RpcSrvResult}
    (hpc : s.worker = .running task)
    (hmove : WorkerMove s (.runWorkReturns result) t) :
    t.finished = s.finished ++ [(task.serial, result)] := by
  rcases finished_move hmove with ⟨task', result', hl, hpc', hfinished⟩ | ⟨hl, -⟩
  · obtain rfl : task = task' := WorkerPc.running.inj (hpc.symm.trans hpc')
    obtain rfl := WorkerLabel.runWorkReturns.inj hl
    exact hfinished
  · exact absurd rfl (hl result)

/-- A step with a command that ends by itself keeps the invariant. -/
theorem callsInv_step
    {host : Host}
    (hemulation : host.emulation = false)
    {s t : SysState}
    {l : SysLabel}
    (hinv : CallsInv s)
    (hexits : CommandExits host s l)
    (hstep : sysStep host s l = some t) :
    CallsInv t := by
  rcases sysStep_cases hstep with
    ⟨wl, hmove, hcalls, -⟩ | ⟨task, system, result, rfl, hpc, hresult, hmove, hcalls⟩
  · have hold := hinv.old_calls hmove
    rw [← hcalls] at hold
    exact ⟨serialInv_move hinv.serial hmove, doneInv_move hinv.done hmove,
      fun call hcall => (hold call hcall).1, fun call hcall => (hold call hcall).2⟩
  · have hold := hinv.old_calls hmove
    have hfinished := runWorkReturns_finished hpc hmove
    refine ⟨serialInv_move hinv.serial hmove, doneInv_move hinv.done hmove, ?_, ?_⟩
    · intro call hcall
      rw [hcalls] at hcall
      rcases List.mem_append.mp hcall with hcall | hcall
      · exact (hold call hcall).1
      · obtain ⟨line, -, rfl⟩ := mem_systemCalls.mp hcall
        simp [hfinished]
    · intro call hcall hmem
      rw [hcalls] at hcall
      rcases List.mem_append.mp hcall with hcall | hcall
      · exact (hold call hcall).2 hmem
      · obtain ⟨line, hline, rfl⟩ := mem_systemCalls.mp hcall
        rw [hfinished] at hmem
        have hsuccess : result = .success := by
          rcases List.mem_append.mp hmem with hmem | hmem
          · exact absurd (List.mem_map_of_mem hmem)
              (hinv.serial.running_not_finished hpc)
          · exact (Prod.mk.inj (List.mem_singleton.mp hmem)).2.symm
        rw [processWorkAsync_line hline, hemulation] at hresult
        have hscript := (Option.some.inj hresult).trans hsuccess
        exact ((runShellScript_honest_iff line system).mpr
          (hexits task line hpc hline)).mp hscript

/-- A step with a command that does not end by itself records a success for it. -/
theorem commandExits_of_honest
    {host : Host}
    (hemulation : host.emulation = false)
    {s t : SysState}
    {l : SysLabel}
    (hstep : sysStep host s l = some t)
    (hhonest : Honest t) :
    CommandExits host s l := by
  rcases sysStep_cases hstep with
    ⟨wl, -, -, hother⟩ | ⟨task, system, result, rfl, hpc, hresult, hmove, hcalls⟩
  · cases l with
    | taskReturns system => exact absurd rfl (hother system)
    | call _ _ | goOn _ | worker | otherReturns _ => trivial
  · intro task' line hpc' hline
    obtain rfl : task = task' := WorkerPc.running.inj (hpc.symm.trans hpc')
    by_contra hexited
    rw [processWorkAsync_line hline, hemulation,
      (runShellScript_success_iff line system).mpr (.inr hexited)] at hresult
    obtain rfl := Option.some.inj hresult
    have hcall :
        { serial := task.serial, line := line, outcome := system line } ∈ t.calls := by
      rw [hcalls]
      exact List.mem_append_right _ (mem_systemCalls.mpr ⟨line, hline, rfl⟩)
    have hmem : (task.serial, .success) ∈ t.worker.finished := by
      rw [runWorkReturns_finished hpc hmove]
      exact List.mem_append_right _ (List.mem_singleton.mpr rfl)
    exact hexited ⟨0, hhonest.finished _ hcall hmem⟩

/--
A script is reported as successful exactly if it has been, and in a run of the task
worker only successful commands are recorded as successful, if and only if the
commands are started and end by themselves.
-/
theorem success_iff_exited
    {host : Host}
    (hemulation : host.emulation = false)
    {n : Nat}
    {ls : List SysLabel}
    {s : SysState}
    (hrun : run (sysStep host) (SysState.start n) ls = some s) :
    (∀ script system,
        (runShellScript host.emulation script system = .success ↔
            system script = .exited 0) ↔
          (system script).Exited) ∧
      ((∀ pre t, pre <+: ls → run (sysStep host) (SysState.start n) pre = some t →
          Honest t) ↔
        Meets (sysStep host) (CommandExits host) (SysState.start n) ls) := by
  constructor
  · rw [hemulation]
    exact runShellScript_honest_iff
  · exact forall_prefix_iff_meets
      (fun s l t hinv hexits hstep => callsInv_step hemulation hinv hexits hstep)
      (fun s hinv => hinv.to_honest)
      (fun s l t _ hstep hhonest => commandExits_of_honest hemulation hstep hhonest)
      (callsInv_start n) hrun

/-- A device on which nothing is emulated. -/
def raspi3Host : Host where
  boardType := .raspi3
  syscfgType := .unknown
  emulation := false
  pushAsyncTask := true
  networkInfo := fun _ => true
  ifconfigGrep := fun _ => true

/-- An update is pushed and run, and its command ends like this. -/
def updateRun (outcome : SystemOutcome) : List SysLabel :=
  [ .call 0 (.pushTask 5 (.fmwupdate fmwModuleBrboxProject (text "/tmp/update.bin"))
      .preserve),
    .goOn 0, .goOn 0, .goOn 0, .worker, .worker, .taskReturns fun _ => outcome ]

/-- An update whose command ends by itself. -/
theorem commandExits_updateRun
    (status : UInt8) :
    Meets (sysStep raspi3Host) (CommandExits raspi3Host) (SysState.start 1)
      (updateRun (.exited status)) := by
  apply meets_of_forall_prefix
  intro pre l t hpre _
  have hl : l ∈ updateRun (.exited status) := hpre.subset (by simp)
  simp only [updateRun, List.mem_cons, List.not_mem_nil, or_false] at hl
  rcases hl with rfl | rfl | rfl | rfl | rfl | rfl | rfl
  · trivial
  · trivial
  · trivial
  · trivial
  · trivial
  · trivial
  · intro task line _ _
    exact ⟨status, rfl⟩

/-- The status 1 is reported as such, and so is that of a run with it. -/
theorem success_iff_exited_update :
    ∃ s,
      run (sysStep raspi3Host) (SysState.start 1) (updateRun (.exited 1)) = some s ∧
      s.worker.finished = [(0, .fileOpenErr)] ∧
      runShellScript false (text "update") (fun _ => .exited 1) ≠ .success ∧
      ∀ pre t, pre <+: updateRun (.exited 1) →
        run (sysStep raspi3Host) (SysState.start 1) pre = some t → Honest t := by
  have hemulation : raspi3Host.emulation = false := rfl
  obtain ⟨s, hrun, hfinished⟩ : ∃ s,
      run (sysStep raspi3Host) (SysState.start 1) (updateRun (.exited 1)) = some s ∧
        s.worker.finished = [(0, .fileOpenErr)] :=
    ⟨_, rfl, rfl⟩
  obtain ⟨hscript, hruns⟩ := success_iff_exited hemulation hrun
  refine ⟨s, hrun, hfinished, ?_, hruns.mpr (commandExits_updateRun 1)⟩
  intro hsuccess
  cases ((hscript (text "update") fun _ => .exited 1).mpr ⟨1, rfl⟩).mp hsuccess

theorem sigkill_pos : 0 < 9 := by
  decide

theorem sigkill_lt : 9 < 127 := by
  decide

/-- `SIGKILL`. -/
def sigkill : Signal where
  number := 9
  pos := sigkill_pos
  lt := sigkill_lt

/-- An update that is killed is recorded as successful. -/
theorem not_honest_killed :
    ∃ s,
      run (sysStep raspi3Host) (SysState.start 1) (updateRun (.signaled sigkill false)) =
        some s ∧
      ¬Honest s := by
  refine ⟨_, rfl, ?_⟩
  intro hhonest
  have houtcome := hhonest.finished _ List.mem_cons_self List.mem_cons_self
  cases houtcome

end TaskOutcome
end Sysmgr
end BrBox
