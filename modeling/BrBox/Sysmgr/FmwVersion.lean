import BrBox.Adav.RpcRouting
import BrBox.Adav.TaskWorker
import BrBox.Lib.CopyTrace
import BrBox.Sysmgr.SysRpcTable

/-!
# The firmware version cache of the system manager

`main` attaches one object for every method to `ADJsonRpcMgr`.  The object of
`get_fmw_version` remembers in its own flags whether the version texts in the
shared data cache are valid.  An update task changes the backup firmware and
clears such a flag as well, but that of the object it runs on: the one at the
position of the index of `firmware_update`, which is `get_device_operation`.

A version that is read is copied into an array of the cache without a check;
the state keeps all these copies.

* `historyOk_run`: gets agree with the version tool and with each other and stay
  inside the arrays, in every run where no update changes a backup version that
  is in the cache and no version that is read has more than 99 characters.
* `not_historyOk_update`: after an update the old backup version is returned.
-/

namespace BrBox
namespace Sysmgr

open CText
open CxxText
open CopyTrace
open Adav
open LabelledRun

/-! ## The handlers -/

/-- `EJSON_SYSMGR_RPC_TYPES`. -/
inductive RpcType where
  | getMacAddr
  | setMacAddr
  | getEthCount
  | getEthName
  | getLoadinfo
  | getMeminfo
  | getCpuinfo
  | getDevOp
  | setDevOp
  | getFmwver
  | getBootSystem
  | setFmwupdate
  | setDownloadftp
  | setDownloadtftp
  | getAsynctask
  | getDevtype
  | getHostname
  | setHostname
  | getMyPublicIp
  | setDefaultHostname
  | setUpdateLog
  | getLogCount
  | getLogLine
  | getIpAddr
  | setIpAddr
  | getNetmask
  | setNetmask
  | runShellcmd
  | devident
  | evntSubscribe
  | dispClear
  | dispPrint
  | dispGetBklt
  | dispSetBklt
  | runShellcmdtrig
deriving DecidableEq, Repr

/-- The number of an RPC type. -/
def RpcType.index (r : RpcType) : Int :=
  r.ctorIdx

/-- The classes of the handlers. -/
inductive HandlerClass where
  | netRpc
  | sysRpc
  | dispCtrlRpc
  | cmnRpc
deriving DecidableEq, Repr

/-- The handlers in the order in which `main` attaches them. -/
def attached : List (HandlerClass × RpcHandler) :=
  [ (.netRpc, .new (text "get_mac_addr") RpcType.getMacAddr.index),
    (.netRpc, .new (text "set_mac_addr") RpcType.setMacAddr.index),
    (.netRpc, .new (text "get_eth_count") RpcType.getEthCount.index),
    (.netRpc, .new (text "get_eth_name") RpcType.getEthName.index),
    (.netRpc, .new (text "get_ip_addr") RpcType.getIpAddr.index),
    (.netRpc, .new (text "set_ip_addr") RpcType.setIpAddr.index),
    (.netRpc, .new (text "get_netmask") RpcType.getNetmask.index),
    (.netRpc, .new (text "set_netmask") RpcType.setNetmask.index),
    (.sysRpc, .new (text "get_load_info") RpcType.getLoadinfo.index),
    (.sysRpc, .new (text "get_mem_info") RpcType.getMeminfo.index),
    (.sysRpc, .new (text "get_cpu_info") RpcType.getCpuinfo.index),
    (.sysRpc, .new (text "get_device_operation") RpcType.getDevOp.index),
    (.sysRpc, .new (text "set_device_operation") RpcType.setDevOp.index),
    (.sysRpc, .new (text "get_fmw_version") RpcType.getFmwver.index),
    (.sysRpc, .new (text "get_boot_system") RpcType.getBootSystem.index),
    (.sysRpc, .new (text "firmware_update") RpcType.setFmwupdate.index),
    (.sysRpc, .new (text "download_tftp_file") RpcType.setDownloadtftp.index),
    (.sysRpc, .new (text "download_ftp_file") RpcType.setDownloadftp.index),
    (.sysRpc, .new (text "get_async_task") RpcType.getAsynctask.index),
    (.sysRpc, .new (text "get_devtype") RpcType.getDevtype.index),
    (.sysRpc, .new (text "get_hostname") RpcType.getHostname.index),
    (.sysRpc, .new (text "set_hostname") RpcType.setHostname.index),
    (.sysRpc, .new (text "get_my_public_ip") RpcType.getMyPublicIp.index),
    (.sysRpc, .new (text "set_default_hostname") RpcType.setDefaultHostname.index),
    (.sysRpc, .new (text "update_loglist") RpcType.setUpdateLog.index),
    (.sysRpc, .new (text "get_log_count") RpcType.getLogCount.index),
    (.sysRpc, .new (text "get_log_line") RpcType.getLogLine.index),
    (.sysRpc, .new (text "run_shellcmd") RpcType.runShellcmd.index),
    (.sysRpc, .new (text "device_identify") RpcType.devident.index),
    (.sysRpc, .new (text "re_subscribe_events") RpcType.evntSubscribe.index),
    (.sysRpc, .new (text "run_shellcmdtrig") RpcType.runShellcmdtrig.index),
    (.dispCtrlRpc, .new (text "display_clear") RpcType.dispClear.index),
    (.dispCtrlRpc, .new (text "display_print") RpcType.dispPrint.index),
    (.dispCtrlRpc, .new (text "display_backlight_get") RpcType.dispGetBklt.index),
    (.dispCtrlRpc, .new (text "display_backlight_set") RpcType.dispSetBklt.index),
    (.cmnRpc, cmnRpcHandler) ]

/-- The handlers as `ADJsonRpcMgr` sees them. -/
def rpclist : List RpcHandler :=
  attached.map fun h => h.2

/-- A handler of class `SysRpc`. -/
def isSysRpc (h : RpcHandler) : Bool :=
  (HandlerClass.sysRpc, h) ∈ attached

/-! ## The version cache -/

/-- `SYSMGR_FMW_MODULE_TYPE`. -/
inductive FmwModule where
  | current
  | backup
  | kernel
  | project
  | brbox1
  | brbox2
deriving DecidableEq, Repr

/-- The flags of a `SysRpc` object. -/
structure SysRpcFlags where
  crntFmwverUpdated : Bool
  bkupFmwverUpdated : Bool
deriving DecidableEq, Repr

/-- What the version commands write at the moment. -/
structure FmwTool where
  current : Bytes
  backup : Bytes
deriving DecidableEq, Repr

/-- A get with what it returned and what the tool would have written, or the end
of an update task. -/
inductive FmwEvent where
  | got (module : FmwModule) (result : RpcSrvResult) (version : Bytes) (tool : FmwTool)
  | updated
deriving DecidableEq, Repr

/-- What a version command writes. -/
def FmwTool.output (tool : FmwTool) : FmwModule → Bytes
  | .current => tool.current
  | .backup => tool.backup
  | _ => []

/-- `crnt_fmwver` of the cache. -/
def crntFmwverArr : CharArray := { name := "crnt_fmwver", capacity := 100 }

/-- `bkup_fmwver` of the cache. -/
def bkupFmwverArr : CharArray := { name := "bkup_fmwver", capacity := 100 }

/-- The flags of all objects, the shared cache, the queued tasks, the tool and
the history, latest event first.  `copies` are the copies made so far, and
`strayed` says that a character in front of `temp_str` was looked at. -/
structure SysmgrState where
  flags : RpcHandler → SysRpcFlags
  crntFmwver : Bytes
  bkupFmwver : Bytes
  tasks : List Int
  tool : FmwTool
  history : List FmwEvent
  copies : List StrCopy
  strayed : Bool

/-- A request, with what the commands do, or the next task with what the tool
writes after it. -/
inductive SysmgrLabel where
  | getFmwVersion (module : FmwModule) (toolOk : Bool)
  | firmwareUpdate (module : FmwModule)
  | runTask (tool : FmwTool)
deriving DecidableEq, Repr

/-- The text that is taken from the output of the tool: 100 bytes at most,
without a newline at the end. -/
def versionText (output : Bytes) : Bytes :=
  let s := cString (output.take 100)
  if s.getLast? = some 10 then s.dropLast else s

namespace SysmgrState

/-- The manager has been started. -/
def start (tool : FmwTool) : SysmgrState :=
  { flags := fun _ => ⟨false, false⟩
    crntFmwver := []
    bkupFmwver := []
    tasks := []
    tool := tool
    history := []
    copies := []
    strayed := false }

/-- `strcpy`. -/
def strcpy (s : SysmgrState) (dest : CharArray) (version : Bytes) : SysmgrState :=
  { s with copies := s.copies ++ [{ dest := dest, text := version }] }

/-- A get that returns without a new version. -/
def answer
    (s : SysmgrState) (module : FmwModule) (result : RpcSrvResult) (version : Bytes) :
    SysmgrState :=
  { s.strcpy cmnFnameVerStr version with
    history := .got module result version s.tool :: s.history }

/-- A version was read from the tool and is kept in the cache.  Where the output
starts with a NUL, the character looked at for a newline is the one in front of
`temp_str`. -/
def readVersion (s : SysmgrState) (h : RpcHandler) (module : FmwModule) (output : Bytes) :
    SysmgrState :=
  if output = [] then
    s.answer module .fileReadErr (text "unknown")
  else
    let s := { s with strayed := s.strayed || decide (output.head? = some 0) }
    match module with
    | .current =>
        { (s.answer module .success (versionText output)).strcpy crntFmwverArr
            (versionText output) with
          flags := Function.update s.flags h
            { s.flags h with crntFmwverUpdated := true }
          crntFmwver := versionText output }
    | .backup =>
        { (s.answer module .success (versionText output)).strcpy bkupFmwverArr
            (versionText output) with
          flags := Function.update s.flags h
            { s.flags h with bkupFmwverUpdated := true }
          bkupFmwver := versionText output }
    | _ => s.answer module .featureNotAvailable (versionText output)

/-- `process_get_fmwver` of an object. -/
def processGetFmwver
    (emulat : Bool) (s : SysmgrState) (h : RpcHandler) (module : FmwModule)
    (toolOk : Bool) : SysmgrState :=
  if emulat then
    s.answer module .success (text "00.01.12345")
  else
    match module with
    | .current =>
        if (s.flags h).crntFmwverUpdated then
          s.answer module .success s.crntFmwver
        else if toolOk then
          s.readVersion h module s.tool.current
        else
          s.answer module .fileOpenErr (text "unknown")
    | .backup =>
        if (s.flags h).bkupFmwverUpdated then
          s.answer module .success s.bkupFmwver
        else if toolOk then
          s.readVersion h module s.tool.backup
        else
          s.answer module .fileOpenErr (text "unknown")
    | _ => s.answer module .featureNotAvailable (text "unknown")

/-- `process_set_fmwupdate`: only the project module is supported. -/
def processSetFmwupdate (s : SysmgrState) (module : FmwModule) : SysmgrState :=
  if module ≠ .project then
    s
  else
    { s with tasks := s.tasks ++ [RpcType.setFmwupdate.index + cmdEnd] }

/-- `process_async_set_fmwupdate` of an object. -/
def processAsyncSetFmwupdate
    (emulat : Bool) (s : SysmgrState) (h : RpcHandler) (tool : FmwTool) : SysmgrState :=
  { s with
    flags := Function.update s.flags h { s.flags h with bkupFmwverUpdated := false }
    tool := if emulat then s.tool else tool
    history := .updated :: s.history }

/-- `ProcessWork` of the object that serves a method, if there is one. -/
def request
    (s : SysmgrState) (handler : Option RpcHandler) (work : RpcType)
    (process : RpcHandler → SysmgrState) : SysmgrState :=
  match handler with
  | none => s
  | some h => if isSysRpc h ∧ h.index = work.index then process h else s

/-- `AsyncTaskWork` and `ProcessWorkAsync` for the next task. -/
def runTask (emulat : Bool) (s : SysmgrState) (tool : FmwTool) : Option SysmgrState :=
  match s.tasks with
  | [] => none
  | command :: tasks =>
      let taken := { s with tasks := tasks }
      match getRpcHandler rpclist command with
      | none => some taken
      | some h =>
          if isSysRpc h ∧ command - cmdEnd = RpcType.setFmwupdate.index then
            some (taken.processAsyncSetFmwupdate emulat h tool)
          else
            some taken

/-- One step. -/
def step (emulat : Bool) (s : SysmgrState) : SysmgrLabel → Option SysmgrState
  | .getFmwVersion module toolOk =>
      some (s.request (syncHandler rpclist (text "get_fmw_version")) .getFmwver
        fun h => s.processGetFmwver emulat h module toolOk)
  | .firmwareUpdate module =>
      some (s.request (syncHandler rpclist (text "firmware_update")) .setFmwupdate
        fun _ => s.processSetFmwupdate module)
  | .runTask tool => s.runTask emulat tool

end SysmgrState

/-! ## What is promised -/

/-- The version that the last successful get of a module has returned since the
last update. -/
def lastGot (module : FmwModule) : List FmwEvent → Option Bytes
  | [] => none
  | .updated :: _ => none
  | .got m result version _ :: history =>
      if m = module ∧ result = .success then some version else lastGot module history

/-- Successful gets of the backup version after an update agree with the tool,
and gets with no update in between agree with each other. -/
def HistoryOk : List FmwEvent → Prop
  | [] => True
  | .updated :: history => HistoryOk history
  | .got module result version tool :: history =>
      HistoryOk history ∧
        (result = .success →
          (module = .backup → .updated ∈ history → version = versionText tool.backup) ∧
            ∀ version', lastGot module history = some version' → version = version')

/-- No copy was made past the end of an array, and nothing was looked at in front
of one. -/
def InBounds (s : SysmgrState) : Prop :=
  (∀ c ∈ s.copies, c.Fits) ∧ s.strayed = false

/-! ## The objects that are reached -/

/-- The object that serves `get_fmw_version`. -/
def fmwverRpc : RpcHandler :=
  .new (text "get_fmw_version") RpcType.getFmwver.index

/-- The object that serves `firmware_update`. -/
def fmwupdateRpc : RpcHandler :=
  .new (text "firmware_update") RpcType.setFmwupdate.index

/-- The object that runs the tasks of `firmware_update`. -/
def devOpRpc : RpcHandler :=
  .new (text "get_device_operation") RpcType.getDevOp.index

/-- The number under which an update is queued. -/
def updateCommand : Int :=
  RpcType.setFmwupdate.index + cmdEnd

/-- The requests reach their own objects; the update task runs on the object at
position 11, which is another one. -/
theorem reached_objects :
    (syncHandler rpclist (text "get_fmw_version") = some fmwverRpc ∧
      syncHandler rpclist (text "firmware_update") = some fmwupdateRpc ∧
      getRpcHandler rpclist updateCommand = some devOpRpc) ∧
    (isSysRpc fmwverRpc = true ∧ isSysRpc fmwupdateRpc = true ∧
      isSysRpc devOpRpc = true) ∧ fmwverRpc ≠ devOpRpc := by
  decide +kernel

namespace SysmgrState

/-- A request of a method of a known object. -/
theorem request_eq
    (s : SysmgrState) {handler : Option RpcHandler} {h : RpcHandler} {work : RpcType}
    (process : RpcHandler → SysmgrState)
    (hsync : handler = some h)
    (hsys : isSysRpc h = true) (hindex : h.index = work.index) :
    s.request handler work process = process h := by
  simp [request, hsync, hsys, hindex]

/-- The next task runs on a known object. -/
theorem runTask_eq
    {s : SysmgrState} {command : Int} {tasks : List Int} {h : RpcHandler}
    (tool : FmwTool)
    (hqueue : s.tasks = command :: tasks)
    (hroute : getRpcHandler rpclist command = some h)
    (hsys : isSysRpc h = true) (hindex : command - cmdEnd = RpcType.setFmwupdate.index) :
    s.runTask false tool =
      some (processAsyncSetFmwupdate false { s with tasks := tasks } h tool) := by
  simp [runTask, hqueue, hroute, hsys, hindex]

/-- A get is processed by its own object. -/
theorem step_getFmwVersion
    (s : SysmgrState) (module : FmwModule) (toolOk : Bool) :
    step false s (.getFmwVersion module toolOk) =
      some (s.processGetFmwver false fmwverRpc module toolOk) := by
  obtain ⟨⟨hsync, -, -⟩, ⟨hsys, -, -⟩, -⟩ := reached_objects
  exact congrArg some (s.request_eq _ hsync hsys rfl)

/-- An update request queues at most the update task. -/
theorem step_firmwareUpdate
    (s : SysmgrState) (module : FmwModule) :
    step false s (.firmwareUpdate module) = some (s.processSetFmwupdate module) := by
  obtain ⟨⟨-, hsync, -⟩, ⟨-, hsys, -⟩, -⟩ := reached_objects
  exact congrArg some (s.request_eq _ hsync hsys rfl)

/-- The next update task clears a flag of the other object. -/
theorem step_runTask_cases
    {s t : SysmgrState} {tool : FmwTool}
    (htasks : ∀ command ∈ s.tasks, command = updateCommand)
    (hstep : step false s (.runTask tool) = some t) :
    ∃ tasks, s.tasks = updateCommand :: tasks ∧
      t = processAsyncSetFmwupdate false { s with tasks := tasks } devOpRpc tool := by
  obtain ⟨⟨-, -, hroute⟩, ⟨-, -, hsys⟩, -⟩ := reached_objects
  cases hqueue : s.tasks with
  | nil =>
      simp [step, runTask, hqueue] at hstep
  | cons command tasks =>
      obtain rfl : command = updateCommand := htasks command (by simp [hqueue])
      refine ⟨tasks, rfl, ?_⟩
      rw [step, runTask_eq tool hqueue hroute hsys rfl] at hstep
      exact (Option.some.inj hstep).symm

end SysmgrState

/-! ## The cache along a run -/

/-- The flag of a module in an object. -/
def SysRpcFlags.updated (f : SysRpcFlags) : FmwModule → Bool
  | .current => f.crntFmwverUpdated
  | .backup => f.bkupFmwverUpdated
  | _ => false

/-- The cached text of a module. -/
def SysmgrState.cached (s : SysmgrState) : FmwModule → Bytes
  | .current => s.crntFmwver
  | .backup => s.bkupFmwver
  | _ => []

/-- What the tool writes fits the arrays of the cache: it does not start with a
NUL, and its text has at most 99 characters. -/
def VersionFits (output : Bytes) : Prop :=
  output.head? ≠ some 0 ∧ (versionText output).length ≤ 99

instance (output : Bytes) : Decidable (VersionFits output) :=
  inferInstanceAs (Decidable (_ ∧ _))

/-- An update that finishes while a backup version is in the cache leaves the
reported backup version as it is, and a get that reads the tool gets a text that
fits. -/
def CacheKept (s : SysmgrState) : SysmgrLabel → Prop
  | .runTask tool =>
      (s.flags fmwverRpc).bkupFmwverUpdated = true →
        versionText tool.backup = versionText s.tool.backup
  | .getFmwVersion module toolOk =>
      (s.flags fmwverRpc).updated module = false → toolOk = true →
        s.tool.output module ≠ [] → VersionFits (s.tool.output module)
  | .firmwareUpdate _ => True

instance (s : SysmgrState) : ∀ l, Decidable (CacheKept s l)
  | .runTask _ => inferInstanceAs (Decidable (_ → _))
  | .getFmwVersion _ _ => inferInstanceAs (Decidable (_ → _ → _ → _))
  | .firmwareUpdate _ => isTrue trivial

/-- The invariant of the cache. -/
structure CacheInv (s : SysmgrState) : Prop where
  tasks : ∀ command ∈ s.tasks, command = updateCommand
  backup : (s.flags fmwverRpc).bkupFmwverUpdated = true →
    s.bkupFmwver = versionText s.tool.backup
  got : ∀ module version, lastGot module s.history = some version →
    (s.flags fmwverRpc).updated module = true ∧ s.cached module = version
  history : HistoryOk s.history
  short : ∀ module, (s.flags fmwverRpc).updated module = true →
    (s.cached module).length ≤ 99
  bounds : InBounds s

/-- What a get that reads the tool has done. -/
structure HasRead
    (s : SysmgrState) (h : RpcHandler) (module : FmwModule) (output : Bytes)
    (t : SysmgrState) : Prop where
  tasks : t.tasks = s.tasks
  tool : t.tool = s.tool
  updated : ∀ module', (t.flags h).updated module' =
    if module' = module then true else (s.flags h).updated module'
  cached : ∀ module', t.cached module' =
    if module' = module then versionText output else s.cached module'
  history : t.history = .got module .success (versionText output) s.tool :: s.history
  copies : ∃ dest : CharArray, dest.capacity = 100 ∧
    t.copies = s.copies ++
      [⟨cmnFnameVerStr, versionText output⟩, ⟨dest, versionText output⟩]
  strayed : t.strayed = (s.strayed || decide (output.head? = some 0))

namespace SysmgrState

/-- The current and the backup version are kept when they are read. -/
theorem readVersion_eq
    (s : SysmgrState) (h : RpcHandler) {module : FmwModule} {output : Bytes}
    (hcached : module = .current ∨ module = .backup) (hne : output ≠ []) :
    HasRead s h module output (s.readVersion h module output) := by
  rcases hcached with rfl | rfl
  · simp only [SysmgrState.readVersion, if_neg hne]
    refine ⟨rfl, rfl, ?_, ?_, rfl, ⟨crntFmwverArr, rfl, ?_⟩, rfl⟩
    · intro module'
      cases module' <;> simp [SysRpcFlags.updated]
    · intro module'
      cases module' <;> simp [answer, strcpy, cached]
    · simp [answer, strcpy]
  · simp only [SysmgrState.readVersion, if_neg hne]
    refine ⟨rfl, rfl, ?_, ?_, rfl, ⟨bkupFmwverArr, rfl, ?_⟩, rfl⟩
    · intro module'
      cases module' <;> simp [SysRpcFlags.updated]
    · intro module'
      cases module' <;> simp [answer, strcpy, cached]
    · simp [answer, strcpy]

/-- A version that is kept: the get fails, is answered from the cache or reads what the
tool wrote. -/
theorem kept_cases
    (s t : SysmgrState) (h : RpcHandler) (module : FmwModule) (output : Bytes) (toolOk : Bool)
    (ht : t =
      if (s.flags h).updated module then s.answer module .success (s.cached module)
      else if toolOk then s.readVersion h module output
      else s.answer module .fileOpenErr (text "unknown")) :
    (∃ result, result ≠ .success ∧ t = s.answer module result (text "unknown")) ∨
    ((s.flags h).updated module = true ∧ t = s.answer module .success (s.cached module)) ∨
    ((s.flags h).updated module = false ∧ toolOk = true ∧
      t = s.readVersion h module output ∧ output ≠ []) := by
  cases hflag : (s.flags h).updated module with
  | true => exact .inr (.inl ⟨rfl, by simp [ht, hflag]⟩)
  | false =>
      cases toolOk with
      | false => exact .inl ⟨.fileOpenErr, by decide, by rw [ht, hflag]; rfl⟩
      | true =>
          have hread : t = s.readVersion h module output := by
            simp [ht, hflag]
          by_cases hempty : output = []
          · refine .inl ⟨.fileReadErr, by decide, ?_⟩
            rw [hread]
            exact if_pos hempty
          · exact .inr (.inr ⟨rfl, rfl, hread, hempty⟩)

/-- A get fails, is answered from the cache, or reads the tool. -/
theorem processGetFmwver_cases
    (s : SysmgrState) (module : FmwModule) (toolOk : Bool) :
    (∃ result, result ≠ .success ∧
      s.processGetFmwver false fmwverRpc module toolOk =
        s.answer module result (text "unknown")) ∨
    ((s.flags fmwverRpc).updated module = true ∧
      s.processGetFmwver false fmwverRpc module toolOk =
        s.answer module .success (s.cached module)) ∨
    ((s.flags fmwverRpc).updated module = false ∧ toolOk = true ∧
      (module = .current ∨ module = .backup) ∧
      s.processGetFmwver false fmwverRpc module toolOk =
        s.readVersion fmwverRpc module (s.tool.output module) ∧
      s.tool.output module ≠ []) := by
  cases module with
  | current =>
      rcases s.kept_cases _ fmwverRpc .current s.tool.current toolOk rfl with
        hfailed | hcached | ⟨hflag, hok, hread⟩
      · exact .inl hfailed
      · exact .inr (.inl hcached)
      · exact .inr (.inr ⟨hflag, hok, .inl rfl, hread⟩)
  | backup =>
      rcases s.kept_cases _ fmwverRpc .backup s.tool.backup toolOk rfl with
        hfailed | hcached | ⟨hflag, hok, hread⟩
      · exact .inl hfailed
      · exact .inr (.inl hcached)
      · exact .inr (.inr ⟨hflag, hok, .inr rfl, hread⟩)
  | kernel | project | brbox1 | brbox2 =>
      exact .inl ⟨.featureNotAvailable, by decide, rfl⟩

end SysmgrState

namespace InBounds

variable {s : SysmgrState}

/-- An answer is copied into the packet. -/
theorem answer
    (hs : InBounds s) {version : Bytes} (hlength : version.length ≤ 511)
    (module : FmwModule) (result : RpcSrvResult) :
    InBounds (s.answer module result version) := by
  refine ⟨?_, hs.2⟩
  intro c hc
  rcases List.mem_append.mp hc with hc | hc
  · exact hs.1 c hc
  · cases List.mem_singleton.mp hc
    exact Nat.succ_le_succ hlength

/-- A version that fits is copied into the packet and into the cache. -/
theorem hasRead
    (hs : InBounds s) {h : RpcHandler} {module : FmwModule} {output : Bytes}
    {t : SysmgrState}
    (hread : HasRead s h module output t) (hfits : VersionFits output) :
    InBounds t := by
  obtain ⟨dest, hcapacity, hcopies⟩ := hread.copies
  have hlength := hfits.2
  refine ⟨?_, ?_⟩
  · intro c hc
    rw [hcopies, List.mem_append] at hc
    rcases hc with hc | hc
    · exact hs.1 c hc
    · simp only [List.mem_cons, List.not_mem_nil, or_false] at hc
      rcases hc with rfl | rfl
      · simp only [StrCopy.Fits, StrCopy.written, cmnFnameVerStr]
        omega
      · simp only [StrCopy.Fits, StrCopy.written, hcapacity]
        omega
  · rw [hread.strayed, hs.2, Bool.false_or]
    exact decide_eq_false hfits.1

end InBounds

namespace CacheInv

variable {s : SysmgrState}

/-- A failed get changes nothing. -/
theorem answer_failed
    (hinv : CacheInv s) {result : RpcSrvResult} (hfail : result ≠ .success)
    (module : FmwModule) :
    CacheInv (s.answer module result (text "unknown")) where
  tasks := hinv.tasks
  backup := hinv.backup
  short := hinv.short
  bounds := hinv.bounds.answer (by decide) module result
  got := by
    intro module' version' hgot
    exact hinv.got module' version' (by simpa [SysmgrState.answer, lastGot, hfail] using hgot)
  history := ⟨hinv.history, fun hsucc => absurd hsucc hfail⟩

/-- A get answered from the cache agrees with the gets before. -/
theorem answer_cached
    (hinv : CacheInv s) {module : FmwModule}
    (hflag : (s.flags fmwverRpc).updated module = true) :
    CacheInv (s.answer module .success (s.cached module)) where
  tasks := hinv.tasks
  backup := hinv.backup
  short := hinv.short
  bounds := hinv.bounds.answer ((hinv.short module hflag).trans (by decide)) module .success
  got := by
    intro module' version' hgot
    simp only [SysmgrState.answer, lastGot, and_true] at hgot
    split at hgot
    · next heq =>
        subst heq
        exact ⟨hflag, Option.some.inj hgot⟩
    · exact hinv.got module' version' hgot
  history := by
    refine ⟨hinv.history, fun _ => ⟨?_, ?_⟩⟩
    · intro hbackup _
      subst hbackup
      exact hinv.backup hflag
    · intro version' hgot
      exact (hinv.got module version' hgot).2

/-- A get that reads the tool fills the cache. -/
theorem readVersion
    (hinv : CacheInv s) {module : FmwModule} {output : Bytes}
    (hcached : module = .current ∨ module = .backup)
    (hbackup : module = .backup → output = s.tool.backup)
    (hflag : (s.flags fmwverRpc).updated module = false)
    (hne : output ≠ []) (hfits : VersionFits output) :
    CacheInv (s.readVersion fmwverRpc module output) := by
  have hread := s.readVersion_eq fmwverRpc hcached hne
  refine ⟨hread.tasks ▸ hinv.tasks, ?_, ?_, ?_, ?_, hinv.bounds.hasRead hread hfits⟩
  · intro hset
    rw [hread.tool]
    by_cases hmod : FmwModule.backup = module
    · rw [← hbackup hmod.symm]
      exact (hread.cached .backup).trans (if_pos hmod)
    · have hold := (hread.updated .backup).symm.trans hset
      rw [if_neg hmod] at hold
      exact ((hread.cached .backup).trans (if_neg hmod)).trans (hinv.backup hold)
  · intro module' version' hgot
    rw [hread.history] at hgot
    simp only [lastGot, and_true, eq_comm (a := module)] at hgot
    rw [hread.updated, hread.cached]
    split at hgot
    · next heq =>
        simpa [heq] using hgot
    · next hother =>
        simpa [hother] using hinv.got module' version' hgot
  · rw [hread.history]
    refine ⟨hinv.history, fun _ => ⟨fun hmod _ => by rw [hbackup hmod], ?_⟩⟩
    intro version' hgot
    -- A get before this one would have set the flag.
    have hset := (hinv.got module version' hgot).1
    simp [hflag] at hset
  · intro module' hset
    rw [hread.updated] at hset
    rw [hread.cached]
    split
    · exact hfits.2
    · next hother =>
        rw [if_neg hother] at hset
        exact hinv.short module' hset

/-- A get keeps the invariant. -/
theorem step_getFmwVersion
    (hinv : CacheInv s) {module : FmwModule} {toolOk : Bool}
    (hkept : CacheKept s (.getFmwVersion module toolOk)) :
    CacheInv (s.processGetFmwver false fmwverRpc module toolOk) := by
  rcases s.processGetFmwver_cases module toolOk with
    ⟨result, hfail, heq⟩ | ⟨hflag, heq⟩ | ⟨hflag, hok, hcached, heq, hne⟩
  · rw [heq]
    exact hinv.answer_failed hfail module
  · rw [heq]
    exact hinv.answer_cached hflag
  · rw [heq]
    refine hinv.readVersion hcached ?_ hflag hne (hkept hflag hok hne)
    rintro rfl
    rfl

/-- An update request keeps the invariant. -/
theorem step_firmwareUpdate
    (hinv : CacheInv s) (module : FmwModule) :
    CacheInv (s.processSetFmwupdate module) := by
  simp only [SysmgrState.processSetFmwupdate]
  split
  · exact hinv
  · refine ⟨?_, hinv.backup, hinv.got, hinv.history, hinv.short, hinv.bounds⟩
    intro command hmem
    rcases List.mem_append.mp hmem with hmem | hmem
    · exact hinv.tasks command hmem
    · exact List.mem_singleton.mp hmem

/-- An update that leaves a cached backup version as it is keeps the invariant. -/
theorem step_runTask
    (hinv : CacheInv s) {tasks : List Int} {tool : FmwTool}
    (hqueue : s.tasks = updateCommand :: tasks)
    (hkept : CacheKept s (.runTask tool)) :
    CacheInv (SysmgrState.processAsyncSetFmwupdate false
      { s with tasks := tasks } devOpRpc tool) := by
  have hflags : Function.update s.flags devOpRpc
      { s.flags devOpRpc with bkupFmwverUpdated := false } fmwverRpc = s.flags fmwverRpc :=
    Function.update_of_ne reached_objects.2.2 _ _
  refine ⟨?_, ?_, ?_, hinv.history, ?_, hinv.bounds⟩
  · intro command hmem
    exact hinv.tasks command (hqueue ▸ List.mem_cons_of_mem _ hmem)
  · intro hflag
    -- The flag that is cleared is not the one that the gets read.
    simp only [SysmgrState.processAsyncSetFmwupdate, hflags] at hflag
    exact (hinv.backup hflag).trans (hkept hflag).symm
  · intro module version hgot
    simp [SysmgrState.processAsyncSetFmwupdate, lastGot] at hgot
  · intro module hset
    simp only [SysmgrState.processAsyncSetFmwupdate, hflags] at hset
    exact hinv.short module hset

/-- One step keeps the invariant. -/
theorem step_preserves
    {l : SysmgrLabel} {t : SysmgrState}
    (hinv : CacheInv s) (hkept : CacheKept s l)
    (hstep : SysmgrState.step false s l = some t) :
    CacheInv t := by
  cases l with
  | getFmwVersion module toolOk =>
      rw [SysmgrState.step_getFmwVersion] at hstep
      obtain rfl := Option.some.inj hstep
      exact hinv.step_getFmwVersion hkept
  | firmwareUpdate module =>
      rw [SysmgrState.step_firmwareUpdate] at hstep
      obtain rfl := Option.some.inj hstep
      exact hinv.step_firmwareUpdate module
  | runTask tool =>
      obtain ⟨tasks, hqueue, rfl⟩ := SysmgrState.step_runTask_cases hinv.tasks hstep
      exact hinv.step_runTask hqueue hkept

/-- The invariant when the manager has been started. -/
theorem start
    (tool : FmwTool) :
    CacheInv (SysmgrState.start tool) where
  tasks := by simp [SysmgrState.start]
  backup := by simp [SysmgrState.start]
  got := by simp [SysmgrState.start, lastGot]
  history := trivial
  short := by
    intro module hset
    cases module <;> cases hset
  bounds := ⟨by simp [SysmgrState.start], rfl⟩

end CacheInv

/-- In every run in which no update changes a backup version that is in the
cache and every version that is read fits, the gets agree with the tool and with
each other and stay inside the arrays. -/
theorem historyOk_run
    {tool : FmwTool} {ls : List SysmgrLabel} {s : SysmgrState}
    (hkept : Meets (SysmgrState.step false) CacheKept (SysmgrState.start tool) ls)
    (hrun : run (SysmgrState.step false) (SysmgrState.start tool) ls = some s) :
    HistoryOk s.history ∧ InBounds s := by
  have hinv : CacheInv s := run_invariant_of_meets
    (fun _ _ _ hinv hkept hstep => hinv.step_preserves hkept hstep)
    (CacheInv.start tool) hkept hrun
  exact ⟨hinv.history, hinv.bounds⟩

/-- The tool before an update. -/
def oldTool : FmwTool :=
  ⟨text "00.02\n", text "00.01\n"⟩

/-- The tool after an update. -/
def newTool : FmwTool :=
  ⟨text "00.02\n", text "00.03\n"⟩

/-- An update before the first get, and two gets after it. -/
def updateThenGets : List SysmgrLabel :=
  [ .getFmwVersion .current true, .firmwareUpdate .project, .runTask newTool,
    .getFmwVersion .backup true, .getFmwVersion .backup false,
    .getFmwVersion .current false ]

/-- The new version is returned when the old one has not been read before. -/
theorem historyOk_updateThenGets :
    ∃ s, run (SysmgrState.step false) (SysmgrState.start oldTool) updateThenGets = some s ∧
      HistoryOk s.history ∧ InBounds s ∧
      .got .backup .success (text "00.03") newTool ∈ s.history := by
  have hkept : Meets (SysmgrState.step false) CacheKept
      (SysmgrState.start oldTool) updateThenGets := by
    decide +kernel
  have hhistory : (run (SysmgrState.step false) (SysmgrState.start oldTool)
      updateThenGets).map SysmgrState.history =
        some
          [ .got .current .success (text "00.02") newTool,
            .got .backup .success (text "00.03") newTool,
            .got .backup .success (text "00.03") newTool, .updated,
            .got .current .success (text "00.02") oldTool ] := by
    decide +kernel
  obtain ⟨s, hrun, hs⟩ := Option.map_eq_some_iff.mp hhistory
  obtain ⟨hok, hbounds⟩ := historyOk_run hkept hrun
  exact ⟨s, hrun, hok, hbounds, hs ▸ .tail _ (.head _)⟩

/-- The backup version is read, updated and read again. -/
def getUpdateGet : List SysmgrLabel :=
  [ .getFmwVersion .backup true, .firmwareUpdate .project, .runTask newTool,
    .getFmwVersion .backup true ]

/-- After the update the old backup version is returned. -/
theorem not_historyOk_update :
    ∃ s, run (SysmgrState.step false) (SysmgrState.start oldTool) getUpdateGet = some s ∧
      ¬ HistoryOk s.history := by
  have hhistory : (run (SysmgrState.step false) (SysmgrState.start oldTool)
      getUpdateGet).map SysmgrState.history =
        some
          [ .got .backup .success (text "00.01") newTool, .updated,
            .got .backup .success (text "00.01") oldTool ] := by
    decide +kernel
  obtain ⟨s, hrun, hs⟩ := Option.map_eq_some_iff.mp hhistory
  refine ⟨s, hrun, ?_⟩
  rw [hs]
  intro hok
  have htool : text "00.01" = versionText newTool.backup := (hok.2 rfl).1 rfl (.head _)
  exact absurd htool (by decide +kernel)

end Sysmgr
end BrBox
