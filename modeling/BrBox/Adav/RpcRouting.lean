import BrBox.Adav.JsonRpcProxy
import BrBox.Lib.CxxText
import BrBox.Lib.LabelledRun
import Mathlib.Data.List.Nodup

/-!
# Routing of requests and tasks to their handlers

A service attaches its RPC handlers to `ADJsonRpcMgr` one after the other.
`Start` registers the common methods and then every handler's name with its
position in the list.  A request is mapped, processed and answered by the
handler at the position of its method; the handler is given its own index.  A
task is queued under the index that the handler passes, and the worker thread
takes this index for a position.

* `routed_iff`: in every run every request and every task reaches the handler
  it belongs to, exactly when all handlers are attached in the order of their
  own indices under names that can be registered.
* `not_routed_swapped`: two handlers attached in the other order run each
  other's tasks.
-/

namespace BrBox
namespace Adav

open CText
open CxxText
open LabelledRun

/-! ## The manager -/

/-- `ADJsonRpcMgrConsumer`: the name of a handler, which `Start` copies as a C
string, and its own index. -/
structure RpcHandler where
  strRpcName : Bytes
  index : Int
  nul_not_mem : (0 : Byte) ∉ strRpcName
deriving DecidableEq, Repr

/-- The constructor, which every service calls with a C string. -/
def RpcHandler.new (rpcName : Bytes) (consumerIndex : Int) : RpcHandler where
  strRpcName := cString rpcName
  index := consumerIndex
  nul_not_mem := zero_not_mem_cString rpcName

/-- `CmnRpcHandler` of the two services that attach one. -/
def cmnRpcHandler : RpcHandler :=
  .new (text "cmnrpc") 0

/-- The methods common to all services, in the order of `EJSON_RPCGMGR_CMD`. -/
def commonRpcs : List Bytes :=
  [ text "get_rpc_req_status", text "get_rpc_srv_version",
    text "trigger_settings_save", text "get_settings_status",
    text "trigger_shutdown", text "reset_task_status", text "get_ready_status",
    text "get_debug_logging", text "set_debug_logging",
    text "trigger_factory_store", text "trigger_factory_restore",
    text "subscribe_event", text "unsubscribe_event", text "notify_event",
    text "process_event", text "run_now", text "get_devop_state",
    text "set_devop_state", text "read_byte", text "write_byte",
    text "read_word", text "write_word", text "read_dword", text "write_dword" ]

/-- `EJSON_RPCGMGR_CMD_END`. -/
def cmdEnd : Int := 24

/-- The loop of `Start` over the attached handlers, from a position on. -/
def attachLoop (methods : List RpcCommand) : Nat → List RpcHandler → List RpcCommand
  | _, [] => methods
  | i, h :: hs => attachLoop (attachRpcMethod methods h.strRpcName (i + cmdEnd)) (i + 1) hs

/-- The common methods with their numbers. -/
def commonMethods : List RpcCommand :=
  commonRpcs.zipIdx.map fun m => { method := m.1, methodIndex := m.2 }

/-- The registered methods after `Start`. -/
def startMethods (rpclist : List RpcHandler) : List RpcCommand :=
  attachLoop commonMethods 0 rpclist

/-- The handler of a number, with the checks of `MapJsonToBinary`, `ProcessWork`,
`MapBinaryToJson` and `AsyncTaskWork`. -/
def getRpcHandler (rpclist : List RpcHandler) (cmd : Int) : Option RpcHandler :=
  if (rpclist.length : Int) ≤ cmd - cmdEnd then
    none
  else if cmd - cmdEnd < 0 then
    none
  else
    rpclist[(cmd - cmdEnd).toNat]?

/-- A call of a handler, with the index that it is given. -/
inductive HandlerCall where
  | mapJsonToBinary (h : RpcHandler) (index : Int)
  | processWork (h : RpcHandler) (index : Int)
  | mapBinaryToJson (h : RpcHandler) (index : Int)
  | processWorkAsync (h : RpcHandler) (index : Int) (data : Bytes)
deriving DecidableEq, Repr

/-- What has happened: a request was served with these calls, or a task that a
handler queued was run with this call or not at all. -/
inductive RouteEvent where
  | served (method : Bytes) (calls : List HandlerCall)
  | ran (h : RpcHandler) (data : Bytes) (call : Option HandlerCall)
deriving DecidableEq, Repr

/-- A queued task, with the handler that queued it. -/
structure RoutedTask where
  command : Int
  data : Bytes
  owner : RpcHandler
deriving DecidableEq, Repr

/-- The manager of a started service. -/
structure RpcMgrState where
  rpclist : List RpcHandler
  methods : List RpcCommand
  tasks : List RoutedTask
  events : List RouteEvent
deriving DecidableEq, Repr

/-- A request of a method, with what its handler does: whether it accepts the
parameters and what it queues with its own index; or the next task is run. -/
inductive RouteLabel where
  | request (method : Bytes) (accepted : Bool) (queued : List Bytes)
  | runTask
deriving DecidableEq, Repr

namespace RpcMgrState

/-- `AttachRpc` for every handler, then `Start`. -/
def start (rpclist : List RpcHandler) : RpcMgrState :=
  { rpclist := rpclist
    methods := startMethods rpclist
    tasks := []
    events := [] }

/-- `PushAsyncTask`. -/
def pushAsyncTask
    (s : RpcMgrState) (h : RpcHandler) (cmd : Int) (data : Bytes) : RpcMgrState :=
  { s with tasks := s.tasks ++ [⟨cmd + cmdEnd, data, h⟩] }

/-- The request thread: `process_json_to_binary`, `process_work` and
`process_binary_to_json`.  A common method and an unknown one reach no handler. -/
def request
    (s : RpcMgrState) (method : Bytes) (accepted : Bool) (queued : List Bytes) :
    RpcMgrState :=
  match (isThisMethodRegistered s.methods method).bind
    fun m => getRpcHandler s.rpclist m.methodIndex with
  | none => { s with events := s.events ++ [.served method []] }
  | some h =>
      if accepted then
        let pushed := queued.foldl (fun s data => s.pushAsyncTask h h.index data) s
        { pushed with
          events := pushed.events ++
            [.served method
              [.mapJsonToBinary h h.index, .processWork h h.index,
                .mapBinaryToJson h h.index]] }
      else
        { s with
          events := s.events ++ [.served method [.mapJsonToBinary h h.index]] }

/-- The worker thread: `run_work` and `AsyncTaskWork`. -/
def runTask (s : RpcMgrState) : Option RpcMgrState :=
  match s.tasks with
  | [] => none
  | task :: tasks =>
      some
        { s with
          tasks := tasks
          events := s.events ++
            [.ran task.owner task.data
              ((getRpcHandler s.rpclist task.command).map fun h =>
                .processWorkAsync h (task.command - cmdEnd) task.data)] }

/-- One step. -/
def step (s : RpcMgrState) : RouteLabel → Option RpcMgrState
  | .request method accepted queued => some (s.request method accepted queued)
  | .runTask => s.runTask

end RpcMgrState

/-! ## What is promised -/

/-- The calls that serve a request for a handler. -/
def ServedBy (h : RpcHandler) (calls : List HandlerCall) : Prop :=
  calls = [.mapJsonToBinary h h.index] ∨
    calls = [.mapJsonToBinary h h.index, .processWork h h.index,
      .mapBinaryToJson h h.index]

/-- Requests and tasks reach the handler they belong to. -/
structure Routed (s : RpcMgrState) : Prop where
  requests : ∀ method calls, .served method calls ∈ s.events →
    ∀ h ∈ s.rpclist, h.strRpcName = method → ServedBy h calls
  tasks : ∀ h data call, .ran h data call ∈ s.events →
    call = some (.processWorkAsync h h.index data)

/-- Every handler is attached at the position of its own index, under a name
that can be registered and is not a common one. -/
structure AttachedInOrder (rpclist : List RpcHandler) : Prop where
  position : ∀ (i : Nat) (h : RpcHandler), rpclist[i]? = some h → h.index = i
  length : ∀ h ∈ rpclist, h.strRpcName.length < 256
  special : ∀ h ∈ rpclist, h.strRpcName ∉ commonRpcs

instance (rpclist : List RpcHandler) : Decidable (AttachedInOrder rpclist) :=
  decidable_of_iff
    ((∀ p ∈ rpclist.zipIdx, p.1.index = (p.2 : Int)) ∧
      (∀ h ∈ rpclist, h.strRpcName.length < 256) ∧
      ∀ h ∈ rpclist, h.strRpcName ∉ commonRpcs)
    ⟨fun hall => ⟨fun i h hi => hall.1 (h, i) (List.mk_mem_zipIdx_iff_getElem?.mpr hi),
        hall.2.1, hall.2.2⟩,
      fun hall => ⟨fun p hp => hall.position p.2 p.1
          (List.mk_mem_zipIdx_iff_getElem?.mp hp), hall.length, hall.special⟩⟩

/-! ## Lookup -/

/-- The first method of a name is the first common one or the first handler of
that name that could be registered. -/
theorem isThisMethodRegistered_attachLoop
    (name : Bytes) (methods : List RpcCommand) (i : Nat) (hs : List RpcHandler) :
    isThisMethodRegistered (attachLoop methods i hs) name =
      (isThisMethodRegistered methods name).or
        (((hs.zipIdx i).find? fun p => p.1.strRpcName = name ∧ name.length < 256).map
          fun p => { method := name, methodIndex := (p.2 : Int) + cmdEnd }) := by
  induction hs generalizing methods i with
  | nil =>
      simp [attachLoop]
  | cons h hs ih =>
      rw [attachLoop, ih, List.zipIdx_cons]
      unfold attachRpcMethod isThisMethodRegistered
      by_cases hname : h.strRpcName = name
      · subst hname
        by_cases hlong : 256 ≤ h.strRpcName.length
        · have hnot : ¬ h.strRpcName.length < 256 := by
            omega
          simp [hlong, hnot]
        · have hlt : h.strRpcName.length < 256 := by
            omega
          cases hfind : methods.find? (fun m => m.method = h.strRpcName) with
          | none =>
              simp [hlong, hlt, hfind, List.find?_append]
          | some m =>
              simp [hlong, hfind, List.find?_append]
      · by_cases hlong : 256 ≤ h.strRpcName.length
        · simp [hlong, hname]
        · simp [hlong, hname, List.find?_append]

/-- A common method has a number below those of the handlers. -/
theorem isThisMethodRegistered_commonMethods
    (name : Bytes) :
    match isThisMethodRegistered commonMethods name with
    | none => name ∉ commonRpcs
    | some m => name ∈ commonRpcs ∧ m.methodIndex < cmdEnd := by
  cases hfind : isThisMethodRegistered commonMethods name with
  | none =>
      intro hmem
      obtain ⟨k, hk, rfl⟩ := List.mem_iff_getElem.mp hmem
      have hnone := List.find?_eq_none.mp hfind
        { method := commonRpcs[k], methodIndex := (k : Int) }
        (List.mem_map.mpr ⟨(commonRpcs[k], k),
          List.mk_mem_zipIdx_iff_getElem?.mpr (List.getElem?_eq_getElem hk), rfl⟩)
      simp at hnone
  | some m =>
      obtain ⟨⟨n, k⟩, hmem, rfl⟩ := List.mem_map.mp (List.mem_of_find?_eq_some hfind)
      have hk := List.mk_mem_zipIdx_iff_getElem?.mp hmem
      have hname : n = name := by
        simpa using List.find?_some hfind
      have hlt : k < commonRpcs.length := (List.getElem?_eq_some_iff.mp hk).1
      refine ⟨hname ▸ List.mem_of_getElem? hk, ?_⟩
      simp only [commonRpcs, List.length_cons, List.length_nil] at hlt
      simp only [cmdEnd]
      omega

/-- The handler of a number is the one at its position. -/
theorem getRpcHandler_eq_some_iff
    {hs : List RpcHandler} {cmd : Int} {h : RpcHandler} :
    getRpcHandler hs cmd = some h ↔
      cmdEnd ≤ cmd ∧ hs[(cmd - cmdEnd).toNat]? = some h := by
  unfold getRpcHandler
  constructor
  · intro hsome
    split at hsome
    · cases hsome
    · split at hsome
      · cases hsome
      · exact ⟨by omega, hsome⟩
  · rintro ⟨hle, hget⟩
    have hlt : (cmd - cmdEnd).toNat < hs.length := (List.getElem?_eq_some_iff.mp hget).1
    rw [if_neg (by omega), if_neg (by omega)]
    exact hget

/-- The handler at a position has the position's number after the common ones. -/
theorem getRpcHandler_of_getElem?
    {hs : List RpcHandler} {k : Nat} {h : RpcHandler} (hget : hs[k]? = some h) :
    getRpcHandler hs (k + cmdEnd) = some h := by
  have hnat : ((k : Int) + cmdEnd - cmdEnd).toNat = k := by
    omega
  rw [getRpcHandler_eq_some_iff, hnat]
  exact ⟨by omega, hget⟩

/-- The handler that serves the requests of a method. -/
def syncHandler (hs : List RpcHandler) (method : Bytes) : Option RpcHandler :=
  (isThisMethodRegistered (startMethods hs) method).bind
    fun m => getRpcHandler hs m.methodIndex

/-- Requests reach the handler of their name, unless the name is a common one or
was not registered. -/
theorem syncHandler_eq_some_iff
    {hs : List RpcHandler} (hnames : (hs.map fun h => h.strRpcName).Nodup)
    {method : Bytes} {h : RpcHandler} :
    syncHandler hs method = some h ↔
      h ∈ hs ∧ h.strRpcName = method ∧ method.length < 256 ∧
        method ∉ commonRpcs := by
  have hcommon := isThisMethodRegistered_commonMethods method
  unfold syncHandler startMethods
  rw [isThisMethodRegistered_attachLoop]
  cases hfind : isThisMethodRegistered commonMethods method with
  | some m =>
      rw [hfind] at hcommon
      obtain ⟨hmem, hlt⟩ := hcommon
      constructor
      · intro hsome
        simp only [Option.some_or, Option.bind_some, getRpcHandler_eq_some_iff] at hsome
        omega
      · rintro ⟨-, -, -, hnot⟩
        exact absurd hmem hnot
  | none =>
      rw [hfind] at hcommon
      simp only [Option.none_or, Option.bind_map]
      cases hreg : (hs.zipIdx 0).find? (fun p =>
          p.1.strRpcName = method ∧ method.length < 256) with
      | none =>
          constructor
          · intro hsome
            simp at hsome
          · rintro ⟨hmem, hname, hlength, -⟩
            obtain ⟨k, hk, rfl⟩ := List.mem_iff_getElem.mp hmem
            have hnone := List.find?_eq_none.mp hreg (hs[k], k)
              (List.mk_mem_zipIdx_iff_getElem?.mpr (List.getElem?_eq_getElem hk))
            simp [hname, hlength] at hnone
      | some p =>
          have hget := List.mk_mem_zipIdx_iff_getElem?.mp (List.mem_of_find?_eq_some hreg)
          have hp := List.find?_some hreg
          simp only [decide_eq_true_eq] at hp
          simp only [Option.bind_some, Function.comp_apply, getRpcHandler_of_getElem? hget]
          constructor
          · intro heq
            obtain rfl := Option.some.inj heq
            exact ⟨List.mem_of_getElem? hget, hp.1, hp.2, hcommon⟩
          · rintro ⟨hmem, hname, -, -⟩
            rw [List.inj_on_of_nodup_map hnames (List.mem_of_getElem? hget) hmem
              (hp.1.trans hname.symm)]

/-! ## Runs -/

/-- The tasks that a handler queues during one request. -/
theorem foldl_pushAsyncTask
    (h : RpcHandler) (cmd : Int) (queued : List Bytes) (s : RpcMgrState) :
    queued.foldl (fun s data => s.pushAsyncTask h cmd data) s =
      { s with tasks := s.tasks ++ queued.map fun data => ⟨cmd + cmdEnd, data, h⟩ } := by
  induction queued generalizing s with
  | nil =>
      simp
  | cons data queued ih =>
      rw [List.foldl_cons, ih]
      simp [RpcMgrState.pushAsyncTask]

/-- What holds in every state of a service: queued tasks carry the index of
their handler. -/
structure RouteInv (hs : List RpcHandler) (s : RpcMgrState) : Prop where
  rpclist : s.rpclist = hs
  methods : s.methods = startMethods hs
  tasks : ∀ task ∈ s.tasks, task.owner ∈ hs ∧ task.command = task.owner.index + cmdEnd
  routed : Routed s

namespace RouteInv

variable {hs : List RpcHandler}
variable {s t : RpcMgrState}

/-- Nothing has been served. -/
theorem start
    (hs : List RpcHandler) :
    RouteInv hs (RpcMgrState.start hs) := by
  constructor
  · rfl
  · rfl
  · simp [RpcMgrState.start]
  · constructor
    · simp [RpcMgrState.start]
    · simp [RpcMgrState.start]

/-- The handler of a request in any state of the service. -/
theorem bind_getRpcHandler
    (hinv : RouteInv hs s) (method : Bytes) :
    ((isThisMethodRegistered s.methods method).bind
      fun m => getRpcHandler s.rpclist m.methodIndex) = syncHandler hs method := by
  rw [hinv.methods, hinv.rpclist, syncHandler]

/-- Serving one more request. -/
theorem routed_served
    (hinv : RouteInv hs s) {method : Bytes} {calls : List HandlerCall}
    (hserved : ∀ h ∈ hs, h.strRpcName = method → ServedBy h calls)
    (tasks : List RoutedTask) :
    Routed { s with tasks := tasks, events := s.events ++ [.served method calls] } := by
  constructor
  · intro method' calls' hmem h hh hname
    rcases List.mem_append.mp hmem with hold | hnew
    · exact hinv.routed.requests method' calls' hold h hh hname
    · obtain ⟨rfl, rfl⟩ := RouteEvent.served.inj (List.mem_singleton.mp hnew)
      exact hserved h (hinv.rpclist ▸ hh) hname
  · intro h data call hmem
    rcases List.mem_append.mp hmem with hold | hnew
    · exact hinv.routed.tasks h data call hold
    · cases List.mem_singleton.mp hnew

/-- Requests of handlers with proper names reach them. -/
theorem request
    (hinv : RouteInv hs s) (hnames : (hs.map fun h => h.strRpcName).Nodup)
    (hattached : AttachedInOrder hs)
    (method : Bytes) (accepted : Bool) (queued : List Bytes) :
    RouteInv hs (s.request method accepted queued) := by
  -- the handler that was found is the only one of that name
  have hfound : ∀ h ∈ hs, h.strRpcName = method → syncHandler hs method = some h := by
    rintro h hh rfl
    exact (syncHandler_eq_some_iff hnames).mpr
      ⟨hh, rfl, hattached.length h hh, hattached.special h hh⟩
  unfold RpcMgrState.request
  rw [hinv.bind_getRpcHandler]
  cases hsync : syncHandler hs method with
  | none =>
      refine ⟨hinv.rpclist, hinv.methods, hinv.tasks, ?_⟩
      apply hinv.routed_served
      intro h hh hname
      rw [hfound h hh hname] at hsync
      cases hsync
  | some h₀ =>
      have hsame : ∀ h ∈ hs, h.strRpcName = method → h = h₀ := by
        intro h hh hname
        rw [hfound h hh hname] at hsync
        exact Option.some.inj hsync
      have hh₀ : h₀ ∈ hs := ((syncHandler_eq_some_iff hnames).mp hsync).1
      cases accepted with
      | false =>
          refine ⟨hinv.rpclist, hinv.methods, hinv.tasks, ?_⟩
          apply hinv.routed_served
          intro h hh hname
          obtain rfl := hsame h hh hname
          exact Or.inl rfl
      | true =>
          simp only [if_true, foldl_pushAsyncTask]
          refine ⟨hinv.rpclist, hinv.methods, ?_, ?_⟩
          · intro task htask
            rcases List.mem_append.mp htask with hold | hnew
            · exact hinv.tasks task hold
            · obtain ⟨data, -, rfl⟩ := List.mem_map.mp hnew
              exact ⟨hh₀, rfl⟩
          · apply hinv.routed_served
            intro h hh hname
            obtain rfl := hsame h hh hname
            exact Or.inr rfl

/-- A task runs on the handler at the position of its owner's index. -/
theorem runTask
    (hinv : RouteInv hs s) (hattached : AttachedInOrder hs)
    (hstep : s.runTask = some t) :
    RouteInv hs t := by
  unfold RpcMgrState.runTask at hstep
  split at hstep
  next => cases hstep
  next task tasks hqueue =>
    obtain rfl := Option.some.inj hstep
    obtain ⟨howner, hcommand⟩ := hinv.tasks task (by simp [hqueue])
    have hhandler : getRpcHandler s.rpclist task.command = some task.owner := by
      obtain ⟨k, hk⟩ := List.mem_iff_getElem?.mp howner
      have hposition : task.command = k + cmdEnd := by
        rw [hcommand, hattached.position k task.owner hk]
      rw [hinv.rpclist, hposition]
      exact getRpcHandler_of_getElem? hk
    refine ⟨hinv.rpclist, hinv.methods, ?_, ?_⟩
    · intro task' htask'
      exact hinv.tasks task' (by simp [hqueue, htask'])
    · constructor
      · intro method calls hmem
        rcases List.mem_append.mp hmem with hold | hnew
        · exact hinv.routed.requests method calls hold
        · cases List.mem_singleton.mp hnew
      · intro h data call hmem
        rcases List.mem_append.mp hmem with hold | hnew
        · exact hinv.routed.tasks h data call hold
        · obtain ⟨rfl, rfl, rfl⟩ := RouteEvent.ran.inj (List.mem_singleton.mp hnew)
          have hindex : task.command - cmdEnd = task.owner.index := by
            omega
          simp [hhandler, hindex]

end RouteInv

/-- With handlers attached in order everything is routed. -/
theorem AttachedInOrder.routed
    {hs : List RpcHandler} (hattached : AttachedInOrder hs)
    (hnames : (hs.map fun h => h.strRpcName).Nodup)
    {ls : List RouteLabel} {s : RpcMgrState}
    (hrun : run RpcMgrState.step (RpcMgrState.start hs) ls = some s) :
    Routed s := by
  have hinv : RouteInv hs s := by
    refine run_invariant ?_ (RouteInv.start hs) hrun
    intro s l t hinv hstep
    cases l with
    | request method accepted queued =>
        obtain rfl := Option.some.inj hstep
        exact hinv.request hnames hattached method accepted queued
    | runTask =>
        exact hinv.runTask hattached hstep
  exact hinv.routed

/-- A handler whose requests are served has a proper name. -/
theorem syncHandler_of_served
    {hs : List RpcHandler} (hnames : (hs.map fun h => h.strRpcName).Nodup)
    (hrouted : ∀ ls s, run RpcMgrState.step (RpcMgrState.start hs) ls = some s → Routed s)
    {h : RpcHandler} (hh : h ∈ hs) :
    syncHandler hs h.strRpcName = some h := by
  cases hsync : syncHandler hs h.strRpcName with
  | none =>
      have hstep : (RpcMgrState.start hs).request h.strRpcName true [] =
          { RpcMgrState.start hs with events := [.served h.strRpcName []] } := by
        unfold RpcMgrState.request
        rw [(RouteInv.start hs).bind_getRpcHandler, hsync]
        rfl
      have hrun : run RpcMgrState.step (RpcMgrState.start hs)
          [.request h.strRpcName true []] =
            some { RpcMgrState.start hs with events := [.served h.strRpcName []] } := by
        rw [← hstep]
        rfl
      have hserved := (hrouted _ _ hrun).requests h.strRpcName [] (by simp) h hh rfl
      rcases hserved with h | h
      · cases h
      · cases h
  | some h' =>
      obtain ⟨hh', hname, -⟩ := (syncHandler_eq_some_iff hnames).mp hsync
      rw [List.inj_on_of_nodup_map hnames hh' hh hname]

/-- A handler whose tasks come back to it sits at the position of its index. -/
theorem getRpcHandler_of_ran
    {hs : List RpcHandler} (hnames : (hs.map fun h => h.strRpcName).Nodup)
    (hrouted : ∀ ls s, run RpcMgrState.step (RpcMgrState.start hs) ls = some s → Routed s)
    {h : RpcHandler} (hh : h ∈ hs) :
    getRpcHandler hs (h.index + cmdEnd) = some h := by
  have hsync := syncHandler_of_served hnames hrouted hh
  have hstep : (RpcMgrState.start hs).request h.strRpcName true [[]] =
      { RpcMgrState.start hs with
        tasks := [⟨h.index + cmdEnd, [], h⟩]
        events := [.served h.strRpcName
          [.mapJsonToBinary h h.index, .processWork h h.index,
            .mapBinaryToJson h h.index]] } := by
    unfold RpcMgrState.request
    rw [(RouteInv.start hs).bind_getRpcHandler, hsync]
    rfl
  have hrun : run RpcMgrState.step (RpcMgrState.start hs)
      [.request h.strRpcName true [[]], .runTask] =
        ((RpcMgrState.start hs).request h.strRpcName true [[]]).runTask := by
    simp only [run, RpcMgrState.step]
    cases ((RpcMgrState.start hs).request h.strRpcName true [[]]).runTask with
    | none =>
        rfl
    | some t =>
        rfl
  rw [hstep] at hrun
  have hran := (hrouted _ _ hrun).tasks h []
    ((getRpcHandler hs (h.index + cmdEnd)).map fun h' =>
      .processWorkAsync h' (h.index + cmdEnd - cmdEnd) []) (by simp [RpcMgrState.start])
  obtain ⟨h', hget, hcall⟩ := Option.map_eq_some_iff.mp hran
  rw [hget, (HandlerCall.processWorkAsync.inj hcall).1]

/-- Everything is routed in every run iff the handlers are attached in order. -/
theorem routed_iff
    (hs : List RpcHandler) (hnames : (hs.map fun h => h.strRpcName).Nodup) :
    (∀ ls s, run RpcMgrState.step (RpcMgrState.start hs) ls = some s → Routed s) ↔
      AttachedInOrder hs := by
  constructor
  · intro hrouted
    have hproper : ∀ h ∈ hs, h.strRpcName.length < 256 ∧
        h.strRpcName ∉ commonRpcs := by
      intro h hh
      exact ((syncHandler_eq_some_iff hnames).mp
        (syncHandler_of_served hnames hrouted hh)).2.2
    constructor
    · intro i h hi
      have hh : h ∈ hs := List.mem_of_getElem? hi
      obtain ⟨hle, hget⟩ := getRpcHandler_eq_some_iff.mp
        (getRpcHandler_of_ran hnames hrouted hh)
      have hnodup : hs.Nodup := List.Nodup.of_map _ hnames
      have hsame : i = (h.index + cmdEnd - cmdEnd).toNat := by
        obtain ⟨hlt, heq⟩ := List.getElem?_eq_some_iff.mp hi
        obtain ⟨hlt', heq'⟩ := List.getElem?_eq_some_iff.mp hget
        exact hnodup.getElem_inj_iff.mp (heq.trans heq'.symm)
      omega
    · intro h hh
      exact (hproper h hh).1
    · intro h hh
      exact (hproper h hh).2
  · intro hattached ls s hrun
    exact hattached.routed hnames hrun

/-- Two handlers attached in the order of their indices. -/
def orderedHandlers : List RpcHandler :=
  [.new (text "get_mac_addr") 0, .new (text "set_mac_addr") 1]

theorem routed_orderedHandlers :
    (orderedHandlers.map fun h => h.strRpcName).Nodup ∧
      ∀ ls s, run RpcMgrState.step (RpcMgrState.start orderedHandlers) ls = some s →
        Routed s :=
  ⟨by decide, (routed_iff orderedHandlers (by decide)).mpr (by decide)⟩

/-- The same handlers attached in the other order. -/
def swappedHandlers : List RpcHandler :=
  [.new (text "set_mac_addr") 1, .new (text "get_mac_addr") 0]

theorem not_routed_swapped :
    (swappedHandlers.map fun h => h.strRpcName).Nodup ∧
    (swappedHandlers.map fun h => h.index).Nodup ∧
    ∃ s, run RpcMgrState.step (RpcMgrState.start swappedHandlers)
        [.request (text "set_mac_addr") true [text "02:00:00:00:00:01"], .runTask] =
          some s ∧
      ¬ Routed s := by
  refine ⟨by decide, by decide, ?_⟩
  refine ⟨_, rfl, ?_⟩
  intro hrouted
  have hran := hrouted.tasks (.new (text "set_mac_addr") 1) (text "02:00:00:00:00:01")
    (some (.processWorkAsync (.new (text "get_mac_addr") 0) 1 (text "02:00:00:00:00:01")))
    (by decide)
  revert hran
  decide

end Adav
end BrBox
