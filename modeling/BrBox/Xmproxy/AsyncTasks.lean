import BrBox.Lib.LabelledRun
import BrBox.Xmproxy.XmppMgr

/-!
# Asynchronous commands and their completion

A command that starts a task of a service is answered twice: at once with the
proxy's own task id, and once more when the service reports the end of the
task.  The command thread enters the task into `AsyncTaskList` after the call
has returned; the event thread looks the task up and erases it when the event
arrives, asks the service for the result and sends the second reply.

A task is known by its id and the port of its service.  One step concerns one
task, so the invariant says what a task's own part of the state, its `View`,
may look like: eight phases from a task nobody knows to an answered one.

* `completionsOk_run`: every completion reaches its sender after the
  In-Progress reply, in every run whose events are looked up in time.
* `not_completionsOk_fastTask`: a task that ends before its entry exists is
  never answered.
-/

namespace BrBox
namespace Xmproxy

open CText
open CxxText
open Adav
open LabelledRun

/-! ## Threads and messages -/

/-- A task of a service: the id it handed out and its port. -/
@[ext] structure TaskKey where
  taskID : Int
  srvPort : Int
deriving DecidableEq, Repr

/-- The task that an entry stands for. -/
def AyncEventEntry.taskKey (e : AyncEventEntry) : TaskKey :=
  ⟨e.taskID, e.srvPort⟩

/-- The two threads that send replies. -/
inductive Sender where
  | cmdThread
  | evntThread
deriving DecidableEq, Repr

/-- A chat message, with the task that it is about and the thread it is from. -/
structure ChatMsg where
  task : TaskKey
  origin : Sender
  sentTo : Bytes
  body : Bytes
deriving DecidableEq, Repr

/-- What a started command returns: the proxy's own task id. -/
def taskIDText (x : Int) : Bytes :=
  text "taskID=" ++ decimalText x

/-- The text that `RpcResponseCallback` sends. -/
def completionText (taskRes : Bytes) (x : Int) : Bytes :=
  text "return=" ++ taskRes ++ text " : " ++ text "result=" ++ taskIDText x

/-- The sender is told that its command is in progress as task `x`. -/
def inProgMsg (k : TaskKey) (x : Int) (sender : Bytes) : ChatMsg :=
  ⟨k, .cmdThread, sender, responseText .inProg (taskIDText x)⟩

/-- The sender is told the result of task `x`. -/
def doneMsg (k : TaskKey) (x : Int) (sender taskRes : Bytes) : ChatMsg :=
  ⟨k, .evntThread, sender, completionText taskRes x⟩

/-- The command thread: between commands, after the call of an asynchronous
one, and after its entry was made. -/
inductive CmdPc where
  | idle
  | queued (k : TaskKey) (sender tID : Bytes)
  | inserted (k : TaskKey) (sender returnval : Bytes)
deriving DecidableEq, Repr

/-- The task that the command thread works on. -/
def CmdPc.task? : CmdPc → Option TaskKey
  | .idle => none
  | .queued k _ _ => some k
  | .inserted k _ _ => some k

/-- The task that waits for its entry. -/
def CmdPc.queued? : CmdPc → Option TaskKey
  | .queued k _ _ => some k
  | _ => none

/-- The event thread: outside `ReceiveEvent`, after the lookup, and after the
result was fetched. -/
inductive EvntPc where
  | idle
  | found (k : TaskKey) (xmpTID : Int) (replyTo : Bytes)
  | status (k : TaskKey) (xmpTID : Int) (replyTo taskRes : Bytes)
deriving DecidableEq, Repr

/-- The task that the event thread works on. -/
def EvntPc.task? : EvntPc → Option TaskKey
  | .idle => none
  | .found k _ _ => some k
  | .status k _ _ _ => some k

/-- The proxy, its two threads and what the services have done: every task with
the sender whose command started it, and the tasks whose end was reported. -/
structure AsyncState where
  proxy : Proxy
  tasks : List (TaskKey × Option Bytes)
  delivered : List TaskKey
  cmd : CmdPc
  evnt : EvntPc
  chat : List ChatMsg
deriving DecidableEq, Repr

/-- Nothing has been started. -/
def AsyncState.initial : AsyncState :=
  { proxy := Proxy.initial
    tasks := []
    delivered := []
    cmd := .idle
    evnt := .idle
    chat := [] }

/-- A service hands out an id it has not used before. -/
def AsyncState.Fresh (s : AsyncState) (k : TaskKey) : Prop :=
  -2 ^ 31 ≤ k.taskID ∧ k.taskID < 2 ^ 31 ∧ s.tasks.lookup k = none

instance (s : AsyncState) (k : TaskKey) : Decidable (s.Fresh k) :=
  inferInstanceAs (Decidable (_ ∧ _ ∧ _))

/-- One step of a thread or of a service. -/
inductive AsyncLabel where
  | rpc (k : TaskKey) (sender : Bytes)
  | otherTask (k : TaskKey)
  | insert
  | replyInProg
  | receiveEvent (k : TaskKey)
  | getStatus (reachable : Bool) (taskRes : Bytes)
  | replyDone
deriving DecidableEq, Repr

namespace AsyncState

/-- The command thread makes its call and the service queues the task. -/
def rpc (s : AsyncState) (k : TaskKey) (sender : Bytes) : Option AsyncState :=
  match s.cmd with
  | .idle =>
      if s.Fresh k then
        some
          { s with
            tasks := s.tasks ++ [(k, some sender)]
            cmd := .queued k sender (decimalText k.taskID) }
      else
        none
  | _ => none

/-- A service queues a task for somebody else. -/
def otherTask (s : AsyncState) (k : TaskKey) : Option AsyncState :=
  if s.Fresh k then
    some { s with tasks := s.tasks ++ [(k, none)] }
  else
    none

/-- The command thread remembers the task. -/
def insert (ctx : Context) (s : AsyncState) : Option AsyncState :=
  match s.cmd with
  | .queued k sender tID =>
      let outcome :=
        finishAsync { ctx with sender := sender } k.srvPort .inProg tID s.proxy
      some
        { s with
          proxy := outcome.2.2
          cmd := .inserted k sender outcome.2.1 }
  | _ => none

/-- The command thread answers the command. -/
def replyInProg (s : AsyncState) : Option AsyncState :=
  match s.cmd with
  | .inserted k sender returnval =>
      some
        { s with
          cmd := .idle
          chat := s.chat ++
            [⟨k, .cmdThread, sender, responseText .inProg returnval⟩] }
  | _ => none

/-- `ReceiveEvent` with `ADLIB_EVENT_NUM_INPROG_DONE`, up to the lookup. -/
def receiveEvent (s : AsyncState) (k : TaskKey) : Option AsyncState :=
  match s.evnt with
  | .idle =>
      if s.tasks.lookup k ≠ none ∧ k ∉ s.delivered then
        match s.proxy.takeAsyncTask k.taskID k.srvPort with
        | (some (xmpTID, replyTo), p) =>
            some
              { s with
                proxy := p
                delivered := s.delivered ++ [k]
                evnt := .found k xmpTID replyTo }
        | (none, p) =>
            some { s with proxy := p, delivered := s.delivered ++ [k] }
      else
        none
  | _ => none

/-- `ReceiveEvent` asks the service for the result; it returns if it cannot
connect. -/
def getStatus (s : AsyncState) (reachable : Bool) (taskRes : Bytes) :
    Option AsyncState :=
  match s.evnt with
  | .found k xmpTID replyTo =>
      if reachable then
        some { s with evnt := .status k xmpTID replyTo taskRes }
      else
        some { s with evnt := .idle }
  | _ => none

/-- `RpcResponseCallback`. -/
def replyDone (s : AsyncState) : Option AsyncState :=
  match s.evnt with
  | .status k xmpTID replyTo taskRes =>
      some
        { s with
          evnt := .idle
          chat := s.chat ++
            [⟨k, .evntThread, replyTo, completionText taskRes xmpTID⟩] }
  | _ => none

/-- One step. -/
def step (ctx : Context) (s : AsyncState) : AsyncLabel → Option AsyncState
  | .rpc k sender => s.rpc k sender
  | .otherTask k => s.otherTask k
  | .insert => s.insert ctx
  | .replyInProg => s.replyInProg
  | .receiveEvent k => s.receiveEvent k
  | .getStatus reachable taskRes => s.getStatus reachable taskRes
  | .replyDone => s.replyDone

/-- The chat messages about one task, in order. -/
def chatOf (s : AsyncState) (k : TaskKey) : List ChatMsg :=
  s.chat.filter fun m => m.task = k

end AsyncState

/-! ## What is promised -/

/-- The event thread looks a task up only after its entry was made, replies only
after the In-Progress reply, and reaches the service. -/
def InTime (s : AsyncState) : AsyncLabel → Prop
  | .receiveEvent k => s.cmd.queued? ≠ some k
  | .getStatus reachable _ => reachable = true
  | .replyDone => s.cmd.task? = none ∨ s.cmd.task? ≠ s.evnt.task?
  | _ => True

instance (s : AsyncState) : (l : AsyncLabel) → Decidable (InTime s l)
  | .rpc _ _ => isTrue trivial
  | .otherTask _ => isTrue trivial
  | .insert => isTrue trivial
  | .replyInProg => isTrue trivial
  | .receiveEvent k => inferInstanceAs (Decidable (s.cmd.queued? ≠ some k))
  | .getStatus reachable _ => inferInstanceAs (Decidable (reachable = true))
  | .replyDone =>
      inferInstanceAs
        (Decidable (s.cmd.task? = none ∨ s.cmd.task? ≠ s.evnt.task?))

/-! ## One task -/

/-- The part of the state that belongs to one task. -/
structure TaskView where
  owner : Option (Option Bytes)
  delivered : Bool
  entries : List AyncEventEntry
  chat : List ChatMsg
  cmd : CmdPc
  evnt : EvntPc

/-- The entries of one task. -/
def Proxy.entriesOf (p : Proxy) (k : TaskKey) : List AyncEventEntry :=
  p.asyncTaskList.filter fun e => e.taskKey = k

/-- The command thread as one task sees it. -/
def CmdPc.on (pc : CmdPc) (k : TaskKey) : CmdPc :=
  if pc.task? = some k then pc else .idle

/-- The event thread as one task sees it. -/
def EvntPc.on (pc : EvntPc) (k : TaskKey) : EvntPc :=
  if pc.task? = some k then pc else .idle

/-- The part of the state that belongs to the task. -/
def AsyncState.view (s : AsyncState) (k : TaskKey) : TaskView :=
  { owner := s.tasks.lookup k
    delivered := k ∈ s.delivered
    entries := s.proxy.entriesOf k
    chat := s.chatOf k
    cmd := s.cmd.on k
    evnt := s.evnt.on k }

/-- The event thread has taken the entry and not replied. -/
def EvntPc.Took (pc : EvntPc) (k : TaskKey) (x : Int) (sender : Bytes) : Prop :=
  pc = .found k x sender ∨ ∃ taskRes, pc = .status k x sender taskRes

/-- The phases of a task. -/
inductive Phase (k : TaskKey) : TaskView → Prop where
  | unknown :
      Phase k ⟨none, false, [], [], .idle, .idle⟩
  | foreign (delivered : Bool) :
      Phase k ⟨some none, delivered, [], [], .idle, .idle⟩
  | queued (sender : Bytes)
      (hlow : -2 ^ 31 ≤ k.taskID) (hhigh : k.taskID < 2 ^ 31) :
      Phase k ⟨some (some sender), false, [], [],
        .queued k sender (decimalText k.taskID), .idle⟩
  | inserted (x : Int) (sender : Bytes) :
      Phase k ⟨some (some sender), false, [⟨k.taskID, k.srvPort, x, sender⟩], [],
        .inserted k sender (taskIDText x), .idle⟩
  | insertedTaken (x : Int) (sender : Bytes) (pc : EvntPc)
      (htook : pc.Took k x sender) :
      Phase k ⟨some (some sender), true, [], [],
        .inserted k sender (taskIDText x), pc⟩
  | told (x : Int) (sender : Bytes) :
      Phase k ⟨some (some sender), false, [⟨k.taskID, k.srvPort, x, sender⟩],
        [inProgMsg k x sender], .idle, .idle⟩
  | toldTaken (x : Int) (sender : Bytes) (pc : EvntPc)
      (htook : pc.Took k x sender) :
      Phase k ⟨some (some sender), true, [], [inProgMsg k x sender], .idle, pc⟩
  | answered (x : Int) (sender taskRes : Bytes) :
      Phase k ⟨some (some sender), true, [],
        [inProgMsg k x sender, doneMsg k x sender taskRes], .idle, .idle⟩

/-- Every task is in one of its phases. -/
def AsyncInv (s : AsyncState) : Prop :=
  ∀ k, Phase k (s.view k)

/-! ## What a step does to a task -/

@[simp] theorem CmdPc.on_idle
    (k : TaskKey) :
    CmdPc.idle.on k = .idle := by
  simp [CmdPc.on]

@[simp] theorem CmdPc.on_queued
    (j k : TaskKey) (sender tID : Bytes) :
    (CmdPc.queued j sender tID).on k =
      if k = j then .queued j sender tID else .idle := by
  simp [CmdPc.on, CmdPc.task?, eq_comm]

@[simp] theorem CmdPc.on_inserted
    (j k : TaskKey) (sender returnval : Bytes) :
    (CmdPc.inserted j sender returnval).on k =
      if k = j then .inserted j sender returnval else .idle := by
  simp [CmdPc.on, CmdPc.task?, eq_comm]

@[simp] theorem EvntPc.on_idle
    (k : TaskKey) :
    EvntPc.idle.on k = .idle := by
  simp [EvntPc.on]

@[simp] theorem EvntPc.on_found
    (j k : TaskKey) (x : Int) (replyTo : Bytes) :
    (EvntPc.found j x replyTo).on k =
      if k = j then .found j x replyTo else .idle := by
  simp [EvntPc.on, EvntPc.task?, eq_comm]

@[simp] theorem EvntPc.on_status
    (j k : TaskKey) (x : Int) (replyTo taskRes : Bytes) :
    (EvntPc.status j x replyTo taskRes).on k =
      if k = j then .status j x replyTo taskRes else .idle := by
  simp [EvntPc.on, EvntPc.task?, eq_comm]

/-- A new task is found under its own key. -/
theorem lookup_snoc
    {tasks : List (TaskKey × Option Bytes)} {j : TaskKey}
    (hfresh : tasks.lookup j = none) (owner : Option Bytes) (k : TaskKey) :
    (tasks ++ [(j, owner)]).lookup k =
      if k = j then some owner else tasks.lookup k := by
  rw [List.lookup_append]
  by_cases hk : k = j
  · subst hk
    simp [hfresh]
  · have hbeq : (k == j) = false := by
      simpa using hk
    simp [List.lookup_cons, hk, hbeq]

/-- An insert adds the entry of its task. -/
theorem Proxy.entriesOf_insertAsyncTask
    (p : Proxy) (j : TaskKey) (sender : Bytes) (k : TaskKey) :
    (p.insertAsyncTask j.taskID j.srvPort sender).2.entriesOf k =
      p.entriesOf k ++
        if k = j then
          [⟨j.taskID, j.srvPort, (p.insertAsyncTask j.taskID j.srvPort sender).1, sender⟩]
        else [] := by
  by_cases hk : k = j
  · subst hk
    simp [Proxy.entriesOf, Proxy.insertAsyncTask, AyncEventEntry.taskKey]
  · have hne : ¬ j = k := fun h => hk h.symm
    simp [Proxy.entriesOf, Proxy.insertAsyncTask, AyncEventEntry.taskKey, hk, hne]

/-- A lookup finds the first entry of its task. -/
theorem Proxy.takeAsyncTask_fst
    (p : Proxy) (k : TaskKey) :
    (p.takeAsyncTask k.taskID k.srvPort).1 =
      (p.entriesOf k).head?.map fun e => (e.xmppTID, e.replyTo) := by
  have hfind : p.asyncTaskList.find?
      (fun e => e.taskID = k.taskID ∧ e.srvPort = k.srvPort) =
        (p.entriesOf k).head? := by
    rw [Proxy.entriesOf, List.head?_filter]
    simp [AyncEventEntry.taskKey, TaskKey.ext_iff]
  unfold Proxy.takeAsyncTask
  rw [hfind]
  cases (p.entriesOf k).head? with
  | none =>
      rfl
  | some e =>
      rfl

/-- A lookup erases all entries of its task and no other. -/
theorem Proxy.entriesOf_takeAsyncTask
    (p : Proxy) (j k : TaskKey) :
    (p.takeAsyncTask j.taskID j.srvPort).2.entriesOf k =
      if k = j then [] else p.entriesOf k := by
  unfold Proxy.takeAsyncTask
  split
  next hfind =>
    split
    next hk =>
      subst hk
      rw [Proxy.entriesOf, List.filter_eq_nil_iff]
      intro e he
      simpa [AyncEventEntry.taskKey, TaskKey.ext_iff] using
        List.find?_eq_none.mp hfind e he
    next => rfl
  next e hfind =>
    simp only [Proxy.entriesOf, List.filter_filter]
    split
    next hk =>
      subst hk
      rw [List.filter_eq_nil_iff]
      intro e he
      simp [AyncEventEntry.taskKey, TaskKey.ext_iff]
    next hk =>
      apply List.filter_congr
      intro e he
      by_cases hek : e.taskKey = k
      · have hej : ¬ (e.taskID = j.taskID ∧ e.srvPort = j.srvPort) := by
          rintro ⟨hid, hport⟩
          apply hk
          rw [← hek]
          exact TaskKey.ext hid hport
        simp [hek, hej]
      · simp [hek]

section Views

variable {s t : AsyncState}

/-- A call makes its task known and gives it to the command thread. -/
theorem AsyncState.view_rpc
    {j : TaskKey} {sender : Bytes} (hstep : s.rpc j sender = some t) :
    s.Fresh j ∧ ∀ k, t.view k =
      if k = j then
        { s.view k with
          owner := some (some sender)
          cmd := .queued j sender (decimalText j.taskID) }
      else s.view k := by
  unfold AsyncState.rpc at hstep
  split at hstep
  next hcmd =>
    split at hstep
    next hfresh =>
      obtain rfl := Option.some.inj hstep
      refine ⟨hfresh, fun k => ?_⟩
      by_cases hk : k = j
      · simp [AsyncState.view, AsyncState.chatOf, lookup_snoc hfresh.2.2, hk]
      · simp [AsyncState.view, AsyncState.chatOf, lookup_snoc hfresh.2.2, hk, hcmd]
    next => cases hstep
  next => cases hstep

/-- A task of somebody else becomes known. -/
theorem AsyncState.view_otherTask
    {j : TaskKey} (hstep : s.otherTask j = some t) :
    s.Fresh j ∧ ∀ k, t.view k =
      if k = j then { s.view k with owner := some none } else s.view k := by
  unfold AsyncState.otherTask at hstep
  split at hstep
  next hfresh =>
    obtain rfl := Option.some.inj hstep
    refine ⟨hfresh, fun k => ?_⟩
    by_cases hk : k = j
    · simp [AsyncState.view, AsyncState.chatOf, lookup_snoc hfresh.2.2, hk]
    · simp [AsyncState.view, AsyncState.chatOf, lookup_snoc hfresh.2.2, hk]
  next => cases hstep

/-- The entry is made for the task that the service's text names. -/
theorem AsyncState.view_insert
    {ctx : Context} (hstep : s.insert ctx = some t) :
    ∃ j sender tID, s.cmd = .queued j sender tID ∧
      (atoi tID = j.taskID → ∃ x, ∀ k, t.view k =
        if k = j then
          { s.view k with
            entries := (s.view k).entries ++ [⟨j.taskID, j.srvPort, x, sender⟩]
            cmd := .inserted j sender (taskIDText x) }
        else s.view k) := by
  unfold AsyncState.insert at hstep
  split at hstep
  next j sender tID hcmd =>
    obtain rfl := Option.some.inj hstep
    refine ⟨j, sender, tID, hcmd, fun htid => ?_⟩
    refine ⟨(s.proxy.insertAsyncTask j.taskID j.srvPort sender).1, fun k => ?_⟩
    by_cases hk : k = j
    · simp [AsyncState.view, AsyncState.chatOf, finishAsync, htid,
        Proxy.entriesOf_insertAsyncTask, hk, taskIDText]
    · simp [AsyncState.view, AsyncState.chatOf, finishAsync, htid,
        Proxy.entriesOf_insertAsyncTask, hk, hcmd]
  next => cases hstep

/-- The reply of the command thread. -/
theorem AsyncState.view_replyInProg
    (hstep : s.replyInProg = some t) :
    ∃ j sender returnval, s.cmd = .inserted j sender returnval ∧
      ∀ k, t.view k =
        if k = j then
          { s.view k with
            chat := (s.view k).chat ++
              [⟨j, .cmdThread, sender, responseText .inProg returnval⟩]
            cmd := .idle }
        else s.view k := by
  unfold AsyncState.replyInProg at hstep
  split at hstep
  next j sender returnval hcmd =>
    obtain rfl := Option.some.inj hstep
    refine ⟨j, sender, returnval, hcmd, fun k => ?_⟩
    by_cases hk : k = j
    · simp [AsyncState.view, AsyncState.chatOf, hk]
    · have hne : ¬ j = k := fun h => hk h.symm
      simp [AsyncState.view, AsyncState.chatOf, hk, hne, hcmd]
  next => cases hstep

/-- The lookup of the event thread. -/
theorem AsyncState.view_receiveEvent
    {j : TaskKey} (hstep : s.receiveEvent j = some t) :
    s.tasks.lookup j ≠ none ∧ j ∉ s.delivered ∧
      ∀ k, t.view k =
        if k = j then
          { s.view k with
            delivered := true
            entries := []
            evnt :=
              match (s.view k).entries with
              | [] => .idle
              | e :: _ => .found j e.xmppTID e.replyTo }
        else s.view k := by
  unfold AsyncState.receiveEvent at hstep
  split at hstep
  next hevnt =>
    split at hstep
    next hguard =>
      refine ⟨hguard.1, hguard.2, fun k => ?_⟩
      have hfst := s.proxy.takeAsyncTask_fst j
      have hsnd := s.proxy.entriesOf_takeAsyncTask j k
      split at hstep
      next x replyTo p htake =>
        obtain rfl := Option.some.inj hstep
        rw [htake] at hfst hsnd
        by_cases hk : k = j
        · subst hk
          cases hentries : s.proxy.entriesOf k with
          | nil =>
              simp [hentries] at hfst
          | cons e es =>
              simp only [hentries, List.head?_cons, Option.map_some, Option.some.injEq,
                Prod.mk.injEq] at hfst
              simp only [if_true] at hsnd
              simp [AsyncState.view, AsyncState.chatOf, hsnd, hentries, hfst]
        · simp only [hk, if_false] at hsnd
          simp [AsyncState.view, AsyncState.chatOf, hsnd, hk, hevnt]
      next p htake =>
        obtain rfl := Option.some.inj hstep
        rw [htake] at hfst hsnd
        by_cases hk : k = j
        · subst hk
          have hentries : s.proxy.entriesOf k = [] := by
            simpa using hfst.symm
          simp only [if_true] at hsnd
          simp [AsyncState.view, AsyncState.chatOf, hsnd, hentries, hevnt]
        · simp only [hk, if_false] at hsnd
          simp [AsyncState.view, AsyncState.chatOf, hsnd, hk]
    next => cases hstep
  next => cases hstep

/-- The event thread gets the result, if it can connect. -/
theorem AsyncState.view_getStatus
    {taskRes : Bytes} (hstep : s.getStatus true taskRes = some t) :
    ∃ j x replyTo, s.evnt = .found j x replyTo ∧
      ∀ k, t.view k =
        if k = j then { s.view k with evnt := .status j x replyTo taskRes }
        else s.view k := by
  unfold AsyncState.getStatus at hstep
  split at hstep
  next j x replyTo hevnt =>
    obtain rfl := Option.some.inj hstep
    refine ⟨j, x, replyTo, hevnt, fun k => ?_⟩
    by_cases hk : k = j
    · simp [AsyncState.view, AsyncState.chatOf, hk]
    · simp [AsyncState.view, AsyncState.chatOf, hk, hevnt]
  next => cases hstep

/-- The reply of the event thread. -/
theorem AsyncState.view_replyDone
    (hstep : s.replyDone = some t) :
    ∃ j x replyTo taskRes, s.evnt = .status j x replyTo taskRes ∧
      ∀ k, t.view k =
        if k = j then
          { s.view k with
            chat := (s.view k).chat ++ [doneMsg j x replyTo taskRes]
            evnt := .idle }
        else s.view k := by
  unfold AsyncState.replyDone at hstep
  split at hstep
  next j x replyTo taskRes hevnt =>
    obtain rfl := Option.some.inj hstep
    refine ⟨j, x, replyTo, taskRes, hevnt, fun k => ?_⟩
    by_cases hk : k = j
    · simp [AsyncState.view, AsyncState.chatOf, hk, doneMsg]
    · have hne : ¬ j = k := fun h => hk h.symm
      simp [AsyncState.view, AsyncState.chatOf, hk, hne, hevnt]
  next => cases hstep

end Views

/-! ## Phases along a step -/

section Phases

variable {k : TaskKey}
variable {v : TaskView}

/-- Nothing exists of a task that no service knows. -/
theorem Phase.of_owner_none
    (hphase : Phase k v) (howner : v.owner = none) :
    v = ⟨none, false, [], [], .idle, .idle⟩ := by
  cases hphase with
  | unknown =>
      rfl
  | _ =>
      cases howner

/-- After the call there is no entry yet. -/
theorem Phase.of_queued
    (hphase : Phase k v) {j : TaskKey} {sender tID : Bytes}
    (hcmd : v.cmd = .queued j sender tID) :
    tID = decimalText k.taskID ∧ -2 ^ 31 ≤ k.taskID ∧ k.taskID < 2 ^ 31 ∧
      v = ⟨some (some sender), false, [], [], .queued k sender tID, .idle⟩ := by
  cases hphase with
  | queued sender' hlow hhigh =>
      obtain ⟨-, rfl, rfl⟩ := CmdPc.queued.inj hcmd
      exact ⟨rfl, hlow, hhigh, rfl⟩
  | _ =>
      cases hcmd

/-- Before the In-Progress reply the entry is there or was taken. -/
theorem Phase.of_inserted
    (hphase : Phase k v) {j : TaskKey} {sender returnval : Bytes}
    (hcmd : v.cmd = .inserted j sender returnval) :
    ∃ x, returnval = taskIDText x ∧
      (v = ⟨some (some sender), false, [⟨k.taskID, k.srvPort, x, sender⟩], [],
          .inserted k sender returnval, .idle⟩ ∨
        ∃ pc, EvntPc.Took pc k x sender ∧
          v = ⟨some (some sender), true, [], [],
            .inserted k sender returnval, pc⟩) := by
  cases hphase with
  | inserted x sender' =>
      obtain ⟨-, rfl, rfl⟩ := CmdPc.inserted.inj hcmd
      exact ⟨x, rfl, Or.inl rfl⟩
  | insertedTaken x sender' pc htook =>
      obtain ⟨-, rfl, rfl⟩ := CmdPc.inserted.inj hcmd
      exact ⟨x, rfl, Or.inr ⟨pc, htook, rfl⟩⟩
  | _ =>
      cases hcmd

/-- The event thread works on a task whose entry it has taken. -/
theorem Phase.of_evnt
    (hphase : Phase k v) (hevnt : v.evnt ≠ .idle) :
    ∃ x sender, v.evnt.Took k x sender ∧
      (v = ⟨some (some sender), true, [], [],
          .inserted k sender (taskIDText x), v.evnt⟩ ∨
        v = ⟨some (some sender), true, [], [inProgMsg k x sender], .idle, v.evnt⟩) := by
  cases hphase with
  | insertedTaken x sender pc htook =>
      exact ⟨x, sender, htook, Or.inl rfl⟩
  | toldTaken x sender pc htook =>
      exact ⟨x, sender, htook, Or.inr rfl⟩
  | _ =>
      exact absurd rfl hevnt

/-- What was found is the entry that was taken. -/
theorem EvntPc.Took.found
    {j : TaskKey} {x x' : Int} {sender sender' : Bytes}
    (htook : (EvntPc.found j x sender).Took k x' sender') :
    j = k ∧ x = x' ∧ sender = sender' := by
  rcases htook with h | ⟨taskRes, h⟩
  · exact EvntPc.found.inj h
  · cases h

/-- The result goes with the same task id to the same sender. -/
theorem EvntPc.Took.status
    {j : TaskKey} {x x' : Int} {sender sender' taskRes : Bytes}
    (htook : (EvntPc.status j x sender taskRes).Took k x' sender') :
    j = k ∧ x = x' ∧ sender = sender' := by
  rcases htook with h | ⟨taskRes', h⟩
  · cases h
  · obtain ⟨hj, hx, hsender, -⟩ := EvntPc.status.inj h
    exact ⟨hj, hx, hsender⟩

end Phases

namespace AsyncInv

variable {s t : AsyncState}

/-- A step that concerns one task keeps the others in their phases. -/
theorem of_view
    (hinv : AsyncInv s) {j : TaskKey} {v : TaskKey → TaskView}
    (hview : ∀ k, t.view k = if k = j then v k else s.view k)
    (hj : Phase j (v j)) :
    AsyncInv t := by
  intro k
  rw [hview k]
  by_cases hk : k = j
  · subst hk
    simpa using hj
  · simpa [hk] using hinv k

/-- A call queues a task that was unknown. -/
theorem rpc
    (hinv : AsyncInv s) {j : TaskKey} {sender : Bytes}
    (hstep : s.rpc j sender = some t) :
    AsyncInv t := by
  obtain ⟨hfresh, hview⟩ := AsyncState.view_rpc hstep
  apply hinv.of_view hview
  rw [(hinv j).of_owner_none hfresh.2.2]
  exact Phase.queued sender hfresh.1 hfresh.2.1

/-- So does somebody else's call. -/
theorem otherTask
    (hinv : AsyncInv s) {j : TaskKey} (hstep : s.otherTask j = some t) :
    AsyncInv t := by
  obtain ⟨hfresh, hview⟩ := AsyncState.view_otherTask hstep
  apply hinv.of_view hview
  rw [(hinv j).of_owner_none hfresh.2.2]
  exact Phase.foreign false

/-- The insert makes the one entry of the task. -/
theorem insert
    (hinv : AsyncInv s) {ctx : Context} (hstep : s.insert ctx = some t) :
    AsyncInv t := by
  obtain ⟨j, sender, tID, hcmd, hview⟩ := AsyncState.view_insert hstep
  have hj : (s.view j).cmd = .queued j sender tID := by
    simp [AsyncState.view, hcmd]
  obtain ⟨rfl, hlow, hhigh, hv⟩ := (hinv j).of_queued hj
  obtain ⟨x, hview⟩ := hview (atoi_decimalText hlow hhigh)
  apply hinv.of_view hview
  rw [hv]
  exact Phase.inserted x sender

/-- The In-Progress reply names the id that the entry has. -/
theorem replyInProg
    (hinv : AsyncInv s) (hstep : s.replyInProg = some t) :
    AsyncInv t := by
  obtain ⟨j, sender, returnval, hcmd, hview⟩ := AsyncState.view_replyInProg hstep
  have hj : (s.view j).cmd = .inserted j sender returnval := by
    simp [AsyncState.view, hcmd]
  apply hinv.of_view hview
  obtain ⟨x, rfl, hv | ⟨pc, htook, hv⟩⟩ := (hinv j).of_inserted hj
  · rw [hv]
    exact Phase.told x sender
  · rw [hv]
    exact Phase.toldTaken x sender pc htook

/-- A lookup in time finds the entry of every task that the proxy started. -/
theorem receiveEvent
    (hinv : AsyncInv s) {j : TaskKey} (hcond : s.cmd.queued? ≠ some j)
    (hstep : s.receiveEvent j = some t) :
    AsyncInv t := by
  obtain ⟨hknown, hnew, hview⟩ := AsyncState.view_receiveEvent hstep
  apply hinv.of_view hview
  have howner : (s.view j).owner ≠ none := hknown
  have hdelivered : (s.view j).delivered = false := by
    simpa [AsyncState.view] using hnew
  have hcmd : ∀ sender tID, (s.view j).cmd ≠ .queued j sender tID := by
    intro sender tID h
    apply hcond
    simp only [AsyncState.view, CmdPc.on] at h
    split at h
    next => simp [h, CmdPc.queued?]
    next => cases h
  have hphase := hinv j
  generalize s.view j = v at hphase howner hdelivered hcmd
  cases hphase with
  | unknown =>
      exact absurd rfl howner
  | foreign d =>
      exact Phase.foreign true
  | queued sender hlow hhigh =>
      exact absurd rfl (hcmd sender _)
  | inserted x sender =>
      exact Phase.insertedTaken x sender _ (Or.inl rfl)
  | told x sender =>
      exact Phase.toldTaken x sender _ (Or.inl rfl)
  | insertedTaken x sender pc htook =>
      cases hdelivered
  | toldTaken x sender pc htook =>
      cases hdelivered
  | answered x sender taskRes =>
      cases hdelivered

/-- The result is kept with the entry. -/
theorem getStatus
    (hinv : AsyncInv s) {taskRes : Bytes}
    (hstep : s.getStatus true taskRes = some t) :
    AsyncInv t := by
  obtain ⟨j, x, replyTo, hevnt, hview⟩ := AsyncState.view_getStatus hstep
  have hj : (s.view j).evnt = .found j x replyTo := by
    simp [AsyncState.view, hevnt]
  apply hinv.of_view hview
  obtain ⟨x', sender, htook, hv⟩ := (hinv j).of_evnt (by simp [hj])
  rw [hj] at htook
  obtain ⟨-, rfl, rfl⟩ := htook.found
  rcases hv with hv | hv
  · rw [hv]
    exact Phase.insertedTaken x replyTo _ (Or.inr ⟨taskRes, rfl⟩)
  · rw [hv]
    exact Phase.toldTaken x replyTo _ (Or.inr ⟨taskRes, rfl⟩)

/-- A completion that is sent after the In-Progress reply ends the task. -/
theorem replyDone
    (hinv : AsyncInv s)
    (hcond : s.cmd.task? = none ∨ s.cmd.task? ≠ s.evnt.task?)
    (hstep : s.replyDone = some t) :
    AsyncInv t := by
  obtain ⟨j, x, replyTo, taskRes, hevnt, hview⟩ := AsyncState.view_replyDone hstep
  have hj : (s.view j).evnt = .status j x replyTo taskRes := by
    simp [AsyncState.view, hevnt]
  have hcmd : (s.view j).cmd = .idle := by
    simp only [AsyncState.view, CmdPc.on]
    rw [if_neg]
    intro h
    rw [hevnt, h] at hcond
    simp [EvntPc.task?] at hcond
  apply hinv.of_view hview
  obtain ⟨x', sender, htook, hv⟩ := (hinv j).of_evnt (by simp [hj])
  rw [hj] at htook
  obtain ⟨-, rfl, rfl⟩ := htook.status
  rcases hv with hv | hv
  · rw [hv] at hcmd
    cases hcmd
  · rw [hv]
    exact Phase.answered x replyTo taskRes

/-- Every step in time keeps every task in its phases. -/
theorem step
    (hinv : AsyncInv s) {ctx : Context} {l : AsyncLabel} (hcond : InTime s l)
    (hstep : s.step ctx l = some t) :
    AsyncInv t := by
  cases l with
  | rpc k sender =>
      exact hinv.rpc hstep
  | otherTask k =>
      exact hinv.otherTask hstep
  | insert =>
      exact hinv.insert hstep
  | replyInProg =>
      exact hinv.replyInProg hstep
  | receiveEvent k =>
      exact hinv.receiveEvent hcond hstep
  | getStatus reachable taskRes =>
      obtain rfl : reachable = true := hcond
      exact hinv.getStatus hstep
  | replyDone =>
      exact hinv.replyDone hcond hstep

end AsyncInv

/-! ## Whole runs -/

end Xmproxy
end BrBox
