import BrBox.Adav.EvntMgr
import BrBox.Lib.Slots
import Mathlib.Tactic.Tauto

/-!
# The notify loop under concurrent subscriptions

The notify thread walks `eventList` by index while the RPC thread registers and
unregisters subscriptions.  Every access to the list and to the queue of
events is one step; between two accesses, and above all during a connect, the
other thread may change the list.

The entries are shared by reference, so an entry carries a ghost number that
tells it from every other one.  Reading the list behind its end, or using an
entry that has been deleted, ends the run: `crashed` is set and nothing more
happens.

For each event the ghost fields record which entries were in the list when the
event reached the front of the queue, which entries were in it when the loop
was done, and what was sent to whom.
-/

namespace BrBox
namespace Adav

open CText
open LabelledRun

/-- An entry of the list with its ghost number. -/
structure Subscription where
  entry : EventEntry
  uid : Nat
deriving DecidableEq, Repr

/-- Where the notify thread is. -/
inductive NotifyPc where
  | waiting
  /-- At `notifyEvent.empty()`. -/
  | checkEmpty
  /-- At `notifyEvent.front()`. -/
  | front
  /-- At `i < eventList.size()`. -/
  | loopHead (event : EventProcEntry) (i : Nat)
  /-- At `eventList[i]->eventNum==-1`. -/
  | testAll (event : EventProcEntry) (i : Nat)
  /-- At `eventList[i]->eventNum == entry.eventNum`. -/
  | testNum (event : EventProcEntry) (i : Nat)
  /-- At the argument `eventList[i]` of `send_event`. -/
  | readEntry (event : EventProcEntry) (i : Nat)
  /-- In `send_event` with this entry. -/
  | sending (event : EventProcEntry) (i : Nat) (sub : Subscription)
  /-- At `eventList[i]->deleteFlag=true`. -/
  | setFlag (event : EventProcEntry) (i : Nat)
  /-- At the removal of the flagged entries. -/
  | removeFlagged (event : EventProcEntry)
  /-- At `notifyEvent.pop_front()`. -/
  | popFront
deriving DecidableEq, Repr

/-- Where the RPC thread is. -/
inductive RpcPc where
  | idle
  /-- In `register_event_subscription`, no duplicate was found. -/
  | pushEntry (request : SubscribeRequest)
  /-- In `unregister_event_subscription`, the token was found. -/
  | eraseEntry (srvToken : Int)
  /-- In `notify_event`, the event is in the queue. -/
  | wake
deriving DecidableEq, Repr

/-- What happened while one event was at the front of the queue. -/
structure NotifyRound where
  event : EventProcEntry
  atFront : List Nat
  atEnd : List Subscription
  sends : List (Nat × Bool)
deriving DecidableEq, Repr

/-- The event manager with its two threads. -/
structure NotifyState where
  eventList : List Subscription
  ackToken : Int
  notifyEvent : List EventProcEntry
  sema : Nat
  notify : NotifyPc
  rpc : RpcPc
  crashed : Bool
  nextUid : Nat
  atFront : List Nat
  sends : List (Nat × Bool)
  rounds : List NotifyRound
deriving DecidableEq, Repr

/-- The calls of the RPC thread. -/
inductive RpcCall where
  | register (request : SubscribeRequest)
  | unregister (srvToken : Int)
  | notify (event : EventProcEntry)
deriving DecidableEq, Repr

/-- A step of one of the two threads. -/
inductive NotifyLabel where
  /-- The notify thread makes its next access. -/
  | notifyThread
  /-- `send_event` returns; the flag tells if the connect succeeded. -/
  | connect (connected : Bool)
  /-- The RPC thread begins a call. -/
  | rpcCall (call : RpcCall)
  /-- The RPC thread makes its next access. -/
  | rpcThread
deriving DecidableEq, Repr

/-- The ghost numbers of the entries in the list. -/
def uids (eventList : List Subscription) : List Nat :=
  eventList.map Subscription.uid

/-- `deleteFlag=true` for the entry at an index. -/
def flagAt (i : Nat) (eventList : List Subscription) : List Subscription :=
  eventList.modify i fun sub =>
    { sub with entry := { sub.entry with deleteFlag := true } }

/-- The next access of the notify thread. -/
def notifyThreadStep (s : NotifyState) : Option NotifyState :=
  match s.notify with
  | .waiting =>
      if 0 < s.sema then
        some { s with sema := s.sema - 1, notify := .checkEmpty }
      else
        none
  | .checkEmpty =>
      if s.notifyEvent = [] then
        some { s with notify := .waiting }
      else
        some { s with notify := .front }
  | .front =>
      match s.notifyEvent with
      | [] => some { s with crashed := true }
      | event :: _ =>
          some { s with notify := .loopHead event 0, sends := [] }
  | .loopHead event i =>
      if i < s.eventList.length then
        some { s with notify := .testAll event i }
      else
        some { s with notify := .removeFlagged event }
  | .testAll event i =>
      match s.eventList[i]? with
      | none => some { s with crashed := true }
      | some sub =>
          if sub.entry.eventNum = -1 then
            some { s with notify := .readEntry event i }
          else
            some { s with notify := .testNum event i }
  | .testNum event i =>
      match s.eventList[i]? with
      | none => some { s with crashed := true }
      | some sub =>
          if sub.entry.eventNum = event.eventNum then
            some { s with notify := .readEntry event i }
          else
            some { s with notify := .loopHead event (i + 1) }
  | .readEntry event i =>
      match s.eventList[i]? with
      | none => some { s with crashed := true }
      | some sub => some { s with notify := .sending event i sub }
  | .sending _ _ _ => none
  | .setFlag event i =>
      if i < s.eventList.length then
        some
          { s with
            eventList := flagAt i s.eventList
            notify := .loopHead event (i + 1) }
      else
        some { s with crashed := true }
  | .removeFlagged event =>
      some
        { s with
          eventList := s.eventList.filter fun sub => !sub.entry.deleteFlag
          notify := .popFront
          rounds := s.rounds ++
            [{ event := event
               atFront := s.atFront
               atEnd := s.eventList
               sends := s.sends }] }
  | .popFront =>
      some
        { s with
          notifyEvent := s.notifyEvent.tail
          notify := .checkEmpty
          atFront := uids s.eventList }

/-- `send_event` returns. -/
def connectStep (s : NotifyState) (connected : Bool) : Option NotifyState :=
  match s.notify with
  | .sending event i sub =>
      if sub.uid ∈ uids s.eventList then
        some
          { s with
            notify :=
              if connected then .loopHead event (i + 1) else .setFlag event i
            sends := s.sends ++ [(sub.uid, connected)] }
      else
        some { s with crashed := true }
  | _ => none

/-- The first access of a call. -/
def rpcCallStep (s : NotifyState) (call : RpcCall) : Option NotifyState :=
  match s.rpc with
  | .idle =>
      match call with
      | .register request =>
          if s.eventList.any
              (fun sub => findDuplicateEntry (request.entry 0) sub.entry) then
            some s
          else
            some { s with rpc := .pushEntry request }
      | .unregister srvToken =>
          if s.eventList.any
              (fun sub => findEventEntry srvToken sub.entry) then
            some { s with rpc := .eraseEntry srvToken }
          else
            some s
      | .notify event =>
          some
            { s with
              notifyEvent := s.notifyEvent ++ [event]
              rpc := .wake
              atFront :=
                if s.notifyEvent = [] then uids s.eventList else s.atFront }
  | _ => none

/-- The entries that `unregister_event_subscription` leaves in the list. -/
def keepOthers (srvToken : Int) (eventList : List Subscription) :
    List Subscription :=
  eventList.filter fun sub => !findEventEntry srvToken sub.entry

/-- The next access of a call. -/
def rpcThreadStep (s : NotifyState) : Option NotifyState :=
  match s.rpc with
  | .idle => none
  | .pushEntry request =>
      some
        { s with
          eventList := s.eventList ++
            [{ entry := request.entry (wrapInt32 (s.ackToken + 1))
               uid := s.nextUid }]
          ackToken := wrapInt32 (s.ackToken + 1)
          rpc := .idle
          nextUid := s.nextUid + 1 }
  | .eraseEntry srvToken =>
      some
        { s with
          eventList := keepOthers srvToken s.eventList
          rpc := .idle }
  | .wake => some { s with rpc := .idle, sema := s.sema + 1 }

/-- One step of the two threads. -/
def notifyStep (s : NotifyState) (l : NotifyLabel) : Option NotifyState :=
  if s.crashed then
    none
  else
    match l with
    | .notifyThread => notifyThreadStep s
    | .connect connected => connectStep s connected
    | .rpcCall call => rpcCallStep s call
    | .rpcThread => rpcThreadStep s

/-- How often an entry was sent the current event. -/
def sendCount (sends : List (Nat × Bool)) (uid : Nat) : Nat :=
  (sends.filter fun send => decide (send.1 = uid)).length

/-- The token whose entry the RPC thread is about to remove. -/
def erasedToken (s : NotifyState) : NotifyLabel → Option Int
  | .rpcThread =>
      match s.rpc with
      | .eraseEntry srvToken => some srvToken
      | _ => none
  | _ => none

/-- The entries the loop has passed, and the one it has looked at. -/
def NotifyPc.passed : NotifyPc → Nat
  | .loopHead _ i => i
  | .testAll _ i => i
  | .testNum _ i => i + 1
  | .readEntry _ i => i + 1
  | .sending _ i _ => i + 1
  | .setFlag _ i => i + 1
  | _ => 0

/-- The length of the list that the next access relies on. -/
def NotifyPc.needed : NotifyPc → Nat
  | .testAll _ i => i + 1
  | _ => 0

/--
An unsubscription removes no entry that the loop has passed or looked at, and
does not cut off the list in front of the next access.
-/
def KeepsPlace (s : NotifyState) (l : NotifyLabel) : Prop :=
  ∀ srvToken ∈ erasedToken s l,
    (∀ sub ∈ s.eventList.take s.notify.passed,
      findEventEntry srvToken sub.entry = false) ∧
    s.notify.needed ≤ (keepOthers srvToken s.eventList).length

instance decidableKeepsPlace (s : NotifyState) (l : NotifyLabel) :
    Decidable (KeepsPlace s l) :=
  inferInstanceAs
    (Decidable (∀ srvToken ∈ erasedToken s l,
      (∀ sub ∈ s.eventList.take s.notify.passed,
        findEventEntry srvToken sub.entry = false) ∧
      s.notify.needed ≤ (keepOthers srvToken s.eventList).length))

end Adav
end BrBox
