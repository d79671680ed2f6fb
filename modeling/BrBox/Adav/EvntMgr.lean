import BrBox.Lib.LabelledRun
import BrBox.Lib.CText
import Mathlib.Data.List.Nodup
import Mathlib.Data.List.Basic

/-!
# Event subscriptions

`ADEvntMgr` keeps a list of subscriptions.  A subscriber gets a server token
with which it can unsubscribe; an event is sent to every subscriber of its
number and to those that want all events, and a subscriber that cannot be
connected to is dropped after the event.

This module runs each operation to its end.  The outcome of a connect is given
by a function of the position of the event in the queue and of the entry: an
entry is tried at most once for each event.  `process_event` and the process
thread are not modelled.
-/

namespace BrBox
namespace Adav

open CText
open LabelledRun

/-- `EventEntry`. -/
structure EventEntry where
  cltToken : Int
  portNum : Int
  eventNum : Int
  srvToken : Int
  sockDescr : Int
  sockId : Int
  ip : Bytes
  deleteFlag : Bool
deriving DecidableEq, Repr

/-- `EventProcEntry`. -/
structure EventProcEntry where
  eventNum : Int
  eventArg : Int
  cltToken : Int
  eventArg2 : Int
deriving DecidableEq, Repr

/-- The event manager; `issued` is the ghost list of all tokens handed out. -/
structure EvntMgr where
  eventList : List EventEntry
  ackToken : Int
  notifyEvent : List EventProcEntry
  issued : List Int

/-- A constructed event manager. -/
def EvntMgr.new : EvntMgr where
  eventList := []
  ackToken := 0
  notifyEvent := []
  issued := []

/-- `FindDuplicateEntry`. -/
def findDuplicateEntry (myEntry pEntry : EventEntry) : Bool :=
  if myEntry.cltToken ≠ pEntry.cltToken then
    false
  else if myEntry.portNum ≠ pEntry.portNum then
    false
  else if myEntry.eventNum ≠ pEntry.eventNum then
    false
  else
    true

/-- `FindEventEntry` and the test of `RemoveEventEntry`. -/
def findEventEntry (srvToken : Int) (pEntry : EventEntry) : Bool :=
  decide (srvToken = pEntry.srvToken)

/-- What `process_event_subscribe` passes to `register_event_subscription`. -/
structure SubscribeRequest where
  cltToken : Int
  portNum : Int
  eventNum : Int
  sockDescr : Int
  sockId : Int
  ip : Bytes
deriving DecidableEq, Repr

/-- The entry of a request; its token is set on success. -/
def SubscribeRequest.entry
    (request : SubscribeRequest) (srvToken : Int) : EventEntry where
  cltToken := request.cltToken
  portNum := request.portNum
  eventNum := request.eventNum
  srvToken := srvToken
  sockDescr := request.sockDescr
  sockId := request.sockId
  ip := request.ip
  deleteFlag := false

/-- `++AckToken`. -/
def EvntMgr.nextToken (s : EvntMgr) : Int :=
  wrapInt32 (s.ackToken + 1)

/-- `register_event_subscription`. -/
def registerEventSubscription
    (s : EvntMgr) (request : SubscribeRequest) : Int × EvntMgr :=
  if s.eventList.any (findDuplicateEntry (request.entry 0)) then
    (-1, s)
  else
    (0,
      { s with
        eventList := s.eventList ++ [request.entry s.nextToken]
        ackToken := s.nextToken
        issued := s.issued ++ [s.nextToken] })

/-- `unregister_event_subscription`. -/
def unregisterEventSubscription (s : EvntMgr) (srvToken : Int) :
    Int × EvntMgr :=
  if s.eventList.any (findEventEntry srvToken) then
    (0,
      { s with
        eventList := s.eventList.filter fun pEntry =>
          !findEventEntry srvToken pEntry })
  else
    (-1, s)

/-- `notify_event` up to the wake-up. -/
def notifyEventPush
    (s : EvntMgr) (eventNum eventArg eventArg2 : Int) : EvntMgr :=
  { s with
    notifyEvent := s.notifyEvent ++
      [{ eventNum := eventNum
         eventArg := eventArg
         cltToken := 0
         eventArg2 := eventArg2 }] }

/-- One call of `send_event`: the entry it is for, where it connects to, whether
that succeeds and the four numbers of the `process_event` request. -/
structure SendEvent where
  srvToken : Int
  ip : Bytes
  portNum : Int
  connected : Bool
  cltToken : Int
  eventNum : Int
  eventArg : Int
  eventArg2 : Int
deriving DecidableEq, Repr

/-- The entry wants the event: all events, or this number. -/
def wantsEvent (event : EventProcEntry) (pEntry : EventEntry) : Bool :=
  if pEntry.eventNum = -1 then
    true
  else
    decide (pEntry.eventNum = event.eventNum)

/-- The call of `send_event` for an entry. -/
def sendEvent
    (connect : EventEntry → Bool) (event : EventProcEntry)
    (pEntry : EventEntry) : SendEvent where
  srvToken := pEntry.srvToken
  ip := pEntry.ip
  portNum := pEntry.portNum
  connected := connect pEntry
  cltToken := pEntry.cltToken
  eventNum := event.eventNum
  eventArg := event.eventArg
  eventArg2 := event.eventArg2

/-- The entry is sent the event and cannot be connected to. -/
def sendFails
    (connect : EventEntry → Bool) (event : EventProcEntry)
    (pEntry : EventEntry) : Bool :=
  wantsEvent event pEntry && !connect pEntry

/-- The entry after the body of the loop. -/
def flagEntry
    (connect : EventEntry → Bool) (event : EventProcEntry)
    (pEntry : EventEntry) : EventEntry :=
  if sendFails connect event pEntry then
    { pEntry with deleteFlag := true }
  else
    pEntry

/-- The calls of `send_event` in the loop over the list. -/
def notifySends
    (connect : EventEntry → Bool) (event : EventProcEntry)
    (eventList : List EventEntry) : List SendEvent :=
  (eventList.filter (wantsEvent event)).map (sendEvent connect event)

/-- The list after the loop and the removal of the flagged entries. -/
def notifyList
    (connect : EventEntry → Bool) (event : EventProcEntry)
    (eventList : List EventEntry) : List EventEntry :=
  (eventList.map (flagEntry connect event)).filter fun pEntry =>
    !pEntry.deleteFlag

/-- The `while` loop of the notify thread over the queue. -/
def drainQueue (connect : Nat → EventEntry → Bool) :
    Nat → List EventProcEntry → List EventEntry →
      List EventEntry × List SendEvent
  | _, [], eventList => (eventList, [])
  | n, event :: queue, eventList =>
      let rest :=
        drainQueue connect (n + 1) queue
          (notifyList (connect n) event eventList)
      (rest.1, notifySends (connect n) event eventList ++ rest.2)

/-- The notify thread empties the queue. -/
def notifyDrain
    (s : EvntMgr) (connect : Nat → EventEntry → Bool) :
    EvntMgr × List SendEvent :=
  let drained := drainQueue connect 0 s.notifyEvent s.eventList
  ({ s with eventList := drained.1, notifyEvent := [] }, drained.2)

/-- An operation that is run to its end. -/
inductive EvntOp where
  | register (request : SubscribeRequest)
  | unregister (srvToken : Int)
  | notify (eventNum eventArg eventArg2 : Int)
  | drain (connect : Nat → EventEntry → Bool)

/-- The state after an operation. -/
def evntStep (s : EvntMgr) : EvntOp → Option EvntMgr
  | .register request => some (registerEventSubscription s request).2
  | .unregister srvToken => some (unregisterEventSubscription s srvToken).2
  | .notify eventNum eventArg eventArg2 =>
      some (notifyEventPush s eventNum eventArg eventArg2)
  | .drain connect => some (notifyDrain s connect).1

/-- How often a sequence of operations registers. -/
def registrations : List EvntOp → Nat
  | [] => 0
  | .register _ :: ops => registrations ops + 1
  | .unregister _ :: ops => registrations ops
  | .notify _ _ _ :: ops => registrations ops
  | .drain _ :: ops => registrations ops

/-- What `FindDuplicateEntry` compares. -/
def EventEntry.triple (pEntry : EventEntry) : Int × Int × Int :=
  (pEntry.cltToken, pEntry.portNum, pEntry.eventNum)

/-- What `FindDuplicateEntry` compares in a request. -/
def SubscribeRequest.triple (request : SubscribeRequest) : Int × Int × Int :=
  (request.cltToken, request.portNum, request.eventNum)

section Drain

variable (connect : Nat → EventEntry → Bool)

/-- The entry asks for every event, or for the number of this one. -/
def Matches (event : EventProcEntry) (pEntry : EventEntry) : Prop :=
  pEntry.eventNum = -1 ∨ pEntry.eventNum = event.eventNum

instance (event : EventProcEntry) (pEntry : EventEntry) :
    Decidable (Matches event pEntry) :=
  inferInstanceAs (Decidable (_ ∨ _))

/--
What an entry should be sent: each event of the queue that it matches, at the
address of its subscriber, with the subscriber's token and the number and the
arguments of the event.
-/
def wantedSends (pEntry : EventEntry) :
    Nat → List EventProcEntry → List SendEvent
  | _, [] => []
  | n, event :: queue =>
      if Matches event pEntry then
        { srvToken := pEntry.srvToken
          ip := pEntry.ip
          portNum := pEntry.portNum
          connected := connect n pEntry
          cltToken := pEntry.cltToken
          eventNum := event.eventNum
          eventArg := event.eventArg
          eventArg2 := event.eventArg2 } ::
          wantedSends pEntry (n + 1) queue
      else
        wantedSends pEntry (n + 1) queue

/-- Keep the calls up to and including the first failed one. -/
def throughFirstFailure : List SendEvent → List SendEvent
  | [] => []
  | send :: sends =>
      if send.connected then send :: throughFirstFailure sends else [send]

/-- No connect to the entry fails. -/
def staysConnected
    (n : Nat) (queue : List EventProcEntry) (pEntry : EventEntry) : Bool :=
  (wantedSends connect pEntry n queue).all SendEvent.connected

variable {connect}

/-- The loop asks whether the entry matches. -/
theorem wantsEvent_iff
    (event : EventProcEntry) (pEntry : EventEntry) :
    wantsEvent event pEntry = true ↔ Matches event pEntry := by
  unfold wantsEvent Matches
  split
  · next hall => simp [hall]
  · next hall => simp [hall]

/-- The first event of the queue is sent as the loop sends it. -/
theorem wantedSends_cons
    (pEntry : EventEntry) (n : Nat) (event : EventProcEntry)
    (queue : List EventProcEntry) :
    wantedSends connect pEntry n (event :: queue) =
      if wantsEvent event pEntry then
        sendEvent (connect n) event pEntry :: wantedSends connect pEntry (n + 1) queue
      else
        wantedSends connect pEntry (n + 1) queue := by
  simp only [wantsEvent_iff]
  rfl

/-- The entries that survive an event. -/
theorem notifyList_eq
    {event : EventProcEntry} {eventList : List EventEntry} {n : Nat}
    (hflags : ∀ pEntry ∈ eventList, pEntry.deleteFlag = false) :
    notifyList (connect n) event eventList =
      eventList.filter fun pEntry =>
        !sendFails (connect n) event pEntry := by
  induction eventList with
  | nil =>
      rfl
  | cons pEntry eventList ih =>
      have hflag := hflags pEntry (by simp)
      have hrest := ih fun other hother => hflags other (by simp [hother])
      simp only [notifyList, List.map_cons] at hrest ⊢
      cases hfail : sendFails (connect n) event pEntry with
      | true => simp [flagEntry, hfail, hrest]
      | false => simp [flagEntry, hfail, hflag, hrest]

/-- An entry of which no connect fails stays, the others go. -/
theorem drainQueue_list
    (queue : List EventProcEntry) :
    ∀ (n : Nat) (eventList : List EventEntry),
      (∀ pEntry ∈ eventList, pEntry.deleteFlag = false) →
      (drainQueue connect n queue eventList).1 =
        eventList.filter (staysConnected connect n queue) := by
  induction queue with
  | nil =>
      intro n eventList _
      have hall : staysConnected connect n [] = fun _ => true := rfl
      simp [drainQueue, hall]
  | cons event queue ih =>
      intro n eventList hflags
      have hrest :
          ∀ pEntry ∈ notifyList (connect n) event eventList,
            pEntry.deleteFlag = false := by
        rw [notifyList_eq hflags]
        intro pEntry hpEntry
        exact hflags pEntry (List.mem_filter.mp hpEntry).1
      simp only [drainQueue]
      rw [ih (n + 1) _ hrest, notifyList_eq hflags, List.filter_filter]
      refine List.filter_congr fun pEntry _ => ?_
      cases hwants : wantsEvent event pEntry with
      | true =>
          simp [staysConnected, wantedSends_cons, sendFails, hwants, sendEvent,
            Bool.and_comm]
      | false =>
          simp [staysConnected, wantedSends_cons, sendFails, hwants]

/-- Every call of `send_event` is for an entry of the list. -/
theorem drainQueue_sends_mem
    (queue : List EventProcEntry) :
    ∀ (n : Nat) (eventList : List EventEntry),
      (∀ pEntry ∈ eventList, pEntry.deleteFlag = false) →
      ∀ send ∈ (drainQueue connect n queue eventList).2,
        ∃ pEntry ∈ eventList, send.srvToken = pEntry.srvToken := by
  induction queue with
  | nil =>
      intro n eventList _ send hsend
      simp [drainQueue] at hsend
  | cons event queue ih =>
      intro n eventList hflags send hsend
      simp only [drainQueue, List.mem_append] at hsend
      rcases hsend with hsend | hsend
      · obtain ⟨pEntry, hpEntry, rfl⟩ := List.mem_map.mp hsend
        exact ⟨pEntry, (List.mem_filter.mp hpEntry).1, rfl⟩
      · rw [notifyList_eq hflags] at hsend
        have hrest :
            ∀ pEntry ∈ eventList.filter fun pEntry =>
              !sendFails (connect n) event pEntry,
              pEntry.deleteFlag = false :=
          fun pEntry hpEntry =>
            hflags pEntry (List.mem_filter.mp hpEntry).1
        obtain ⟨pEntry, hpEntry, htoken⟩ :=
          ih (n + 1) _ hrest send hsend
        exact ⟨pEntry, (List.mem_filter.mp hpEntry).1, htoken⟩

/-- The calls for one entry during one event. -/
theorem notifySends_of_entry
    {event : EventProcEntry} {eventList : List EventEntry} {n : Nat}
    (hnodup : (eventList.map EventEntry.srvToken).Nodup)
    {pEntry : EventEntry} (hmem : pEntry ∈ eventList) :
    (notifySends (connect n) event eventList).filter
        (fun send => decide (send.srvToken = pEntry.srvToken)) =
      if wantsEvent event pEntry then
        [sendEvent (connect n) event pEntry]
      else
        [] := by
  induction eventList with
  | nil =>
      simp at hmem
  | cons head eventList ih =>
      simp only [List.map_cons, List.nodup_cons] at hnodup
      have htail :
          ∀ other ∈ eventList, other.srvToken ≠ head.srvToken := by
        intro other hother heq
        exact hnodup.1 (heq ▸ List.mem_map_of_mem hother)
      have hnone :
          (notifySends (connect n) event eventList).filter
            (fun send => decide (send.srvToken = head.srvToken)) = [] := by
        simp only [List.filter_eq_nil_iff, notifySends, List.mem_map]
        rintro send ⟨other, hother, rfl⟩
        simp [sendEvent, htail other (List.mem_filter.mp hother).1]
      rcases List.mem_cons.mp hmem with rfl | hmem
      · cases hwants : wantsEvent event pEntry with
        | true =>
            simp only [notifySends] at hnone
            simp [notifySends, hwants, sendEvent] at hnone ⊢
            exact hnone
        | false =>
            simp only [notifySends] at hnone
            simpa [notifySends, hwants] using hnone
      · have hne : head.srvToken ≠ pEntry.srvToken :=
          fun heq => htail pEntry hmem heq.symm
        rw [← ih hnodup.2 hmem]
        cases hwants : wantsEvent event head with
        | true => simp [notifySends, hwants, sendEvent, hne]
        | false => simp [notifySends, hwants]

/-- No call goes to an entry whose token is not in the list. -/
theorem drainQueue_sends_of_absent
    {queue : List EventProcEntry} {n : Nat} {eventList : List EventEntry}
    (hflags : ∀ pEntry ∈ eventList, pEntry.deleteFlag = false)
    {srvToken : Int}
    (habsent : ∀ pEntry ∈ eventList, pEntry.srvToken ≠ srvToken) :
    (drainQueue connect n queue eventList).2.filter
      (fun send => decide (send.srvToken = srvToken)) = [] := by
  simp only [List.filter_eq_nil_iff, decide_eq_true_eq]
  intro send hsend heq
  obtain ⟨pEntry, hpEntry, htoken⟩ :=
    drainQueue_sends_mem queue n eventList hflags send hsend
  exact habsent pEntry hpEntry (htoken ▸ heq)

/--
An entry is sent the events it wants, in the order of the queue, up to its
first failed connect.
-/
theorem drainQueue_sends
    (queue : List EventProcEntry) :
    ∀ (n : Nat) (eventList : List EventEntry),
      (∀ pEntry ∈ eventList, pEntry.deleteFlag = false) →
      (eventList.map EventEntry.srvToken).Nodup →
      ∀ pEntry ∈ eventList,
        (drainQueue connect n queue eventList).2.filter
            (fun send => decide (send.srvToken = pEntry.srvToken)) =
          throughFirstFailure (wantedSends connect pEntry n queue) := by
  induction queue with
  | nil =>
      intro n eventList _ _ pEntry _
      simp [drainQueue, wantedSends, throughFirstFailure]
  | cons event queue ih =>
      intro n eventList hflags hnodup pEntry hmem
      have hsub :
          (notifyList (connect n) event eventList).Sublist eventList := by
        rw [notifyList_eq hflags]
        exact List.filter_sublist
      have hflags' :
          ∀ other ∈ notifyList (connect n) event eventList,
            other.deleteFlag = false :=
        fun other hother => hflags other (hsub.subset hother)
      have hnodup' := hnodup.sublist (hsub.map EventEntry.srvToken)
      simp only [drainQueue, List.filter_append]
      rw [notifySends_of_entry hnodup hmem]
      cases hfail : sendFails (connect n) event pEntry with
      | true =>
          -- The entry is dropped after this event.
          have habsent :
              ∀ other ∈ notifyList (connect n) event eventList,
                other.srvToken ≠ pEntry.srvToken := by
            intro other hother heq
            have hsame := List.inj_on_of_nodup_map hnodup
              (hsub.subset hother) hmem heq
            rw [notifyList_eq hflags, hsame, List.mem_filter] at hother
            simp [hfail] at hother
          rw [drainQueue_sends_of_absent hflags' habsent]
          simp only [sendFails, Bool.and_eq_true,
            Bool.not_eq_true'] at hfail
          simp [wantedSends_cons, hfail.1, throughFirstFailure, sendEvent, hfail.2]
      | false =>
          have hkept : pEntry ∈ notifyList (connect n) event eventList := by
            rw [notifyList_eq hflags, List.mem_filter]
            exact ⟨hmem, by simp [hfail]⟩
          rw [ih (n + 1) _ hflags' hnodup' pEntry hkept]
          cases hwants : wantsEvent event pEntry with
          | true =>
              simp only [sendFails, hwants, Bool.true_and,
                Bool.not_eq_false'] at hfail
              simp [wantedSends_cons, hwants, throughFirstFailure, sendEvent,
                hfail]
          | false =>
              simp [wantedSends_cons, hwants]

end Drain

/-- The list is as the operations should leave it. -/
structure EvntInv (s : EvntMgr) : Prop where
  flags : ∀ pEntry ∈ s.eventList, pEntry.deleteFlag = false
  triples : (s.eventList.map EventEntry.triple).Nodup
  tokens : (s.eventList.map EventEntry.srvToken).Pairwise (· < ·)
  issued : s.issued.Pairwise (· < ·)
  listed : ∀ pEntry ∈ s.eventList, pEntry.srvToken ∈ s.issued
  bound : ∀ token ∈ s.issued, token ≤ s.ackToken
  positive : 0 ≤ s.ackToken

theorem evntInv_new : EvntInv EvntMgr.new := by
  constructor <;> simp [EvntMgr.new]

/-- A sublist of a good list is good. -/
theorem EvntInv.sublist
    {s t : EvntMgr}
    (hinv : EvntInv s)
    (hlist : t.eventList.Sublist s.eventList)
    (hissued : t.issued = s.issued)
    (hack : t.ackToken = s.ackToken) :
    EvntInv t where
  flags := fun pEntry hpEntry => hinv.flags pEntry (hlist.subset hpEntry)
  triples := hinv.triples.sublist (hlist.map _)
  tokens := hinv.tokens.sublist (hlist.map _)
  issued := hissued ▸ hinv.issued
  listed := fun pEntry hpEntry =>
    hissued ▸ hinv.listed pEntry (hlist.subset hpEntry)
  bound := by
    rw [hissued, hack]
    exact hinv.bound
  positive := hack ▸ hinv.positive

/-- Duplicates are entries with the same triple. -/
theorem findDuplicateEntry_iff (a b : EventEntry) :
    findDuplicateEntry a b = true ↔ a.triple = b.triple := by
  simp only [findDuplicateEntry, EventEntry.triple, Prod.mk.injEq]
  split_ifs with h₁ h₂ h₃
  · simp [h₁]
  · simp [h₂]
  · simp [h₃]
  · simp only [ne_eq, not_not] at h₁ h₂ h₃
    simp [h₁, h₂, h₃]

/-- When `register_event_subscription` finds a duplicate. -/
theorem any_findDuplicateEntry
    (s : EvntMgr) (request : SubscribeRequest) :
    s.eventList.any (findDuplicateEntry (request.entry 0)) = true ↔
      request.triple ∈ s.eventList.map EventEntry.triple := by
  rw [List.any_eq_true, List.mem_map]
  constructor
  · rintro ⟨pEntry, hpEntry, hdup⟩
    exact ⟨pEntry, hpEntry,
      ((findDuplicateEntry_iff _ _).mp hdup).symm⟩
  · rintro ⟨pEntry, hpEntry, htriple⟩
    exact ⟨pEntry, hpEntry, (findDuplicateEntry_iff _ _).mpr htriple.symm⟩

theorem evntInv_register
    {s : EvntMgr} (request : SubscribeRequest)
    (hinv : EvntInv s)
    (hlt : s.ackToken + 1 < 2 ^ 31) :
    EvntInv (registerEventSubscription s request).2 := by
  have hnext : s.nextToken = s.ackToken + 1 := by
    have hpos := hinv.positive
    exact wrapInt32_of_range (by omega) hlt
  unfold registerEventSubscription
  split
  · exact hinv
  · rename_i hdup
    have hfresh : ∀ token ∈ s.issued, token < s.nextToken := by
      intro token htoken
      have hle := hinv.bound token htoken
      omega
    refine ⟨?_, ?_, ?_, ?_, ?_, ?_, ?_⟩
    · intro pEntry hpEntry
      rw [List.mem_append, List.mem_singleton] at hpEntry
      rcases hpEntry with hpEntry | rfl
      · exact hinv.flags pEntry hpEntry
      · rfl
    · rw [any_findDuplicateEntry] at hdup
      simp only [List.map_append, List.map_cons, List.map_nil]
      rw [List.nodup_append]
      refine ⟨hinv.triples, List.nodup_singleton _, ?_⟩
      intro triple htriple other hother heq
      rw [List.mem_singleton] at hother
      exact hdup (by rw [heq, hother] at htriple; exact htriple)
    · simp only [List.map_append, List.map_cons, List.map_nil]
      rw [List.pairwise_append]
      refine ⟨hinv.tokens, List.pairwise_singleton _ _, ?_⟩
      intro token htoken other hother
      rw [List.mem_singleton] at hother
      obtain ⟨pEntry, hpEntry, rfl⟩ := List.mem_map.mp htoken
      rw [hother]
      exact hfresh _ (hinv.listed pEntry hpEntry)
    · rw [List.pairwise_append]
      refine ⟨hinv.issued, List.pairwise_singleton _ _, ?_⟩
      intro token htoken other hother
      rw [List.mem_singleton] at hother
      rw [hother]
      exact hfresh token htoken
    · intro pEntry hpEntry
      rw [List.mem_append, List.mem_singleton] at hpEntry
      rcases hpEntry with hpEntry | rfl
      · exact List.mem_append_left _ (hinv.listed pEntry hpEntry)
      · exact List.mem_append_right _ (List.mem_singleton.mpr rfl)
    · intro token htoken
      rw [List.mem_append, List.mem_singleton] at htoken
      rcases htoken with htoken | rfl
      · exact Int.le_of_lt (hfresh token htoken)
      · exact Int.le_refl _
    · have hpos := hinv.positive
      simp only [hnext]
      omega

/-- Registering raises the last token by at most one. -/
theorem ackToken_register
    {s : EvntMgr} (request : SubscribeRequest)
    (hinv : EvntInv s)
    (hlt : s.ackToken + 1 < 2 ^ 31) :
    (registerEventSubscription s request).2.ackToken ≤ s.ackToken + 1 := by
  unfold registerEventSubscription
  split
  · simp only
    omega
  · have hpos := hinv.positive
    exact Int.le_of_eq (wrapInt32_of_range (by omega) hlt)

/-- Every run within the range of the tokens keeps the invariant. -/
theorem evntInv_run
    {ops : List EvntOp} :
    ∀ {s t : EvntMgr},
      EvntInv s → s.ackToken + registrations ops < 2 ^ 31 →
      run evntStep s ops = some t → EvntInv t := by
  induction ops with
  | nil =>
      intro s t hinv _ hrun
      simp only [run_nil, Option.some.injEq] at hrun
      exact hrun ▸ hinv
  | cons op ops ih =>
      intro s t hinv hlt hrun
      obtain ⟨u, hstep, hrest⟩ := run_cons_success hrun
      cases op with
      | register request =>
          simp only [evntStep, Option.some.injEq] at hstep
          subst hstep
          simp only [registrations] at hlt
          have hnext : s.ackToken + 1 < 2 ^ 31 := by omega
          have hack := ackToken_register request hinv hnext
          refine ih (evntInv_register request hinv hnext) ?_ hrest
          omega
      | unregister srvToken =>
          simp only [evntStep, Option.some.injEq] at hstep
          subst hstep
          simp only [registrations] at hlt
          have hsame :
              (unregisterEventSubscription s srvToken).2.ackToken =
                s.ackToken := by
            unfold unregisterEventSubscription
            split <;> rfl
          refine ih (hinv.sublist ?_ ?_ hsame) (hsame ▸ hlt) hrest
          · unfold unregisterEventSubscription
            split
            · exact List.filter_sublist
            · exact List.Sublist.refl _
          · unfold unregisterEventSubscription
            split <;> rfl
      | notify eventNum eventArg eventArg2 =>
          simp only [evntStep, Option.some.injEq] at hstep
          subst hstep
          have hnext :
              EvntInv (notifyEventPush s eventNum eventArg eventArg2) :=
            hinv.sublist (List.Sublist.refl _) rfl rfl
          exact ih hnext hlt hrest
      | drain connect =>
          simp only [evntStep, Option.some.injEq] at hstep
          subst hstep
          have hnext : EvntInv (notifyDrain s connect).1 := by
            refine hinv.sublist ?_ rfl rfl
            simp only [notifyDrain]
            rw [drainQueue_list _ _ _ hinv.flags]
            exact List.filter_sublist
          exact ih hnext hlt hrest

/-- What subscribers and callers may rely on in a state. -/
structure SubscriptionsOk (s : EvntMgr) : Prop where
  /-- No two entries have the same client token, port and event number. -/
  triples : (s.eventList.map EventEntry.triple).Nodup
  /-- Tokens increase along the list, so no two entries share one. -/
  tokens : (s.eventList.map EventEntry.srvToken).Pairwise (· < ·)
  /-- Tokens increase in the order in which they are handed out. -/
  issued : s.issued.Pairwise (· < ·)
  listed : ∀ pEntry ∈ s.eventList, pEntry.srvToken ∈ s.issued
  /-- Registering succeeds exactly if the triple is new. -/
  register :
    ∀ request : SubscribeRequest,
      if request.triple ∈ s.eventList.map EventEntry.triple then
        registerEventSubscription s request = (-1, s)
      else
        (registerEventSubscription s request).1 = 0 ∧
        (registerEventSubscription s request).2.eventList =
          s.eventList ++ [request.entry s.nextToken]
  /-- Unregistering removes the one entry of the token. -/
  unregister :
    ∀ srvToken : Int,
      if ∃ pEntry ∈ s.eventList, pEntry.srvToken = srvToken then
        (unregisterEventSubscription s srvToken).1 = 0 ∧
        ∃ before pEntry after,
          s.eventList = before ++ pEntry :: after ∧
          pEntry.srvToken = srvToken ∧
          (unregisterEventSubscription s srvToken).2 =
            { s with eventList := before ++ after }
      else
        unregisterEventSubscription s srvToken = (-1, s)
  /-- Draining serves every entry up to its first failed connect. -/
  drain :
    ∀ connect : Nat → EventEntry → Bool,
      (∀ pEntry ∈ s.eventList,
        (notifyDrain s connect).2.filter
            (fun send => decide (send.srvToken = pEntry.srvToken)) =
          throughFirstFailure
            (wantedSends connect pEntry 0 s.notifyEvent)) ∧
      (∀ send ∈ (notifyDrain s connect).2,
        ∃ pEntry ∈ s.eventList, send.srvToken = pEntry.srvToken) ∧
      (notifyDrain s connect).1 =
        { s with
          eventList :=
            s.eventList.filter (staysConnected connect 0 s.notifyEvent)
          notifyEvent := [] }

/-- Tokens of a good list are distinct. -/
theorem EvntInv.tokens_nodup
    {s : EvntMgr} (hinv : EvntInv s) :
    (s.eventList.map EventEntry.srvToken).Nodup :=
  hinv.tokens.imp fun hlt => Int.ne_of_lt hlt

/-- Removing a token from a good list removes its one entry. -/
theorem EvntInv.unregister_split
    {s : EvntMgr} {pEntry : EventEntry}
    (hinv : EvntInv s) (hmem : pEntry ∈ s.eventList) :
    ∃ before after,
      s.eventList = before ++ pEntry :: after ∧
      (s.eventList.filter fun other =>
        !findEventEntry pEntry.srvToken other) = before ++ after := by
  obtain ⟨before, after, hsplit⟩ := List.append_of_mem hmem
  refine ⟨before, after, hsplit, ?_⟩
  have hnodup := hinv.tokens_nodup
  rw [hsplit, List.map_append, List.map_cons, List.nodup_append,
    List.nodup_cons] at hnodup
  obtain ⟨-, ⟨hafter, -⟩, hbefore⟩ := hnodup
  have hkeep :
      ∀ other, other ∈ before ∨ other ∈ after →
        findEventEntry pEntry.srvToken other = false := by
    intro other hother
    simp only [findEventEntry, decide_eq_false_iff_not]
    intro heq
    rcases hother with hother | hother
    · exact hbefore _ (List.mem_map_of_mem hother) _ (List.mem_cons_self)
        heq.symm
    · exact hafter (heq ▸ List.mem_map_of_mem hother)
  rw [hsplit, List.filter_append, List.filter_cons]
  have hself : findEventEntry pEntry.srvToken pEntry = true := by
    simp [findEventEntry]
  simp only [hself, Bool.not_true, Bool.false_eq_true, if_false]
  congr 1
  · exact List.filter_eq_self.mpr fun other hother => by
      simp [hkeep other (Or.inl hother)]
  · exact List.filter_eq_self.mpr fun other hother => by
      simp [hkeep other (Or.inr hother)]

/-- The operations on a good list do what they should. -/
theorem EvntInv.subscriptionsOk
    {s : EvntMgr} (hinv : EvntInv s) :
    SubscriptionsOk s := by
  refine ⟨hinv.triples, hinv.tokens, hinv.issued, hinv.listed, ?_, ?_, ?_⟩
  · intro request
    split
    · rename_i hdup
      rw [← any_findDuplicateEntry] at hdup
      simp only [registerEventSubscription, hdup, if_true]
    · rename_i hdup
      rw [← any_findDuplicateEntry] at hdup
      simp only [registerEventSubscription, hdup]
      exact ⟨rfl, rfl⟩
  · intro srvToken
    have hany :
        s.eventList.any (findEventEntry srvToken) = true ↔
          ∃ pEntry ∈ s.eventList, pEntry.srvToken = srvToken := by
      rw [List.any_eq_true]
      simp only [findEventEntry, decide_eq_true_eq]
      exact ⟨fun ⟨pEntry, hmem, heq⟩ => ⟨pEntry, hmem, heq.symm⟩,
        fun ⟨pEntry, hmem, heq⟩ => ⟨pEntry, hmem, heq.symm⟩⟩
    split
    · rename_i hfound
      have hfind := hany.mpr hfound
      obtain ⟨pEntry, hmem, rfl⟩ := hfound
      obtain ⟨before, after, hsplit, hfilter⟩ := hinv.unregister_split hmem
      simp only [unregisterEventSubscription, hfind, if_true, hfilter]
      exact ⟨trivial, before, pEntry, after, hsplit, rfl, rfl⟩
    · rename_i hmissing
      rw [← hany] at hmissing
      simp only [unregisterEventSubscription, hmissing]
      rfl
  · intro connect
    refine ⟨?_, ?_, ?_⟩
    · intro pEntry hmem
      exact drainQueue_sends _ 0 _ hinv.flags hinv.tokens_nodup pEntry hmem
    · intro send hsend
      exact drainQueue_sends_mem _ 0 _ hinv.flags send hsend
    · simp only [notifyDrain]
      rw [drainQueue_list _ 0 _ hinv.flags]

/--
After every sequence of operations with fewer than `2 ^ 31` registrations the
list is in order and every operation does what it should.
-/
theorem subscriptionsOk_run
    {ops : List EvntOp} {s : EvntMgr}
    (hcount : registrations ops < 2 ^ 31)
    (hrun : run evntStep EvntMgr.new ops = some s) :
    SubscriptionsOk s := by
  refine (evntInv_run evntInv_new ?_ hrun).subscriptionsOk
  simp only [EvntMgr.new]
  omega

/-- A subscriber of the event 3 on a port. -/
def sampleRequest (portNum : Int) : SubscribeRequest where
  cltToken := 7
  portNum := portNum
  eventNum := 3
  sockDescr := 4
  sockId := 1
  ip := []

/-- Two subscribers, of which the first cannot be reached. -/
def sampleOps : List EvntOp :=
  [.register (sampleRequest 8081), .register (sampleRequest 8082),
    .register (sampleRequest 8081), .notify 3 0 0,
    .drain fun _ pEntry => decide (pEntry.portNum = 8082),
    .notify 3 1 0]

/-- The first subscriber is gone, the duplicate was refused. -/
theorem subscriptionsOk_sampleOps :
    ∃ s,
      run evntStep EvntMgr.new sampleOps = some s ∧
      s.eventList.map EventEntry.srvToken = [2] ∧ SubscriptionsOk s := by
  obtain ⟨s, hrun, htokens⟩ :
      ∃ s,
        run evntStep EvntMgr.new sampleOps = some s ∧
        s.eventList.map EventEntry.srvToken = [2] :=
    ⟨_, rfl, by decide⟩
  exact ⟨s, hrun, htokens, subscriptionsOk_run (by decide) hrun⟩

end Adav
end BrBox
