import BrBox.Adav.EvntNotify

/-!
# The notify loop left alone

`EvntMgr` runs the notify loop for one event to its end, by `notifySends` and
`notifyList`; `EvntNotify` cuts it into accesses.  If the other thread does
nothing in the meantime, the accesses add up to the same (`run_roundLabels`):
one round sends to the same entries with the same outcomes and leaves the same
list.
-/

namespace BrBox
namespace Adav

open LabelledRun

section Loop

variable (connect : EventEntry → Bool)
variable (event : EventProcEntry)

/-- The accesses that find out whether an entry wants the event. -/
def testLabels (pEntry : EventEntry) : List NotifyLabel :=
  [.notifyThread, .notifyThread] ++
    if pEntry.eventNum = -1 then [] else [.notifyThread]

/-- The accesses that send the event to an entry. -/
def sendLabels (pEntry : EventEntry) : List NotifyLabel :=
  [.notifyThread, .connect (connect pEntry)] ++
    if connect pEntry then [] else [.notifyThread]

/-- The accesses of the loop to one entry. -/
def entryLabels (pEntry : EventEntry) : List NotifyLabel :=
  testLabels pEntry ++
    if wantsEvent event pEntry then sendLabels connect pEntry else []

/-- The accesses for one event, from `front` to `pop_front`. -/
def roundLabels (eventList : List EventEntry) : List NotifyLabel :=
  .notifyThread ::
    (eventList.flatMap (entryLabels connect event) ++
      [.notifyThread, .notifyThread, .notifyThread])

/-- The entry after the body of the loop. -/
def flagSubscription (sub : Subscription) : Subscription :=
  { sub with entry := flagEntry connect event sub.entry }

/-- What the loop sends to an entry. -/
def subscriptionSends (sub : Subscription) : List (Nat × Bool) :=
  if wantsEvent event sub.entry then [(sub.uid, connect sub.entry)] else []

variable {connect}
variable {event}
variable {s : NotifyState}
variable {pre post : List Subscription}
variable {sub : Subscription}

/-- The loop finds out whether an entry wants the event. -/
theorem run_testLabels
    (hcrashed : s.crashed = false)
    (hpc : s.notify = .loopHead event pre.length)
    (hlist : s.eventList = pre ++ sub :: post) :
    run notifyStep s (testLabels sub.entry) =
      some
        { s with
          notify :=
            if wantsEvent event sub.entry then .readEntry event pre.length
            else .loopHead event (pre.length + 1) } := by
  by_cases hall : sub.entry.eventNum = -1
  · simp [testLabels, run, notifyStep, notifyThreadStep, hcrashed, hpc, hlist,
      hall, wantsEvent]
  · by_cases hnum : sub.entry.eventNum = event.eventNum
    · have hevent : event.eventNum ≠ -1 := hnum ▸ hall
      simp [testLabels, run, notifyStep, notifyThreadStep, hcrashed, hpc,
        hlist, hevent, hnum, wantsEvent]
    · simp [testLabels, run, notifyStep, notifyThreadStep, hcrashed, hpc,
        hlist, hall, hnum, wantsEvent]

/-- The loop sends the event to an entry and flags it if that fails. -/
theorem run_sendLabels
    (connect : EventEntry → Bool)
    (hcrashed : s.crashed = false)
    (hpc : s.notify = .readEntry event pre.length)
    (hlist : s.eventList = pre ++ sub :: post)
    (hwants : wantsEvent event sub.entry = true) :
    run notifyStep s (sendLabels connect sub.entry) =
      some
        { s with
          eventList := pre ++ flagSubscription connect event sub :: post
          notify := .loopHead event (pre.length + 1)
          sends := s.sends ++ [(sub.uid, connect sub.entry)] } := by
  have huid : sub.uid ∈ uids (pre ++ sub :: post) := by
    simp [uids]
  have hflag : flagAt pre.length (pre ++ sub :: post) =
      pre ++ { sub with entry := { sub.entry with deleteFlag := true } } ::
        post :=
    Slots.modify_between pre post sub _
  cases hconnect : connect sub.entry with
  | false =>
      simp [sendLabels, run, notifyStep, notifyThreadStep, connectStep,
        hcrashed, hpc, hlist, huid, hconnect, hflag, flagSubscription,
        flagEntry, sendFails, hwants]
  | true =>
      simp [sendLabels, run, notifyStep, notifyThreadStep, connectStep,
        hcrashed, hpc, hlist, huid, hconnect, flagSubscription, flagEntry,
        sendFails, hwants]

/-- The loop passes one entry. -/
theorem run_entryLabels
    (hcrashed : s.crashed = false)
    (hpc : s.notify = .loopHead event pre.length)
    (hlist : s.eventList = pre ++ sub :: post) :
    run notifyStep s (entryLabels connect event sub.entry) =
      some
        { s with
          eventList := pre ++ flagSubscription connect event sub :: post
          notify := .loopHead event (pre.length + 1)
          sends := s.sends ++ subscriptionSends connect event sub } := by
  unfold entryLabels
  rw [run_append, run_testLabels hcrashed hpc hlist, Option.bind_some]
  cases hwants : wantsEvent event sub.entry with
  | false =>
      simp [flagSubscription, flagEntry, sendFails, subscriptionSends, hwants,
        ← hlist]
  | true =>
      have hsend := run_sendLabels connect
        (s := { s with notify := .readEntry event pre.length })
        hcrashed rfl hlist hwants
      simp only [if_true, subscriptionSends, hwants]
      exact hsend

variable (connect)

/-- The loop passes the rest of the list. -/
theorem run_loopLabels
    (post : List Subscription) :
    ∀ (s : NotifyState) (pre : List Subscription),
      s.crashed = false →
      s.notify = .loopHead event pre.length →
      s.eventList = pre ++ post →
      run notifyStep s
          ((post.map Subscription.entry).flatMap (entryLabels connect event)) =
        some
          { s with
            eventList := pre ++ post.map (flagSubscription connect event)
            notify := .loopHead event (pre.length + post.length)
            sends :=
              s.sends ++ post.flatMap (subscriptionSends connect event) } := by
  induction post with
  | nil =>
      intro s pre hcrashed hpc hlist
      simp [← hpc, ← hlist]
  | cons sub post ih =>
      intro s pre hcrashed hpc hlist
      have hnext := ih
        { s with
          eventList := pre ++ flagSubscription connect event sub :: post
          notify := .loopHead event (pre.length + 1)
          sends := s.sends ++ subscriptionSends connect event sub }
        (pre ++ [flagSubscription connect event sub])
        hcrashed (by simp) (by simp)
      rw [List.map_cons, List.flatMap_cons, run_append,
        run_entryLabels hcrashed hpc hlist, Option.bind_some, hnext]
      simp [Nat.add_comm, Nat.add_left_comm]

/-- The flagged entries and the event are removed after the loop. -/
theorem run_endLabels
    (event : EventProcEntry)
    (hcrashed : s.crashed = false)
    (hpc : s.notify = .loopHead event s.eventList.length) :
    ∃ t,
      run notifyStep s [.notifyThread, .notifyThread, .notifyThread] =
        some t ∧
      t.notify = .checkEmpty ∧
      t.notifyEvent = s.notifyEvent.tail ∧
      t.eventList = s.eventList.filter (fun sub => !sub.entry.deleteFlag) ∧
      t.sends = s.sends := by
  have hremove : notifyStep s .notifyThread =
      some { s with notify := .removeFlagged event } := by
    simp [notifyStep, notifyThreadStep, hcrashed, hpc]
  simp only [run, hremove]
  simp [notifyStep, notifyThreadStep, hcrashed]

/-- The flags of the loop are those of the whole operation. -/
theorem map_entry_flagSubscription
    (event : EventProcEntry)
    (eventList : List Subscription) :
    ((eventList.map (flagSubscription connect event)).filter fun sub =>
        !sub.entry.deleteFlag).map Subscription.entry =
      notifyList connect event (eventList.map Subscription.entry) := by
  simp [notifyList, List.filter_map, Function.comp_def, flagSubscription]

/-- The entries to which the loop sends are those of the whole operation. -/
theorem sends_of_targets
    (event : EventProcEntry)
    (eventList : List Subscription) :
    ∃ targets : List Subscription,
      eventList.flatMap (subscriptionSends connect event) =
        targets.map (fun sub => (sub.uid, connect sub.entry)) ∧
      notifySends connect event (eventList.map Subscription.entry) =
        targets.map (fun sub => sendEvent connect event sub.entry) := by
  refine ⟨eventList.filter fun sub => wantsEvent event sub.entry, ?_, ?_⟩
  · induction eventList with
    | nil =>
        rfl
    | cons sub eventList ih =>
        cases hwants : wantsEvent event sub.entry with
        | false =>
            simp [subscriptionSends, hwants, ih]
        | true =>
            simp [subscriptionSends, hwants, ih]
  · simp [notifySends, List.filter_map, Function.comp_def]

/-- One round of the notify thread without another thread is the loop of
`notifyDrain` for one event. -/
theorem run_roundLabels
    {queue : List EventProcEntry}
    (hcrashed : s.crashed = false)
    (hpc : s.notify = .front)
    (hqueue : s.notifyEvent = event :: queue) :
    ∃ t,
      run notifyStep s
          (roundLabels connect event (s.eventList.map Subscription.entry)) =
        some t ∧
      t.notify = .checkEmpty ∧
      t.notifyEvent = queue ∧
      t.eventList.map Subscription.entry =
        notifyList connect event (s.eventList.map Subscription.entry) ∧
      ∃ targets : List Subscription,
        t.sends = targets.map (fun sub => (sub.uid, connect sub.entry)) ∧
        notifySends connect event (s.eventList.map Subscription.entry) =
          targets.map (fun sub => sendEvent connect event sub.entry) := by
  have hfirst : notifyStep s .notifyThread =
      some { s with notify := .loopHead event 0, sends := [] } := by
    simp [notifyStep, notifyThreadStep, hcrashed, hpc, hqueue]
  have hloop := run_loopLabels connect s.eventList
    { s with notify := .loopHead event 0, sends := [] } [] hcrashed rfl rfl
  obtain ⟨t, hend, hcheck, hpopped, hlist, hsends⟩ := run_endLabels event
    (s := { s with
      eventList := s.eventList.map (flagSubscription connect event)
      notify := .loopHead event s.eventList.length
      sends := s.eventList.flatMap (subscriptionSends connect event) })
    hcrashed (by simp)
  obtain ⟨targets, hloopSends, hdrainSends⟩ :=
    sends_of_targets connect event s.eventList
  refine ⟨t, ?_, hcheck, ?_, ?_, targets, hsends.trans hloopSends,
    hdrainSends⟩
  · unfold roundLabels
    rw [run, hfirst]
    dsimp only
    rw [run_append, hloop, Option.bind_some]
    simpa using hend
  · rw [hpopped]
    simp [hqueue]
  · rw [hlist]
    exact map_entry_flagSubscription connect event s.eventList

end Loop

end Adav
end BrBox
