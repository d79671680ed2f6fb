import BrBox.Adav.EvntMgr

/-!
# The event monitor

With a list of servers on the command line `sysmgr` subscribes to their events
and prints what arrives.  `SubscribeEvents` walks over the list and works on a
copy of each entry, so neither the token nor the status that a subscription
yields reaches the list.

`monitorOk_run_iff` says when this does no harm: no subscription is ever made.
-/

namespace BrBox
namespace Sysmgr

open CText
open LabelledRun
open Adav

/-- `EvntMonitEntry`; the names of the events are only printed. -/
structure EvntMonitEntry where
  ip : Bytes
  port : Int
  srvToken : Int
  evntType : Int
  subscription : Int
  subscriptionSts : Bool
deriving DecidableEq, Repr

/-- The constructor of an entry. -/
def EvntMonitEntry.new (ip : Bytes) (port srvToken evntType : Int) : EvntMonitEntry where
  ip := ip
  port := port
  srvToken := srvToken
  evntType := evntType
  subscription := -1
  subscriptionSts := false

/-- The port at which `sysmgr` receives events. -/
def eventPort : Int := 40001

/-- What a server knows about a connection. -/
structure ServerConn where
  sockDescr : Int
  sockId : Int
deriving DecidableEq, Repr

/-- The servers by address and port. -/
abbrev Servers := Bytes → Int → EvntMgr

/-- Replace one server. -/
def Servers.set (servers : Servers) (ip : Bytes) (port : Int) (server : EvntMgr) : Servers :=
  fun ip' port' => if ip' = ip ∧ port' = port then server else servers ip' port'

/-- A server holds the subscription of an entry; `host` is the address under
which the servers see this system. -/
def isSubscriptionOf (host : Bytes) (entry : EvntMonitEntry) (sub : EventEntry) : Bool :=
  sub.ip = host && sub.portNum = eventPort && sub.cltToken = entry.srvToken &&
    sub.eventNum = entry.evntType

/-- The live subscriptions of an entry. -/
def liveSubscriptions (host : Bytes) (servers : Servers) (entry : EvntMonitEntry) :
    List EventEntry :=
  (servers entry.ip entry.port).eventList.filter (isSubscriptionOf host entry)

/-- Where the life of the monitor is; after the destructor the servers it could reach. -/
inductive MonitorPhase where
  | new
  | alive
  | gone (reached : Nat → Bool)

/-- The monitor and the servers.  `asked` is the ghost list of the subscription
requests, each with whether its entry held a live subscription. -/
structure MonitorState where
  eventMonitList : List EvntMonitEntry
  servers : Servers
  phase : MonitorPhase
  asked : List (EvntMonitEntry × Bool)

/-- What happens to the monitor.  The outcome of a connect is given for the
position of the entry in the list. -/
inductive MonitorLabel where
  | construct (conns : Nat → Option ServerConn)
  | reSubscribeEvents (conns : Nat → Option ServerConn)
  | receiveEvent (myToken evntNum : Int)
  | destruct (reached : Nat → Bool)

/-- What the monitor asks of a server. -/
def subscribeRequest (host : Bytes) (entry : EvntMonitEntry) (conn : ServerConn) :
    SubscribeRequest where
  cltToken := entry.srvToken
  portNum := eventPort
  eventNum := entry.evntType
  sockDescr := conn.sockDescr
  sockId := conn.sockId
  ip := host

/-- `SUBSCRIBE_EVENT`: what is written to the token, and the server. -/
def subscribeEvent
    (host : Bytes) (server : EvntMgr) (entry : EvntMonitEntry) :
    Option ServerConn → Option Int × EvntMgr
  | none => (none, server)
  | some conn =>
      match registerEventSubscription server (subscribeRequest host entry conn) with
      | (0, server') => (some server'.ackToken, server')
      | (_, server') => (none, server')

/-- `UNSUBSCRIBE_EVENT`. -/
def unsubscribeEvent (server : EvntMgr) (srvToken : Int) (reached : Bool) : EvntMgr :=
  if reached then (unregisterEventSubscription server srvToken).2 else server

/-- The body of the loop of `SubscribeEvents`: `pEntry` after it, and the rest. -/
def subscribeBody
    (host : Bytes) (s : MonitorState) (conn : Option ServerConn) (pEntry : EvntMonitEntry) :
    EvntMonitEntry × MonitorState :=
  if pEntry.subscriptionSts = false then
    let result := subscribeEvent host (s.servers pEntry.ip pEntry.port) pEntry conn
    let subscription := result.1.getD (-1)
    ({ pEntry with
        subscription := subscription
        subscriptionSts := decide (subscription ≠ -1) },
      { s with
        servers := s.servers.set pEntry.ip pEntry.port result.2
        asked :=
          if conn.isSome then
            s.asked ++ [(pEntry, !(liveSubscriptions host s.servers pEntry).isEmpty)]
          else s.asked })
  else
    (pEntry, s)

/-- The loop of `SubscribeEvents` from a position on.  `pEntry` is a copy of the
entry of the list and goes out of scope. -/
def subscribeLoop (host : Bytes) (conns : Nat → Option ServerConn) :
    Nat → List EvntMonitEntry → MonitorState → MonitorState
  | _, [], s => s
  | i, pEntry :: entries, s =>
      subscribeLoop host conns (i + 1) entries (subscribeBody host s (conns i) pEntry).2

/-- `SubscribeEvents`. -/
def subscribeEvents
    (host : Bytes) (conns : Nat → Option ServerConn) (s : MonitorState) : MonitorState :=
  subscribeLoop host conns 0 s.eventMonitList s

/-- The loop of `UnSubscribeEvents`, which works on copies too. -/
def unSubscribeLoop (reached : Nat → Bool) :
    Nat → List EvntMonitEntry → MonitorState → MonitorState
  | _, [], s => s
  | i, pEntry :: entries, s =>
      unSubscribeLoop reached (i + 1) entries
        (if pEntry.subscriptionSts = true then
          { s with
            servers := s.servers.set pEntry.ip pEntry.port
              (unsubscribeEvent (s.servers pEntry.ip pEntry.port) pEntry.subscription
                (reached i)) }
        else s)

/-- `ReceiveEvent` of a shutdown event clears the status of the first entry with
the token. -/
def clearStatus (myToken : Int) : List EvntMonitEntry → List EvntMonitEntry
  | [] => []
  | entry :: entries =>
      if entry.srvToken = myToken then
        { entry with subscriptionSts := false } :: entries
      else
        entry :: clearStatus myToken entries

/-- The server of the first entry with a token goes down. -/
def shutDown (servers : Servers) (myToken : Int) (entries : List EvntMonitEntry) : Servers :=
  match entries.find? fun entry => entry.srvToken = myToken with
  | some entry => servers.set entry.ip entry.port EvntMgr.new
  | none => servers

/-- `ReceiveEvent`; number 1 is the shutdown event, whose sender drops its subscriptions. -/
def receiveEvent (s : MonitorState) (myToken evntNum : Int) : MonitorState :=
  if evntNum = 1 then
    { s with
      eventMonitList := clearStatus myToken s.eventMonitList
      servers := shutDown s.servers myToken s.eventMonitList }
  else
    s

/-- One step. -/
def monitorStep (host : Bytes) (s : MonitorState) : MonitorLabel → Option MonitorState
  | .construct conns =>
      match s.phase with
      | .new => some { subscribeEvents host conns s with phase := .alive }
      | _ => none
  | .reSubscribeEvents conns =>
      match s.phase with
      | .alive => some (subscribeEvents host conns s)
      | _ => none
  | .receiveEvent myToken evntNum =>
      match s.phase with
      | .alive => some (receiveEvent s myToken evntNum)
      | _ => none
  | .destruct reached =>
      match s.phase with
      | .alive =>
          some { unSubscribeLoop reached 0 s.eventMonitList s with phase := .gone reached }
      | _ => none

/-- The monitor before its constructor subscribes, over servers in any state. -/
def MonitorState.start (entries : List EvntMonitEntry) (servers : Servers) : MonitorState where
  eventMonitList := entries
  servers := servers
  phase := .new
  asked := []

/-! ## What is promised -/

/-- Status and token of the entries agree with the servers, only entries without
a subscription ask for one, and nothing is left behind on a server that the
destructor can reach. -/
structure MonitorOk (host : Bytes) (s : MonitorState) : Prop where
  status : s.phase = .alive → ∀ entry ∈ s.eventMonitList,
    (entry.subscriptionSts = true ↔ liveSubscriptions host s.servers entry ≠ [])
  token : s.phase = .alive → ∀ entry ∈ s.eventMonitList,
    ∀ sub ∈ liveSubscriptions host s.servers entry, entry.subscription = sub.srvToken
  asked : ∀ request ∈ s.asked, request.2 = false
  gone : ∀ reached, s.phase = .gone reached →
    ∀ (i : Nat) entry, s.eventMonitList[i]? = some entry → reached i = true →
      liveSubscriptions host s.servers entry = []

/-- The request of an entry is refused: the server is not reached or holds a
subscription with the same token, port and event number already. -/
def Refused
    (host : Bytes) (servers : Servers) (conn : Option ServerConn) (entry : EvntMonitEntry) :
    Prop :=
  ∀ c, conn = some c →
    (servers entry.ip entry.port).eventList.any
      (findDuplicateEntry ((subscribeRequest host entry c).entry 0)) = true

/-- No subscription is made in the step. -/
def NoneAccepted (host : Bytes) (s : MonitorState) : MonitorLabel → Prop
  | .construct conns | .reSubscribeEvents conns =>
      ∀ (i : Nat) entry, s.eventMonitList[i]? = some entry →
        Refused host s.servers (conns i) entry
  | .receiveEvent _ _ | .destruct _ => True

/-! ## Runs -/

/-- A server holds a subscription of the monitor. -/
def ofMonitor (host : Bytes) (sub : EventEntry) : Prop :=
  sub.ip = host ∧ sub.portNum = eventPort

/-- No server holds a subscription of the monitor, and the list says so. -/
structure Unsubscribed (host : Bytes) (s : MonitorState) : Prop where
  status : ∀ entry ∈ s.eventMonitList, entry.subscriptionSts = false
  servers : ∀ ip port, ∀ sub ∈ (s.servers ip port).eventList, ¬ ofMonitor host sub
  asked : ∀ request ∈ s.asked, request.2 = false

section Subscribe

variable {host : Bytes}
variable {s t : MonitorState}

@[simp] theorem Servers.set_self
    (servers : Servers) (ip : Bytes) (port : Int) (server : EvntMgr) :
    servers.set ip port server ip port = server := by
  simp [Servers.set]

/-- Putting a server back changes nothing. -/
theorem Servers.set_same
    (servers : Servers) (ip : Bytes) (port : Int) :
    servers.set ip port (servers ip port) = servers := by
  funext ip' port'
  unfold Servers.set
  split
  · next heq =>
      rw [heq.1, heq.2]
  · rfl

/-- What holds of every entry of the servers still does when one of them is replaced. -/
theorem Servers.forall_set
    {servers : Servers} {ip : Bytes} {port : Int} {server : EvntMgr} {P : EventEntry → Prop}
    (hservers : ∀ ip port, ∀ sub ∈ (servers ip port).eventList, P sub)
    (hserver : ∀ sub ∈ server.eventList, P sub) :
    ∀ ip' port', ∀ sub ∈ (servers.set ip port server ip' port').eventList, P sub := by
  intro ip' port'
  unfold Servers.set
  split
  · exact hserver
  · exact hservers ip' port'

/-- A live subscription belongs to the monitor. -/
theorem ofMonitor_of_live
    {servers : Servers} {entry : EvntMonitEntry} {sub : EventEntry}
    (hsub : sub ∈ liveSubscriptions host servers entry) :
    sub ∈ (servers entry.ip entry.port).eventList ∧ ofMonitor host sub := by
  obtain ⟨hmem, hof⟩ := List.mem_filter.mp hsub
  simp only [isSubscriptionOf, Bool.and_eq_true, decide_eq_true_eq] at hof
  exact ⟨hmem, hof.1.1.1, hof.1.1.2⟩

/-- Without a subscription of the monitor no entry has a live one. -/
theorem Unsubscribed.live
    (hinv : Unsubscribed host s) (entry : EvntMonitEntry) :
    liveSubscriptions host s.servers entry = [] := by
  rw [List.eq_nil_iff_forall_not_mem]
  intro sub hsub
  obtain ⟨hmem, hof⟩ := ofMonitor_of_live hsub
  exact hinv.servers _ _ sub hmem hof

/-- A refused request leaves the server as it is. -/
theorem subscribeEvent_refused
    {servers : Servers} {conn : Option ServerConn} {entry : EvntMonitEntry}
    (hrefused : Refused host servers conn entry) :
    subscribeEvent host (servers entry.ip entry.port) entry conn =
      (none, servers entry.ip entry.port) := by
  cases conn with
  | none =>
      rfl
  | some conn =>
      have hdup := hrefused conn rfl
      rw [subscribeEvent, registerEventSubscription]
      rw [show (servers entry.ip entry.port).eventList.any
        (findDuplicateEntry ((subscribeRequest host entry conn).entry 0)) = true from hdup]
      simp

/-- An accepted request leaves a live subscription. -/
theorem subscribeEvent_accepted
    {servers : Servers} {conn : ServerConn} {entry : EvntMonitEntry}
    (haccepted : ¬ Refused host servers (some conn) entry) :
    ∃ sub ∈ (subscribeEvent host (servers entry.ip entry.port) entry (some conn)).2.eventList,
      isSubscriptionOf host entry sub = true := by
  have hdup :
      (servers entry.ip entry.port).eventList.any
        (findDuplicateEntry ((subscribeRequest host entry conn).entry 0)) = false := by
    rw [← Bool.not_eq_true]
    intro hdup
    apply haccepted
    intro c hc
    obtain rfl := Option.some.inj hc
    exact hdup
  refine ⟨(subscribeRequest host entry conn).entry
    (servers entry.ip entry.port).nextToken, ?_, ?_⟩
  · simp [subscribeEvent, registerEventSubscription, hdup]
  · simp [isSubscriptionOf, SubscribeRequest.entry, subscribeRequest]

/-- A request never takes a subscription away. -/
theorem subscribeEvent_subset
    (server : EvntMgr) (entry : EvntMonitEntry) (conn : Option ServerConn) :
    server.eventList ⊆ (subscribeEvent host server entry conn).2.eventList := by
  cases conn with
  | none =>
      exact List.Subset.refl _
  | some conn =>
      by_cases hdup : server.eventList.any
          (findDuplicateEntry ((subscribeRequest host entry conn).entry 0)) = true
      · simp [subscribeEvent, registerEventSubscription, hdup]
      · simp [subscribeEvent, registerEventSubscription, hdup]

/-- The rest of the loop keeps the live subscriptions. -/
theorem subscribeLoop_live
    (conns : Nat → Option ServerConn) {entry : EvntMonitEntry}
    (entries : List EvntMonitEntry) (i : Nat)
    (hlive : liveSubscriptions host s.servers entry ≠ []) :
    liveSubscriptions host (subscribeLoop host conns i entries s).servers entry ≠ [] := by
  induction entries generalizing i s with
  | nil =>
      exact hlive
  | cons pEntry entries ih =>
      apply ih
      obtain ⟨sub, hsub⟩ := List.exists_mem_of_ne_nil _ hlive
      obtain ⟨hmem, hof⟩ := List.mem_filter.mp hsub
      apply List.ne_nil_of_mem (a := sub)
      refine List.mem_filter.mpr ⟨?_, hof⟩
      unfold subscribeBody
      split
      · simp only [Servers.set]
        split
        · next heq =>
            apply subscribeEvent_subset
            rw [← heq.1, ← heq.2]
            exact hmem
        · exact hmem
      · exact hmem

/-- Refused requests keep the monitor without subscriptions. -/
theorem Unsubscribed.subscribeLoop
    (conns : Nat → Option ServerConn)
    {entries : List EvntMonitEntry} {i : Nat}
    (hinv : Unsubscribed host s)
    (hrefused : ∀ (k : Nat) entry, entries[k]? = some entry →
      Refused host s.servers (conns (i + k)) entry) :
    Unsubscribed host (subscribeLoop host conns i entries s) ∧
      (Sysmgr.subscribeLoop host conns i entries s).servers = s.servers := by
  induction entries generalizing i s with
  | nil =>
      exact ⟨hinv, rfl⟩
  | cons pEntry entries ih =>
      have hhead : Refused host s.servers (conns i) pEntry := hrefused 0 pEntry rfl
      have hservers :
          (subscribeBody host s (conns i) pEntry).2.servers = s.servers := by
        unfold subscribeBody
        split
        · simp only [subscribeEvent_refused hhead, Servers.set_same]
        · rfl
      have hbody : Unsubscribed host (subscribeBody host s (conns i) pEntry).2 := by
        refine ⟨?_, hservers ▸ hinv.servers, ?_⟩
        · unfold subscribeBody
          split <;> exact hinv.status
        · unfold subscribeBody
          split
          · intro request hrequest
            simp only [hinv.live, List.isEmpty_nil, Bool.not_true] at hrequest
            split at hrequest
            · rcases List.mem_append.mp hrequest with hold | hnew
              · exact hinv.asked request hold
              · rw [List.mem_singleton.mp hnew]
            · exact hinv.asked request hrequest
          · exact hinv.asked
      obtain ⟨htail, heq⟩ := ih (i := i + 1) hbody (by
        intro k entry hk
        rw [hservers]
        have hshift := hrefused (k + 1) entry (by simpa using hk)
        rwa [show i + (k + 1) = i + 1 + k by omega] at hshift)
      exact ⟨htail, heq.trans hservers⟩

/-- If not all requests are refused, an entry of the list ends with a live subscription. -/
theorem subscribeLoop_accepted
    (conns : Nat → Option ServerConn)
    {entries : List EvntMonitEntry} {i : Nat}
    (hinv : Unsubscribed host s)
    (hstatus : ∀ entry ∈ entries, entry.subscriptionSts = false)
    (haccepted : ¬ ∀ (k : Nat) entry, entries[k]? = some entry →
      Refused host s.servers (conns (i + k)) entry) :
    ∃ entry ∈ entries,
      liveSubscriptions host (subscribeLoop host conns i entries s).servers entry ≠ [] := by
  induction entries generalizing i s with
  | nil =>
      simp at haccepted
  | cons pEntry entries ih =>
      by_cases hhead : Refused host s.servers (conns i) pEntry
      · have hone : ∀ (k : Nat) entry, [pEntry][k]? = some entry →
            Refused host s.servers (conns (i + k)) entry := by
          intro k entry hk
          cases k with
          | zero =>
              obtain rfl : pEntry = entry := by simpa using hk
              exact hhead
          | succ k =>
              simp at hk
        obtain ⟨hbody, hservers⟩ := hinv.subscribeLoop conns hone
        obtain ⟨entry, hentry, hlive⟩ := ih (i := i + 1) hbody
          (fun entry hentry => hstatus entry (List.mem_cons_of_mem _ hentry)) (by
            intro hall
            apply haccepted
            intro k entry hk
            cases k with
            | zero =>
                obtain rfl : pEntry = entry := by simpa using hk
                exact hhead
            | succ k =>
                have htail := hall k entry (by simpa using hk)
                rw [hservers] at htail
                rwa [show i + (k + 1) = i + 1 + k by omega])
        exact ⟨entry, List.mem_cons_of_mem _ hentry, hlive⟩
      · refine ⟨pEntry, List.mem_cons_self,
          subscribeLoop_live (s := (subscribeBody host s (conns i) pEntry).2) conns entries
            (i + 1) ?_⟩
        cases hconn : conns i with
        | none =>
            rw [hconn] at hhead
            exact absurd (fun c hc => by cases hc) hhead
        | some conn =>
            rw [hconn] at hhead
            obtain ⟨sub, hsub, hof⟩ := subscribeEvent_accepted hhead
            apply List.ne_nil_of_mem (a := sub)
            refine List.mem_filter.mpr ⟨?_, hof⟩
            simpa [subscribeBody, hconn, hstatus pEntry List.mem_cons_self] using hsub

/-- The loop does not write to the list. -/
theorem subscribeLoop_list
    (conns : Nat → Option ServerConn) (entries : List EvntMonitEntry) (i : Nat) :
    (subscribeLoop host conns i entries s).eventMonitList = s.eventMonitList ∧
      (subscribeLoop host conns i entries s).phase = s.phase := by
  induction entries generalizing i s with
  | nil =>
      exact ⟨rfl, rfl⟩
  | cons pEntry entries ih =>
      have hbody :
          (subscribeBody host s (conns i) pEntry).2.eventMonitList = s.eventMonitList ∧
            (subscribeBody host s (conns i) pEntry).2.phase = s.phase := by
        unfold subscribeBody
        split <;> exact ⟨rfl, rfl⟩
      obtain ⟨hlist, hphase⟩ := ih (s := (subscribeBody host s (conns i) pEntry).2) (i + 1)
      exact ⟨hlist.trans hbody.1, hphase.trans hbody.2⟩

@[simp] theorem subscribeEvents_list
    (conns : Nat → Option ServerConn) :
    (subscribeEvents host conns s).eventMonitList = s.eventMonitList :=
  (subscribeLoop_list conns s.eventMonitList 0).1

@[simp] theorem subscribeEvents_phase
    (conns : Nat → Option ServerConn) :
    (subscribeEvents host conns s).phase = s.phase :=
  (subscribeLoop_list conns s.eventMonitList 0).2

/-- With no status set the destructor asks no server. -/
theorem unSubscribeLoop_eq
    (reached : Nat → Bool) {entries : List EvntMonitEntry}
    (hstatus : ∀ entry ∈ entries, entry.subscriptionSts = false) (i : Nat) :
    unSubscribeLoop reached i entries s = s := by
  induction entries generalizing i with
  | nil =>
      rfl
  | cons pEntry entries ih =>
      have hhead := hstatus pEntry List.mem_cons_self
      simp only [unSubscribeLoop, hhead, Bool.false_eq_true, if_false]
      exact ih (fun entry hentry => hstatus entry (List.mem_cons_of_mem _ hentry)) (i + 1)

/-- Clearing a status sets none. -/
theorem clearStatus_status
    (myToken : Int) {entries : List EvntMonitEntry}
    (hstatus : ∀ entry ∈ entries, entry.subscriptionSts = false) :
    ∀ entry ∈ clearStatus myToken entries, entry.subscriptionSts = false := by
  induction entries with
  | nil =>
      exact hstatus
  | cons head entries ih =>
      have htail := ih fun entry hentry => hstatus entry (List.mem_cons_of_mem _ hentry)
      intro entry hentry
      unfold clearStatus at hentry
      split at hentry
      · rcases List.mem_cons.mp hentry with rfl | hentry
        · rfl
        · exact hstatus entry (List.mem_cons_of_mem _ hentry)
      · rcases List.mem_cons.mp hentry with rfl | hentry
        · exact hstatus entry List.mem_cons_self
        · exact htail entry hentry

/-- Subscribing without success keeps the monitor without subscriptions. -/
theorem Unsubscribed.subscribeEvents
    (hinv : Unsubscribed host s) {conns : Nat → Option ServerConn}
    (hrefused : ∀ (i : Nat) entry, s.eventMonitList[i]? = some entry →
      Refused host s.servers (conns i) entry) :
    Unsubscribed host (subscribeEvents host conns s) :=
  (hinv.subscribeLoop conns fun k entry hk => by
    rw [Nat.zero_add]
    exact hrefused k entry hk).1

/-- An event keeps the monitor without subscriptions. -/
theorem Unsubscribed.receiveEvent
    (hinv : Unsubscribed host s) (myToken evntNum : Int) :
    Unsubscribed host (receiveEvent s myToken evntNum) := by
  unfold Sysmgr.receiveEvent
  split
  · refine ⟨clearStatus_status myToken hinv.status, ?_, hinv.asked⟩
    cases hfind : s.eventMonitList.find? fun entry => entry.srvToken = myToken with
    | none =>
        simpa [shutDown, hfind] using hinv.servers
    | some entry =>
        have hset : ∀ ip port,
            ∀ sub ∈ (s.servers.set entry.ip entry.port EvntMgr.new ip port).eventList,
              ¬ ofMonitor host sub :=
          Servers.forall_set hinv.servers (by simp [EvntMgr.new])
        simpa [shutDown, hfind] using hset
  · exact hinv

/-- A step in which no subscription is made. -/
theorem Unsubscribed.step
    {l : MonitorLabel}
    (hinv : Unsubscribed host s) (hcond : NoneAccepted host s l)
    (hstep : monitorStep host s l = some t) :
    Unsubscribed host t := by
  cases l with
  | construct conns =>
      simp only [monitorStep] at hstep
      split at hstep
      · obtain rfl := Option.some.inj hstep
        have hafter := hinv.subscribeEvents hcond
        exact ⟨hafter.status, hafter.servers, hafter.asked⟩
      · cases hstep
  | reSubscribeEvents conns =>
      simp only [monitorStep] at hstep
      split at hstep
      · obtain rfl := Option.some.inj hstep
        exact hinv.subscribeEvents hcond
      · cases hstep
  | receiveEvent myToken evntNum =>
      simp only [monitorStep] at hstep
      split at hstep
      · obtain rfl := Option.some.inj hstep
        exact hinv.receiveEvent myToken evntNum
      · cases hstep
  | destruct reached =>
      simp only [monitorStep] at hstep
      split at hstep
      · obtain rfl := Option.some.inj hstep
        rw [unSubscribeLoop_eq reached hinv.status]
        exact ⟨hinv.status, hinv.servers, hinv.asked⟩
      · cases hstep

/-- A monitor without subscriptions is as promised. -/
theorem Unsubscribed.monitorOk
    (hinv : Unsubscribed host s) :
    MonitorOk host s where
  status := by
    intro _ entry hentry
    simp [hinv.live, hinv.status entry hentry]
  token := by
    intro _ entry _ sub hsub
    simp [hinv.live] at hsub
  asked := hinv.asked
  gone := fun _ _ _ entry _ _ => hinv.live entry

/-- After a subscription the list does not show it. -/
theorem noneAccepted_of_subscribeEvents
    {conns : Nat → Option ServerConn}
    (hinv : Unsubscribed host s)
    (hstatus : ∀ entry ∈ s.eventMonitList,
      (entry.subscriptionSts = true ↔
        liveSubscriptions host (subscribeEvents host conns s).servers entry ≠ [])) :
    ∀ (i : Nat) entry, s.eventMonitList[i]? = some entry →
      Refused host s.servers (conns i) entry := by
  by_contra haccepted
  obtain ⟨entry, hentry, hlive⟩ :=
    subscribeLoop_accepted (i := 0) conns hinv hinv.status (by simpa using haccepted)
  have hset := (hstatus entry hentry).mpr hlive
  rw [hinv.status entry hentry] at hset
  cases hset

/-- A step that makes a subscription breaks what is promised. -/
theorem Unsubscribed.noneAccepted
    {l : MonitorLabel}
    (hinv : Unsubscribed host s)
    (hstep : monitorStep host s l = some t) (hok : MonitorOk host t) :
    NoneAccepted host s l := by
  cases l with
  | construct conns =>
      simp only [monitorStep] at hstep
      split at hstep
      · obtain rfl := Option.some.inj hstep
        exact noneAccepted_of_subscribeEvents hinv fun entry hentry =>
          hok.status rfl entry (by simpa using hentry)
      · cases hstep
  | reSubscribeEvents conns =>
      simp only [monitorStep] at hstep
      split at hstep
      · next halive =>
          obtain rfl := Option.some.inj hstep
          exact noneAccepted_of_subscribeEvents hinv fun entry hentry =>
            hok.status (by simpa using halive) entry (by simpa using hentry)
      · cases hstep
  | receiveEvent _ _ | destruct _ =>
      trivial

/-- Before the constructor no server holds a subscription of the monitor. -/
theorem unsubscribed_start
    {entries : List EvntMonitEntry} {servers : Servers}
    (hnew : ∀ entry ∈ entries, entry.subscriptionSts = false)
    (hservers : ∀ ip port, ∀ sub ∈ (servers ip port).eventList, ¬ ofMonitor host sub) :
    Unsubscribed host (MonitorState.start entries servers) where
  status := hnew
  servers := hservers
  asked := by simp [MonitorState.start]

end Subscribe

/-- A history of the monitor is as promised throughout if and only if no
subscription is ever made in it. -/
theorem monitorOk_run_iff
    {host : Bytes} {lines : List (Bytes × Int × Int × Int)} {servers : Servers}
    (hservers : ∀ ip port, ∀ sub ∈ (servers ip port).eventList, ¬ ofMonitor host sub)
    {ls : List MonitorLabel} {t : MonitorState}
    (hrun : run (monitorStep host)
      (MonitorState.start
        (lines.map fun line => .new line.1 line.2.1 line.2.2.1 line.2.2.2) servers) ls =
      some t) :
    (∀ pre u, pre <+: ls →
        run (monitorStep host)
          (MonitorState.start
            (lines.map fun line => .new line.1 line.2.1 line.2.2.1 line.2.2.2) servers) pre =
          some u →
        MonitorOk host u) ↔
      Meets (monitorStep host) (NoneAccepted host)
        (MonitorState.start
          (lines.map fun line => .new line.1 line.2.1 line.2.2.1 line.2.2.2) servers) ls := by
  refine forall_prefix_iff_meets (I := Unsubscribed host) ?_ ?_ ?_ ?_ hrun
  · exact fun _ _ _ hinv hcond hstep => hinv.step hcond hstep
  · exact fun _ hinv => hinv.monitorOk
  · exact fun _ _ _ hinv hstep hok => hinv.noneAccepted hstep hok
  · apply unsubscribed_start _ hservers
    intro entry hentry
    obtain ⟨line, -, rfl⟩ := List.mem_map.mp hentry
    rfl

/-- A server that is not reached. -/
def notReached : Nat → Option ServerConn :=
  fun _ => none

/-- A server that cannot be reached, asked twice, does not confuse the monitor. -/
theorem monitorOk_run_iff_notReached :
    ∃ u,
      run (monitorStep [49])
          (MonitorState.start
            (([([50], 42513, 13100, -1)] : List (Bytes × Int × Int × Int)).map fun line =>
              .new line.1 line.2.1 line.2.2.1 line.2.2.2)
            fun _ _ => EvntMgr.new)
          [.construct notReached, .reSubscribeEvents notReached, .receiveEvent 13100 1,
            .destruct fun _ => true] = some u ∧
        MonitorOk [49] u := by
  obtain ⟨u, hrun⟩ :
      ∃ u,
        run (monitorStep [49])
            (MonitorState.start
              (([([50], 42513, 13100, -1)] : List (Bytes × Int × Int × Int)).map fun line =>
                .new line.1 line.2.1 line.2.2.1 line.2.2.2)
              fun _ _ => EvntMgr.new)
            [.construct notReached, .reSubscribeEvents notReached, .receiveEvent 13100 1,
              .destruct fun _ => true] = some u :=
    ⟨_, rfl⟩
  refine ⟨u, hrun, (monitorOk_run_iff ?_ hrun).mpr ?_ _ u (List.prefix_refl _) hrun⟩
  · simp [EvntMgr.new]
  · apply meets_of_forall_prefix
    intro pre l t hpre _
    have hl := hpre.subset (List.mem_append_right pre (List.mem_singleton_self l))
    simp only [List.mem_cons, List.not_mem_nil, or_false] at hl
    rcases hl with rfl | rfl | rfl | rfl
    · intro i entry _ c hc
      cases hc
    · intro i entry _ c hc
      cases hc
    · trivial
    · trivial

/-- After the constructor has subscribed to a server that it reached, the list
says that there is no subscription. -/
theorem not_monitorOk_reached :
    ∃ t,
      run (monitorStep [49])
        (MonitorState.start [.new [50] 42513 13100 (-1)] fun _ _ => EvntMgr.new)
        [.construct fun _ => some ⟨4, 1⟩] = some t ∧
      ¬ MonitorOk [49] t := by
  refine ⟨_, rfl, ?_⟩
  intro hok
  have hset := (hok.status rfl (.new [50] 42513 13100 (-1)) (by decide)).mpr (by decide)
  cases hset

end Sysmgr
end BrBox
