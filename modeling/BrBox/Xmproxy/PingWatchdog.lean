import BrBox.Lib.LabelledRun
import BrBox.Lib.Slots

/-!
# The heartbeat of the chat proxy

A timer lets the ping thread of `ADXmppProxy` ping the server; `HeartBeat` is
raised at each ping, lowered at each pong and set to zero in `connect`.  At more
than three the ping thread calls `disconnect`.

The model runs the timer, the ping thread and the receive thread in any
interleaving.  `Ping` remembers of each ping after how many resets it was counted
and answered; `heartBeat_eq` says what the counter is in these terms, and
`disconnect_iff` when the connection is given up: the pings that are missing are
those since the last reset, not the last three.
-/

namespace BrBox
namespace Xmproxy

open LabelledRun

section Model

/-- A ping: the `Client` it was sent with, and the number of resets of `HeartBeat`
before it was counted and before its pong was handled, if they were. -/
structure Ping where
  client : Nat
  counted : Option Nat
  pong : Option Nat
  failed : Bool
deriving DecidableEq, Repr

/-- Where `connect` is. -/
inductive ConnectPc
  | outside
  | created
  | zeroed
  | receiving
  | left
  | deleted
deriving DecidableEq, Repr

/-- Where the ping thread is; it has sent the ping at position `k`, or calls
`disconnect`, or waits in it. -/
inductive PingPc
  | waiting
  | loop
  | pinged (k : Nat)
  | calling
  | holding
  | popping
deriving DecidableEq, Repr

/-- The proxy and its timer; `heartbeatMs` and `cyclicTimeMs` are the settings. -/
structure Watchdog where
  heartbeatMs : Int
  cyclicTimeMs : Int
  eventPeriodMs : Int
  pingPipe : Nat
  sema : Nat
  clients : Nat
  connectPc : ConnectPc
  connected : Bool
  heartBeat : Int
  resets : Nat
  pings : List Ping
  pingPc : PingPc
deriving DecidableEq, Repr

/-- A step of the timer, of the receive thread or of the ping thread.  A pong or
an error is for the ping at a position. -/
inductive WatchdogLabel
  | timer
  | newClient
  | resetHeartBeat
  | connectResult (ok : Bool)
  | recvEnds
  | deleteClient
  | connectDone
  | pong (k : Nat)
  | pingError (k : Nat)
  | wakeUp
  | ping
  | count
  | disconnect
  | disconnected
  | pop
deriving DecidableEq, Repr

namespace Watchdog

/-- The constructed proxy. -/
def new (heartbeatMs cyclicTimeMs : Int) : Watchdog :=
  { heartbeatMs := heartbeatMs
    cyclicTimeMs := cyclicTimeMs
    eventPeriodMs := 0
    pingPipe := 0
    sema := 0
    clients := 0
    connectPc := .outside
    connected := false
    heartBeat := 0
    resets := 0
    pings := []
    pingPc := .waiting }

/-- `j != NULL`. -/
def hasClient (t : Watchdog) : Bool :=
  t.connectPc ≠ .outside ∧ t.connectPc ≠ .deleted

/-- `send_client_alive_ping`: one ping at a time. -/
def sendClientAlivePing (t : Watchdog) : Watchdog :=
  if t.pingPipe = 0 then
    { t with pingPipe := 1, sema := t.sema + 1 }
  else
    t

/-- `timer_notification` of `XmppMgr`. -/
def timerNotification (t : Watchdog) : Watchdog :=
  if t.eventPeriodMs + t.heartbeatMs < t.cyclicTimeMs then
    { t with eventPeriodMs := t.eventPeriodMs + t.heartbeatMs }
  else
    ({ t with eventPeriodMs := 0 } : Watchdog).sendClientAlivePing

/-- The server can answer the ping: it was sent with the current `Client`, which is
receiving, and has no answer yet. -/
def canAnswer (t : Watchdog) (r : Ping) : Bool :=
  t.connectPc = .receiving ∧ r.client = t.clients ∧ r.pong = none ∧ r.failed = false

/-- One step. -/
def watchdogStep (t : Watchdog) : WatchdogLabel → Option Watchdog
  | .timer => some t.timerNotification
  | .newClient =>
      if t.connectPc = .outside then
        some { t with clients := t.clients + 1, connectPc := .created, connected := true }
      else
        none
  | .resetHeartBeat =>
      if t.connectPc = .created then
        some { t with heartBeat := 0, resets := t.resets + 1, connectPc := .zeroed }
      else
        none
  | .connectResult ok =>
      if t.connectPc = .zeroed then
        some { t with connectPc := if ok then .receiving else .left }
      else
        none
  | .recvEnds =>
      if t.connectPc = .receiving then some { t with connectPc := .left } else none
  | .deleteClient =>
      if t.connectPc = .left then some { t with connectPc := .deleted } else none
  | .connectDone =>
      if t.connectPc = .deleted then
        some { t with connectPc := .outside, connected := false }
      else
        none
  | .pong k =>
      match t.pings[k]? with
      | none => none
      | some r =>
          if t.canAnswer r then
            some { t with
              heartBeat := t.heartBeat - 1
              pings := t.pings.modify k fun r => { r with pong := some t.resets } }
          else
            none
  | .pingError k =>
      match t.pings[k]? with
      | none => none
      | some r =>
          if t.canAnswer r then
            some { t with pings := t.pings.modify k fun r => { r with failed := true } }
          else
            none
  | .wakeUp =>
      if t.pingPc = .waiting ∧ 0 < t.sema then
        some { t with sema := t.sema - 1, pingPc := .loop }
      else
        none
  | .ping =>
      if t.pingPc = .loop then
        if t.pingPipe = 0 then
          some { t with pingPc := .waiting }
        else if t.hasClient then
          some { t with
            pings := t.pings ++
              [{ client := t.clients, counted := none, pong := none, failed := false }]
            pingPc := .pinged t.pings.length }
        else
          some { t with pingPc := .popping }
      else
        none
  | .count =>
      match t.pingPc with
      | .pinged k =>
          some { t with
            heartBeat := t.heartBeat + 1
            pings := t.pings.modify k fun r => { r with counted := some t.resets }
            pingPc := if t.heartBeat + 1 > 3 then .calling else .popping }
      | _ => none
  | .disconnect =>
      if t.pingPc = .calling then
        if t.hasClient then
          some { t with
            connectPc := if t.connectPc = .receiving then .left else t.connectPc
            pingPc := .holding }
        else
          some { t with pingPc := .popping }
      else
        none
  | .disconnected =>
      if t.pingPc = .holding ∧ t.connected = false then
        some { t with pingPc := .popping }
      else
        none
  | .pop =>
      if t.pingPc = .popping then
        some { t with pingPipe := t.pingPipe - 1, pingPc := .loop }
      else
        none

/-- The ping was counted since the last reset and has not been answered since. -/
def missing (t : Watchdog) (r : Ping) : Bool :=
  r.counted = some t.resets ∧ r.pong ≠ some t.resets

/-- The ping was answered since the last reset but not counted since. -/
def uncounted (t : Watchdog) (r : Ping) : Bool :=
  r.counted ≠ some t.resets ∧ r.pong = some t.resets

end Watchdog

end Model

section Runs

namespace Watchdog

/-- The counter in terms of the pings, and where the ping thread is. -/
structure Counts (t : Watchdog) : Prop where
  heartBeat : t.heartBeat =
    (t.pings.countP fun r => r.counted = some t.resets : Nat) -
      (t.pings.countP fun r => r.pong = some t.resets : Nat)
  past : ∀ r ∈ t.pings,
    (∀ n, r.counted = some n → n ≤ t.resets) ∧ (∀ n, r.pong = some n → n ≤ t.resets)
  current : ∀ k, t.pingPc = .pinged k →
    k + 1 = t.pings.length ∧ ∃ r, t.pings[k]? = some r ∧ r.counted = none

variable {t t' : Watchdog}

/-- Nothing is counted before the first ping. -/
theorem counts_new (heartbeatMs cyclicTimeMs : Int) :
    (new heartbeatMs cyclicTimeMs).Counts := by
  constructor
  · rfl
  · simp [new]
  · simp [new]

/-- A step that leaves the pings and the counter alone. -/
theorem Counts.frame
    (hcounts : t.Counts)
    (hheart : t'.heartBeat = t.heartBeat)
    (hresets : t'.resets = t.resets)
    (hpings : t'.pings = t.pings)
    (hpc : ∀ k, t'.pingPc = .pinged k → t.pingPc = .pinged k) :
    t'.Counts := by
  constructor
  · rw [hheart, hresets, hpings]
    exact hcounts.heartBeat
  · rw [hresets, hpings]
    exact hcounts.past
  · intro k hk
    rw [hpings]
    exact hcounts.current k (hpc k hk)

/-- After a reset no ping has been counted or answered yet. -/
theorem Counts.resetHeartBeat
    (hcounts : t.Counts) :
    ({ t with heartBeat := 0, resets := t.resets + 1, connectPc := .zeroed } :
      Watchdog).Counts := by
  have hnone : ∀ r ∈ t.pings, r.counted ≠ some (t.resets + 1) ∧
      r.pong ≠ some (t.resets + 1) := by
    intro r hr
    obtain ⟨hcounted, hpong⟩ := hcounts.past r hr
    refine ⟨fun heq => ?_, fun heq => ?_⟩
    · exact absurd (hcounted _ heq) (by omega)
    · exact absurd (hpong _ heq) (by omega)
  constructor
  · have hcounted : t.pings.countP (fun r => r.counted = some (t.resets + 1)) = 0 := by
      simpa [List.countP_eq_zero] using fun r hr => (hnone r hr).1
    have hpong : t.pings.countP (fun r => r.pong = some (t.resets + 1)) = 0 := by
      simpa [List.countP_eq_zero] using fun r hr => (hnone r hr).2
    simp only [hcounted, hpong]
    rfl
  · intro r hr
    obtain ⟨hcounted, hpong⟩ := hcounts.past r hr
    exact ⟨fun n hn => Nat.le_succ_of_le (hcounted n hn),
      fun n hn => Nat.le_succ_of_le (hpong n hn)⟩
  · exact hcounts.current

/-- A step that changes one ping, and the counter with it. -/
theorem Counts.modify
    {k : Nat} {r : Ping} {f : Ping → Ping}
    (hcounts : t.Counts) (hget : t.pings[k]? = some r)
    (hresets : t'.resets = t.resets)
    (hpings : t'.pings = t.pings.modify k f)
    (hheart : t'.heartBeat = t.heartBeat +
      ((if (f r).counted = some t.resets then 1 else 0 : Nat) -
        (if r.counted = some t.resets then 1 else 0 : Nat)) -
      ((if (f r).pong = some t.resets then 1 else 0 : Nat) -
        (if r.pong = some t.resets then 1 else 0 : Nat)))
    (hpast : (∀ n, (f r).counted = some n → n ≤ t.resets) ∧
      (∀ n, (f r).pong = some n → n ≤ t.resets))
    (hpc : ∀ i, t'.pingPc = .pinged i →
      t.pingPc = .pinged i ∧ (f r).counted = r.counted) :
    t'.Counts := by
  obtain ⟨pre, post, hsplit, rfl, -⟩ := Slots.split_at hget
  have hheart₀ := hcounts.heartBeat
  have hpast₀ := hcounts.past
  have hcurrent := hcounts.current
  rw [hsplit] at hheart₀ hpast₀ hcurrent
  rw [hsplit, Slots.modify_between] at hpings
  constructor
  · rw [hheart, hresets, hpings]
    simp only [List.countP_append, List.countP_cons, decide_eq_true_eq] at hheart₀ ⊢
    omega
  · rw [hresets, hpings]
    intro x hx
    rcases List.mem_append.mp hx with hx | hx
    · exact hpast₀ x (List.mem_append_left _ hx)
    · rcases List.mem_cons.mp hx with rfl | hx
      · exact hpast
      · exact hpast₀ x (List.mem_append_right _ (List.mem_cons_of_mem _ hx))
  · intro i hi
    obtain ⟨hi₀, hsame⟩ := hpc i hi
    obtain ⟨hlast, x, hx, hnone⟩ := hcurrent i hi₀
    rw [hpings]
    refine ⟨by simpa using hlast, ?_⟩
    by_cases hik : i = pre.length
    · subst hik
      obtain rfl : r = x := by simpa using hx
      exact ⟨f r, by simp, hsame.trans hnone⟩
    · exact ⟨x, by rw [Slots.getElem?_exchange hik, hx], hnone⟩

/-- A new ping is neither counted nor answered. -/
theorem Counts.ping
    (hcounts : t.Counts) (client : Nat) :
    ({ t with
        pings := t.pings ++
          [{ client := client, counted := none, pong := none, failed := false }]
        pingPc := .pinged t.pings.length } : Watchdog).Counts := by
  constructor
  · simpa using hcounts.heartBeat
  · intro r hr
    rcases List.mem_append.mp hr with hr | hr
    · exact hcounts.past r hr
    · obtain rfl := List.mem_singleton.mp hr
      simp
  · intro k hk
    obtain rfl : t.pings.length = k := by simpa using hk
    simp

/-- Counting the ping that was sent. -/
theorem Counts.count
    {k : Nat} (pc : PingPc)
    (hcounts : t.Counts) (hpc : t.pingPc = .pinged k) (hpc' : ∀ i, pc ≠ .pinged i) :
    ({ t with
        heartBeat := t.heartBeat + 1
        pings := t.pings.modify k fun r => { r with counted := some t.resets }
        pingPc := pc } : Watchdog).Counts := by
  obtain ⟨-, r, hget, hcounted⟩ := hcounts.current k hpc
  refine hcounts.modify hget rfl rfl ?_ ?_ ?_
  · simp [hcounted]
  · exact ⟨fun n hn => Nat.le_of_eq (Option.some.inj hn).symm,
      (hcounts.past r (List.mem_of_getElem? hget)).2⟩
  · intro i hi
    exact absurd hi (hpc' i)

/-- Every step keeps the counter what the pings say. -/
theorem Counts.step
    {l : WatchdogLabel}
    (hcounts : t.Counts) (hstep : t.watchdogStep l = some t') :
    t'.Counts := by
  cases l with
  | timer =>
      obtain rfl := Option.some.inj hstep
      unfold timerNotification sendClientAlivePing
      split
      · exact hcounts.frame rfl rfl rfl fun _ h => h
      · split
        · exact hcounts.frame rfl rfl rfl fun _ h => h
        · exact hcounts.frame rfl rfl rfl fun _ h => h
  | resetHeartBeat =>
      simp only [watchdogStep, Option.ite_none_right_eq_some, Option.some.injEq] at hstep
      obtain ⟨-, rfl⟩ := hstep
      exact hcounts.resetHeartBeat
  | pong k =>
      simp only [watchdogStep] at hstep
      split at hstep
      · cases hstep
      · rename_i r hget
        simp only [Option.ite_none_right_eq_some, Option.some.injEq] at hstep
        obtain ⟨hcan, rfl⟩ := hstep
        have hpong : r.pong = none := by
          simp only [canAnswer, decide_eq_true_eq] at hcan
          exact hcan.2.2.1
        refine hcounts.modify hget rfl rfl ?_ ?_ fun i hi => ⟨hi, rfl⟩
        · simp [hpong]
        · exact ⟨(hcounts.past r (List.mem_of_getElem? hget)).1,
            fun n hn => Nat.le_of_eq (Option.some.inj hn).symm⟩
  | pingError k =>
      simp only [watchdogStep] at hstep
      split at hstep
      · cases hstep
      · rename_i r hget
        simp only [Option.ite_none_right_eq_some, Option.some.injEq] at hstep
        obtain ⟨-, rfl⟩ := hstep
        refine hcounts.modify hget rfl rfl ?_ ?_ fun i hi => ⟨hi, rfl⟩
        · simp
        · exact hcounts.past r (List.mem_of_getElem? hget)
  | ping =>
      simp only [watchdogStep, Option.ite_none_right_eq_some] at hstep
      obtain ⟨hpc, hstep⟩ := hstep
      split at hstep
      · obtain rfl := Option.some.inj hstep
        exact hcounts.frame rfl rfl rfl fun _ h => by cases h
      · split at hstep
        · obtain rfl := Option.some.inj hstep
          exact hcounts.ping t.clients
        · obtain rfl := Option.some.inj hstep
          exact hcounts.frame rfl rfl rfl fun _ h => by cases h
  | count =>
      simp only [watchdogStep] at hstep
      split at hstep
      · rename_i k hpc
        obtain rfl := Option.some.inj hstep
        refine hcounts.count _ hpc ?_
        intro i
        split <;> simp
      · cases hstep
  | disconnect =>
      simp only [watchdogStep, Option.ite_none_right_eq_some] at hstep
      obtain ⟨-, hstep⟩ := hstep
      split at hstep
      · obtain rfl := Option.some.inj hstep
        exact hcounts.frame rfl rfl rfl fun _ h => by cases h
      · obtain rfl := Option.some.inj hstep
        exact hcounts.frame rfl rfl rfl fun _ h => by cases h
  | wakeUp =>
      simp only [watchdogStep, Option.ite_none_right_eq_some, Option.some.injEq] at hstep
      obtain ⟨-, rfl⟩ := hstep
      exact hcounts.frame rfl rfl rfl fun _ h => by cases h
  | disconnected =>
      simp only [watchdogStep, Option.ite_none_right_eq_some, Option.some.injEq] at hstep
      obtain ⟨-, rfl⟩ := hstep
      exact hcounts.frame rfl rfl rfl fun _ h => by cases h
  | pop =>
      simp only [watchdogStep, Option.ite_none_right_eq_some, Option.some.injEq] at hstep
      obtain ⟨-, rfl⟩ := hstep
      exact hcounts.frame rfl rfl rfl fun _ h => by cases h
  | _ =>
      simp only [watchdogStep, Option.ite_none_right_eq_some, Option.some.injEq] at hstep
      obtain ⟨-, rfl⟩ := hstep
      exact hcounts.frame rfl rfl rfl fun _ h => h

/-- The counter in terms of the pings, in every state. -/
theorem counts_run
    {heartbeatMs cyclicTimeMs : Int} {ls : List WatchdogLabel}
    (hrun : run watchdogStep (new heartbeatMs cyclicTimeMs) ls = some t) :
    t.Counts :=
  run_invariant (fun _ _ _ hcounts hstep => hcounts.step hstep)
    (counts_new heartbeatMs cyclicTimeMs) hrun

/-- The counter is the number of the pings that are missing, less those that were
answered without being counted. -/
theorem Counts.heartBeat_eq
    (hcounts : t.Counts) :
    t.heartBeat = (t.pings.countP t.missing : Nat) - (t.pings.countP t.uncounted : Nat) := by
  rw [hcounts.heartBeat]
  have hsplit : ∀ l : List Ping,
      l.countP (fun r => r.counted = some t.resets) + l.countP t.uncounted =
        l.countP t.missing + l.countP (fun r => r.pong = some t.resets) := by
    intro l
    induction l with
    | nil =>
        rfl
    | cons r l ih =>
        by_cases hcounted : r.counted = some t.resets <;>
          by_cases hpong : r.pong = some t.resets <;>
            simp [missing, uncounted, hcounted, hpong] <;> omega
  have := hsplit t.pings
  omega

/-- Pings that stand one after another and are all missing are so many missing
pings before the last one. -/
theorem le_countP_of_successive
    {l : List Ping} {i n : Nat} {p : Ping → Bool}
    (hlength : i + n < l.length)
    (hall : ∀ r ∈ (l.drop i).take n, p r = true) :
    n ≤ l.dropLast.countP p := by
  have hsub : List.Sublist ((l.drop i).take n) l.dropLast := by
    rw [List.take_drop, List.dropLast_eq_take]
    refine (List.drop_sublist i _).trans (List.take_sublist_take_left ?_)
    omega
  have hcount : ((l.drop i).take n).countP p = n := by
    rw [List.countP_eq_length.mpr hall, List.length_take, List.length_drop]
    omega
  calc
    n = ((l.drop i).take n).countP p := hcount.symm
    _ ≤ l.dropLast.countP p := hsub.countP_le

/-- The missing pings with and without the last one. -/
theorem countP_dropLast
    {l : List Ping} {r : Ping} (p : Ping → Bool) (hlast : l.getLast? = some r) :
    l.countP p = l.dropLast.countP p + if p r then 1 else 0 := by
  obtain ⟨front, rfl⟩ := List.getLast?_eq_some_iff.mp hlast
  rw [List.dropLast_concat, List.countP_append, List.countP_singleton]

/-- What counting a ping leads to. -/
theorem count_cases
    (hstep : t.watchdogStep .count = some t') :
    ∃ k, t.pingPc = .pinged k ∧
      t'.pings = t.pings.modify k (fun r => { r with counted := some t.resets }) ∧
      t'.heartBeat = t.heartBeat + 1 ∧
      (t'.pingPc = .calling ↔ 3 < t'.heartBeat) := by
  simp only [watchdogStep] at hstep
  split at hstep
  · rename_i k hpc
    obtain rfl := Option.some.inj hstep
    refine ⟨k, hpc, rfl, rfl, ?_⟩
    by_cases hmany : t.heartBeat + 1 > 3
    · simp [hmany]
    · simp [hmany]
  · cases hstep

/-- The ping thread calls `disconnect` after counting a ping and at no other step. -/
theorem calling_of_count
    {l : WatchdogLabel}
    (hstep : t.watchdogStep l = some t')
    (hcalling : t'.pingPc = .calling) (hbefore : t.pingPc ≠ .calling) :
    l = .count := by
  cases l with
  | count =>
      rfl
  | timer =>
      obtain rfl := Option.some.inj hstep
      unfold timerNotification sendClientAlivePing at hcalling
      split at hcalling
      · exact absurd hcalling hbefore
      · split at hcalling
        · exact absurd hcalling hbefore
        · exact absurd hcalling hbefore
  | pong k =>
      simp only [watchdogStep] at hstep
      split at hstep
      · cases hstep
      · simp only [Option.ite_none_right_eq_some, Option.some.injEq] at hstep
        obtain ⟨-, rfl⟩ := hstep
        exact absurd hcalling hbefore
  | pingError k =>
      simp only [watchdogStep] at hstep
      split at hstep
      · cases hstep
      · simp only [Option.ite_none_right_eq_some, Option.some.injEq] at hstep
        obtain ⟨-, rfl⟩ := hstep
        exact absurd hcalling hbefore
  | ping =>
      simp only [watchdogStep, Option.ite_none_right_eq_some] at hstep
      obtain ⟨-, hstep⟩ := hstep
      split at hstep
      · obtain rfl := Option.some.inj hstep
        cases hcalling
      · split at hstep
        · obtain rfl := Option.some.inj hstep
          cases hcalling
        · obtain rfl := Option.some.inj hstep
          cases hcalling
  | disconnect =>
      simp only [watchdogStep, Option.ite_none_right_eq_some] at hstep
      exact absurd hstep.1 hbefore
  | wakeUp =>
      simp only [watchdogStep, Option.ite_none_right_eq_some, Option.some.injEq] at hstep
      obtain ⟨-, rfl⟩ := hstep
      cases hcalling
  | disconnected =>
      simp only [watchdogStep, Option.ite_none_right_eq_some, Option.some.injEq] at hstep
      obtain ⟨-, rfl⟩ := hstep
      cases hcalling
  | pop =>
      simp only [watchdogStep, Option.ite_none_right_eq_some, Option.some.injEq] at hstep
      obtain ⟨-, rfl⟩ := hstep
      cases hcalling
  | _ =>
      simp only [watchdogStep, Option.ite_none_right_eq_some, Option.some.injEq] at hstep
      obtain ⟨-, rfl⟩ := hstep
      exact absurd hcalling hbefore

end Watchdog

/-- In every state of every run: `disconnect` is called when a ping is counted and
then exactly if more than three of the pings counted since the last reset are
missing, apart from those answered since without being counted.  So three earlier
pings are missing, and three successive ones are enough while the ping itself is
not answered. -/
theorem disconnect_iff
    (heartbeatMs cyclicTimeMs : Int) (ls : List WatchdogLabel) (t : Watchdog)
    (hrun : run Watchdog.watchdogStep (.new heartbeatMs cyclicTimeMs) ls = some t) :
    (∀ l t', t.watchdogStep l = some t' → t'.pingPc = .calling → t.pingPc ≠ .calling →
      l = .count) ∧
    ∀ t', t.watchdogStep .count = some t' →
      (t'.pingPc = .calling ↔
        3 + t'.pings.countP t'.uncounted < t'.pings.countP t'.missing) ∧
      (t'.pingPc = .calling → 3 ≤ t'.pings.dropLast.countP t'.missing) ∧
      (∀ i, i + 3 < t'.pings.length →
        (∀ r ∈ (t'.pings.drop i).take 3, t'.missing r = true) →
        (∀ r, t'.pings.getLast? = some r → t'.missing r = true) →
        t'.pings.countP t'.uncounted = 0 →
        t'.pingPc = .calling) := by
  have hcounts := Watchdog.counts_run hrun
  refine ⟨fun l t' => Watchdog.calling_of_count, ?_⟩
  intro t' hstep
  obtain ⟨k, hpc, hpings, hheart, hcalling⟩ := Watchdog.count_cases hstep
  have hvalue := (hcounts.step hstep).heartBeat_eq
  have hnonempty : t'.pings ≠ [] := by
    have hlength := (hcounts.current k hpc).1
    rw [hpings]
    intro hnil
    have := congrArg List.length hnil
    simp only [List.length_modify, List.length_nil] at this
    omega
  obtain ⟨last, hlast⟩ : ∃ r, t'.pings.getLast? = some r :=
    ⟨_, List.getLast?_eq_some_getLast hnonempty⟩
  have hsplit := Watchdog.countP_dropLast t'.missing hlast
  refine ⟨?_, ?_, ?_⟩
  · rw [hcalling, hvalue]
    omega
  · intro hcall
    have hmany := hcalling.mp hcall
    split at hsplit <;> omega
  · intro i hi hthree hthis hnone
    have hle := Watchdog.le_countP_of_successive hi hthree
    rw [if_pos (hthis last hlast)] at hsplit
    apply hcalling.mpr
    omega

/-- A tick and the ping it leads to. -/
def tickAndPing : List WatchdogLabel :=
  [.timer, .wakeUp, .ping]

/-- The ping is counted and taken off the pipe. -/
def countAndRest : List WatchdogLabel :=
  [.count, .pop, .ping]

/-- A connection whose first three pings are lost is given up at the fourth. -/
def threeLost : List WatchdogLabel :=
  [.newClient, .resetHeartBeat, .connectResult true] ++
    tickAndPing ++ countAndRest ++ tickAndPing ++ countAndRest ++ tickAndPing ++
    countAndRest ++ tickAndPing

theorem disconnect_iff_threeLost :
    ∃ t t',
      run Watchdog.watchdogStep (.new 100 100) threeLost = some t ∧
      t.watchdogStep .count = some t' ∧
      t'.pingPc = .calling ∧ 3 ≤ t'.pings.dropLast.countP t'.missing :=
  ⟨_, _, rfl, rfl, rfl, ((disconnect_iff 100 100 threeLost _ rfl).2 _ rfl).2.1 rfl⟩

/-- Every other ping is answered, and the connection is given up at the sixth. -/
def everyOtherLost : List WatchdogLabel :=
  [.newClient, .resetHeartBeat, .connectResult true] ++
    tickAndPing ++ countAndRest ++ tickAndPing ++ countAndRest ++ [.pong 1] ++
    tickAndPing ++ countAndRest ++ tickAndPing ++ countAndRest ++ [.pong 3] ++
    tickAndPing ++ countAndRest ++ tickAndPing

/-- One of the three pings before the last has been answered, all of them on the
connection that is given up. -/
theorem not_threePrecedingMissing :
    ¬ ∀ (ls : List WatchdogLabel) (t t' : Watchdog),
      run Watchdog.watchdogStep (.new 100 100) ls = some t →
      t.watchdogStep .count = some t' →
      t'.pingPc = .calling →
      (∀ r ∈ t'.pings, r.client = t'.clients) →
      ∀ k r, k + 4 ≥ t'.pings.length → k + 1 < t'.pings.length →
        t'.pings[k]? = some r → r.pong = none := by
  intro hall
  have hnone :=
    hall everyOtherLost _ _ rfl rfl rfl (by decide) 3 _ (by decide) (by decide) rfl
  cases hnone

end Runs

end Xmproxy
end BrBox
