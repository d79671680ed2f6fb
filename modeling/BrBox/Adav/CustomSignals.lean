import BrBox.Adav.GenericChain
import BrBox.Lib.LabelledRun
import Mathlib.Data.List.Nodup
import Mathlib.Logic.Function.Basic

/-!
# The custom signals of the timer

Consumers subscribe to an `ADTimer` and register signals.  The main thread then
waits for signals; for a signal that is not one of its own it queues an item for
every registration of that signal, and the `CustomSigThread` hands each item to
every consumer that has registered anything.

`delivered_iff` says for which registrations and signals every consumer gets just
the signals it has registered, each of them once and in order.
-/

namespace BrBox
namespace Adav

open LabelledRun

/-- A signal number; the first six are handled by `wait_for_exit_signal` itself. -/
inductive Sig where
  | sigint
  | sigterm
  | sigquit
  | sigio
  | sigalrm
  | sigsegv
  /-- Any other number. -/
  | other (num : Int)
deriving DecidableEq, Repr

/-- The signals that `wait_for_exit_signal` hands on. -/
def Sig.custom : Sig → Bool
  | .other _ => true
  | _ => false

/-- A received signal with its `siginfo_t`. -/
structure SigInfo where
  sig : Sig
  siInt : Int
deriving DecidableEq, Repr

/-- `ADTIMER_CUSTOM_SIG` as an item for the worker thread. -/
structure CustomSig where
  sigNum : Int
  sigExtra : Sig
deriving DecidableEq, Repr

/-- The item that is queued for a received signal. -/
def SigInfo.item (info : SigInfo) : CustomSig :=
  { sigNum := info.siInt, sigExtra := info.sig }

/-- Where `notify_registered_signals` stands in its loop. -/
structure SigScan where
  info : SigInfo
  chainSize : Nat
  i : Nat
  /-- An item has been put and the worker thread is not woken for it yet. -/
  wake : Bool
deriving DecidableEq, Repr

/-- The timer with its history. -/
structure AdTimer (κ : Type) where
  subscribers : List κ
  /-- The members of the consumers. -/
  notifyCustomSig : κ → Int
  customSigNum : κ → Sig
  /-- The `sig_num` of each registration record. -/
  customSigChain : GenericChain Sig
  sigInfoChain : GenericChain CustomSig
  /-- The count of `one_shot_sema`. -/
  wakeups : Nat
  scan : Option SigScan
  receivedUserStopSig : Bool
  /-- The signals received and the calls of `custom_sig_notification` so far. -/
  received : List SigInfo
  notified : List (κ × CustomSig)

namespace AdTimer

variable {κ : Type}

/-- A new timer; the members of the consumers are not initialised. -/
def start (flags : κ → Int) (nums : κ → Sig) : AdTimer κ :=
  { subscribers := []
    notifyCustomSig := flags
    customSigNum := nums
    customSigChain := .new
    sigInfoChain := .new
    wakeups := 0
    scan := none
    receivedUserStopSig := false
    received := []
    notified := [] }

/-- The subscribers that a custom signal is sent to. -/
def hearers (s : AdTimer κ) : List κ :=
  s.subscribers.filter fun c => s.notifyCustomSig c == 1

/-- `notify_custom_sig_to_subscribers_new`. -/
def notifyCustomSigToSubscribersNew
    (s : AdTimer κ) (signum : Int) (sigExtra : Sig) : AdTimer κ :=
  { s with
    notified :=
      s.notified ++ s.hearers.map fun c => (c, { sigNum := signum, sigExtra := sigExtra }) }

/-- `push_custom_sig_registration`. -/
def pushCustomSigRegistration (s : AdTimer κ) (sig : Sig) : AdTimer κ :=
  { s with customSigChain := s.customSigChain.chainPut sig }

section Setup

variable [DecidableEq κ]

/-- `subscribe_timer_notification`. -/
def subscribeTimerNotification (s : AdTimer κ) (pConsumer : κ) : AdTimer κ :=
  { s with
    notifyCustomSig := Function.update s.notifyCustomSig pConsumer 0
    subscribers := s.subscribers ++ [pConsumer] }

/-- The common body of the two registrations. -/
def register (s : AdTimer κ) (customSigNum : Sig) (pConsumer : κ) : AdTimer κ :=
  pushCustomSigRegistration
    { s with
      notifyCustomSig := Function.update s.notifyCustomSig pConsumer 1
      customSigNum := Function.update s.customSigNum pConsumer customSigNum }
    customSigNum

/-- `register_custom_signal`. -/
def registerCustomSignal (s : AdTimer κ) (customSigNum : Sig) (pConsumer : κ) : AdTimer κ :=
  s.register customSigNum pConsumer

/-- `register_custom_signal_new`. -/
def registerCustomSignalNew (s : AdTimer κ) (customSigNum : Sig) (pConsumer : κ) : AdTimer κ :=
  s.register customSigNum pConsumer

end Setup

/-- `notify_registered_signals` starts. -/
def notifyRegisteredSignals (s : AdTimer κ) (info : SigInfo) : AdTimer κ :=
  { s with
    scan :=
      some
        { info := info
          chainSize := s.customSigChain.elems.length
          i := 0
          wake := false } }

/-- The next step of `notify_registered_signals`. -/
def scanStep (s : AdTimer κ) (scan : SigScan) : AdTimer κ :=
  if scan.wake then
    { s with wakeups := s.wakeups + 1, scan := some { scan with wake := false } }
  else if scan.i < scan.chainSize then
    if s.customSigChain.elems[scan.i]? = some scan.info.sig then
      { s with
        sigInfoChain := s.sigInfoChain.chainPut scan.info.item
        scan := some { scan with i := scan.i + 1, wake := true } }
    else
      { s with scan := some { scan with i := scan.i + 1 } }
  else
    { s with scan := none }

/-- `monoshot_callback_function` in the `CustomSigThread`. -/
def monoshotCallbackFunction (s : AdTimer κ) : AdTimer κ :=
  match s.sigInfoChain.chainGet with
  | (none, _) => s
  | (some sigReg, chain) =>
      notifyCustomSigToSubscribersNew { s with sigInfoChain := chain }
        sigReg.sigNum sigReg.sigExtra

/-- The switch of `wait_for_exit_signal`. -/
def dispatch (s : AdTimer κ) (info : SigInfo) : AdTimer κ :=
  match info.sig with
  | .sigint | .sigterm | .sigquit => { s with receivedUserStopSig := true }
  -- The other consumers of the timer, its own thread, and a line in the log.
  | .sigio | .sigalrm | .sigsegv => s
  | .other _ => s.notifyRegisteredSignals info

end AdTimer

/-- The calls of the consumers. -/
inductive TimerCall (κ : Type) where
  | subscribe (c : κ)
  | register (sig : Sig) (c : κ)
  | registerNew (sig : Sig) (c : κ)
deriving DecidableEq, Repr

/-- The steps of the main thread and of the `CustomSigThread`. -/
inductive TimerLabel where
  /-- `sigwaitinfo` returns. -/
  | receive (info : SigInfo)
  /-- `notify_registered_signals` goes on. -/
  | scan
  /-- The worker thread takes one wake-up. -/
  | work
deriving DecidableEq, Repr

section Model

variable {κ : Type}

/-- One step of a thread; none when it cannot be taken now. -/
def timerStep (s : AdTimer κ) : TimerLabel → Option (AdTimer κ)
  | .receive info =>
      if s.receivedUserStopSig ∨ s.scan.isSome then
        none
      else
        some (AdTimer.dispatch { s with received := s.received ++ [info] } info)
  | .scan =>
      match s.scan with
      | none => none
      | some scan => some (s.scanStep scan)
  | .work =>
      if s.wakeups = 0 then
        none
      else
        some (AdTimer.monoshotCallbackFunction { s with wakeups := s.wakeups - 1 })

/-- All queued entries have been processed. -/
def AdTimer.Idle (s : AdTimer κ) : Prop :=
  s.scan = none ∧ s.sigInfoChain.elems = []

/-- The consumer and the signal of a registration. -/
def TimerCall.registration : TimerCall κ → Option (κ × Sig)
  | .subscribe _ => none
  | .register sig c => some (c, sig)
  | .registerNew sig c => some (c, sig)

/-- Who has registered what, in call order. -/
def sigRegistrations (calls : List (TimerCall κ)) : List (κ × Sig) :=
  calls.filterMap TimerCall.registration

variable [DecidableEq κ]

/-- A call of a consumer. -/
def AdTimer.perform (s : AdTimer κ) : TimerCall κ → AdTimer κ
  | .subscribe c => s.subscribeTimerNotification c
  | .register sig c => s.registerCustomSignal sig c
  | .registerNew sig c => s.registerCustomSignalNew sig c

/-- The calls of the consumers before the signals come. -/
def AdTimer.setup (s : AdTimer κ) (calls : List (TimerCall κ)) : AdTimer κ :=
  calls.foldl AdTimer.perform s

/-- Every consumer subscribes once, and before it registers. -/
def Ordered : List κ → List (TimerCall κ) → Prop
  | _, [] => True
  | seen, .subscribe c :: calls => c ∉ seen ∧ Ordered (seen ++ [c]) calls
  | seen, .register _ c :: calls => c ∈ seen ∧ Ordered seen calls
  | seen, .registerNew _ c :: calls => c ∈ seen ∧ Ordered seen calls

instance decidableOrdered :
    ∀ (seen : List κ) (calls : List (TimerCall κ)), Decidable (Ordered seen calls)
  | _, [] => isTrue trivial
  | seen, .subscribe c :: calls =>
      @instDecidableAnd _ _ inferInstance (decidableOrdered (seen ++ [c]) calls)
  | seen, .register _ _ :: calls =>
      @instDecidableAnd _ _ inferInstance (decidableOrdered seen calls)
  | seen, .registerNew _ _ :: calls =>
      @instDecidableAnd _ _ inferInstance (decidableOrdered seen calls)

/-- What a consumer was notified of. -/
def AdTimer.notifiedOf (s : AdTimer κ) (c : κ) : List CustomSig :=
  (s.notified.filter fun n => n.1 = c).map Prod.snd

/-- What a consumer has to be notified of: the received signals it registered. -/
def AdTimer.owed (s : AdTimer κ) (regs : List (κ × Sig)) (c : κ) : List CustomSig :=
  (s.received.filter fun info => (c, info.sig) ∈ regs).map SigInfo.item

/-- Every registered consumer was notified of just the signals it registered. -/
def AdTimer.Delivered (s : AdTimer κ) (regs : List (κ × Sig)) : Prop :=
  ∀ c ∈ regs.map Prod.fst, s.notifiedOf c = s.owed regs c

/-- If anyone has registered the signal, it is one that is handed on, it was
    registered once, and by the only consumer that registered anything. -/
def SoleRegistration (regs : List (κ × Sig)) (sig : Sig) : Prop :=
  sig ∈ regs.map Prod.snd →
    sig.custom = true ∧ (regs.map Prod.snd).count sig = 1 ∧
      ∀ c ∈ regs.map Prod.fst, (c, sig) ∈ regs

end Model

section Registrations

variable {κ : Type}
variable {s : AdTimer κ} {regs : List (κ × Sig)}

@[simp] theorem sigRegistrations_nil :
    sigRegistrations ([] : List (TimerCall κ)) = [] := by
  rfl

@[simp] theorem sigRegistrations_subscribe
    (c : κ) (calls : List (TimerCall κ)) :
    sigRegistrations (.subscribe c :: calls) = sigRegistrations calls := by
  rfl

@[simp] theorem sigRegistrations_register
    (sig : Sig) (c : κ) (calls : List (TimerCall κ)) :
    sigRegistrations (.register sig c :: calls) = (c, sig) :: sigRegistrations calls := by
  rfl

@[simp] theorem sigRegistrations_registerNew
    (sig : Sig) (c : κ) (calls : List (TimerCall κ)) :
    sigRegistrations (.registerNew sig c :: calls) = (c, sig) :: sigRegistrations calls := by
  rfl

/-- The timer after the calls that made these registrations; no signal has come. -/
structure SetUp (regs : List (κ × Sig)) (s : AdTimer κ) : Prop where
  nodup : s.subscribers.Nodup
  subscribed : ∀ c ∈ regs.map Prod.fst, c ∈ s.subscribers
  flag : ∀ c ∈ s.subscribers, s.notifyCustomSig c = 1 ↔ c ∈ regs.map Prod.fst
  records : s.customSigChain.elems = regs.map Prod.snd
  queue : s.sigInfoChain.elems = []
  wakeups : s.wakeups = 0
  scan : s.scan = none
  received : s.received = []
  notified : s.notified = []

theorem SetUp.start
    (flags : κ → Int) (nums : κ → Sig) :
    SetUp [] (AdTimer.start flags nums) where
  nodup := List.nodup_nil
  subscribed := by simp
  flag := fun c hc => absurd hc List.not_mem_nil
  records := rfl
  queue := rfl
  wakeups := rfl
  scan := rfl
  received := rfl
  notified := rfl

/-- Whoever has registered anything hears every custom signal. -/
theorem SetUp.mem_hearers
    (hsetup : SetUp regs s) {c : κ} :
    c ∈ s.hearers ↔ c ∈ regs.map Prod.fst := by
  simp only [AdTimer.hearers, List.mem_filter, beq_iff_eq]
  constructor
  · rintro ⟨hc, hflag⟩
    exact (hsetup.flag c hc).mp hflag
  · intro hc
    have hsub := hsetup.subscribed c hc
    exact ⟨hsub, (hsetup.flag c hsub).mpr hc⟩

theorem SetUp.nodup_hearers
    (hsetup : SetUp regs s) :
    s.hearers.Nodup :=
  hsetup.nodup.filter _

variable [DecidableEq κ]

/-- A new subscriber has registered nothing. -/
theorem SetUp.subscribe
    (hsetup : SetUp regs s) {c : κ}
    (hnew : c ∉ s.subscribers) :
    SetUp regs (s.subscribeTimerNotification c) :=
  { hsetup with
    nodup := by
      apply List.nodup_append.mpr
      refine ⟨hsetup.nodup, List.nodup_singleton c, ?_⟩
      rintro a ha b hb rfl
      exact hnew (List.mem_singleton.mp hb ▸ ha)
    subscribed := fun a ha => List.mem_append_left _ (hsetup.subscribed a ha)
    flag := by
      intro a ha
      simp only [AdTimer.subscribeTimerNotification]
      by_cases hac : a = c
      · subst hac
        rw [Function.update_self]
        have hnone : a ∉ regs.map Prod.fst := fun hmem => hnew (hsetup.subscribed a hmem)
        simp [hnone]
      · rw [Function.update_of_ne hac]
        apply hsetup.flag
        simpa [AdTimer.subscribeTimerNotification, hac] using ha }

/-- A subscriber registers one more signal. -/
theorem SetUp.register
    (hsetup : SetUp regs s) {c : κ}
    (hold : c ∈ s.subscribers) (sig : Sig) :
    SetUp (regs ++ [(c, sig)]) (s.register sig c) :=
  { hsetup with
    subscribed := by
      intro a ha
      rw [List.map_append, List.mem_append] at ha
      rcases ha with ha | ha
      · exact hsetup.subscribed a ha
      · obtain rfl : a = c := by simpa using ha
        exact hold
    flag := by
      intro a ha
      simp only [AdTimer.register, AdTimer.pushCustomSigRegistration]
      by_cases hac : a = c
      · subst hac
        simp
      · rw [Function.update_of_ne hac, hsetup.flag a ha]
        simp [hac]
    records := by
      simp [AdTimer.register, AdTimer.pushCustomSigRegistration, hsetup.records] }

/-- The timer after all the calls. -/
theorem SetUp.setup
    {calls : List (TimerCall κ)}
    (hsetup : SetUp regs s)
    (hordered : Ordered s.subscribers calls) :
    SetUp (regs ++ sigRegistrations calls) (s.setup calls) := by
  induction calls generalizing s regs with
  | nil =>
      simpa [AdTimer.setup] using hsetup
  | cons call calls ih =>
      cases call with
      | subscribe c =>
          obtain ⟨hnew, hrest⟩ := hordered
          exact ih (hsetup.subscribe hnew) hrest
      | register sig c =>
          obtain ⟨hold, hrest⟩ := hordered
          have hlater := ih (hsetup.register hold sig) hrest
          rwa [List.append_assoc] at hlater
      | registerNew sig c =>
          obtain ⟨hold, hrest⟩ := hordered
          have hlater := ih (hsetup.register hold sig) hrest
          rwa [List.append_assoc] at hlater

end Registrations

section Runs

variable {κ : Type}
variable {hearers : List κ} {records : List Sig} {s t : AdTimer κ}

/-- The items that a received signal brings about. -/
def copies (records : List Sig) (info : SigInfo) : List CustomSig :=
  if info.sig.custom then List.replicate (records.count info.sig) info.item else []

/-- The items that are still to be queued for the signal being looked up. -/
def AdTimer.remaining (s : AdTimer κ) : List CustomSig :=
  match s.scan with
  | none => []
  | some scan =>
      List.replicate ((s.customSigChain.elems.drop scan.i).count scan.info.sig) scan.info.item

/-- The wake-up that is still to be given. -/
def AdTimer.owedWakeup (s : AdTimer κ) : Nat :=
  match s.scan with
  | none => 0
  | some scan => if scan.wake then 1 else 0

/-- How much the two threads still have to do. -/
def AdTimer.pending (s : AdTimer κ) : Nat :=
  s.sigInfoChain.elems.length +
    match s.scan with
    | none => 0
    | some scan => 3 * (scan.chainSize - scan.i) + s.owedWakeup + 1

/-- The notifications that go out for a list of items. -/
def broadcast (hearers : List κ) (items : List CustomSig) : List (κ × CustomSig) :=
  items.flatMap fun item => hearers.map fun c => (c, item)

/-- Every received signal is handed to the hearers once for each of its records. -/
structure SignalInv (hearers : List κ) (records : List Sig) (s : AdTimer κ) : Prop where
  hears : s.hearers = hearers
  registered : s.customSigChain.elems = records
  size : ∀ scan, s.scan = some scan → scan.chainSize = records.length
  wakeups : s.wakeups + s.owedWakeup = s.sigInfoChain.elems.length
  items :
    ∃ handled, s.notified = broadcast hearers handled ∧
      handled ++ s.sigInfoChain.elems ++ s.remaining = s.received.flatMap (copies records)

theorem SetUp.signalInv
    {regs : List (κ × Sig)}
    (hsetup : SetUp regs s) :
    SignalInv s.hearers (regs.map Prod.snd) s where
  hears := rfl
  registered := hsetup.records
  size := by simp [hsetup.scan]
  wakeups := by simp [hsetup.wakeups, hsetup.queue, AdTimer.owedWakeup, hsetup.scan]
  items := by
    refine ⟨[], by simp [hsetup.notified, broadcast], ?_⟩
    simp [hsetup.queue, AdTimer.remaining, hsetup.scan, hsetup.received]

/-- The timer's own signals only end the loop, if that. -/
theorem dispatch_of_not_custom
    (s : AdTimer κ) {info : SigInfo}
    (hcustom : info.sig.custom = false) :
    ∃ stop, s.dispatch info = { s with receivedUserStopSig := stop } := by
  cases hsig : info.sig <;> simp only [AdTimer.dispatch, hsig]
  case other => simp [hsig, Sig.custom] at hcustom
  case sigint => exact ⟨true, rfl⟩
  case sigterm => exact ⟨true, rfl⟩
  case sigquit => exact ⟨true, rfl⟩
  case sigio => exact ⟨s.receivedUserStopSig, rfl⟩
  case sigalrm => exact ⟨s.receivedUserStopSig, rfl⟩
  case sigsegv => exact ⟨s.receivedUserStopSig, rfl⟩

/-- Every other signal is looked up. -/
theorem dispatch_of_custom
    (s : AdTimer κ) {info : SigInfo}
    (hcustom : info.sig.custom = true) :
    s.dispatch info = s.notifyRegisteredSignals info := by
  cases hsig : info.sig <;> simp [AdTimer.dispatch, hsig] <;> simp [hsig, Sig.custom] at hcustom

/-- A signal is received while none is looked up. -/
theorem SignalInv.receive
    (hinv : SignalInv hearers records s) {info : SigInfo}
    (hstep : timerStep s (.receive info) = some t) :
    SignalInv hearers records t := by
  simp only [timerStep] at hstep
  split_ifs at hstep with hblocked
  obtain rfl := Option.some.inj hstep
  have hscan : s.scan = none := by
    cases hcase : s.scan with
    | none => rfl
    | some scan => simp [hcase] at hblocked
  obtain ⟨handled, hnotified, hitems⟩ := hinv.items
  have hwakeups := hinv.wakeups
  simp only [AdTimer.remaining, AdTimer.owedWakeup, hscan, List.append_nil] at hitems hwakeups
  cases hcustom : info.sig.custom with
  | false =>
      obtain ⟨stop, hdispatch⟩ :=
        dispatch_of_not_custom { s with received := s.received ++ [info] } hcustom
      rw [hdispatch]
      exact
        { hinv with
          items := by
            refine ⟨handled, hnotified, ?_⟩
            simp [AdTimer.remaining, hscan, hitems, copies, hcustom] }
  | true =>
      rw [dispatch_of_custom _ hcustom]
      exact
        { hinv with
          size := by
            rintro scan hnew
            obtain rfl := Option.some.inj hnew
            exact congrArg List.length hinv.registered
          wakeups := hwakeups
          items := by
            refine ⟨handled, hnotified, ?_⟩
            simp [AdTimer.remaining, AdTimer.notifyRegisteredSignals, hinv.registered, copies,
              hcustom, ← hitems] }

/-- The count of a signal from a record on. -/
theorem count_drop
    {i : Nat} (hi : i < records.length) (sig : Sig) :
    (records.drop i).count sig =
      (records.drop (i + 1)).count sig + if records[i]? = some sig then 1 else 0 := by
  rw [List.drop_eq_getElem_cons hi, List.count_cons, List.getElem?_eq_getElem hi]
  simp

/-- One record is looked at, or the worker thread is woken. -/
theorem SignalInv.scan
    (hinv : SignalInv hearers records s)
    (hstep : timerStep s .scan = some t) :
    SignalInv hearers records t := by
  simp only [timerStep] at hstep
  cases hscan : s.scan with
  | none =>
      rw [hscan] at hstep
      cases hstep
  | some scan =>
      rw [hscan] at hstep
      obtain rfl := Option.some.inj hstep
      have hsize := hinv.size scan hscan
      have hwakeups := hinv.wakeups
      obtain ⟨handled, hnotified, hitems⟩ := hinv.items
      simp only [AdTimer.remaining, AdTimer.owedWakeup, hscan, hinv.registered]
        at hitems hwakeups
      have hkept : ∀ scan' : SigScan, scan'.chainSize = scan.chainSize →
          ∀ next, some scan' = some next → next.chainSize = records.length := by
        rintro scan' hsame next hnext
        obtain rfl := Option.some.inj hnext
        exact hsame.trans hsize
      unfold AdTimer.scanStep
      split_ifs with hwake hmore hmatch
      · exact
          { hinv with
            size := hkept _ rfl
            wakeups := by simpa [AdTimer.owedWakeup, hwake] using hwakeups
            items :=
              ⟨handled, hnotified, by simpa [AdTimer.remaining, hinv.registered] using hitems⟩ }
      · have hcount := count_drop (hsize ▸ hmore) scan.info.sig
        rw [← hinv.registered, if_pos hmatch, hinv.registered] at hcount
        exact
          { hinv with
            size := hkept _ rfl
            wakeups := by
              simp [AdTimer.owedWakeup, hwake] at hwakeups ⊢
              omega
            items := by
              refine ⟨handled, hnotified, ?_⟩
              rw [hcount, List.replicate_succ] at hitems
              simpa [AdTimer.remaining, hinv.registered] using hitems }
      · have hcount := count_drop (hsize ▸ hmore) scan.info.sig
        rw [← hinv.registered, if_neg hmatch, hinv.registered, Nat.add_zero] at hcount
        exact
          { hinv with
            size := hkept _ rfl
            wakeups := by simpa [AdTimer.owedWakeup, hwake] using hwakeups
            items := by
              refine ⟨handled, hnotified, ?_⟩
              rw [hcount] at hitems
              simpa [AdTimer.remaining, hinv.registered] using hitems }
      · -- The loop is over: no record is left.
        have hdone : records.drop scan.i = [] := by
          apply List.drop_eq_nil_of_le
          omega
        rw [hdone] at hitems
        exact
          { hinv with
            size := fun next hnext => by cases hnext
            wakeups := by simpa [AdTimer.owedWakeup, hwake] using hwakeups
            items := ⟨handled, hnotified, by simpa [AdTimer.remaining] using hitems⟩ }

/-- The worker thread hands one item to the hearers. -/
theorem SignalInv.work
    (hinv : SignalInv hearers records s)
    (hstep : timerStep s .work = some t) :
    SignalInv hearers records t := by
  simp only [timerStep] at hstep
  split_ifs at hstep with hnone
  obtain rfl := Option.some.inj hstep
  have hwakeups := hinv.wakeups
  obtain ⟨handled, hnotified, hitems⟩ := hinv.items
  unfold AdTimer.monoshotCallbackFunction
  obtain ⟨hempty, -⟩ | ⟨item, rest, hqueue, hget⟩ := s.sigInfoChain.chainGet_cases
  · rw [hempty, List.length_nil] at hwakeups
    omega
  · rw [hqueue, List.length_cons] at hwakeups
    simp only [hget]
    exact
      { hinv with
        wakeups := by
          simp only [AdTimer.notifyCustomSigToSubscribersNew, AdTimer.owedWakeup] at hwakeups ⊢
          omega
        items := by
          refine ⟨handled ++ [item], ?_, ?_⟩
          · have hhears := hinv.hears
            simp only [AdTimer.hearers] at hhears
            simp [AdTimer.notifyCustomSigToSubscribersNew, AdTimer.hearers, hhears, hnotified,
              broadcast]
          · rw [hqueue] at hitems
            simpa [AdTimer.notifyCustomSigToSubscribersNew, AdTimer.remaining] using hitems }

theorem SignalInv.step
    {label : TimerLabel}
    (hinv : SignalInv hearers records s)
    (hstep : timerStep s label = some t) :
    SignalInv hearers records t := by
  cases label with
  | receive info => exact hinv.receive hstep
  | scan => exact hinv.scan hstep
  | work => exact hinv.work hstep

/-- Every queued item is processed when the threads go on. -/
theorem SignalInv.exists_idle
    (hinv : SignalInv hearers records s) :
    ∃ ls t, (∀ l ∈ ls, l = TimerLabel.scan ∨ l = .work) ∧
      run timerStep s ls = some t ∧ SignalInv hearers records t ∧ t.Idle := by
  refine exists_run_of_measure AdTimer.pending ?_ s hinv
  intro s hinv hbusy
  cases hscan : s.scan with
  | none =>
      have hwakeups := hinv.wakeups
      have hqueue : s.sigInfoChain.elems ≠ [] := fun hempty => hbusy ⟨hscan, hempty⟩
      obtain ⟨item, rest, hitem⟩ := List.exists_cons_of_ne_nil hqueue
      simp only [AdTimer.owedWakeup, hscan, hitem, List.length_cons] at hwakeups
      have hstep :
          timerStep s .work =
            some (AdTimer.monoshotCallbackFunction { s with wakeups := s.wakeups - 1 }) := by
        simp only [timerStep]
        rw [if_neg (by omega)]
      refine ⟨.work, _, Or.inr rfl, hstep, hinv.step hstep, ?_⟩
      simp [AdTimer.pending, AdTimer.monoshotCallbackFunction, GenericChain.chainGet, hitem,
        AdTimer.notifyCustomSigToSubscribersNew, hscan]
  | some scan =>
      have hstep : timerStep s .scan = some (s.scanStep scan) := by simp [timerStep, hscan]
      refine ⟨.scan, _, Or.inl rfl, hstep, hinv.step hstep, ?_⟩
      unfold AdTimer.scanStep
      split_ifs with hwake hmore hmatch
      · simp [AdTimer.pending, AdTimer.owedWakeup, hscan, hwake]
      · simp [AdTimer.pending, AdTimer.owedWakeup, hscan, hwake]
        omega
      · simp [AdTimer.pending, AdTimer.owedWakeup, hscan, hwake]
        omega
      · simp [AdTimer.pending, hscan]

end Runs

section Delivery

variable {κ : Type} [DecidableEq κ]
variable {regs : List (κ × Sig)} {hearers : List κ} {s : AdTimer κ} {c : κ}

/-- Each item of a broadcast reaches a hearer once. -/
theorem broadcast_of_mem
    (hnodup : hearers.Nodup) (hc : c ∈ hearers) (items : List CustomSig) :
    ((broadcast hearers items).filter fun n => n.1 = c).map Prod.snd = items := by
  have hone : hearers.filter (fun a => decide (a = c)) = [c] := by
    rw [List.filter_eq, List.count_eq_one_of_mem hnodup hc, List.replicate_one]
  induction items with
  | nil =>
      rfl
  | cons item items ih =>
      have hcons :
          broadcast hearers (item :: items) =
            (hearers.map fun a => (a, item)) ++ broadcast hearers items := by
        simp [broadcast]
      rw [hcons, List.filter_append, List.map_append, ih, List.filter_map, List.map_map]
      simp only [Function.comp_def]
      rw [hone]
      rfl

/-- With sole registrations the copies are what is owed. -/
theorem flatMap_copies_of_sole
    (hc : c ∈ regs.map Prod.fst) {infos : List SigInfo}
    (hsole : ∀ info ∈ infos, SoleRegistration regs info.sig) :
    infos.flatMap (copies (regs.map Prod.snd)) =
      (infos.filter fun info => (c, info.sig) ∈ regs).map SigInfo.item := by
  induction infos with
  | nil =>
      rfl
  | cons info infos ih =>
      have hrest := ih fun later hlater => hsole later (List.mem_cons_of_mem _ hlater)
      rw [List.flatMap_cons, hrest]
      by_cases hreg : info.sig ∈ regs.map Prod.snd
      · obtain ⟨hcustom, hcount, hall⟩ := hsole info List.mem_cons_self hreg
        simp [copies, hcustom, hcount, hall c hc]
      · have hother : (c, info.sig) ∉ regs := fun hmem => hreg (List.mem_map.mpr ⟨_, hmem, rfl⟩)
        simp [copies, List.count_eq_zero_of_not_mem hreg, hother]

/-- The copies that carry a signal. -/
theorem countP_copies
    (records : List Sig) (infos : List SigInfo) (sig : Sig) :
    (infos.flatMap (copies records)).countP (fun item => item.sigExtra == sig) =
      infos.countP (fun info => info.sig == sig) *
        if sig.custom then records.count sig else 0 := by
  induction infos with
  | nil =>
      simp
  | cons info infos ih =>
      rw [List.flatMap_cons, List.countP_append, ih, List.countP_cons]
      by_cases hsig : info.sig = sig
      · subst hsig
        cases hcustom : info.sig.custom with
        | false => simp [copies, hcustom]
        | true =>
            simp [copies, hcustom, SigInfo.item, List.countP_replicate, Nat.add_mul]
            omega
      · have hcopies : (copies records info).countP (fun item => item.sigExtra == sig) = 0 := by
          unfold copies
          split
          · simp [List.countP_replicate, SigInfo.item, hsig]
          · rfl
        simp [hcopies, hsig]

/-- What is owed that carries a signal. -/
theorem countP_owed
    (infos : List SigInfo) (sig : Sig) :
    ((infos.filter fun info => (c, info.sig) ∈ regs).map SigInfo.item).countP
        (fun item => item.sigExtra == sig) =
      infos.countP (fun info => info.sig == sig) * if (c, sig) ∈ regs then 1 else 0 := by
  rw [List.countP_map, List.countP_filter]
  by_cases hreg : (c, sig) ∈ regs
  · rw [if_pos hreg, Nat.mul_one]
    apply List.countP_congr
    intro info _
    simp only [Function.comp_apply, SigInfo.item, Bool.and_eq_true, beq_iff_eq,
      decide_eq_true_eq, and_iff_left_iff_imp]
    rintro rfl
    exact hreg
  · rw [if_neg hreg, Nat.mul_zero, List.countP_eq_zero]
    intro info _
    simp only [Function.comp_apply, SigInfo.item, Bool.and_eq_true, beq_iff_eq,
      decide_eq_true_eq, not_and]
    rintro rfl
    exact hreg

/-- In an idle timer every hearer was notified of every copy. -/
theorem SignalInv.notifiedOf
    {records : List Sig}
    (hinv : SignalInv hearers records s) (hidle : s.Idle)
    (hnodup : hearers.Nodup) (hc : c ∈ hearers) :
    s.notifiedOf c = s.received.flatMap (copies records) := by
  obtain ⟨handled, hnotified, hitems⟩ := hinv.items
  simp only [AdTimer.remaining, hidle.1, hidle.2, List.append_nil] at hitems
  rw [AdTimer.notifiedOf, hnotified, broadcast_of_mem hnodup hc, hitems]

/-- Once the queue is empty, every consumer was notified of just the signals it
    registered if and only if each received signal that anyone has registered was
    registered once, and by the only consumer that registered anything. -/
theorem delivered_iff
    {flags : κ → Int} {nums : κ → Sig}
    {calls : List (TimerCall κ)} {ls : List TimerLabel} {t : AdTimer κ}
    (hordered : Ordered [] calls)
    (hrun : run timerStep ((AdTimer.start flags nums).setup calls) ls = some t)
    (hidle : t.Idle) :
    t.Delivered (sigRegistrations calls) ↔
      ∀ info ∈ t.received, SoleRegistration (sigRegistrations calls) info.sig := by
  have hsetup : SetUp (sigRegistrations calls) ((AdTimer.start flags nums).setup calls) :=
    (SetUp.start flags nums).setup hordered
  have hinv : SignalInv _ _ t :=
    run_invariant (fun _ _ _ hs hstep => hs.step hstep) hsetup.signalInv hrun
  have hnotified :
      ∀ c ∈ (sigRegistrations calls).map Prod.fst,
        t.notifiedOf c = t.received.flatMap (copies ((sigRegistrations calls).map Prod.snd)) := by
    intro c hc
    exact hinv.notifiedOf hidle hsetup.nodup_hearers (hsetup.mem_hearers.mpr hc)
  constructor
  · intro hdelivered info hinfo hreg
    have hcount :
        ∀ c ∈ (sigRegistrations calls).map Prod.fst,
          (if info.sig.custom then
              ((sigRegistrations calls).map Prod.snd).count info.sig
            else 0) = if (c, info.sig) ∈ sigRegistrations calls then 1 else 0 := by
      intro c hc
      have heq := (hnotified c hc).symm.trans (hdelivered c hc)
      have hcounts := congrArg (List.countP fun item => item.sigExtra == info.sig) heq
      rw [AdTimer.owed, countP_copies, countP_owed] at hcounts
      refine Nat.eq_of_mul_eq_mul_left ?_ hcounts
      exact List.countP_pos_iff.mpr ⟨info, hinfo, by simp⟩
    obtain ⟨⟨c₀, sig⟩, hmem, rfl⟩ := List.mem_map.mp hreg
    have hfirst := hcount c₀ (List.mem_map.mpr ⟨_, hmem, rfl⟩)
    rw [if_pos hmem] at hfirst
    split_ifs at hfirst with hcustom
    refine ⟨hcustom, hfirst, ?_⟩
    intro c hc
    have hother := hcount c hc
    rw [if_pos hcustom, hfirst] at hother
    by_contra hnot
    rw [if_neg hnot] at hother
    cases hother
  · intro hsole c hc
    rw [hnotified c hc]
    exact flatMap_copies_of_sole hc hsole

end Delivery

/-- A timer set up by the calls of its consumers, all members zero before. -/
def sampleTimer (calls : List (TimerCall Nat)) : AdTimer Nat :=
  (AdTimer.start (fun _ => 0) fun _ => .sigint).setup calls

/-- A single consumer that registers two signals. -/
def oneConsumer : List (TimerCall Nat) :=
  [.subscribe 1, .subscribe 2, .register (.other 50) 1, .registerNew (.other 51) 1]

/-- Both signals come, the second before the first has been handed out. -/
def twoSignals : List TimerLabel :=
  [.receive ⟨.other 51, 7⟩, .scan, .scan, .scan, .scan,
    .receive ⟨.other 50, 8⟩, .scan, .work, .scan, .scan, .scan, .work]

theorem delivered_iff_twoSignals :
    ∃ t, run timerStep (sampleTimer oneConsumer) twoSignals = some t ∧
      (t.Delivered (sigRegistrations oneConsumer) ↔
        ∀ info ∈ t.received, SoleRegistration (sigRegistrations oneConsumer) info.sig) := by
  obtain ⟨t, hrun⟩ := Option.isSome_iff_exists.mp
    (show (run timerStep (sampleTimer oneConsumer) twoSignals).isSome = true from by decide)
  have hview :
      (run timerStep (sampleTimer oneConsumer) twoSignals).map
        (fun t => (t.scan, t.sigInfoChain.elems)) = some (none, []) := by
    decide
  rw [hrun] at hview
  simp only [Option.map_some, Option.some.injEq, Prod.mk.injEq] at hview
  exact ⟨t, hrun, delivered_iff (by decide) hrun hview⟩

/-- Two consumers that register one signal each. -/
def twoConsumers : List (TimerCall Nat) :=
  [.subscribe 1, .subscribe 2, .register (.other 50) 1, .register (.other 51) 2]

/-- The signal of the first comes and is handed out. -/
def firstSignal : List TimerLabel :=
  [.receive ⟨.other 50, 7⟩, .scan, .scan, .scan, .scan, .work]

/-- The second consumer is notified of the signal of the first. -/
theorem not_delivered_twoConsumers :
    ∃ t, run timerStep (sampleTimer twoConsumers) firstSignal = some t ∧
      t.Idle ∧ ¬ t.Delivered (sigRegistrations twoConsumers) := by
  obtain ⟨t, hrun⟩ := Option.isSome_iff_exists.mp
    (show (run timerStep (sampleTimer twoConsumers) firstSignal).isSome = true from by decide)
  have hview :
      (run timerStep (sampleTimer twoConsumers) firstSignal).map
        (fun t =>
          ((t.scan, t.sigInfoChain.elems),
            t.notifiedOf 2, t.owed (sigRegistrations twoConsumers) 2)) =
        some ((none, []), [⟨7, .other 50⟩], []) := by
    decide
  rw [hrun] at hview
  simp only [Option.map_some, Option.some.injEq, Prod.mk.injEq] at hview
  obtain ⟨hidle, hnotified, howed⟩ := hview
  refine ⟨t, hrun, hidle, ?_⟩
  intro hdelivered
  have hsecond := hdelivered 2 (by decide)
  rw [hnotified, howed] at hsecond
  cases hsecond

end Adav
end BrBox
