import BrBox.Lib.CText
import BrBox.Lib.LabelledRun

/-!
# The four key keyboard of the attiny85

The main loop polls the driver, samples the buttons when debouncing is over, hands a
report to the interrupt endpoint if one is due and polls the timer.  The host's
requests come in `usbPoll`; a GET_REPORT builds the report too, and takes the change
away from the interrupt endpoint.

`lastReport` is what `usbSetInterrupt` got last; `since`, `ahead` and `extra` count
overflows of the timer from the last change that was accepted.  `reports_iff_meets`
says in which runs no change is missing and debouncing lasts five overflows.
-/

namespace BrBox
namespace Firmware

open CText
open LabelledRun

section Model

/-- The four parts of the main loop, in their order. -/
inductive LoopPc
  | usbPoll
  | checkButtonChange
  | interrupt
  | timerPoll
deriving DecidableEq, Repr

/-- What `usbFunctionSetup` reads of a setup packet; `wValue` is its second byte. -/
structure UsbRequest where
  bmRequestType : Byte
  bRequest : Byte
  wValue : Byte
deriving DecidableEq, Repr

def usbrqTypeMask : Byte := 0x60

def usbrqTypeClass : Byte := 0x20

def usbrqHidGetReport : Byte := 0x01

def usbrqHidGetIdle : Byte := 0x02

def usbrqHidSetIdle : Byte := 0x0a

/-- KEY_UP_ARROW, KEY_DN_ARROW, KEY_ENTER and KEY_ESCAPE. -/
def keyCode : Fin 4 → Byte
  | 0 => 0x52
  | 1 => 0x51
  | 2 => 0x28
  | 3 => 0x29

/-- The masks of PB0, PB1, PB2 and PB5. -/
def buttonMask : Fin 4 → Byte
  | 0 => 0x01
  | 1 => 0x02
  | 2 => 0x04
  | 3 => 0x20

/-- `bit_is_set` for the four pins; a pressed button is low. -/
def bitIsSet (levels : Fin 4 → Bool) (i : Fin 4) : Byte :=
  if levels i then buttonMask i else 0

/-- The byte of a report for a button in a state. -/
def reportKey (i : Fin 4) (buttonState : Byte) : Byte :=
  if buttonState ≠ 0 then 0 else keyCode i

/-- The variables of the firmware.  `reportBuffer` and `lastReport` are the bytes 2..5
of a report; nothing writes the others. -/
structure Keyboard where
  pc : LoopPc
  tov1 : Bool
  timerCnt : Nat
  debounceTimeIsOver : Bool
  newReport : Bool
  buttonState : Fin 4 → Byte
  buttonChanged : Fin 4 → Bool
  reportBuffer : Fin 4 → Byte
  idleRate : Byte
  lastReport : Fin 4 → Byte
  since : Nat
  ahead : Nat
  extra : Nat
  early : Bool

/-- A part of the main loop with what it reads, or an overflow of the timer. -/
inductive KeyboardLabel
  | usbPoll (request : Option UsbRequest)
  | checkButtonChange (levels : Fin 4 → Bool)
  | interrupt (ready : Bool)
  | timerPoll
  | overflow

namespace Keyboard

/-- The variables at reset.  The host knows of no key yet, and five overflows count as
passed. -/
def reset : Keyboard :=
  { pc := .usbPoll
    tov1 := false
    timerCnt := 0
    debounceTimeIsOver := true
    newReport := false
    buttonState := fun _ => 3
    buttonChanged := fun _ => false
    reportBuffer := fun _ => 0
    idleRate := 0
    lastReport := fun _ => 0
    since := 5
    ahead := 0
    extra := 0
    early := false }

/-- `timerPoll`. -/
def timerPoll (k : Keyboard) : Keyboard :=
  if k.tov1 then
    if k.timerCnt + 1 ≥ 5 then
      { k with tov1 := false, timerCnt := 0, debounceTimeIsOver := true }
    else
      { k with tov1 := false, timerCnt := k.timerCnt + 1 }
  else
    k

/-- `buildReport`: the blocks of the four buttons do not depend on each other. -/
def buildReport (k : Keyboard) : Keyboard :=
  if k.newReport then
    k
  else
    { k with
      reportBuffer := fun i =>
        if k.buttonChanged i then reportKey i (k.buttonState i) else k.reportBuffer i
      buttonChanged := fun _ => false
      newReport := true }

/-- Some sampled level is not the state that is stored. -/
def Differs (k : Keyboard) (levels : Fin 4 → Bool) : Prop :=
  ∃ i, bitIsSet levels i ≠ k.buttonState i

instance decidableDiffers (k : Keyboard) (levels : Fin 4 → Bool) :
    Decidable (k.Differs levels) :=
  inferInstanceAs (Decidable (∃ i, bitIsSet levels i ≠ k.buttonState i))

/-- `checkButtonChange`.  The changes of one sample are accepted together; `early` says
that five overflows had not passed. -/
def checkButtonChange (k : Keyboard) (levels : Fin 4 → Bool) : Keyboard :=
  if k.Differs levels then
    { k with
      buttonState := bitIsSet levels
      buttonChanged := fun i =>
        k.buttonChanged i || (bitIsSet levels i ≠ k.buttonState i : Bool)
      debounceTimeIsOver := false
      newReport := false
      since := 0
      ahead := k.timerCnt + k.tov1.toNat
      extra := 0
      early := k.early || (k.since < 5 : Bool) }
  else
    k

/-- The eight bytes of the report buffer. -/
def reportBytes (k : Keyboard) : List Byte :=
  [0, 0, k.reportBuffer 0, k.reportBuffer 1, k.reportBuffer 2, k.reportBuffer 3, 0, 0]

/-- `usbFunctionSetup`: the new state and the bytes for the host. -/
def usbFunctionSetup (k : Keyboard) (rq : UsbRequest) : Keyboard × List Byte :=
  if rq.bmRequestType &&& usbrqTypeMask = usbrqTypeClass then
    if rq.bRequest = usbrqHidGetReport then
      (k.buildReport, k.buildReport.reportBytes)
    else if rq.bRequest = usbrqHidGetIdle then
      (k, [k.idleRate])
    else if rq.bRequest = usbrqHidSetIdle then
      ({ k with idleRate := rq.wValue }, [])
    else
      (k, [])
  else
    (k, [])

/-- The send part of the loop: `usbInterruptIsReady() && newReport == 0`. -/
def interrupt (k : Keyboard) (ready : Bool) : Keyboard :=
  if ready ∧ ¬ k.newReport then
    { k.buildReport with lastReport := k.buildReport.reportBuffer }
  else
    k

/-- The timer sets TOV1.  An overflow that finds it set, or debouncing over, is not
counted by the firmware any more. -/
def overflow (k : Keyboard) : Keyboard :=
  { k with
    tov1 := true
    since := k.since + 1
    extra := if k.tov1 ∨ k.debounceTimeIsOver then k.extra + 1 else k.extra }

/-- One part of the loop, or an overflow at any time. -/
def loopStep (k : Keyboard) : KeyboardLabel → Option Keyboard
  | .usbPoll request =>
      if k.pc = .usbPoll then
        match request with
        | some rq => some { (k.usbFunctionSetup rq).1 with pc := .checkButtonChange }
        | none => some { k with pc := .checkButtonChange }
      else
        none
  | .checkButtonChange levels =>
      if k.pc = .checkButtonChange then
        if k.debounceTimeIsOver then
          some { k.checkButtonChange levels with pc := .interrupt }
        else
          some { k with pc := .interrupt }
      else
        none
  | .interrupt ready =>
      if k.pc = .interrupt then
        some { k.interrupt ready with pc := .timerPoll }
      else
        none
  | .timerPoll =>
      if k.pc = .timerPoll then some { k.timerPoll with pc := .usbPoll } else none
  | .overflow => some k.overflow

/-- No press or release is missing when no report is pending, and no change was
accepted before five overflows had passed since the last one. -/
structure Faithful (k : Keyboard) : Prop where
  reports : k.newReport → ∀ i, k.lastReport i = reportKey i (k.buttonState i)
  debounced : k.early = false

/-- The request is a GET_REPORT. -/
def isGetReport (rq : UsbRequest) : Prop :=
  rq.bmRequestType &&& usbrqTypeMask = usbrqTypeClass ∧ rq.bRequest = usbrqHidGetReport

/-- A GET_REPORT finds no change that would alter the report buffer, and a change that
is accepted comes late by at least what the debounce counter was ahead. -/
def Allowed (k : Keyboard) : KeyboardLabel → Prop
  | .usbPoll (some rq) =>
      isGetReport rq → k.newReport = false →
        ∀ i, k.buttonChanged i → k.reportBuffer i = reportKey i (k.buttonState i)
  | .checkButtonChange levels =>
      k.debounceTimeIsOver → k.Differs levels → k.ahead ≤ k.extra
  | _ => True

instance decidableAllowed (k : Keyboard) : ∀ l, Decidable (k.Allowed l)
  | .usbPoll (some rq) =>
      inferInstanceAs (Decidable
        (rq.bmRequestType &&& usbrqTypeMask = usbrqTypeClass ∧
            rq.bRequest = usbrqHidGetReport →
          k.newReport = false →
            ∀ i, k.buttonChanged i → k.reportBuffer i = reportKey i (k.buttonState i)))
  | .checkButtonChange levels =>
      inferInstanceAs (Decidable
        (k.debounceTimeIsOver → k.Differs levels → k.ahead ≤ k.extra))
  | .usbPoll none => isTrue trivial
  | .interrupt _ => isTrue trivial
  | .timerPoll => isTrue trivial
  | .overflow => isTrue trivial

/-- What is kept along the run. -/
structure Sound (k : Keyboard) : Prop where
  faithful : k.Faithful
  sent : k.lastReport = k.reportBuffer
  unchanged : ∀ i, k.buttonChanged i = false → k.reportBuffer i = reportKey i (k.buttonState i)
  timerCnt : k.timerCnt < 5
  counting : k.debounceTimeIsOver = false →
    k.since + k.ahead = k.timerCnt + k.tov1.toNat + k.extra
  elapsed : k.debounceTimeIsOver → k.since + k.ahead = 5 + k.extra

end Keyboard

end Model

section Runs

namespace Keyboard

variable {k k' : Keyboard}

theorem reset_sound :
    reset.Sound := by
  constructor
  · exact ⟨by simp [reset], rfl⟩
  · rfl
  · simp [reset, reportKey]
  · simp [reset]
  · simp [reset]
  · simp [reset]

/-- The invariant does not look at the program counter. -/
theorem setPc_sound
    (pc : LoopPc)
    (hk : k.Sound) :
    ({ k with pc := pc } : Keyboard).Sound :=
  ⟨⟨hk.faithful.reports, hk.faithful.debounced⟩, hk.sent, hk.unchanged, hk.timerCnt,
    hk.counting, hk.elapsed⟩

/-- A report that is built shows all four buttons. -/
theorem buildReport_reportBuffer
    (hk : k.Sound)
    (hpending : k.newReport = false)
    (i : Fin 4) :
    k.buildReport.reportBuffer i = reportKey i (k.buttonState i) := by
  simp only [buildReport, hpending, Bool.false_eq_true, if_false]
  cases hi : k.buttonChanged i with
  | true =>
      simp
  | false =>
      simpa using hk.unchanged i hi

/-- Apart from the report buffer, building a report clears the flags. -/
theorem buildReport_eq
    (hpending : k.newReport = false) :
    k.buildReport = { k with
      reportBuffer := k.buildReport.reportBuffer
      buttonChanged := fun _ => false
      newReport := true } := by
  simp [buildReport, hpending]

theorem interrupt_sound
    {ready : Bool}
    (hk : k.Sound) :
    (k.interrupt ready).Sound := by
  unfold interrupt
  split
  · next hsend =>
      have hpending : k.newReport = false := by simpa using hsend.2
      have hbuffer := buildReport_reportBuffer hk hpending
      rw [buildReport_eq hpending]
      exact ⟨⟨fun _ => hbuffer, hk.faithful.debounced⟩, rfl, fun i _ => hbuffer i,
        hk.timerCnt, hk.counting, hk.elapsed⟩
  · exact hk

theorem timerPoll_sound
    (hk : k.Sound) :
    k.timerPoll.Sound := by
  have hcnt := hk.timerCnt
  unfold timerPoll
  split
  · next htov =>
      split
      · next hfive =>
          refine ⟨⟨hk.faithful.reports, hk.faithful.debounced⟩, hk.sent, hk.unchanged,
            by simp, by simp, ?_⟩
          intro _
          cases hd : k.debounceTimeIsOver with
          | true =>
              exact hk.elapsed hd
          | false =>
              have hcount := hk.counting hd
              simp only [htov, Bool.toNat_true] at hcount
              show k.since + k.ahead = 5 + k.extra
              omega
      · next hfew =>
          refine ⟨⟨hk.faithful.reports, hk.faithful.debounced⟩, hk.sent, hk.unchanged,
            by simp only; omega, ?_, hk.elapsed⟩
          intro hd
          have hcount := hk.counting hd
          simp only [htov, Bool.toNat_true] at hcount
          simp only [Bool.toNat_false]
          omega
  · exact hk

theorem overflow_sound
    (hk : k.Sound) :
    k.overflow.Sound := by
  refine ⟨⟨hk.faithful.reports, hk.faithful.debounced⟩, hk.sent, hk.unchanged,
    hk.timerCnt, ?_, ?_⟩
  · intro hd
    have hd' : k.debounceTimeIsOver = false := hd
    have hcount := hk.counting hd'
    cases htov : k.tov1 with
    | true =>
        simp only [htov, Bool.toNat_true] at hcount
        simp only [overflow, htov, true_or, if_true, Bool.toNat_true]
        omega
    | false =>
        simp only [htov, Bool.toNat_false] at hcount
        simp only [overflow, htov, hd', Bool.toNat_true]
        simp only [Bool.false_eq_true, or_self, if_false]
        omega
  · intro hd
    have hd' : k.debounceTimeIsOver = true := hd
    have hcount := hk.elapsed hd'
    simp only [overflow, hd', or_true, if_true]
    omega

theorem usbFunctionSetup_sound
    {rq : UsbRequest}
    (hk : k.Sound)
    (hallowed : k.Allowed (.usbPoll (some rq))) :
    (k.usbFunctionSetup rq).1.Sound := by
  unfold usbFunctionSetup
  split
  · next hclass =>
      split
      · next hget =>
          cases hpending : k.newReport with
          | true =>
              simpa [buildReport, hpending] using hk
          | false =>
              have hsame : k.buildReport.reportBuffer = k.reportBuffer := by
                funext i
                rw [buildReport_reportBuffer hk hpending i]
                cases hi : k.buttonChanged i with
                | true =>
                    exact (hallowed ⟨hclass, hget⟩ hpending i hi).symm
                | false =>
                    exact (hk.unchanged i hi).symm
              have hbuffer := buildReport_reportBuffer hk hpending
              rw [buildReport_eq hpending]
              refine ⟨⟨fun _ i => ?_, hk.faithful.debounced⟩, ?_, fun i _ => hbuffer i,
                hk.timerCnt, hk.counting, hk.elapsed⟩
              · rw [hk.sent, ← hsame]
                exact hbuffer i
              · rw [hsame]
                exact hk.sent
      · split
        · exact hk
        · split
          · exact ⟨⟨hk.faithful.reports, hk.faithful.debounced⟩, hk.sent, hk.unchanged,
              hk.timerCnt, hk.counting, hk.elapsed⟩
          · exact hk
  · exact hk

theorem checkButtonChange_sound
    {levels : Fin 4 → Bool}
    (hk : k.Sound)
    (hover : k.debounceTimeIsOver)
    (hallowed : k.Allowed (.checkButtonChange levels)) :
    (k.checkButtonChange levels).Sound := by
  unfold checkButtonChange
  split
  · next hdiffers =>
      have hlate : 5 ≤ k.since := by
        have hcount := hk.elapsed hover
        have hahead : k.ahead ≤ k.extra := hallowed hover hdiffers
        omega
      refine ⟨⟨by simp, ?_⟩, hk.sent, ?_, hk.timerCnt, by simp, by simp⟩
      · simpa [hk.faithful.debounced] using hlate
      · intro i hi
        simp only [Bool.or_eq_false_iff, decide_eq_false_iff_not, not_not] at hi
        show k.reportBuffer i = reportKey i (bitIsSet levels i)
        rw [hi.2]
        exact hk.unchanged i hi.1
  · exact hk

/-- An allowed step keeps the invariant. -/
theorem loopStep_sound
    {l : KeyboardLabel}
    (hk : k.Sound)
    (hallowed : k.Allowed l)
    (hstep : k.loopStep l = some k') :
    k'.Sound := by
  cases l with
  | usbPoll request =>
      simp only [loopStep] at hstep
      split at hstep
      · cases request with
        | none =>
            obtain rfl := Option.some.inj hstep
            exact setPc_sound _ hk
        | some rq =>
            obtain rfl := Option.some.inj hstep
            exact setPc_sound _ (usbFunctionSetup_sound hk hallowed)
      · simp at hstep
  | checkButtonChange levels =>
      simp only [loopStep] at hstep
      split at hstep
      · split at hstep
        · next hover =>
            obtain rfl := Option.some.inj hstep
            exact setPc_sound _ (checkButtonChange_sound hk hover hallowed)
        · obtain rfl := Option.some.inj hstep
          exact setPc_sound _ hk
      · simp at hstep
  | interrupt ready =>
      simp only [loopStep] at hstep
      split at hstep
      · obtain rfl := Option.some.inj hstep
        exact setPc_sound _ (interrupt_sound hk)
      · simp at hstep
  | timerPoll =>
      simp only [loopStep] at hstep
      split at hstep
      · obtain rfl := Option.some.inj hstep
        exact setPc_sound _ (timerPoll_sound hk)
      · simp at hstep
  | overflow =>
      obtain rfl := Option.some.inj hstep
      exact overflow_sound hk

/-- A step that is not allowed loses a change or accepts one too early. -/
theorem allowed_of_faithful
    {l : KeyboardLabel}
    (hk : k.Sound)
    (hstep : k.loopStep l = some k')
    (hk' : k'.Faithful) :
    k.Allowed l := by
  cases l with
  | usbPoll request =>
      cases request with
      | none =>
          trivial
      | some rq =>
          intro hget hpending i _
          simp only [loopStep] at hstep
          split at hstep
          · obtain rfl := Option.some.inj hstep
            have hreports := hk'.reports
            simp only [usbFunctionSetup, hget.1, hget.2, if_true] at hreports
            rw [buildReport_eq hpending] at hreports
            rw [← hk.sent]
            exact hreports rfl i
          · simp at hstep
  | checkButtonChange levels =>
      intro hover hdiffers
      simp only [loopStep, hover, if_true] at hstep
      split at hstep
      · obtain rfl := Option.some.inj hstep
        have hearly := hk'.debounced
        simp only [checkButtonChange, hdiffers, if_true, Bool.or_eq_false_iff,
          decide_eq_false_iff_not] at hearly
        have hcount := hk.elapsed hover
        omega
      · simp at hstep
  | interrupt | timerPoll | overflow =>
      trivial

/-- In every state of a run no change is missing and none came too early, if and only
if every step of the run is allowed. -/
theorem reports_iff_meets
    {ls : List KeyboardLabel}
    (hrun : run loopStep reset ls = some k) :
    (∀ pre t, pre <+: ls → run loopStep reset pre = some t → t.Faithful) ↔
      Meets loopStep Allowed reset ls := by
  apply forall_prefix_iff_meets (I := Sound)
  · intro s l t hs hl hstep
    exact loopStep_sound hs hl hstep
  · intro s hs
    exact hs.faithful
  · intro s l t hs hstep ht
    exact allowed_of_faithful hs hstep ht
  · exact reset_sound
  · exact hrun

/-- A press is reported, and the host asks for the report when nothing is pending. -/
def pressGetReport : List KeyboardLabel :=
  [.usbPoll none, .checkButtonChange fun i => i != 0, .interrupt true, .timerPoll,
    .usbPoll (some ⟨0xa1, 0x01, 0⟩)]

/-- No change is missing then. -/
theorem faithful_pressGetReport :
    (run loopStep reset pressGetReport).isSome = true ∧
      ∀ pre t, pre <+: pressGetReport → run loopStep reset pre = some t → t.Faithful := by
  have hsome : (run loopStep reset pressGetReport).isSome = true := by
    decide
  obtain ⟨t, hrun⟩ := Option.isSome_iff_exists.mp hsome
  exact ⟨hsome, (reports_iff_meets hrun).mpr (by decide)⟩

/-- A GET_REPORT takes a press away while the endpoint is not ready; and a change that
is accepted with an overflow pending is followed by the next after four. -/
theorem not_faithful_getReport_and_overflow :
    (∃ t, run loopStep reset
        [.usbPoll none, .checkButtonChange fun i => i != 0, .interrupt false, .timerPoll,
          .usbPoll (some ⟨0xa1, 0x01, 0⟩)] = some t ∧
      t.newReport ∧ t.lastReport 0 ≠ reportKey 0 (t.buttonState 0)) ∧
    ∃ t, run loopStep reset
        ([.usbPoll none, .overflow, .checkButtonChange fun _ => true, .interrupt true,
            .timerPoll] ++
          (List.replicate 4
            [.usbPoll none, .checkButtonChange fun _ => true, .interrupt true, .overflow,
              .timerPoll]).flatten ++
          [.usbPoll none, .checkButtonChange fun i => i != 0]) = some t ∧
      t.early := by
  refine ⟨⟨_, rfl, ?_⟩, _, rfl, ?_⟩
  · decide
  · decide

end Keyboard

end Runs

end Firmware
end BrBox
