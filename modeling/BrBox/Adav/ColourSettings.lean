import BrBox.Adav.I2CTaos3414
import BrBox.Lib.LabelledRun
import BrBox.Lib.PackedField

/-!
# The settings of the colour sensor

Each setting is a field of one register, and the fields of a register have no bit
in common: so changing one of them leaves the others, whatever else is called in
between.  What can go wrong is a value that is too large for its bits, and a
measurement whose bytes cannot be read.

* `set_eq_put`: each setting is changed by putting its value into its field.
* `call_take`: a call leaves what is read of every other setting.
* `settingsKept_iff`: the sequences of calls in which all goes well.
-/

namespace BrBox
namespace Adav
namespace ColourSensor

open LabelledRun
open PackedField

/-! ## Each setting is a field of its register -/

inductive Setting where
  | integrationTime
  | syncEdge
  | integrationMode
  | intrStopSts
  | intrMode
  | intrRate
  | intrSource
  | gainMode
  | prescaler
deriving DecidableEq, Repr

/-- The type of the argument. -/
abbrev Setting.Value : Setting → Type
  | integrationTime => BitVec 32
  | syncEdge => StatusFlag
  | integrationMode => IntegMode
  | intrStopSts => StatusFlag
  | intrMode => IntrMode
  | intrRate => IntrRate
  | intrSource => IntrSource
  | gainMode => GainMode
  | prescaler => Prescaler

instance : (X : Setting) → DecidableEq X.Value
  | .integrationTime => inferInstanceAs (DecidableEq (BitVec 32))
  | .syncEdge => inferInstanceAs (DecidableEq StatusFlag)
  | .integrationMode => inferInstanceAs (DecidableEq IntegMode)
  | .intrStopSts => inferInstanceAs (DecidableEq StatusFlag)
  | .intrMode => inferInstanceAs (DecidableEq IntrMode)
  | .intrRate => inferInstanceAs (DecidableEq IntrRate)
  | .intrSource => inferInstanceAs (DecidableEq IntrSource)
  | .gainMode => inferInstanceAs (DecidableEq GainMode)
  | .prescaler => inferInstanceAs (DecidableEq Prescaler)

/-- The function that changes a setting. -/
def Sensor.set (s : Sensor) :
    (X : Setting) → X.Value → Transfers → RpcSrvResult × Sensor
  | .integrationTime => s.setIntegrationTime
  | .syncEdge => s.setSyncEdge
  | .integrationMode => s.setIntegrationMode
  | .intrStopSts => s.setIntrStopSts
  | .intrMode => s.setIntrMode
  | .intrRate => s.setIntrRate
  | .intrSource => s.setIntrSource
  | .gainMode => s.setGainMode
  | .prescaler => s.setPrescaler

/-- The function that asks for a setting. -/
def Sensor.get (s : Sensor) :
    (X : Setting) → Transfers → Except RpcSrvResult X.Value × Sensor
  | .integrationTime => s.getIntegrationTime
  | .syncEdge => s.getSyncEdge
  | .integrationMode => s.getIntegrationMode
  | .intrStopSts => s.getIntrStopSts
  | .intrMode => s.getIntrMode
  | .intrRate => s.getIntrRate
  | .intrSource => s.getIntrSource
  | .gainMode => s.getGainMode
  | .prescaler => s.getPrescaler

/-- The number that is to be stored. -/
def Setting.code : (X : Setting) → X.Value → Nat
  | integrationTime => BitVec.toNat
  | syncEdge => StatusFlag.code
  | integrationMode => IntegMode.code
  | intrStopSts => StatusFlag.code
  | intrMode => IntrMode.code
  | intrRate => IntrRate.code
  | intrSource => IntrSource.code
  | gainMode => GainMode.code
  | prescaler => Prescaler.code

/-- The bits that there are for it. -/
def Setting.width : Setting → Nat
  | integrationTime => 4
  | syncEdge => 1
  | integrationMode => 2
  | intrStopSts => 1
  | intrMode => 2
  | intrRate => 3
  | intrSource => 2
  | gainMode => 2
  | prescaler => 3

def Setting.register : Setting → Register
  | integrationTime => .timing
  | syncEdge => .timing
  | integrationMode => .timing
  | intrStopSts => .intrCtrl
  | intrMode => .intrCtrl
  | intrRate => .intrCtrl
  | intrSource => .intrSource
  | gainMode => .gain
  | prescaler => .gain

/-- The bits of the register that belong to the setting. -/
def Setting.mask : Setting → BitVec 8
  | integrationTime => 0x0F
  | syncEdge => 0x40
  | integrationMode => 0x30
  | intrStopSts => 0x40
  | intrMode => 0x30
  | intrRate => 0x07
  | intrSource => BitVec.allOnes 8
  | gainMode => 0x30
  | prescaler => 0x07

/-- The bits of a value at their place in the register. -/
def Setting.place : (X : Setting) → X.Value → BitVec 8
  | integrationTime => fun time => BitVec.setWidth 8 time &&& 0x0F
  | syncEdge => placeFlag
  | integrationMode => fun mode => (BitVec.ofNat 8 (IntegMode.code mode) &&& 0x03) <<< 4
  | intrStopSts => placeFlag
  | intrMode => fun mode => (BitVec.ofNat 8 (IntrMode.code mode) &&& 0x03) <<< 4
  | intrRate => fun rate => BitVec.ofNat 8 (IntrRate.code rate) &&& 0x07
  | intrSource => fun src => BitVec.ofNat 8 (IntrSource.code src) &&& 0x03
  | gainMode => fun mode => (BitVec.ofNat 8 (GainMode.code mode) &&& 0x03) <<< 4
  | prescaler => fun mode => BitVec.ofNat 8 (Prescaler.code mode) &&& 0x07

def Setting.take : (X : Setting) → BitVec 8 → X.Value
  | integrationTime => fun val => (val &&& 0x0F).setWidth 32
  | syncEdge => takeFlag
  | integrationMode => takeIntegMode
  | intrStopSts => takeFlag
  | intrMode => takeIntrMode
  | intrRate => takeIntrRate
  | intrSource => takeIntrSource
  | gainMode => takeGainMode
  | prescaler => takePrescaler

theorem place_and_mask
    (X : Setting)
    (v : X.Value) :
    X.place v &&& X.mask = X.place v := by
  cases X with
  | integrationTime =>
      change BitVec.setWidth 8 v &&& 0x0F &&& 0x0F = BitVec.setWidth 8 v &&& 0x0F
      rw [BitVec.and_assoc, BitVec.and_self]
  | intrSource => exact BitVec.and_allOnes
  | syncEdge | integrationMode | intrStopSts | intrMode | intrRate | gainMode
  | prescaler =>
      cases v <;> rfl

theorem take_and_mask
    (X : Setting)
    (b : BitVec 8) :
    X.take (b &&& X.mask) = X.take b := by
  cases X with
  | intrSource =>
      change takeIntrSource (b &&& BitVec.allOnes 8) = takeIntrSource b
      rw [BitVec.and_allOnes]
  | integrationTime | syncEdge | integrationMode | intrStopSts | intrMode | intrRate
  | gainMode | prescaler =>
      simp only [Setting.take, Setting.mask, takeFlag, takeIntegMode, takeIntrMode,
        takeIntrRate, takeGainMode, takePrescaler, BitVec.and_assoc, BitVec.and_self]

def Setting.field (X : Setting) : Field 8 X.Value where
  mask := X.mask
  place := X.place
  take := X.take
  place_and_mask := place_and_mask X
  take_and_mask := take_and_mask X

def Setting.address (X : Setting) : BitVec 5 :=
  X.register.address

/-- Two settings of one register have no bit in common. -/
theorem masks_disjoint
    {X Y : Setting}
    (hne : X ≠ Y)
    (hregister : X.register = Y.register) :
    X.field.mask &&& Y.field.mask = 0#8 := by
  cases X <;> cases Y <;>
    first
      | exact absurd rfl hne
      | exact absurd hregister (by decide)
      | rfl

/-- The values that the bits of a setting can hold. -/
def Setting.Fits : (X : Setting) → X.Value → Prop
  | integrationTime => fun time => BitVec.toNat time < 16
  | syncEdge => fun edge => edge = .lo ∨ edge = .hi
  | integrationMode => fun mode => mode ≠ .unknown ∧ mode ≠ .none
  | intrStopSts => fun sts => sts = .lo ∨ sts = .hi
  | intrMode => fun mode => mode ≠ .unknown ∧ mode ≠ .none
  | intrRate => fun rate => rate ≠ .none
  | intrSource => fun src => src ≠ .unknown ∧ src ≠ .none
  | gainMode => fun mode => mode ≠ .unknown ∧ mode ≠ .none
  | prescaler => fun mode => mode ≠ .none

instance : (X : Setting) → (v : X.Value) → Decidable (X.Fits v)
  | .integrationTime, time => inferInstanceAs (Decidable (BitVec.toNat time < 16))
  | .syncEdge, edge => inferInstanceAs (Decidable (edge = .lo ∨ edge = .hi))
  | .integrationMode, mode => inferInstanceAs (Decidable (mode ≠ .unknown ∧ mode ≠ .none))
  | .intrStopSts, sts => inferInstanceAs (Decidable (sts = .lo ∨ sts = .hi))
  | .intrMode, mode => inferInstanceAs (Decidable (mode ≠ .unknown ∧ mode ≠ .none))
  | .intrRate, rate => inferInstanceAs (Decidable (rate ≠ .none))
  | .intrSource, src => inferInstanceAs (Decidable (src ≠ .unknown ∧ src ≠ .none))
  | .gainMode, mode => inferInstanceAs (Decidable (mode ≠ .unknown ∧ mode ≠ .none))
  | .prescaler, mode => inferInstanceAs (Decidable (mode ≠ .none))

theorem holds_iff
    (X : Setting)
    (v : X.Value) :
    X.field.Holds v ↔ X.Fits v := by
  cases X with
  | integrationTime =>
      change (BitVec.setWidth 8 v &&& 0x0F &&& 0x0F).setWidth 32 = v ↔ v.toNat < 16
      have hmod :
          ((BitVec.setWidth 8 v &&& 0x0F &&& 0x0F).setWidth 32).toNat = v.toNat % 16 := by
        have hlow : ∀ n : Nat, n &&& 15 = n % 16 := fun n => Nat.and_two_pow_sub_one_eq_mod n 4
        rw [BitVec.and_assoc, BitVec.and_self]
        have hmask : (0x0F : BitVec 8).toNat = 15 := rfl
        simp only [BitVec.toNat_setWidth, BitVec.toNat_and, hmask, hlow]
        omega
      rw [← BitVec.toNat_inj, hmod]
      omega
  | syncEdge | integrationMode | intrStopSts | intrMode | intrRate | intrSource
  | gainMode | prescaler =>
      cases v <;> decide

/-- A value with a larger number than the bits can hold does not fit. -/
theorem code_lt_of_fits
    (X : Setting)
    {v : X.Value}
    (hfits : X.Fits v) :
    X.code v < 2 ^ X.width := by
  cases X with
  | integrationTime => exact hfits
  | syncEdge | integrationMode | intrStopSts | intrMode | intrRate | intrSource
  | gainMode | prescaler =>
      revert hfits
      cases v <;> decide

/-! ## What one call does -/

/-- The registers and the counts are the same. -/
structure SameStore (s s' : Sensor) : Prop where
  regs : s'.device.regs = s.device.regs
  counts : s'.counts = s.counts

theorem writeArray_failure
    (s : Sensor)
    {ret : RpcSrvResult}
    (hret : ret ≠ .success)
    (command : BitVec 8)
    (val : Option (BitVec 8)) :
    s.writeArray ret command val = (ret, s) := by
  rw [Sensor.writeArray, if_neg hret]

/-- A command byte alone changes no register. -/
theorem writeArray_command
    (s : Sensor)
    (ret : RpcSrvResult)
    (command : BitVec 8) :
    SameStore s (s.writeArray ret command none).2 := by
  unfold Sensor.writeArray
  split
  · exact ⟨rfl, rfl⟩
  · exact ⟨rfl, rfl⟩

theorem getReg_success
    (s : Sensor)
    (reg : Register)
    {t : Transfers}
    (hcommand : t.command = .success)
    (hread : t.read = .success) :
    ∃ s', s.getReg reg t = (.ok (s.device.regs reg.address), s') ∧ SameStore s s' := by
  refine ⟨_, ?_, writeArray_command s t.command reg.readCommand⟩
  simp [Sensor.getReg, Sensor.writeArray, Sensor.readByte, Taos3414.write, hcommand, hread,
    readCommand_address]

theorem getReg_failure
    (s : Sensor)
    (reg : Register)
    {t : Transfers}
    (hfail : ¬(t.command = .success ∧ t.read = .success)) :
    ∃ ret s', s.getReg reg t = (.error ret, s') ∧ ret ≠ .success ∧ SameStore s s' := by
  by_cases hcommand : t.command = .success
  · have hread : t.read ≠ .success := fun hread => hfail ⟨hcommand, hread⟩
    refine ⟨t.read, _, ?_, hread, writeArray_command s t.command reg.readCommand⟩
    simp [Sensor.getReg, Sensor.writeArray, hcommand, hread]
  · refine ⟨t.command, s, ?_, hcommand, rfl, rfl⟩
    simp [Sensor.getReg, writeArray_failure s hcommand, hcommand]

/-- What a change leaves: the register with its new value, and all else. -/
structure Stored (s : Sensor) (reg : Register) (val : BitVec 8) (s' : Sensor) : Prop where
  regs : s'.device.regs = Function.update s.device.regs reg.address val
  counts : s'.counts = s.counts

theorem setReg_success
    {s s' : Sensor}
    (hsame : SameStore s s')
    (reg : Register)
    (val : BitVec 8)
    {t : Transfers}
    (hwrite : t.write = .success) :
    (s'.setReg reg val t).1 = .success ∧ Stored s reg val (s'.setReg reg val t).2 := by
  have hregs :
      (s'.setReg reg val t).2.device.regs =
        Function.update s.device.regs reg.address val := by
    rw [← hsame.regs]
    simp only [Sensor.setReg, Sensor.writeArray, hwrite, if_true]
    rfl
  refine ⟨hwrite, hregs, ?_⟩
  rw [← hsame.counts]
  simp only [Sensor.setReg, Sensor.writeArray, hwrite, if_true]

theorem setReg_failure
    {s s' : Sensor}
    (hsame : SameStore s s')
    (reg : Register)
    (val : BitVec 8)
    {t : Transfers}
    (hwrite : t.write ≠ .success) :
    (s'.setReg reg val t).1 ≠ .success ∧ SameStore s (s'.setReg reg val t).2 := by
  rw [Sensor.setReg, writeArray_failure s' hwrite]
  exact ⟨hwrite, hsame⟩

/-- All transfers that the call makes succeed. -/
def Setting.Transferred (X : Setting) (t : Transfers) : Prop :=
  (X = .intrSource ∨ t.command = .success ∧ t.read = .success) ∧ t.write = .success

instance (X : Setting) (t : Transfers) : Decidable (X.Transferred t) :=
  inferInstanceAs
    (Decidable ((X = .intrSource ∨ t.command = .success ∧ t.read = .success) ∧
      t.write = .success))

/-- A setting is changed by putting its value into its field. -/
theorem set_eq_put
    (s : Sensor)
    (X : Setting)
    (v : X.Value)
    (t : Transfers) :
    s.set X v t =
      if X = .intrSource then
        s.setReg X.register (X.field.put v (s.device.regs X.address)) t
      else
        s.modifyReg X.register (X.field.put v) t := by
  cases X with
  | intrSource =>
      have hput :
          Setting.intrSource.field.put v (s.device.regs Setting.intrSource.address) =
            BitVec.ofNat 8 (IntrSource.code v) &&& 0x03 := by
        simp [Field.put, Setting.field, Setting.mask, Setting.place]
      rw [if_pos rfl, hput]
      rfl
  | integrationTime | syncEdge | integrationMode | intrStopSts | intrMode | intrRate
  | gainMode | prescaler =>
      rfl

theorem get_eq_take
    (s : Sensor)
    (X : Setting)
    (t : Transfers) :
    s.get X t = s.readReg X.register X.field.take t := by
  cases X <;> rfl

theorem set_success
    (s : Sensor)
    {X : Setting}
    (v : X.Value)
    {t : Transfers}
    (htransferred : X.Transferred t) :
    (s.set X v t).1 = .success ∧
      Stored s X.register (X.field.put v (s.device.regs X.address)) (s.set X v t).2 := by
  obtain ⟨hread, hwrite⟩ := htransferred
  rw [set_eq_put]
  by_cases hsource : X = .intrSource
  · rw [if_pos hsource]
    exact setReg_success ⟨rfl, rfl⟩ _ _ hwrite
  · obtain ⟨hcommand, hread⟩ := hread.resolve_left hsource
    obtain ⟨s', hget, hsame⟩ := getReg_success s X.register hcommand hread
    rw [if_neg hsource, Sensor.modifyReg, hget]
    exact setReg_success hsame _ _ hwrite

theorem set_failure
    (s : Sensor)
    {X : Setting}
    (v : X.Value)
    {t : Transfers}
    (htransferred : ¬X.Transferred t) :
    (s.set X v t).1 ≠ .success ∧ SameStore s (s.set X v t).2 := by
  rw [set_eq_put]
  by_cases hsource : X = .intrSource
  · have hwrite : t.write ≠ .success := fun hwrite => htransferred ⟨.inl hsource, hwrite⟩
    rw [if_pos hsource]
    exact setReg_failure ⟨rfl, rfl⟩ _ _ hwrite
  · rw [if_neg hsource, Sensor.modifyReg]
    by_cases hread : t.command = .success ∧ t.read = .success
    · have hwrite : t.write ≠ .success := fun hwrite => htransferred ⟨.inr hread, hwrite⟩
      obtain ⟨s', hget, hsame⟩ := getReg_success s X.register hread.1 hread.2
      rw [hget]
      exact setReg_failure hsame _ _ hwrite
    · obtain ⟨ret, s', hget, hret, hsame⟩ := getReg_failure s X.register hread
      rw [hget]
      exact ⟨hret, hsame⟩

theorem set_success_iff
    (s : Sensor)
    (X : Setting)
    (v : X.Value)
    (t : Transfers) :
    (s.set X v t).1 = .success ↔ X.Transferred t := by
  constructor
  · intro hret
    by_contra htransferred
    exact (set_failure s v htransferred).1 hret
  · intro htransferred
    exact (set_success s v htransferred).1

/-- Asking for a setting takes it from its register, and changes no register. -/
theorem get_ok
    (s : Sensor)
    (X : Setting) :
    (s.get X .ok).1 = .ok (X.field.take (s.device.regs X.address)) := by
  obtain ⟨s', hget, -⟩ := getReg_success s X.register (t := .ok) rfl rfl
  rw [get_eq_take, Sensor.readReg, hget]
  rfl

theorem get_same
    (s : Sensor)
    (X : Setting)
    (t : Transfers) :
    SameStore s (s.get X t).2 := by
  rw [get_eq_take, Sensor.readReg]
  by_cases hread : t.command = .success ∧ t.read = .success
  · obtain ⟨s', hget, hsame⟩ := getReg_success s X.register hread.1 hread.2
    rw [hget]
    exact hsame
  · obtain ⟨ret, s', hget, -, hsame⟩ := getReg_failure s X.register hread
    rw [hget]
    exact hsame

/-- A measurement changes no register. -/
theorem trigger_regs
    (s : Sensor)
    (t : Transfers) :
    (s.triggerMeasurement t).2.device.regs = s.device.regs := by
  have hregs := (writeArray_command s t.command regBlockRead).regs
  by_cases hcommand : t.command = .success
  · rw [← hregs]
    simp [Sensor.triggerMeasurement, Sensor.writeArray, hcommand]
  · rw [← hregs]
    simp [Sensor.triggerMeasurement, Sensor.writeArray, hcommand]

/-- A measurement with an error: the counts are those of the bytes read before. -/
theorem trigger_failure_counts
    (s : Sensor)
    {t : Transfers}
    (hret : (s.triggerMeasurement t).1 ≠ .success) :
    (s.triggerMeasurement t).2.counts =
      if t.command = .success then countsOf s.readingdata else s.counts := by
  by_cases hcommand : t.command = .success
  · have hread : t.read ≠ .success := by
      simpa [Sensor.triggerMeasurement, Sensor.writeArray, hcommand] using hret
    simp [Sensor.triggerMeasurement, Sensor.writeArray, hcommand, hread]
  · simp [Sensor.triggerMeasurement, Sensor.writeArray, hcommand]

theorem trigger_success_iff
    (s : Sensor)
    (t : Transfers) :
    (s.triggerMeasurement t).1 = .success ↔ t.command = .success ∧ t.read = .success := by
  by_cases hcommand : t.command = .success
  · simp [Sensor.triggerMeasurement, Sensor.writeArray, hcommand]
  · simp [Sensor.triggerMeasurement, Sensor.writeArray, hcommand]

/-! ## Sequences of calls -/

/-- A call with the outcome of its transfers, or the converters of the sensor. -/
inductive Label where
  | set (X : Setting) (v : X.Value) (t : Transfers)
  | get (X : Setting) (t : Transfers)
  | triggerMeasurement (t : Transfers)
  /-- The registers `REG_GREEN_LOW` to `REG_CLEAR_HIGH` get new values. -/
  | convert (data : BitVec 5 → BitVec 8)

def Sensor.convert (s : Sensor) (data : BitVec 5 → BitVec 8) : Sensor :=
  { s with
    device :=
      { s.device with
        regs := fun a =>
          if 0x10 ≤ a.toNat ∧ a.toNat < 0x18 then data a else s.device.regs a } }

/-- The result that is returned beside a value. -/
def resultOf {α : Type} : Except RpcSrvResult α → RpcSrvResult
  | .ok _ => .success
  | .error ret => ret

/-- The result of a call, and the state after it. -/
def call (s : Sensor) : Label → RpcSrvResult × Sensor
  | .set X v t => s.set X v t
  | .get X t => (resultOf (s.get X t).1, (s.get X t).2)
  | .triggerMeasurement t => s.triggerMeasurement t
  | .convert data => (.success, s.convert data)

def step (s : Sensor) (l : Label) : Option Sensor :=
  some (call s l).2

/-- The call is a successful set of `X`. -/
def Sets (X : Setting) (s : Sensor) (l : Label) : Prop :=
  ∃ v t, l = .set X v t ∧ (call s l).1 = .success

/-- What is promised of a sequence of calls. -/
structure SettingsKept (s₀ : Sensor) (ls : List Label) : Prop where
  /-- A setting reads back until it is set again. -/
  readBack :
    ∀ pre X v t mid s u, pre ++ [Label.set X v t] ++ mid <+: ls →
      run step s₀ pre = some s → (s.set X v t).1 = .success →
      Meets step (fun s l => ¬Sets X s l) (s.set X v t).2 mid →
      run step (s.set X v t).2 mid = some u →
      (u.get X .ok).1 = .ok v
  errorKeeps :
    ∀ pre l s, pre ++ [l] <+: ls → run step s₀ pre = some s →
      (call s l).1 ≠ .success → SameStore s (call s l).2
  /-- A number with more bits than there are for it is rejected. -/
  rejected :
    ∀ pre X v t s, pre ++ [Label.set X v t] <+: ls → run step s₀ pre = some s →
      2 ^ X.width ≤ X.code v → (s.set X v t).1 ≠ .success

/--
A setting is set to a value that it can hold, or a transfer fails; a measurement
whose bytes cannot be read finds the counts of the bytes that it has.
-/
def CallOk (s : Sensor) : Label → Prop
  | .set X v t => X.Fits v ∨ ¬X.Transferred t
  | .triggerMeasurement t =>
      t.command = .success → t.read ≠ .success → s.counts = countsOf s.readingdata
  | .get _ _ => True
  | .convert _ => True

/-- A call that does not set `X` leaves what is read of it. -/
theorem call_take
    {X : Setting}
    {s : Sensor}
    {l : Label}
    (hsets : ¬Sets X s l) :
    X.field.take ((call s l).2.device.regs X.address) =
      X.field.take (s.device.regs X.address) := by
  cases l with
  | set Y v t =>
      by_cases htransferred : Y.Transferred t
      · obtain ⟨hret, hstored⟩ := set_success s v htransferred
        have hne : Y ≠ X := by
          rintro rfl
          exact hsets ⟨v, t, rfl, hret⟩
        change X.field.take ((s.set Y v t).2.device.regs X.address) = _
        rw [hstored.regs]
        by_cases hregister : Y.register = X.register
        · -- the register of both, in which their masks are apart
          have haddress : X.address = Y.register.address := by
            rw [hregister]
            rfl
          rw [haddress, Function.update_self]
          exact Field.take_put_of_disjoint Y.field X.field (masks_disjoint hne hregister) v _
        · have haddress : X.address ≠ Y.register.address :=
            fun heq => hregister (address_injective heq).symm
          rw [Function.update_of_ne haddress]
      · change X.field.take ((s.set Y v t).2.device.regs X.address) = _
        rw [(set_failure s v htransferred).2.regs]
  | get Y t =>
      change X.field.take ((s.get Y t).2.device.regs X.address) = _
      rw [(get_same s Y t).regs]
  | triggerMeasurement t =>
      change X.field.take ((s.triggerMeasurement t).2.device.regs X.address) = _
      rw [trigger_regs]
  | convert data =>
      have haddress : ¬(0x10 ≤ X.address.toNat ∧ X.address.toNat < 0x18) := by
        cases X <;> decide
      change X.field.take ((s.convert data).device.regs X.address) = _
      simp only [Sensor.convert, if_neg haddress]

/-- A call with an error changes nothing if the condition is met. -/
theorem call_error_same
    {s : Sensor}
    {l : Label}
    (hok : CallOk s l)
    (hret : (call s l).1 ≠ .success) :
    SameStore s (call s l).2 := by
  cases l with
  | set X v t =>
      have htransferred : ¬X.Transferred t :=
        fun htransferred => hret (set_success s v htransferred).1
      exact (set_failure s v htransferred).2
  | get X t => exact get_same s X t
  | triggerMeasurement t =>
      refine ⟨trigger_regs s t, ?_⟩
      change (s.triggerMeasurement t).2.counts = s.counts
      rw [trigger_failure_counts s hret]
      split
      · next hcommand =>
          have hread : t.read ≠ .success := by
            intro hread
            exact hret ((trigger_success_iff s t).mpr ⟨hcommand, hread⟩)
          exact (hok hcommand hread).symm
      · rfl
  | convert data => exact absurd rfl hret

/-- A call that does not meet the condition breaks what is promised of it. -/
theorem callOk_of_kept
    {s₀ s : Sensor}
    {ls pre : List Label}
    {l : Label}
    (hkept : SettingsKept s₀ ls)
    (hpre : pre ++ [l] <+: ls)
    (hrun : run step s₀ pre = some s) :
    CallOk s l := by
  cases l with
  | set X v t =>
      by_cases htransferred : X.Transferred t
      · refine .inl ((holds_iff X v).mp ?_)
        obtain ⟨hret, hstored⟩ := set_success s v htransferred
        have hget := hkept.readBack pre X v t [] s (s.set X v t).2
          (by simpa using hpre) hrun hret trivial rfl
        rw [get_ok, hstored.regs] at hget
        have htake := Except.ok.inj hget
        rw [Setting.address, Function.update_self, Field.take_put] at htake
        exact htake
      · exact .inr htransferred
  | get X t => trivial
  | triggerMeasurement t =>
      intro hcommand hread
      have hret : (s.triggerMeasurement t).1 ≠ .success :=
        fun hret => hread ((trigger_success_iff s t).mp hret).2
      have hcounts := (hkept.errorKeeps pre _ s hpre hrun hret).counts
      change (s.triggerMeasurement t).2.counts = s.counts at hcounts
      rw [trigger_failure_counts s hret, if_pos hcommand] at hcounts
      exact hcounts.symm
  | convert data => trivial

/--
In a sequence of calls, the settings are independent, errors change nothing and
values that are too large are rejected, if and only if every call meets the condition.
-/
theorem settingsKept_iff
    (s₀ : Sensor)
    (ls : List Label) :
    SettingsKept s₀ ls ↔ Meets step CallOk s₀ ls := by
  constructor
  · intro hkept
    exact meets_of_forall_prefix fun pre l s hpre hrun => callOk_of_kept hkept hpre hrun
  · intro hmeets
    have hcall :
        ∀ pre l s, pre ++ [l] <+: ls → run step s₀ pre = some s → CallOk s l := by
      rintro pre l s ⟨post, rfl⟩ hrun
      exact meets_last (meets_append hmeets) hrun
    refine ⟨?_, ?_, ?_⟩
    · intro pre X v t mid s u hpre hrun hret hmid hlast
      have htransferred := (set_success_iff s X v t).mp hret
      have hfits : X.Fits v :=
        (hcall pre _ s ((List.prefix_append _ mid).trans hpre) hrun).resolve_right
          (not_not.mpr htransferred)
      have hstart :
          X.field.take ((s.set X v t).2.device.regs X.address) = v := by
        rw [(set_success s v htransferred).2.regs, Setting.address, Function.update_self]
        exact Field.take_put_of_holds X.field ((holds_iff X v).mpr hfits) _
      have hend : X.field.take (u.device.regs X.address) = v := by
        refine run_invariant_of_meets
          (I := fun s => X.field.take (s.device.regs X.address) = v)
          ?_ hstart hmid hlast
        intro s l t hs hsets hstep
        obtain rfl := Option.some.inj hstep
        exact (call_take hsets).trans hs
      rw [get_ok, hend]
    · intro pre l s hpre hrun hret
      exact call_error_same (hcall pre l s hpre hrun) hret
    · intro pre X v t s hpre hrun hlarge hret
      have hfits : X.Fits v :=
        (hcall pre _ s hpre hrun).resolve_right
          (not_not.mpr ((set_success_iff s X v t).mp hret))
      exact absurd (code_lt_of_fits X hfits) (Nat.not_lt.mpr hlarge)

/-- A sensor with all registers cleared. -/
def clearedSensor : Sensor where
  device := { regs := fun _ => 0, address := 0 }
  readingdata := fun _ => 0
  counts := { green := 0, red := 0, blue := 0, clear := 0 }

/-- An integration time of 16 is stored as 0. -/
theorem not_settingsKept_time :
    ¬SettingsKept clearedSensor [.set .integrationTime (16 : BitVec 32) .ok] := by
  intro hkept
  have hret := hkept.rejected [] .integrationTime (16 : BitVec 32) .ok clearedSensor
    (List.prefix_refl _) rfl (by decide)
  exact hret (by decide)

end ColourSensor
end Adav
end BrBox
