import Mathlib.Data.BitVec
import Mathlib.Logic.Function.Basic
import BrBox.Adav.TaskWorker

/-!
# The colour sensor TAOS3414

The sensor is a file of registers behind a bus.  A transfer writes a command byte
with an address, and perhaps a value for the register there, or reads from the
address of the last command; each transfer may fail, and then it has no effect.
Nine settings are packed into four of the registers, and each is changed by
reading its register, changing its bits and writing the register back; only the
interrupt source has a register of its own, which is written without being read.
-/

namespace BrBox
namespace Adav
namespace ColourSensor

/-! ## The registers -/

/-- The registers, and the address of the last command. -/
structure Taos3414 where
  regs : BitVec 5 → BitVec 8
  address : BitVec 5

/-- A command byte, and perhaps a value for the register that it names. -/
def Taos3414.write
    (device : Taos3414)
    (command : BitVec 8)
    (val : Option (BitVec 8)) :
    Taos3414 where
  regs := match val with
    | none => device.regs
    | some val => Function.update device.regs (command.setWidth 5) val
  address := command.setWidth 5

/-- The registers with settings. -/
inductive Register where
  | timing
  | intrCtrl
  | intrSource
  | gain
deriving DecidableEq, Repr

/-- `REG_TIMING`, `REG_INT`, `REG_INT_SOURCE`, `REG_GAIN`. -/
def Register.writeCommand : Register → BitVec 8
  | timing => 0x81
  | intrCtrl => 0x82
  | intrSource => 0x83
  | gain => 0x87

/-- `REG_TIMING_READ`, `REG_INTRCTRL_READ`, `REG_INTRSRC_READ`, `REG_GAIN_READ`. -/
def Register.readCommand : Register → BitVec 8
  | timing => 0xC1
  | intrCtrl => 0xC2
  | intrSource => 0xC3
  | gain => 0xC7

/-- `REG_BLOCK_READ`. -/
def regBlockRead : BitVec 8 := 0xD0

def Register.address (reg : Register) : BitVec 5 :=
  reg.writeCommand.setWidth 5

/-- Both commands of a register have the same address, and no two registers share one. -/
theorem readCommand_address
    (reg : Register) :
    reg.readCommand.setWidth 5 = reg.address := by
  cases reg <;> rfl

theorem address_injective :
    Function.Injective Register.address := by
  intro reg reg' heq
  cases reg <;> cases reg' <;> first | rfl | exact absurd heq (by decide)

/-! ## The object -/

/-- `red_`, `green_`, `blue_` and `clear_`. -/
structure Counts where
  green : Int
  red : Int
  blue : Int
  clear : Int
deriving DecidableEq, Repr

structure Sensor where
  device : Taos3414
  readingdata : Fin 8 → BitVec 8
  counts : Counts

/-- How the transfers of a call end, each with `RPC_SRV_RESULT_SUCCESS` or an error. -/
structure Transfers where
  /-- `write_array` of the command byte before a read -/
  command : RpcSrvResult
  /-- `read_array` -/
  read : RpcSrvResult
  /-- `write_array` with a value -/
  write : RpcSrvResult
deriving DecidableEq, Repr

/-- All transfers succeed. -/
def Transfers.ok : Transfers where
  command := .success
  read := .success
  write := .success

/-- `write_array`. -/
def Sensor.writeArray
    (s : Sensor)
    (ret : RpcSrvResult)
    (command : BitVec 8)
    (val : Option (BitVec 8)) :
    RpcSrvResult × Sensor :=
  (ret, if ret = .success then { s with device := s.device.write command val } else s)

/-- `read_array` of one byte. -/
def Sensor.readByte (s : Sensor) : BitVec 8 :=
  s.device.regs s.device.address

/-- `getTimingReg` and the others; with an error there is no value. -/
def Sensor.getReg
    (s : Sensor)
    (reg : Register)
    (t : Transfers) :
    Except RpcSrvResult (BitVec 8) × Sensor :=
  let (ret, s) := s.writeArray t.command reg.readCommand none
  if ret ≠ .success then
    (.error ret, s)
  else if t.read ≠ .success then
    (.error t.read, s)
  else
    (.ok s.readByte, s)

/-- `setTimingReg` and the others. -/
def Sensor.setReg
    (s : Sensor)
    (reg : Register)
    (val : BitVec 8)
    (t : Transfers) :
    RpcSrvResult × Sensor :=
  s.writeArray t.write reg.writeCommand (some val)

/-- Read a register, change its bits and write it back. -/
def Sensor.modifyReg
    (s : Sensor)
    (reg : Register)
    (change : BitVec 8 → BitVec 8)
    (t : Transfers) :
    RpcSrvResult × Sensor :=
  match s.getReg reg t with
  | (.error ret, s) => (ret, s)
  | (.ok val, s) => s.setReg reg (change val) t

/-- Read a register and take a value from its bits. -/
def Sensor.readReg
    {α : Type}
    (s : Sensor)
    (reg : Register)
    (take : BitVec 8 → α)
    (t : Transfers) :
    Except RpcSrvResult α × Sensor :=
  let (val, s) := s.getReg reg t
  (val.map take, s)

/-- The eight bytes of `read_array` from the address of the last command on. -/
def Sensor.readBlock (s : Sensor) : Fin 8 → BitVec 8 :=
  fun k => s.device.regs (s.device.address + BitVec.ofNat 5 k.val)

/-- The counts in the bytes that have been read. -/
def countsOf (readingdata : Fin 8 → BitVec 8) : Counts where
  green := (readingdata 1).toNat * 256 + (readingdata 0).toNat
  red := (readingdata 3).toNat * 256 + (readingdata 2).toNat
  blue := (readingdata 5).toNat * 256 + (readingdata 4).toNat
  clear := (readingdata 7).toNat * 256 + (readingdata 6).toNat

/-- `trigger_measurement`: the counts are computed also if the read has failed. -/
def Sensor.triggerMeasurement
    (s : Sensor)
    (t : Transfers) :
    RpcSrvResult × Sensor :=
  let (ret, s) := s.writeArray t.command regBlockRead none
  if ret ≠ .success then
    (ret, s)
  else
    let readingdata := if t.read = .success then s.readBlock else s.readingdata
    (t.read, { s with readingdata := readingdata, counts := countsOf readingdata })

/-! ## The settings -/

/-- `ADLIB_STATUS_FLAG_TYPE`. -/
inductive StatusFlag where
  | lo
  | hi
  | unknown
  | none
deriving DecidableEq, Repr

/-- `LS_INTEG_MODE`. -/
inductive IntegMode where
  | free
  | manual
  | syncSingle
  | syncMulti
  | unknown
  | none
deriving DecidableEq, Repr

/-- `LS_INTR_MODE`. -/
inductive IntrMode where
  | disable
  | level
  | smbAlert
  | smbAlertSimulate
  | unknown
  | none
deriving DecidableEq, Repr

/-- `LS_INTR_RATE`. -/
inductive IntrRate where
  | every
  | single
  | ms100
  | second
  | unknown
  | none
deriving DecidableEq, Repr

/-- `LS_INTR_SOURCE`. -/
inductive IntrSource where
  | green
  | red
  | blue
  | white
  | unknown
  | none
deriving DecidableEq, Repr

/-- `LS_GAIN_MODE`. -/
inductive GainMode where
  | gain1
  | gain4
  | gain16
  | gain64
  | unknown
  | none
deriving DecidableEq, Repr

/-- `LS_PRESCALER`. -/
inductive Prescaler where
  | div1
  | div2
  | div4
  | div8
  | div16
  | div32
  | div64
  | unknown
  | none
deriving DecidableEq, Repr

/-- The numbers of the enumerations. -/
def StatusFlag.code : StatusFlag → Nat
  | lo => 0
  | hi => 1
  | unknown => 2
  | none => 3

def IntegMode.code : IntegMode → Nat
  | free => 0
  | manual => 1
  | syncSingle => 2
  | syncMulti => 3
  | unknown => 4
  | none => 5

def IntrMode.code : IntrMode → Nat
  | disable => 0
  | level => 1
  | smbAlert => 2
  | smbAlertSimulate => 3
  | unknown => 4
  | none => 5

def IntrRate.code : IntrRate → Nat
  | every => 0
  | single => 1
  | ms100 => 2
  | second => 3
  | unknown => 4
  | none => 5

def IntrSource.code : IntrSource → Nat
  | green => 0
  | red => 1
  | blue => 2
  | white => 3
  | unknown => 4
  | none => 5

def GainMode.code : GainMode → Nat
  | gain1 => 0
  | gain4 => 1
  | gain16 => 2
  | gain64 => 3
  | unknown => 4
  | none => 5

def Prescaler.code : Prescaler → Nat
  | div1 => 0
  | div2 => 1
  | div4 => 2
  | div8 => 3
  | div16 => 4
  | div32 => 5
  | div64 => 6
  | unknown => 7
  | none => 8

/-- `get_integration_time`. -/
def Sensor.getIntegrationTime (s : Sensor) (t : Transfers) :=
  s.readReg .timing (fun val => (val &&& 0x0F).setWidth 32) t

/-- `set_integration_time`. -/
def Sensor.setIntegrationTime (s : Sensor) (time : BitVec 32) (t : Transfers) :=
  s.modifyReg .timing (fun val => val &&& 0xF0 ||| time.setWidth 8 &&& 0x0F) t

/-- A flag in bit 6. -/
def takeFlag (val : BitVec 8) : StatusFlag :=
  if val &&& 0x40 = 0x40 then .hi else .lo

def placeFlag (flag : StatusFlag) : BitVec 8 :=
  if flag = .hi then 0x40 else 0

/-- `get_sync_edge`. -/
def Sensor.getSyncEdge (s : Sensor) (t : Transfers) :=
  s.readReg .timing takeFlag t

/-- `set_sync_edge`. -/
def Sensor.setSyncEdge (s : Sensor) (edge : StatusFlag) (t : Transfers) :=
  s.modifyReg .timing (fun val => val &&& 0xBF ||| placeFlag edge) t

def takeIntegMode (val : BitVec 8) : IntegMode :=
  match (val &&& 0x30) >>> 4 with
  | 0x00 => .free
  | 0x01 => .manual
  | 0x02 => .syncSingle
  | 0x03 => .syncMulti
  | _ => .unknown

/-- `get_integration_mode`. -/
def Sensor.getIntegrationMode (s : Sensor) (t : Transfers) :=
  s.readReg .timing takeIntegMode t

/-- `set_integration_mode`. -/
def Sensor.setIntegrationMode (s : Sensor) (mode : IntegMode) (t : Transfers) :=
  s.modifyReg .timing
    (fun val => val &&& 0xCF ||| (BitVec.ofNat 8 mode.code &&& 0x03) <<< 4) t

/-- `get_intr_stop_sts`. -/
def Sensor.getIntrStopSts (s : Sensor) (t : Transfers) :=
  s.readReg .intrCtrl takeFlag t

/-- `set_intr_stop_sts`. -/
def Sensor.setIntrStopSts (s : Sensor) (sts : StatusFlag) (t : Transfers) :=
  s.modifyReg .intrCtrl (fun val => val &&& 0xBF ||| placeFlag sts) t

def takeIntrMode (val : BitVec 8) : IntrMode :=
  match (val &&& 0x30) >>> 4 with
  | 0x00 => .disable
  | 0x01 => .level
  | 0x02 => .smbAlert
  | 0x03 => .smbAlertSimulate
  | _ => .unknown

/-- `get_intr_mode`. -/
def Sensor.getIntrMode (s : Sensor) (t : Transfers) :=
  s.readReg .intrCtrl takeIntrMode t

/-- `set_intr_mode`. -/
def Sensor.setIntrMode (s : Sensor) (mode : IntrMode) (t : Transfers) :=
  s.modifyReg .intrCtrl
    (fun val => val &&& 0xCF ||| (BitVec.ofNat 8 mode.code &&& 0x03) <<< 4) t

def takeIntrRate (val : BitVec 8) : IntrRate :=
  match val &&& 0x07 with
  | 0x00 => .every
  | 0x01 => .single
  | 0x02 => .ms100
  | 0x03 => .second
  | _ => .unknown

/-- `get_intr_rate`. -/
def Sensor.getIntrRate (s : Sensor) (t : Transfers) :=
  s.readReg .intrCtrl takeIntrRate t

/-- `set_intr_rate`. -/
def Sensor.setIntrRate (s : Sensor) (rate : IntrRate) (t : Transfers) :=
  s.modifyReg .intrCtrl
    (fun val => val &&& 0xF8 ||| BitVec.ofNat 8 rate.code &&& 0x07) t

def takeIntrSource (val : BitVec 8) : IntrSource :=
  match val &&& 0x03 with
  | 0x00 => .green
  | 0x01 => .red
  | 0x02 => .blue
  | 0x03 => .white
  | _ => .unknown

/-- `get_intr_source`. -/
def Sensor.getIntrSource (s : Sensor) (t : Transfers) :=
  s.readReg .intrSource takeIntrSource t

/-- `set_intr_source`: the register is written without being read first. -/
def Sensor.setIntrSource (s : Sensor) (src : IntrSource) (t : Transfers) :=
  s.setReg .intrSource (BitVec.ofNat 8 src.code &&& 0x03) t

def takeGainMode (val : BitVec 8) : GainMode :=
  match (val &&& 0x30) >>> 4 with
  | 0x00 => .gain1
  | 0x01 => .gain4
  | 0x02 => .gain16
  | 0x03 => .gain64
  | _ => .unknown

/-- `get_gain_mode`. -/
def Sensor.getGainMode (s : Sensor) (t : Transfers) :=
  s.readReg .gain takeGainMode t

/-- `set_gain_mode`. -/
def Sensor.setGainMode (s : Sensor) (mode : GainMode) (t : Transfers) :=
  s.modifyReg .gain
    (fun val => val &&& 0xCF ||| (BitVec.ofNat 8 mode.code &&& 0x03) <<< 4) t

def takePrescaler (val : BitVec 8) : Prescaler :=
  match val &&& 0x07 with
  | 0x00 => .div1
  | 0x01 => .div2
  | 0x02 => .div4
  | 0x03 => .div8
  | 0x04 => .div16
  | 0x05 => .div32
  | 0x06 => .div64
  | _ => .unknown

/-- `get_prescaler`. -/
def Sensor.getPrescaler (s : Sensor) (t : Transfers) :=
  s.readReg .gain takePrescaler t

/-- `set_prescaler`. -/
def Sensor.setPrescaler (s : Sensor) (mode : Prescaler) (t : Transfers) :=
  s.modifyReg .gain
    (fun val => val &&& 0xF8 ||| BitVec.ofNat 8 mode.code &&& 0x07) t

end ColourSensor
end Adav
end BrBox
