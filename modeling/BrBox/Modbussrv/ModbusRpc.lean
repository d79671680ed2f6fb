import BrBox.Adav.TaskWorker
import BrBox.Lib.CxxText
import BrBox.Lib.LabelledRun

/-!
# The modbus service

`MODBusAccess` talks to an energy meter and to relay boards over one `libmodbus`
context, which remembers the slave that the next read or write goes to.
`ModbusRpc` serves the three requests of the service with it.

`modbus_set_slave` takes the slaves from 0 to 247 and refuses all others; its
result is not looked at.  What comes back from the bus is a parameter.

`served_ok_iff` says for which requests no request disturbs another.
-/

namespace BrBox
namespace Modbussrv

open CText
open CxxText
open LabelledRun
open Adav (RpcSrvResult)

/-- A `modbus_t` pointer. -/
inductive ModbusCtx where
  /-- `modbus_new_rtu` has failed. -/
  | null
  /-- `modbus_connect` has failed and the context was freed. -/
  | freed
  /-- Connected, with its current slave. -/
  | conn (slave : Nat)
deriving DecidableEq, Repr

/-- A read or write of `libmodbus`. -/
inductive BusOp where
  | readInputRegisters (address nb : Nat)
  | readRegisters (address nb : Nat)
  | writeRegister (address : Nat) (value : UInt16)
deriving DecidableEq, Repr

/-- The address that a read or write is about. -/
def BusOp.address : BusOp → Nat
  | .readInputRegisters address _ => address
  | .readRegisters address _ => address
  | .writeRegister address _ => address

/-- A read or write, with the context it is made on. -/
structure BusCall where
  ctx : ModbusCtx
  op : BusOp
deriving DecidableEq, Repr

/-- `EJSON_ENRGYPARM`. -/
inductive EnrgyParm where
  | voltage
  | current
  | power
  | powerAct
  | powerReact
  | pfactor
  | phaseAngle
  | freq
  | importAct
  | exportAct
  | importReact
  | exportReact
  | totalAct
  | totalReact
  | unknown
  | none
deriving DecidableEq, Repr

/-- `EJSON_IOSTATE`. -/
inductive IoState where
  | off
  | on
  | unknown
  | none
deriving DecidableEq, Repr

/-- `MODBUSSRV_ENRGYPARM_ACCESS_PACKET`. -/
structure EnrgyparmPacket where
  paramType : EnrgyParm
  parameter : Bytes
deriving DecidableEq, Repr

/-- `MODBUSSRV_IO_ACCESS_PACKET`. -/
structure IoPacket where
  slaveaddr : Int
  ioaddr : Int
  state : IoState
deriving DecidableEq, Repr

/-- `MODBusAccess`, with the reads and writes made so far. -/
structure ModbusAccess where
  ctx : ModbusCtx
  devOpened : RpcSrvResult
  calls : List BusCall
deriving DecidableEq, Repr

/-- The register of the meter for a parameter. -/
def energyAddr : EnrgyParm → Option UInt16
  | .voltage => some 0x0000
  | .current => some 0x0006
  | .power => some 0x000C
  | .powerAct => some 0x0012
  | .powerReact => some 0x0018
  | .pfactor => some 0x001E
  | .phaseAngle => some 0x0024
  | .freq => some 0x0046
  | .importAct => some 0x0048
  | .exportAct => some 0x004A
  | .importReact => some 0x004C
  | .exportReact => some 0x004E
  | .totalAct => some 0x0156
  | .totalReact => some 0x0158
  | .unknown => none
  | .none => none

/-- `modbus_set_slave`. -/
def modbusSetSlave (ctx : ModbusCtx) (slave : Nat) : ModbusCtx :=
  match ctx with
  | .conn old => .conn (if slave ≤ 247 then slave else old)
  | ctx => ctx

namespace ModbusAccess

/-- `InitModbus`: whether there is a context, and whether it connects. -/
def initModbus (newRtu connects : Bool) : ModbusCtx × RpcSrvResult :=
  if newRtu then
    -- `modbus_set_slave(ctx, 1)`
    if connects then (.conn 1, .success) else (.freed, .fail)
  else
    (.null, .devNotAccessible)

/-- The constructor. -/
def new (newRtu connects : Bool) : ModbusAccess :=
  { ctx := (initModbus newRtu connects).1
    devOpened := (initModbus newRtu connects).2
    calls := [] }

section Bus

-- What comes back for the last of the calls made so far; none is -1.
variable (bus : List BusCall → Option (UInt16 × UInt16))
-- `modbus_get_float` and `sprintf` of two registers.
variable (floatText : UInt16 → UInt16 → Bytes)

/-- A read or write; without a context it fails at once. -/
def call (d : ModbusAccess) (op : BusOp) : Option (UInt16 × UInt16) × ModbusAccess :=
  let calls := d.calls ++ [{ ctx := d.ctx, op := op }]
  (if d.ctx = .null then none else bus calls, { d with calls := calls })

/-- The loop of `getMeasureFloat`; every turn reads again. -/
def readLoop (address nb : Nat) :
    Nat → Option (UInt16 × UInt16) → ModbusAccess →
      Option (UInt16 × UInt16) × ModbusAccess
  | 0, rc, d => (rc, d)
  | retries + 1, _, d =>
      let (rc, d) := d.call bus (.readInputRegisters address nb)
      readLoop address nb retries rc d

/-- `getMeasureFloat`; the value as the text `%f` makes of it. -/
def getMeasureFloat (d : ModbusAccess) (address retries nb : Nat) :
    RpcSrvResult × Bytes × ModbusAccess :=
  if d.devOpened ≠ .success then
    (.devNotAccessible, [], d)
  else
    match readLoop bus address nb retries none d with
    | (none, d) => (.fail, [], d)
    -- The two registers are swapped.
    | (some (r0, r1), d) => (.success, floatText r1 r0, d)

/-- `getEnergyParam`. -/
def getEnergyParam (d : ModbusAccess) (type : EnrgyParm) :
    RpcSrvResult × Bytes × ModbusAccess :=
  match energyAddr type with
  | none => (.argError, [], d)
  | some addr =>
      let (res, value, d) := d.getMeasureFloat bus floatText addr.toNat 1 2
      (res, if res = .success then value else text "read-error", d)

/-- `write_register`. -/
def writeRegister (d : ModbusAccess) (slave address value : UInt16) :
    RpcSrvResult × ModbusAccess :=
  let d := { d with ctx := modbusSetSlave d.ctx slave.toNat }
  match d.call bus (.writeRegister address.toNat value) with
  | (some _, d) => (.success, d)
  | (none, d) => (.fail, d)

/-- `read_register`. -/
def readRegister (d : ModbusAccess) (slave address : UInt16) :
    RpcSrvResult × Option UInt16 × ModbusAccess :=
  let d := { d with ctx := modbusSetSlave d.ctx slave.toNat }
  match d.call bus (.readRegisters address.toNat 1) with
  | (none, d) => (.fail, none, d)
  | (some (value, _), d) => (.success, some value, d)

end Bus

end ModbusAccess

/-- A request with its packet. -/
inductive Request where
  | energyparmGet (packet : EnrgyparmPacket)
  | iostateGet (packet : IoPacket)
  | iostateSet (packet : IoPacket)
deriving DecidableEq, Repr

/-- A request that was served: its result, its packet afterwards, and the reads
    and writes it made. -/
structure Exchange where
  request : Request
  result : RpcSrvResult
  answer : Request
  calls : List BusCall
deriving DecidableEq, Repr

/-- The service with its history. -/
structure Server where
  emulation : Bool
  pDevAccess : Option ModbusAccess
  history : List Exchange
deriving DecidableEq, Repr

section Requests

variable (bus : List BusCall → Option (UInt16 × UInt16))
variable (floatText : UInt16 → UInt16 → Bytes)

/-- `process_energyparm_get`. -/
def processEnergyparmGet
    (emulation : Bool) (pDevAccess : Option ModbusAccess) (packet : EnrgyparmPacket) :
    RpcSrvResult × EnrgyparmPacket × Option ModbusAccess :=
  let packet := { packet with parameter := text "uninitialized" }
  if emulation then
    (.success, packet, pDevAccess)
  else
    match pDevAccess with
    | none => (.success, packet, none)
    | some d =>
        let (res, value, d) := d.getEnergyParam bus floatText packet.paramType
        (res, if res = .success then { packet with parameter := value } else packet, some d)

/-- `process_iostate_get`. -/
def processIostateGet
    (emulation : Bool) (pDevAccess : Option ModbusAccess) (packet : IoPacket) :
    RpcSrvResult × IoPacket × Option ModbusAccess :=
  -- The emulation does not return: its result is overwritten below.
  let packet := if emulation then { packet with state := .off } else packet
  match pDevAccess with
  | none => (.fail, packet, none)
  | some d =>
      match
        d.readRegister bus (UInt16.ofInt packet.slaveaddr) (UInt16.ofInt packet.ioaddr)
      with
      | (res, none, d) => (res, packet, some d)
      | (res, some value, d) =>
          let state :=
            if value = 0 then IoState.off else if value = 1 then .on else .unknown
          (res, { packet with state := state }, some d)

/-- The register value for a state. -/
def ioValue : IoState → Option UInt16
  | .off => some ((2 : UInt16) <<< 8)
  | .on => some ((1 : UInt16) <<< 8)
  | .unknown => none
  | .none => none

/-- `process_iostate_set`; here too the emulation does not return. -/
def processIostateSet
    (pDevAccess : Option ModbusAccess) (packet : IoPacket) :
    RpcSrvResult × IoPacket × Option ModbusAccess :=
  match pDevAccess with
  | none => (.fail, packet, none)
  | some d =>
      match ioValue packet.state with
      | none => (.argError, packet, some d)
      | some value =>
          let (res, d) :=
            d.writeRegister bus (UInt16.ofInt packet.slaveaddr) (UInt16.ofInt packet.ioaddr)
              value
          (res, packet, some d)

/-- `ProcessWork`. -/
def processWork
    (emulation : Bool) (pDevAccess : Option ModbusAccess) :
    Request → RpcSrvResult × Request × Option ModbusAccess
  | .energyparmGet packet =>
      let (res, packet, d) := processEnergyparmGet bus floatText emulation pDevAccess packet
      (res, .energyparmGet packet, d)
  | .iostateGet packet =>
      let (res, packet, d) := processIostateGet bus emulation pDevAccess packet
      (res, .iostateGet packet, d)
  | .iostateSet packet =>
      let (res, packet, d) := processIostateSet bus pDevAccess packet
      (res, .iostateSet packet, d)

/-- The reads and writes made on a device so far. -/
def callsOf (pDevAccess : Option ModbusAccess) : List BusCall :=
  (pDevAccess.map ModbusAccess.calls).getD []

/-- The service serves a request. -/
def serve (s : Server) (request : Request) : Option Server :=
  let (res, answer, pDevAccess) := processWork bus floatText s.emulation s.pDevAccess request
  some
    { s with
      pDevAccess := pDevAccess
      history :=
        s.history ++
          [{ request := request
             result := res
             answer := answer
             calls := (callsOf pDevAccess).drop (callsOf s.pDevAccess).length }] }

end Requests

/-- The service after its start. -/
def Server.start (emulation newRtu connects : Bool) : Server :=
  { emulation := emulation
    pDevAccess := some (ModbusAccess.new newRtu connects)
    history := [] }

/-- The device could be opened. -/
def Server.Opened (s : Server) : Prop :=
  ∃ d, s.pDevAccess = some d ∧ d.devOpened = .success

/-- A slave and a register that there can be. -/
def IoPacket.InRange (packet : IoPacket) : Prop :=
  (0 ≤ packet.slaveaddr ∧ packet.slaveaddr ≤ 247) ∧
    0 ≤ packet.ioaddr ∧ packet.ioaddr ≤ 65535

/-- The calls of an io request. -/
structure IoPacket.CallsOk
    (packet : IoPacket) (result : RpcSrvResult) (calls : List BusCall) : Prop where
  addressed :
    ∀ call ∈ calls, ∃ slave : Nat, call.ctx = .conn slave ∧
      (slave : Int) = packet.slaveaddr ∧ (call.op.address : Int) = packet.ioaddr
  refused : ¬ packet.InRange → calls = [] ∧ result ≠ .success

/-- The reads and writes of a request go where they should. -/
def Exchange.Addressed (e : Exchange) : Prop :=
  match e.request with
  | .energyparmGet _ => ∀ call ∈ e.calls, call.ctx = .conn 1
  | .iostateGet packet => packet.CallsOk e.result e.calls
  | .iostateSet packet => packet.CallsOk e.result e.calls

/-- An exchange went where it should, and left a closed or simulated device alone. -/
def Exchange.Ok (s : Server) (e : Exchange) : Prop :=
  e.Addressed ∧ (¬ s.Opened ∨ s.emulation = true → e.calls = [])

/-- No request has disturbed another. -/
def Server.Ok (s : Server) : Prop :=
  ∀ e ∈ s.history, e.Ok s

/-- What a request needs: an energy request that reaches the meter finds slave 1
    as the current one; an io request that reaches the bus asks for an address
    there can be, of an open device, and not in emulation. -/
def Server.Undisturbed (s : Server) : Request → Prop
  | .energyparmGet packet =>
      ∀ d, s.pDevAccess = some d → s.emulation = false → d.devOpened = .success →
        energyAddr packet.paramType ≠ none → d.ctx = .conn 1
  | .iostateGet packet =>
      s.pDevAccess ≠ none → s.Opened ∧ s.emulation = false ∧ packet.InRange
  | .iostateSet packet =>
      s.pDevAccess ≠ none → ioValue packet.state ≠ none →
        s.Opened ∧ s.emulation = false ∧ packet.InRange

/-- A 16-bit cut keeps a number that fits. -/
theorem toNat_ofInt
    {x : Int} (hlow : 0 ≤ x) (hhigh : x ≤ 65535) :
    ((UInt16.ofInt x).toNat : Int) = x := by
  simp [UInt16.ofInt]
  omega

namespace ModbusAccess

variable {bus : List BusCall → Option (UInt16 × UInt16)}
variable {floatText : UInt16 → UInt16 → Bytes}
variable {d : ModbusAccess}

/-- Only an opened device has a connected context. -/
def Sound (d : ModbusAccess) : Prop :=
  d.devOpened = .success ↔ ∃ slave, d.ctx = .conn slave

theorem sound_new
    (newRtu connects : Bool) :
    (new newRtu connects).Sound := by
  cases newRtu <;> cases connects <;> simp [new, initModbus, Sound]

theorem setSlave_conn
    (ctx : ModbusCtx) (slave : Nat) :
    (∃ a, modbusSetSlave ctx slave = .conn a) ↔ ∃ a, ctx = .conn a := by
  cases ctx <;> simp [modbusSetSlave]

/-- What a register access does to the device. -/
def touch (d : ModbusAccess) (slave : UInt16) (op : BusOp) : ModbusAccess :=
  { ctx := modbusSetSlave d.ctx slave.toNat
    devOpened := d.devOpened
    calls := d.calls ++ [{ ctx := modbusSetSlave d.ctx slave.toNat, op := op }] }

theorem sound_touch
    (hsound : d.Sound) (slave : UInt16) (op : BusOp) :
    (d.touch slave op).Sound := by
  unfold Sound at hsound ⊢
  rw [touch, setSlave_conn]
  exact hsound

theorem writeRegister_device
    (slave address value : UInt16) :
    (d.writeRegister bus slave address value).2 =
      d.touch slave (.writeRegister address.toNat value) := by
  unfold writeRegister
  dsimp only
  generalize hcall : call bus _ _ = reply
  obtain ⟨answer, d'⟩ := reply
  have hdevice := congrArg Prod.snd hcall
  cases answer <;> exact hdevice.symm

theorem readRegister_device
    (slave address : UInt16) :
    (d.readRegister bus slave address).2.2 =
      d.touch slave (.readRegisters address.toNat 1) := by
  unfold readRegister
  dsimp only
  generalize hcall : call bus _ _ = reply
  obtain ⟨answer, d'⟩ := reply
  have hdevice := congrArg Prod.snd hcall
  cases answer <;> exact hdevice.symm

/-- A value is read with one call to the current slave. -/
theorem getMeasureFloat_device
    (hopened : d.devOpened = .success) (address nb : Nat) :
    (d.getMeasureFloat bus floatText address 1 nb).2.2 =
      { d with calls := d.calls ++ [{ ctx := d.ctx, op := .readInputRegisters address nb }] } := by
  unfold getMeasureFloat
  rw [if_neg (not_not.mpr hopened)]
  simp only [readLoop]
  generalize hcall : call bus d _ = reply
  obtain ⟨answer, d'⟩ := reply
  have hdevice := congrArg Prod.snd hcall
  cases answer <;> exact hdevice.symm

/-- A parameter that is read is read from an opened device. -/
theorem getEnergyParam_device
    (type : EnrgyParm) :
    (d.getEnergyParam bus floatText type).2.2 =
      { d with
        calls :=
          d.calls ++
            if d.devOpened = .success then
              (energyAddr type).toList.map fun addr =>
                { ctx := d.ctx, op := .readInputRegisters addr.toNat 2 }
            else
              [] } := by
  unfold getEnergyParam
  cases energyAddr type with
  | none => simp
  | some addr =>
      by_cases hopened : d.devOpened = .success
      · rw [if_pos hopened]
        exact getMeasureFloat_device hopened addr.toNat 2
      · simp [getMeasureFloat, hopened]

end ModbusAccess

section Exchanges

variable {bus : List BusCall → Option (UInt16 × UInt16)}
variable {floatText : UInt16 → UInt16 → Bytes}
variable {s t : Server} {r : Request}

/-- Only an opened device has a connected context. -/
def Server.Sound (s : Server) : Prop :=
  ∀ d, s.pDevAccess = some d → d.Sound

/-- A request has made some reads and writes on the device, or has not used it. -/
inductive Worked : Option ModbusAccess → Option ModbusAccess → List BusCall → Prop
  | idle (p : Option ModbusAccess) :
      Worked p p []
  | used
      {d d' : ModbusAccess} {calls : List BusCall}
      (hopened : d'.devOpened = d.devOpened)
      (hcalls : d'.calls = d.calls ++ calls)
      (hsound : d.Sound → d'.Sound) :
      Worked (some d) (some d') calls

/-- The register access of an io request. -/
def ioCalls (pDevAccess : Option ModbusAccess) (packet : IoPacket) (op : BusOp) :
    List BusCall :=
  pDevAccess.toList.map fun d =>
    { ctx := modbusSetSlave d.ctx (UInt16.ofInt packet.slaveaddr).toNat, op := op }

/-- The reads and writes that a request makes. -/
def callsFor (emulation : Bool) (pDevAccess : Option ModbusAccess) : Request → List BusCall
  | .energyparmGet packet =>
      (pDevAccess.toList.filter fun d => !emulation && d.devOpened = .success).flatMap
        fun d =>
          (energyAddr packet.paramType).toList.map fun addr =>
            { ctx := d.ctx, op := .readInputRegisters addr.toNat 2 }
  | .iostateGet packet =>
      ioCalls pDevAccess packet (.readRegisters (UInt16.ofInt packet.ioaddr).toNat 1)
  | .iostateSet packet =>
      (ioValue packet.state).toList.flatMap fun value =>
        ioCalls pDevAccess packet
          (.writeRegister (UInt16.ofInt packet.ioaddr).toNat value)

/-- A register access uses the device. -/
theorem worked_touch
    (d : ModbusAccess) (slave : UInt16) (op : BusOp) :
    Worked (some d) (some (d.touch slave op))
      [{ ctx := modbusSetSlave d.ctx slave.toNat, op := op }] :=
  .used rfl rfl fun hsound => ModbusAccess.sound_touch hsound slave op

/-- Every request makes just these reads and writes. -/
theorem processWork_worked
    (emulation : Bool) (p : Option ModbusAccess) (r : Request) :
    Worked p (processWork bus floatText emulation p r).2.2 (callsFor emulation p r) := by
  cases r with
  | energyparmGet packet =>
      cases emulation with
      | true =>
          have hnone : callsFor true p (.energyparmGet packet) = [] := by simp [callsFor]
          rw [hnone]
          exact .idle p
      | false =>
          cases p with
          | none => exact .idle none
          | some d =>
              change Worked _ (some (d.getEnergyParam bus floatText packet.paramType).2.2) _
              rw [ModbusAccess.getEnergyParam_device]
              refine .used rfl ?_ fun hsound => hsound
              by_cases hopened : d.devOpened = .success <;> simp [callsFor, hopened]
  | iostateGet packet =>
      cases p with
      | none => exact .idle none
      | some d =>
          have hdevice :
              (processWork bus floatText emulation (some d) (.iostateGet packet)).2.2 =
                some (d.readRegister bus (UInt16.ofInt packet.slaveaddr)
                  (UInt16.ofInt packet.ioaddr)).2.2 := by
            simp only [processWork, processIostateGet]
            cases emulation <;> simp only [Bool.false_eq_true, if_false, if_true] <;>
              generalize ModbusAccess.readRegister bus d _ _ = reply <;>
              rcases reply with ⟨res, _ | value, d'⟩ <;> rfl
          rw [hdevice, ModbusAccess.readRegister_device]
          exact worked_touch d _ _
  | iostateSet packet =>
      cases p with
      | none =>
          have hnone : callsFor emulation none (.iostateSet packet) = [] := by
            simp [callsFor, ioCalls]
          rw [hnone]
          exact .idle none
      | some d =>
          simp only [processWork, processIostateSet, callsFor]
          cases ioValue packet.state with
          | none => exact .idle (some d)
          | some value =>
              dsimp only
              rw [ModbusAccess.writeRegister_device]
              exact worked_touch d _ _

theorem Worked.calls
    {p p' : Option ModbusAccess} {calls : List BusCall}
    (hworked : Worked p p' calls) :
    callsOf p' = callsOf p ++ calls := by
  cases hworked with
  | idle => simp
  | used _ hcalls _ => exact hcalls

theorem Worked.opened
    {p p' : Option ModbusAccess} {calls : List BusCall}
    (hworked : Worked p p' calls) :
    (∃ d, p' = some d ∧ d.devOpened = .success) ↔
      ∃ d, p = some d ∧ d.devOpened = .success := by
  cases hworked with
  | idle => rfl
  | used hopened _ _ => simp [hopened]

theorem Worked.sound
    {p p' : Option ModbusAccess} {calls : List BusCall}
    (hworked : Worked p p' calls)
    (hsound : ∀ d, p = some d → d.Sound) :
    ∀ d, p' = some d → d.Sound := by
  cases hworked with
  | idle => exact hsound
  | used _ _ hkeeps =>
      intro d hd
      obtain rfl := Option.some.inj hd
      exact hkeeps (hsound _ rfl)

/-- What a request did to the service. -/
structure Served (s t : Server) (e : Exchange) : Prop where
  calls : e.calls = callsFor s.emulation s.pDevAccess e.request
  history : t.history = s.history ++ [e]
  emulation : t.emulation = s.emulation
  opened : t.Opened ↔ s.Opened
  sound : s.Sound → t.Sound

theorem serve_served
    (hstep : serve bus floatText s r = some t) :
    ∃ answer,
      Served s t
        { request := r
          result := (processWork bus floatText s.emulation s.pDevAccess r).1
          answer := answer
          calls := callsFor s.emulation s.pDevAccess r } := by
  have hworked :
      Worked s.pDevAccess (processWork bus floatText s.emulation s.pDevAccess r).2.2
        (callsFor s.emulation s.pDevAccess r) :=
    processWork_worked s.emulation s.pDevAccess r
  unfold serve at hstep
  generalize processWork bus floatText s.emulation s.pDevAccess r = work at hstep hworked ⊢
  obtain ⟨result, answer, p⟩ := work
  obtain rfl := Option.some.inj hstep
  refine ⟨answer, rfl, ?_, rfl, hworked.opened, hworked.sound⟩
  dsimp only
  rw [hworked.calls, List.drop_left]

/-- An io request without reads and writes that gets an error is well served. -/
theorem callsOk_nil
    (packet : IoPacket) {result : RpcSrvResult} (hresult : result ≠ .success) :
    packet.CallsOk result [] where
  addressed := fun _ hcall => absurd hcall List.not_mem_nil
  refused := fun _ => ⟨rfl, hresult⟩

/-- A register access goes where it should just for the addresses there can be. -/
theorem ioCalls_ok_iff
    {d : ModbusAccess} {packet : IoPacket} {op : BusOp} {result : RpcSrvResult}
    (hsound : s.Sound) (hdev : s.pDevAccess = some d)
    (hop : op.address = (UInt16.ofInt packet.ioaddr).toNat) :
    (packet.CallsOk result (ioCalls s.pDevAccess packet op) ∧
        (¬ s.Opened ∨ s.emulation = true → ioCalls s.pDevAccess packet op = [])) ↔
      s.Opened ∧ s.emulation = false ∧ packet.InRange := by
  have hcalls :
      ioCalls s.pDevAccess packet op =
        [{ ctx := modbusSetSlave d.ctx (UInt16.ofInt packet.slaveaddr).toNat, op := op }] := by
    simp [ioCalls, hdev]
  rw [hcalls]
  constructor
  · rintro ⟨hok, hnone⟩
    have hserved : ¬ (¬ s.Opened ∨ s.emulation = true) := fun h => absurd (hnone h) (by simp)
    simp only [not_or, not_not, Bool.not_eq_true] at hserved
    refine ⟨hserved.1, hserved.2, ?_⟩
    by_contra hrange
    cases (hok.refused hrange).1
  · rintro ⟨hopened, hemulation, hrange⟩
    obtain ⟨⟨hlow, hhigh⟩, hiolow, hiohigh⟩ := hrange
    have hslave := toNat_ofInt hlow (by omega)
    refine ⟨⟨?_, ?_⟩, ?_⟩
    · intro call hcall
      obtain rfl := List.mem_singleton.mp hcall
      refine ⟨(UInt16.ofInt packet.slaveaddr).toNat, ?_, hslave, ?_⟩
      · obtain ⟨d', hd', hsuccess⟩ := hopened
        obtain rfl := Option.some.inj (hdev.symm.trans hd')
        obtain ⟨old, hold⟩ := (hsound d hdev).mp hsuccess
        simp only [modbusSetSlave, hold]
        rw [if_pos (by omega)]
      · rw [hop]
        exact toNat_ofInt hiolow hiohigh
    · exact fun hout => absurd ⟨⟨hlow, hhigh⟩, hiolow, hiohigh⟩ hout
    · rintro (hclosed | hsimulated)
      · exact absurd hopened hclosed
      · rw [hemulation] at hsimulated
        cases hsimulated

/-- The meter is read from slave 1 just when that is the current one. -/
theorem energyparmGet_ok_iff
    {packet : EnrgyparmPacket} {result : RpcSrvResult} {answer : Request} :
    Exchange.Ok s
        { request := .energyparmGet packet
          result := result
          answer := answer
          calls := callsFor s.emulation s.pDevAccess (.energyparmGet packet) } ↔
      s.Undisturbed (.energyparmGet packet) := by
  unfold Exchange.Ok
  cases hdev : s.pDevAccess with
  | none =>
      simp [Exchange.Addressed, callsFor, Server.Undisturbed, hdev]
  | some d =>
      cases hemulation : s.emulation with
      | true =>
          simp [Exchange.Addressed, callsFor, Server.Undisturbed, hemulation]
      | false =>
          by_cases hopened : d.devOpened = .success
          · cases haddr : energyAddr packet.paramType <;>
              simp [Exchange.Addressed, callsFor, Server.Undisturbed, Server.Opened, hdev,
                hemulation, hopened, haddr]
          · simp [Exchange.Addressed, callsFor, Server.Undisturbed, hdev, hopened]

/-- A state is read where it should be just for the addresses there can be. -/
theorem iostateGet_ok_iff
    {packet : IoPacket} {answer : Request}
    (hsound : s.Sound) :
    Exchange.Ok s
        { request := .iostateGet packet
          result := (processWork bus floatText s.emulation s.pDevAccess (.iostateGet packet)).1
          answer := answer
          calls := callsFor s.emulation s.pDevAccess (.iostateGet packet) } ↔
      s.Undisturbed (.iostateGet packet) := by
  cases hdev : s.pDevAccess with
  | none =>
      refine iff_of_true ⟨callsOk_nil packet (fun h => by cases h), fun _ => rfl⟩ ?_
      simp [Server.Undisturbed, hdev]
  | some d =>
      rw [← hdev]
      refine (ioCalls_ok_iff hsound hdev rfl).trans ?_
      simp [Server.Undisturbed, hdev]

/-- So is a state written; one that is no state is refused before. -/
theorem iostateSet_ok_iff
    {packet : IoPacket} {answer : Request}
    (hsound : s.Sound) :
    Exchange.Ok s
        { request := .iostateSet packet
          result := (processWork bus floatText s.emulation s.pDevAccess (.iostateSet packet)).1
          answer := answer
          calls := callsFor s.emulation s.pDevAccess (.iostateSet packet) } ↔
      s.Undisturbed (.iostateSet packet) := by
  cases hdev : s.pDevAccess with
  | none =>
      have hnone : callsFor s.emulation none (.iostateSet packet) = [] := by
        simp [callsFor, ioCalls]
      rw [hnone]
      refine iff_of_true ⟨callsOk_nil packet (fun h => by cases h), fun _ => rfl⟩ ?_
      simp [Server.Undisturbed, hdev]
  | some d =>
      rw [← hdev]
      cases hvalue : ioValue packet.state with
      | none =>
          have hnone : callsFor s.emulation s.pDevAccess (.iostateSet packet) = [] := by
            simp [callsFor, hvalue]
          have hresult :
              (processWork bus floatText s.emulation s.pDevAccess (.iostateSet packet)).1 =
                .argError := by
            simp [processWork, processIostateSet, hdev, hvalue]
          rw [hnone, hresult]
          refine iff_of_true ⟨callsOk_nil packet (fun h => by cases h), fun _ => rfl⟩ ?_
          simp [Server.Undisturbed, hvalue]
      | some value =>
          have hsome :
              callsFor s.emulation s.pDevAccess (.iostateSet packet) =
                ioCalls s.pDevAccess packet
                  (.writeRegister (UInt16.ofInt packet.ioaddr).toNat value) := by
            simp [callsFor, hvalue]
          rw [hsome]
          refine (ioCalls_ok_iff hsound hdev rfl).trans ?_
          simp [Server.Undisturbed, hdev, hvalue]

/-- A request is served without disturbance just when it finds what it needs. -/
theorem exchange_ok_iff
    (hsound : s.Sound) (answer : Request) :
    Exchange.Ok s
        { request := r
          result := (processWork bus floatText s.emulation s.pDevAccess r).1
          answer := answer
          calls := callsFor s.emulation s.pDevAccess r } ↔
      s.Undisturbed r := by
  cases r with
  | energyparmGet packet => exact energyparmGet_ok_iff
  | iostateGet packet => exact iostateGet_ok_iff hsound
  | iostateSet packet => exact iostateSet_ok_iff hsound

/-- One more request is served without disturbance just when it finds what it needs. -/
theorem ok_serve_iff
    (hsound : s.Sound) (hok : s.Ok)
    (hstep : serve bus floatText s r = some t) :
    t.Ok ↔ s.Undisturbed r := by
  obtain ⟨answer, hserved⟩ := serve_served hstep
  rw [← exchange_ok_iff hsound answer]
  unfold Server.Ok Exchange.Ok
  rw [hserved.history, hserved.emulation, hserved.opened]
  constructor
  · intro hall
    exact hall _ (List.mem_append_right _ List.mem_cons_self)
  · intro hnew e he
    rcases List.mem_append.mp he with he | he
    · exact hok e he
    · obtain rfl := List.mem_singleton.mp he
      exact hnew

end Exchanges

section Runs

variable (bus : List BusCall → Option (UInt16 × UInt16))
variable (floatText : UInt16 → UInt16 → Bytes)

theorem sound_start
    (emulation newRtu connects : Bool) :
    (Server.start emulation newRtu connects).Sound := by
  intro d hd
  obtain rfl := Option.some.inj hd
  exact ModbusAccess.sound_new newRtu connects

/-- In every run the requests leave each other alone, exactly when every one of them
    finds what it needs. -/
theorem served_ok_iff
    (emulation newRtu connects : Bool) (requests : List Request) :
    (∀ pre t, pre <+: requests →
      run (serve bus floatText) (Server.start emulation newRtu connects) pre = some t → t.Ok) ↔
    Meets (serve bus floatText) Server.Undisturbed (Server.start emulation newRtu connects)
      requests := by
  have htotal : ∀ s r, ∃ t, serve bus floatText s r = some t := fun _ _ => ⟨_, rfl⟩
  obtain ⟨u, hrun⟩ := exists_run_of_total htotal (Server.start emulation newRtu connects) requests
  refine forall_prefix_iff_meets (I := fun s => s.Sound ∧ s.Ok) (P := Server.Ok)
    ?_ (fun s hs => hs.2) ?_ ?_ hrun
  · rintro s r t ⟨hsound, hok⟩ hcond hstep
    obtain ⟨answer, hserved⟩ := serve_served hstep
    exact ⟨hserved.sound hsound, (ok_serve_iff hsound hok hstep).mpr hcond⟩
  · rintro s r t ⟨hsound, hok⟩ hstep ht
    exact (ok_serve_iff hsound hok hstep).mp ht
  · exact ⟨sound_start emulation newRtu connects, fun e he => absurd he List.not_mem_nil⟩

end Runs

/-- A relay of slave 5 is switched on, then the voltage is read. -/
def relayThenMeter : List Request :=
  [.iostateSet { slaveaddr := 5, ioaddr := 1, state := .on },
    .energyparmGet { paramType := .voltage, parameter := [] }]

/-- The voltage is read from slave 5. -/
theorem not_ok_relayThenMeter :
    ∃ t, run (serve (fun _ => some (0, 0)) fun _ _ => []) (Server.start false true true)
        relayThenMeter = some t ∧ ¬ t.Ok := by
  refine ⟨_, rfl, ?_⟩
  intro hok
  have hmeter := (hok _ (List.mem_append_right _ List.mem_cons_self)).1
  have hslave := hmeter { ctx := .conn 5, op := .readInputRegisters 0 2 } (by decide)
  cases hslave

end Modbussrv
end BrBox
