import BrBox.Adav.I2CBusAccess
import BrBox.Adav.NodeStrings

/-!
# The descriptor of an I2C bus

The constructor of `I2CBusAccess` looks at the node, opens it or connects to it
and decides the state of the object from `errno`; the methods and the destructor
go by that state.  Every access of theirs to a descriptor or to the client is
noted.  The kernel and the client are arbitrary, and what the constructor does not
set has any value.

* `opened_iff`: when the state says what `open` and the connection have returned.
* `runCalls_owned`: what calls do to the descriptor of an object in order.
* `busSafe_iff`: when no call touches a descriptor that is not its own.
-/

namespace BrBox
namespace Adav

open CText
open CxxText

universe v

/-! ## The constructor -/

/-- `ADLIB_DEV_CONN_TYPE`, with what else an `int` that was not set may hold. -/
inductive DevConnType where
  | devnode
  | network
  | unknown
deriving DecidableEq, Repr

/-- What surrounds a call of the constructor. -/
structure OpenEnv where
  /-- `errno` as earlier calls have left it. -/
  errno : OpenErrno
  /-- The node is a character device. -/
  isCharDevice : Bool
  /-- The error of `stat`, if it fails. -/
  statError : Option OpenErrno
  /-- What `S_ISCHR` says of a `buf` that was not set. -/
  unsetMode : Bool
  /-- The descriptor or the error of `open`. -/
  openNode : Except OpenErrno Nat
  /-- `rpc_server_connect` returns 0. -/
  connects : Bytes → Int → Bool
  unsetFd : Int
  unsetConnType : DevConnType

/-- An `I2CBusAccess` and what its constructor has got. -/
structure BusAccess where
  fd : Int
  devOpened : RpcSrvResult
  connType : DevConnType
  /-- The descriptor that `open` has returned; no function looks at it. -/
  opened : Option Nat
  /-- The connection has been made; no function looks at it. -/
  connected : Bool
deriving DecidableEq, Repr

/-- `is_it_device_node`, without its result type. -/
def isItDeviceNode (env : OpenEnv) : Bool :=
  match env.statError with
  | none => env.isCharDevice
  -- the result of `stat` is not looked at
  | some _ => env.unsetMode

/-- `errno` when the node has been opened or not. -/
def errnoAfterOpen (env : OpenEnv) : OpenErrno :=
  match env.openNode with
  | .ok _ => env.statError.getD env.errno
  | .error errno => errno

/-- The result of `open`. -/
def openFd : Except OpenErrno Nat → Int
  | .ok fd => fd
  | .error _ => -1

/-- The constructor of `I2CBusAccess`. -/
def openBus (env : OpenEnv) (node : Bytes) : BusAccess :=
  if isItDeviceNode env then
    { fd := openFd env.openNode
      devOpened := (errnoAfterOpen env).devOpened
      connType :=
        if (errnoAfterOpen env).devOpened = .success then .devnode else env.unsetConnType
      opened := env.openNode.toOption
      connected := false }
  else if (isItNetworkNode node).result = .success then
    let connected := env.connects (isItNetworkNode node).ip (isItNetworkNode node).port
    { fd := env.unsetFd
      devOpened := if connected then .success else .hostNotReachableErr
      connType := if connected then .network else env.unsetConnType
      opened := none
      connected := connected }
  else
    { fd := env.unsetFd
      devOpened := .fail
      connType := env.unsetConnType
      opened := none
      connected := false }

/-! ## The methods -/

/-- What a method or the destructor touches. -/
inductive BusTouch where
  | ioctl (fd : Int)
  | read (fd : Int)
  | write (fd : Int)
  | close (fd : Int)
  /-- A call of the RPC client. -/
  | rpc
  | disconnect
deriving DecidableEq, Repr

/-- The descriptor that is touched. -/
def BusTouch.fd? : BusTouch → Option Int
  | .ioctl fd => some fd
  | .read fd => some fd
  | .write fd => some fd
  | .close fd => some fd
  | .rpc => none
  | .disconnect => none

/-- A state with what has been touched so far. -/
abbrev Noted (σ : Type v) := σ × List BusTouch

/-- The functions of a device on a descriptor, noted. -/
def I2CDevice.noted
    {σ : Type v} (dev : I2CDevice σ) (fd : Int) : I2CDevice (Noted σ) where
  setSlave := fun addr p =>
    ((dev.setSlave addr p.1).1, (dev.setSlave addr p.1).2, p.2 ++ [.ioctl fd])
  smbusReadByte := fun p =>
    ((dev.smbusReadByte p.1).1, (dev.smbusReadByte p.1).2, p.2 ++ [.ioctl fd])
  smbusWriteByte := fun data p =>
    ((dev.smbusWriteByte data p.1).1, (dev.smbusWriteByte data p.1).2,
      p.2 ++ [.ioctl fd])
  read := fun n p =>
    ((dev.read n p.1).1, (dev.read n p.1).2, p.2 ++ [.read fd])
  write := fun data p =>
    ((dev.write data p.1).1, (dev.write data p.1).2, p.2 ++ [.write fd])

/-- The calls of an `ADJsonRpcClient` that the methods make. -/
structure BusClient (σ : Type v) where
  /-- `get_integer_type_with_addr_para`: its result and the text in `tmpbuf`. -/
  getInteger : (method : Bytes) → (addr : Int) → σ → (RpcSrvResult × Bytes) × σ
  /-- `set_integer_type_with_addr_para`. -/
  setInteger : (method : Bytes) → (addr data : Int) → σ → RpcSrvResult × σ

/-- A read on a network node. -/
def BusClient.read
    {σ : Type v} {α : Type} (client : BusClient σ) (cast : Int → α) (method : Bytes)
    (addr : UInt32) (p : Noted σ) : ReadResult α × Noted σ :=
  let ((retval, tmpbuf), s) := client.getInteger method (wrapInt32 addr.toNat) p.1
  ((retval, if retval = .success then some (cast (atoi tmpbuf)) else none),
    s, p.2 ++ [.rpc])

/-- A write on a network node. -/
def BusClient.write
    {σ : Type v} (client : BusClient σ) (method : Bytes) (addr : UInt32) (data : Nat)
    (p : Noted σ) : RpcSrvResult × Noted σ :=
  let (retval, s) := client.setInteger method (wrapInt32 addr.toNat) (wrapInt32 data) p.1
  (retval, s, p.2 ++ [.rpc])

/-- A call of a method. -/
inductive BusCall where
  | readByte (addr : UInt32)
  | writeByte (addr : UInt32) (data : UInt8)
  | readWord (addr : UInt32)
  | writeWord (addr : UInt32) (data : UInt16)
  | readDword (addr : UInt32)
  | writeDword (addr : UInt32) (data : UInt32)
  | writeArray (addr : UInt32) (data : Bytes)
  | readArray (addr : UInt32) (len : Nat)
deriving DecidableEq, Repr

/-- The call is `write_array` or `read_array`. -/
def BusCall.isArray : BusCall → Bool
  | .writeArray _ _ => true
  | .readArray _ _ => true
  | _ => false

/-- What a read has stored. -/
inductive BusValue where
  | byte (data : UInt8)
  | word (data : UInt16)
  | dword (data : UInt32)
  | array (data : Bytes)
deriving DecidableEq, Repr

section Methods

variable {σ : Type v}
variable (kernel : Int → I2CDevice σ)
variable (client : BusClient σ)

/-- The test that the methods for a byte, a word and a double word make first. -/
def byConnType
    {α : Type} (bus : BusAccess) (failed : RpcSrvResult → α)
    (onDevnode onNetwork : Noted σ → α × Noted σ) (p : Noted σ) : α × Noted σ :=
  if bus.devOpened ≠ .success then
    (failed bus.devOpened, p)
  else
    match bus.connType with
    | .devnode => onDevnode p
    | .network => onNetwork p
    | .unknown => (failed .fail, p)

/-- `write_array`, which does not look at `ConnType`. -/
def writeArray
    (bus : BusAccess) (addr : UInt32) (data : Bytes) (p : Noted σ) :
    RpcSrvResult × Noted σ :=
  if bus.devOpened ≠ .success then
    (bus.devOpened, p)
  else
    let dev := (kernel bus.fd).noted bus.fd
    let (ret, p) := dev.setSlaveAddr addr.toUInt8 p
    if ret ≠ .success then
      (ret, p)
    else
      let (count, p) := dev.write data p
      (if count ≠ data.length then .fileWriteErr else .success, p)

/-- `read_array`, which does not look at `ConnType` either. -/
def readArray
    (bus : BusAccess) (addr : UInt32) (len : Nat) (p : Noted σ) :
    ReadResult Bytes × Noted σ :=
  if bus.devOpened ≠ .success then
    ((bus.devOpened, none), p)
  else
    let dev := (kernel bus.fd).noted bus.fd
    let (ret, p) := dev.setSlaveAddr addr.toUInt8 p
    if ret ≠ .success then
      ((ret, none), p)
    else
      let (data, p) := dev.read len p
      (if data.length ≠ len then (.fileReadErr, some data) else (.success, some data), p)

/-- A read, with its value in the common type. -/
def stored
    {α : Type} (wrap : α → BusValue) (r : ReadResult α × Noted σ) :
    ReadResult BusValue × Noted σ :=
  ((r.1.1, r.1.2.map wrap), r.2)

/-- A write has stored nothing. -/
def nothingStored
    (r : RpcSrvResult × Noted σ) : ReadResult BusValue × Noted σ :=
  ((r.1, none), r.2)

/-- Each method of `I2CBusAccess`. -/
def BusAccess.call
    (bus : BusAccess) (p : Noted σ) : BusCall → ReadResult BusValue × Noted σ
  | .readByte addr =>
      stored .byte (byConnType bus (fun ret => (ret, none))
        (((kernel bus.fd).noted bus.fd).readByte .other addr)
        (client.read UInt8.ofInt (text "read_byte") addr) p)
  | .writeByte addr data =>
      nothingStored (byConnType bus id
        (((kernel bus.fd).noted bus.fd).writeByte .other addr data)
        (client.write (text "write_byte") addr data.toNat) p)
  | .readWord addr =>
      stored .word (byConnType bus (fun ret => (ret, none))
        (((kernel bus.fd).noted bus.fd).readWord .other addr)
        (client.read UInt16.ofInt (text "read_word") addr) p)
  | .writeWord addr data =>
      nothingStored (byConnType bus id
        (((kernel bus.fd).noted bus.fd).writeWord .other addr data)
        (client.write (text "write_word") addr data.toNat) p)
  | .readDword addr =>
      stored .dword (byConnType bus (fun ret => (ret, none))
        (((kernel bus.fd).noted bus.fd).readDword .other addr)
        (client.read UInt32.ofInt (text "read_dword") addr) p)
  | .writeDword addr data =>
      nothingStored (byConnType bus id
        (((kernel bus.fd).noted bus.fd).writeDword .other addr data)
        (client.write (text "write_dword") addr data.toNat) p)
  | .writeArray addr data =>
      nothingStored (writeArray kernel bus addr data p)
  | .readArray addr len =>
      stored .array (readArray kernel bus addr len p)

/-- A call that was made: its result and what it has touched. -/
structure BusRecord where
  call : BusCall
  result : ReadResult BusValue
  touched : List BusTouch

/-- Calls one after the other. -/
def runCalls
    (bus : BusAccess) (s : σ) : List BusCall → List BusRecord
  | [] => []
  | call :: calls =>
      let (result, s, touched) := bus.call kernel client (s, []) call
      { call := call, result := result, touched := touched } ::
        runCalls bus s calls

/-- The destructor. -/
def BusAccess.destroy (bus : BusAccess) : List BusTouch :=
  if bus.devOpened = .success ∧ bus.connType = .devnode then
    [.close bus.fd]
  else if bus.devOpened = .success ∧ bus.connType = .network then
    [.disconnect]
  else
    []

end Methods

/-! ## What is asked of them -/

/-- The object is on a device node. -/
def BusAccess.OnDevnode (bus : BusAccess) : Prop :=
  bus.devOpened = .success ∧ bus.connType = .devnode

/-- The object is on a network node. -/
def BusAccess.OnNetwork (bus : BusAccess) : Prop :=
  bus.devOpened = .success ∧ bus.connType = .network

/-- The state of the object is what `open` and the connection have returned. -/
structure OpenedRight (env : OpenEnv) (node : Bytes) : Prop where
  devnode : (openBus env node).OnDevnode ↔
    ∃ fd, (openBus env node).opened = some fd ∧ env.isCharDevice = true
  network : (openBus env node).OnNetwork ↔ (openBus env node).connected = true

/-- What is touched of descriptors is the one of the device node. -/
def BusAccess.Owns (bus : BusAccess) (touched : List BusTouch) : Prop :=
  ∀ touch ∈ touched, ∀ fd, touch.fd? = some fd →
    bus.OnDevnode ∧ ∃ n : Nat, bus.opened = some n ∧ fd = n

/-- The call has gone through the client, or returns an error. -/
def BusRecord.Remote (r : BusRecord) : Prop :=
  r.touched = [.rpc] ∨ r.result.1 ≠ .success

/-- The object keeps to its descriptor, from its constructor to its destructor. -/
structure BusSafe
    {σ : Type v} (kernel : Int → I2CDevice σ) (client : BusClient σ)
    (env : OpenEnv) (node : Bytes) (s : σ) (calls : List BusCall) : Prop where
  opened : OpenedRight env node
  touched : ∀ r ∈ runCalls kernel client (openBus env node) s calls,
    (openBus env node).Owns r.touched
  destroyed : (openBus env node).Owns (openBus env node).destroy
  remote : (openBus env node).OnNetwork →
    ∀ r ∈ runCalls kernel client (openBus env node) s calls, r.Remote

/-- The node is not a device node, and a connection to it is made. -/
def Connects (env : OpenEnv) (node : Bytes) : Prop :=
  isItDeviceNode env = false ∧ (isItNetworkNode node).result = .success ∧
    env.connects (isItNetworkNode node).ip (isItNetworkNode node).port = true

/--
What `errno` must be like when a node has been taken for a character device: `open`
fails with one of the errors that are looked for, or it succeeds, on a character
device exactly if none of these errors has been left over.
-/
def OpenKept (env : OpenEnv) : Prop :=
  isItDeviceNode env = true →
    match env.openNode with
    | .ok _ => (env.isCharDevice = true ↔ env.statError.getD env.errno = .other)
    | .error errno => errno ≠ .other

theorem OpenErrno.devOpened_iff
    (errno : OpenErrno) :
    errno.devOpened = .success ↔ errno = .other := by
  cases errno with
  | enoent =>
      simp [OpenErrno.devOpened]
  | enotdir =>
      simp [OpenErrno.devOpened]
  | eacces =>
      simp [OpenErrno.devOpened]
  | other =>
      simp [OpenErrno.devOpened]

section Opened

variable (env : OpenEnv) (node : Bytes)

/-- A node that has been taken for a character device. -/
structure OpenedDevnode (bus : BusAccess) : Prop where
  isNode : isItDeviceNode env = true
  fd : bus.fd = openFd env.openNode
  devOpened : bus.devOpened = (errnoAfterOpen env).devOpened
  connType : bus.devOpened = .success → bus.connType = .devnode
  opened : bus.opened = env.openNode.toOption
  connected : bus.connected = false

/-- A node that has been connected to. -/
structure OpenedNetwork (bus : BusAccess) : Prop where
  connects : Connects env node
  devOpened : bus.devOpened = .success
  connType : bus.connType = .network
  opened : bus.opened = none
  connected : bus.connected = true

/-- Any other node. -/
structure NotOpened (bus : BusAccess) : Prop where
  isNode : isItDeviceNode env = false
  connects : ¬ Connects env node
  devOpened : bus.devOpened ≠ .success
  opened : bus.opened = none
  connected : bus.connected = false

/-- What the constructor can do. -/
theorem openBus_cases :
    OpenedDevnode env (openBus env node) ∨ OpenedNetwork env node (openBus env node) ∨
      NotOpened env node (openBus env node) := by
  unfold openBus
  cases hnode : isItDeviceNode env with
  | true =>
      exact Or.inl ⟨hnode, rfl, rfl, fun h => if_pos h, rfl, rfl⟩
  | false =>
      by_cases hresult : (isItNetworkNode node).result = .success
      · cases hconnects : env.connects (isItNetworkNode node).ip (isItNetworkNode node).port with
        | true =>
            rw [if_neg Bool.false_ne_true, if_pos hresult]
            exact Or.inr (Or.inl ⟨⟨hnode, hresult, hconnects⟩, rfl, rfl, rfl, rfl⟩)
        | false =>
            rw [if_neg Bool.false_ne_true, if_pos hresult]
            refine Or.inr (Or.inr ⟨hnode, ?_, by simp, rfl, rfl⟩)
            rintro ⟨-, -, h⟩
            rw [hconnects] at h
            cases h
      · rw [if_neg Bool.false_ne_true, if_neg hresult]
        exact Or.inr (Or.inr ⟨hnode, fun h => hresult h.2.1, by simp, rfl, rfl⟩)

/-- The device node is decided by `errno` alone. -/
theorem onDevnode_iff :
    (openBus env node).OnDevnode ↔
      isItDeviceNode env = true ∧ errnoAfterOpen env = .other := by
  rcases openBus_cases env node with h | h | h
  · rw [← OpenErrno.devOpened_iff, ← h.devOpened]
    exact ⟨fun hon => ⟨h.isNode, hon.1⟩, fun hon => ⟨hon.2, h.connType hon.2⟩⟩
  · simp [BusAccess.OnDevnode, h.connType, h.connects.1]
  · simp [BusAccess.OnDevnode, h.devOpened, h.isNode]

/-- The network node is decided by the connection. -/
theorem onNetwork_iff :
    (openBus env node).OnNetwork ↔ Connects env node := by
  rcases openBus_cases env node with h | h | h
  · constructor
    · rintro ⟨hsuccess, hnetwork⟩
      rw [h.connType hsuccess] at hnetwork
      cases hnetwork
    · rintro ⟨hnode, -⟩
      rw [h.isNode] at hnode
      cases hnode
  · exact ⟨fun _ => h.connects, fun _ => ⟨h.devOpened, h.connType⟩⟩
  · exact ⟨fun hon => absurd hon.1 h.devOpened, fun hon => absurd hon h.connects⟩

theorem connected_iff :
    (openBus env node).connected = true ↔ Connects env node := by
  rcases openBus_cases env node with h | h | h
  · simp [h.connected, Connects, h.isNode]
  · simp [h.connected, h.connects]
  · simp [h.connected, h.connects]

theorem opened_eq_some_iff
    (fd : Nat) :
    (openBus env node).opened = some fd ↔
      isItDeviceNode env = true ∧ env.openNode = .ok fd := by
  rcases openBus_cases env node with h | h | h
  · rw [h.opened, h.isNode]
    cases env.openNode with
    | ok n =>
        simp [Except.toOption]
    | error errno =>
        simp [Except.toOption]
  · simp [h.opened, h.connects.1]
  · simp [h.opened, h.isNode]

/-- When the constructor leaves the right state. -/
theorem openedRight_iff :
    OpenedRight env node ↔ OpenKept env := by
  have hdevnode :
      OpenedRight env node ↔
        ((isItDeviceNode env = true ∧ errnoAfterOpen env = .other) ↔
          ∃ fd, (isItDeviceNode env = true ∧ env.openNode = .ok fd) ∧
            env.isCharDevice = true) := by
    constructor
    · intro hright
      have h := hright.devnode
      simpa only [onDevnode_iff, opened_eq_some_iff] using h
    · intro h
      refine ⟨?_, by rw [onNetwork_iff, connected_iff]⟩
      simpa only [onDevnode_iff, opened_eq_some_iff] using h
  rw [hdevnode, OpenKept, errnoAfterOpen]
  cases hnode : isItDeviceNode env with
  | true =>
      cases hopen : env.openNode with
      | ok n =>
          simp only [true_and, Except.ok.injEq, exists_eq_left', forall_const]
          exact iff_comm
      | error errno =>
          simp
  | false =>
      simp

/-- An object that is open is on a device node or on a network node. -/
theorem open_cases :
    (openBus env node).devOpened ≠ .success ∨ (openBus env node).OnDevnode ∨
      (openBus env node).OnNetwork := by
  rcases openBus_cases env node with h | h | h
  · by_cases hsuccess : (openBus env node).devOpened = .success
    · exact Or.inr (Or.inl ⟨hsuccess, h.connType hsuccess⟩)
    · exact Or.inl hsuccess
  · exact Or.inr (Or.inr ⟨h.devOpened, h.connType⟩)
  · exact Or.inl h.devOpened

/-- On a device node the descriptor is the one that was opened. -/
theorem opened_of_onDevnode
    (hkept : OpenKept env)
    (hdevnode : (openBus env node).OnDevnode) :
    ∃ n : Nat, (openBus env node).opened = some n ∧ (openBus env node).fd = n := by
  obtain ⟨fd, hopened, -⟩ :=
    ((openedRight_iff env node).mpr hkept).devnode.mp hdevnode
  obtain ⟨hnode, hopen⟩ := (opened_eq_some_iff env node fd).mp hopened
  refine ⟨fd, hopened, ?_⟩
  simp [openBus, hnode, hopen, openFd]

end Opened

/-! ## The calls -/

/-- From one state to the other, only this descriptor has been touched. -/
def TouchesOnly {σ : Type v} (fd : Int) (p q : Noted σ) : Prop :=
  ∃ touched, q.2 = p.2 ++ touched ∧ ∀ touch ∈ touched, touch.fd? = some fd

theorem TouchesOnly.refl
    {σ : Type v} (fd : Int) (p : Noted σ) :
    TouchesOnly fd p p :=
  ⟨[], (List.append_nil _).symm, by simp⟩

theorem TouchesOnly.trans
    {σ : Type v} {fd : Int} {p q r : Noted σ}
    (hpq : TouchesOnly fd p q)
    (hqr : TouchesOnly fd q r) :
    TouchesOnly fd p r := by
  obtain ⟨l, hl, hall⟩ := hpq
  obtain ⟨m, hm, hall'⟩ := hqr
  refine ⟨l ++ m, by rw [hm, hl, List.append_assoc], ?_⟩
  intro touch hmem
  rcases List.mem_append.mp hmem with h | h
  · exact hall touch h
  · exact hall' touch h

/-- One touch of the descriptor. -/
theorem touchesOnly_one
    {σ : Type v} {fd : Int} {p q : Noted σ}
    (touch : BusTouch)
    (hq : q.2 = p.2 ++ [touch])
    (hfd : touch.fd? = some fd) :
    TouchesOnly fd p q := by
  refine ⟨[touch], hq, ?_⟩
  intro t ht
  rwa [List.mem_singleton.mp ht]

section Calls

variable {σ : Type v}
variable (kernel : Int → I2CDevice σ)
variable (client : BusClient σ)

/-- The slave address is set on the descriptor. -/
theorem setSlaveAddr_noted
    (dev : I2CDevice σ) (fd : Int) (addr : UInt8) (p : Noted σ) :
    ((dev.noted fd).setSlaveAddr addr p).2.2 = p.2 ++ [.ioctl fd] :=
  rfl

/-- A method of a device node touches its descriptor if its access does. -/
theorem withSlave_noted
    {β : Type} (dev : I2CDevice σ) (fd : Int) (addr : UInt32) (failed : RpcSrvResult → β)
    {access : Noted σ → β × Noted σ}
    (haccess : ∀ q, TouchesOnly fd q (access q).2)
    (p : Noted σ) :
    TouchesOnly fd p ((dev.noted fd).withSlave .other addr failed access p).2 := by
  have hslave :
      TouchesOnly fd p ((dev.noted fd).setSlaveAddr addr.toUInt8 p).2 :=
    touchesOnly_one _ (setSlaveAddr_noted dev fd addr.toUInt8 p) rfl
  simp only [I2CDevice.withSlave, OpenErrno.devOpened, ne_eq, not_true_eq_false, if_false]
  split
  · exact hslave
  · exact hslave.trans (haccess _)

theorem readByte_noted
    (dev : I2CDevice σ) (fd : Int) (addr : UInt32) (p : Noted σ) :
    TouchesOnly fd p ((dev.noted fd).readByte .other addr p).2 := by
  refine withSlave_noted dev fd addr _ ?_ p
  intro q
  have hread : ((dev.noted fd).smbusReadByte q).2.2 = q.2 ++ [BusTouch.ioctl fd] := rfl
  refine touchesOnly_one (.ioctl fd) ?_ rfl
  rw [← hread]
  simp only
  by_cases hfail : ((dev.noted fd).smbusReadByte q).1 < 0
  · rw [if_pos hfail]
  · rw [if_neg hfail]

theorem writeByte_noted
    (dev : I2CDevice σ) (fd : Int) (addr : UInt32) (data : UInt8) (p : Noted σ) :
    TouchesOnly fd p ((dev.noted fd).writeByte .other addr data p).2 :=
  withSlave_noted dev fd addr _ (fun _ => touchesOnly_one _ rfl rfl) p

theorem readWord_noted
    (dev : I2CDevice σ) (fd : Int) (addr : UInt32) (p : Noted σ) :
    TouchesOnly fd p ((dev.noted fd).readWord .other addr p).2 := by
  refine withSlave_noted dev fd addr _ ?_ p
  intro q
  have hread : ((dev.noted fd).read 2 q).2.2 = q.2 ++ [BusTouch.read fd] := rfl
  refine touchesOnly_one (.read fd) ?_ rfl
  rw [← hread]
  split
  · rename_i heq
    rw [heq]
  · rename_i heq
    rw [heq]

theorem writeWord_noted
    (dev : I2CDevice σ) (fd : Int) (addr : UInt32) (data : UInt16) (p : Noted σ) :
    TouchesOnly fd p ((dev.noted fd).writeWord .other addr data p).2 :=
  withSlave_noted dev fd addr _ (fun _ => touchesOnly_one _ rfl rfl) p

theorem readDword_noted
    (dev : I2CDevice σ) (fd : Int) (addr : UInt32) (p : Noted σ) :
    TouchesOnly fd p ((dev.noted fd).readDword .other addr p).2 := by
  refine withSlave_noted dev fd addr _ ?_ p
  intro q
  have hread : ((dev.noted fd).read 4 q).2.2 = q.2 ++ [BusTouch.read fd] := rfl
  refine touchesOnly_one (.read fd) ?_ rfl
  rw [← hread]
  split
  · rename_i heq
    rw [heq]
  · rename_i heq
    rw [heq]

theorem writeDword_noted
    (dev : I2CDevice σ) (fd : Int) (addr : UInt32) (data : UInt32) (p : Noted σ) :
    TouchesOnly fd p ((dev.noted fd).writeDword .other addr data p).2 :=
  withSlave_noted dev fd addr _ (fun _ => touchesOnly_one _ rfl rfl) p

/-- An array touches the descriptor, on whatever node, and first of all. -/
theorem writeArray_noted
    {bus : BusAccess}
    (hopen : bus.devOpened = .success)
    (addr : UInt32) (data : Bytes) (p : Noted σ) :
    TouchesOnly bus.fd p (writeArray kernel bus addr data p).2 ∧
      .ioctl bus.fd ∈ (writeArray kernel bus addr data p).2.2 := by
  have hslave := setSlaveAddr_noted (kernel bus.fd) bus.fd addr.toUInt8 p
  have honly := touchesOnly_one _ hslave rfl
  simp only [writeArray, hopen, ne_eq, not_true_eq_false, if_false]
  split
  · exact ⟨honly, by rw [hslave]; simp⟩
  · refine ⟨honly.trans (touchesOnly_one _ rfl rfl), ?_⟩
    exact List.mem_append_left _ (by rw [hslave]; simp)

theorem readArray_noted
    {bus : BusAccess}
    (hopen : bus.devOpened = .success)
    (addr : UInt32) (len : Nat) (p : Noted σ) :
    TouchesOnly bus.fd p (readArray kernel bus addr len p).2 ∧
      .ioctl bus.fd ∈ (readArray kernel bus addr len p).2.2 := by
  have hslave := setSlaveAddr_noted (kernel bus.fd) bus.fd addr.toUInt8 p
  have honly := touchesOnly_one _ hslave rfl
  simp only [readArray, hopen, ne_eq, not_true_eq_false, if_false]
  split
  · exact ⟨honly, by rw [hslave]; simp⟩
  · refine ⟨honly.trans (touchesOnly_one _ rfl rfl), ?_⟩
    exact List.mem_append_left _ (by rw [hslave]; simp)

/-- An object that is not open touches nothing. -/
theorem call_notOpen
    {bus : BusAccess}
    (hopen : bus.devOpened ≠ .success)
    (p : Noted σ) (call : BusCall) :
    (bus.call kernel client p call).2 = p := by
  cases call with
  | writeArray addr data =>
      simp only [BusAccess.call, nothingStored, writeArray]
      rw [if_pos hopen]
  | readArray addr len =>
      simp only [BusAccess.call, stored, readArray]
      rw [if_pos hopen]
  | readByte addr | readWord addr | readDword addr =>
      simp only [BusAccess.call, stored, byConnType]
      rw [if_pos hopen]
  | writeByte addr data | writeWord addr data | writeDword addr data =>
      simp only [BusAccess.call, nothingStored, byConnType]
      rw [if_pos hopen]

/-- On a device node a call touches the descriptor only. -/
theorem call_onDevnode
    {bus : BusAccess}
    (hon : bus.OnDevnode)
    (p : Noted σ) (call : BusCall) :
    TouchesOnly bus.fd p (bus.call kernel client p call).2 := by
  have hconn :
      ∀ {α : Type} (failed : RpcSrvResult → α) (f g : Noted σ → α × Noted σ),
        byConnType bus failed f g p = f p := by
    intro α failed f g
    rw [byConnType, if_neg (not_not.mpr hon.1), hon.2]
  cases call with
  | readByte addr =>
      rw [BusAccess.call, hconn]
      exact readByte_noted (kernel bus.fd) bus.fd addr p
  | writeByte addr data =>
      rw [BusAccess.call, hconn]
      exact writeByte_noted (kernel bus.fd) bus.fd addr data p
  | readWord addr =>
      rw [BusAccess.call, hconn]
      exact readWord_noted (kernel bus.fd) bus.fd addr p
  | writeWord addr data =>
      rw [BusAccess.call, hconn]
      exact writeWord_noted (kernel bus.fd) bus.fd addr data p
  | readDword addr =>
      rw [BusAccess.call, hconn]
      exact readDword_noted (kernel bus.fd) bus.fd addr p
  | writeDword addr data =>
      rw [BusAccess.call, hconn]
      exact writeDword_noted (kernel bus.fd) bus.fd addr data p
  | writeArray addr data =>
      exact (writeArray_noted kernel hon.1 addr data p).1
  | readArray addr len =>
      exact (readArray_noted kernel hon.1 addr len p).1

/-- On a network node any other call than an array goes through the client. -/
theorem call_onNetwork
    {bus : BusAccess}
    (hon : bus.OnNetwork)
    (p : Noted σ) {call : BusCall}
    (hcall : call.isArray = false) :
    (bus.call kernel client p call).2.2 = p.2 ++ [.rpc] := by
  have hconn :
      ∀ {α : Type} (failed : RpcSrvResult → α) (f g : Noted σ → α × Noted σ),
        byConnType bus failed f g p = g p := by
    intro α failed f g
    rw [byConnType, if_neg (not_not.mpr hon.1), hon.2]
  cases call with
  | readByte addr | readWord addr | readDword addr =>
      rw [BusAccess.call, hconn]
      rfl
  | writeByte addr data | writeWord addr data | writeDword addr data =>
      rw [BusAccess.call, hconn]
      rfl
  | writeArray addr data =>
      cases hcall
  | readArray addr len =>
      cases hcall

/-- An array touches the descriptor on a network node as well. -/
theorem call_array
    {bus : BusAccess}
    (hopen : bus.devOpened = .success)
    (p : Noted σ) {call : BusCall}
    (hcall : call.isArray = true) :
    .ioctl bus.fd ∈ (bus.call kernel client p call).2.2 := by
  cases call with
  | writeArray addr data =>
      exact (writeArray_noted kernel hopen addr data p).2
  | readArray addr len =>
      exact (readArray_noted kernel hopen addr len p).2
  | readByte addr | readWord addr | readDword addr =>
      cases hcall
  | writeByte addr data | writeWord addr data | writeDword addr data =>
      cases hcall

/-- A record of a run is that of one of its calls. -/
theorem mem_runCalls
    {bus : BusAccess} {s : σ} {calls : List BusCall} {r : BusRecord}
    (hr : r ∈ runCalls kernel client bus s calls) :
    r.call ∈ calls ∧
      ∃ s', r.result = (bus.call kernel client (s', []) r.call).1 ∧
        r.touched = (bus.call kernel client (s', []) r.call).2.2 := by
  induction calls generalizing s with
  | nil =>
      cases hr
  | cons call calls ih =>
      rcases List.mem_cons.mp hr with rfl | hr
      · exact ⟨List.mem_cons_self, s, rfl, rfl⟩
      · obtain ⟨hmem, hrecord⟩ := ih hr
        exact ⟨List.mem_cons_of_mem call hmem, hrecord⟩

/-- Every call of a run has its record. -/
theorem exists_record
    {bus : BusAccess} {calls : List BusCall} {call : BusCall}
    (hcall : call ∈ calls)
    (s : σ) :
    ∃ r ∈ runCalls kernel client bus s calls, r.call = call := by
  induction calls generalizing s with
  | nil =>
      cases hcall
  | cons first calls ih =>
      rcases List.mem_cons.mp hcall with rfl | hcall
      · exact ⟨_, List.mem_cons_self, rfl⟩
      · obtain ⟨r, hr, heq⟩ := ih hcall (bus.call kernel client (s, []) first).2.1
        exact ⟨r, List.mem_cons_of_mem _ hr, heq⟩

end Calls

/-! ## The whole life of an object -/

section Life

variable {σ : Type v}
variable (kernel : Int → I2CDevice σ)
variable (client : BusClient σ)

/-- What is touched is the descriptor that was opened, or no descriptor. -/
theorem owns_of_fd
    {env : OpenEnv} {node : Bytes} {touched : List BusTouch}
    (hkept : OpenKept env)
    (hon : (openBus env node).OnDevnode)
    (hfd : ∀ touch ∈ touched, touch.fd? = some (openBus env node).fd) :
    (openBus env node).Owns touched := by
  obtain ⟨n, hopened, hn⟩ := opened_of_onDevnode env node hkept hon
  intro touch hmem fd hsome
  rw [hfd touch hmem, Option.some.injEq] at hsome
  exact ⟨hon, n, hopened, hsome.symm.trans hn⟩

theorem owns_nil
    (bus : BusAccess) :
    bus.Owns [] := by
  intro touch hmem
  cases hmem

/-- A network node and a device node exclude each other. -/
theorem not_onDevnode_of_onNetwork
    {bus : BusAccess}
    (hon : bus.OnNetwork) :
    ¬ bus.OnDevnode := by
  rintro ⟨-, hdevnode⟩
  rw [hon.2] at hdevnode
  cases hdevnode

/-- What the calls of an object in order touch. -/
theorem runCalls_owned
    {env : OpenEnv} {node : Bytes} {s : σ} {calls : List BusCall}
    (hkept : OpenKept env)
    (harray : Connects env node → ∀ call ∈ calls, call.isArray = false) :
    ∀ r ∈ runCalls kernel client (openBus env node) s calls,
      (openBus env node).Owns r.touched ∧
        ((openBus env node).OnNetwork → r.touched = [.rpc]) := by
  intro r hr
  obtain ⟨hmem, s', -, htouched⟩ := mem_runCalls kernel client hr
  rw [htouched]
  rcases open_cases env node with hclosed | hon | hon
  · rw [call_notOpen kernel client hclosed]
    exact ⟨owns_nil _, fun h => absurd h.1 hclosed⟩
  · obtain ⟨l, hl, hall⟩ := call_onDevnode kernel client hon (s', []) r.call
    rw [hl, List.nil_append]
    exact ⟨owns_of_fd hkept hon hall,
      fun h => absurd hon (not_onDevnode_of_onNetwork h)⟩
  · have hcall := harray ((onNetwork_iff env node).mp hon) r.call hmem
    rw [call_onNetwork kernel client hon (s', []) hcall, List.nil_append]
    refine ⟨?_, fun _ => rfl⟩
    intro touch htouch fd hfd
    rw [List.mem_singleton.mp htouch] at hfd
    cases hfd

/-- The destructor closes the descriptor that was opened. -/
theorem destroy_owned
    {env : OpenEnv} {node : Bytes}
    (hkept : OpenKept env) :
    (openBus env node).Owns (openBus env node).destroy := by
  unfold BusAccess.destroy
  split
  · rename_i hon
    refine owns_of_fd hkept hon ?_
    intro touch htouch
    rw [List.mem_singleton.mp htouch]
    rfl
  · split
    · intro touch htouch fd hfd
      rw [List.mem_singleton.mp htouch] at hfd
      cases hfd
    · exact owns_nil _

/--
An object keeps to its descriptor exactly if `errno` has told the truth about
`open`, and no array is read or written through a connection.
-/
theorem busSafe_iff
    (env : OpenEnv) (node : Bytes) (s : σ) (calls : List BusCall) :
    BusSafe kernel client env node s calls ↔
      OpenKept env ∧
        (Connects env node → ∀ call ∈ calls, call.isArray = false) := by
  constructor
  · intro hsafe
    refine ⟨(openedRight_iff env node).mp hsafe.opened, ?_⟩
    intro hconnects call hmem
    have hon := (onNetwork_iff env node).mpr hconnects
    rw [Bool.eq_false_iff]
    intro harray
    obtain ⟨r, hr, rfl⟩ :=
      @exists_record σ kernel client (openBus env node) calls call hmem s
    obtain ⟨-, s', -, htouched⟩ := mem_runCalls kernel client hr
    have htouch := call_array kernel client hon.1 (s', []) harray
    rw [← htouched] at htouch
    obtain ⟨hdevnode, -⟩ := hsafe.touched r hr _ htouch _ rfl
    exact not_onDevnode_of_onNetwork hon hdevnode
  · rintro ⟨hkept, harray⟩
    have howned := runCalls_owned kernel client (s := s) hkept harray
    exact
      { opened := (openedRight_iff env node).mpr hkept
        touched := fun r hr => (howned r hr).1
        destroyed := destroy_owned hkept
        remote := fun hon r hr => Or.inl ((howned r hr).2 hon) }

end Life

/-- A device that does what it is asked to. -/
def quietDevice : I2CDevice Unit where
  setSlave := fun _ s => (true, s)
  smbusReadByte := fun s => (0, s)
  smbusWriteByte := fun _ s => (0, s)
  read := fun n s => (List.replicate n 0, s)
  write := fun data s => (data.length, s)

/-- A client whose server does what it is asked to. -/
def quietClient : BusClient Unit where
  getInteger := fun _ _ s => ((.success, [48]), s)
  setInteger := fun _ _ _ s => (.success, s)

/-- A character device that is opened while `errno` still is `ENOENT`. -/
def staleErrno : OpenEnv where
  errno := .enoent
  isCharDevice := true
  statError := none
  unsetMode := false
  openNode := .ok 3
  connects := fun _ _ => true
  unsetFd := 0
  unsetConnType := .unknown

/-- A character device that is busy. -/
def busyDevice : OpenEnv :=
  { staleErrno with
    errno := .other
    openNode := .error .other }

/-- No file: `stat` fails, and what it leaves is not a character device. -/
def noFile : OpenEnv :=
  { staleErrno with
    isCharDevice := false
    statError := some .enoent
    openNode := .error .enoent }

/-- `"40007"` -/
def localNode : Bytes :=
  [52, 48, 48, 48, 55]

/--
The first object has a descriptor and does not know it, the second one believes
that it has one, and the third one uses a descriptor though it is connected.
-/
theorem not_busSafe_staleErrno :
    ¬ BusSafe (fun _ => quietDevice) quietClient staleErrno [] () [] ∧
    ¬ BusSafe (fun _ => quietDevice) quietClient busyDevice [] () [] ∧
    ¬ BusSafe (fun _ => quietDevice) quietClient noFile localNode () [.readArray 32 1] := by
  refine ⟨?_, ?_, ?_⟩
  · intro hsafe
    have hkept := (openedRight_iff staleErrno []).mp hsafe.opened
    have herrno : OpenErrno.enoent = .other := (hkept rfl).mp rfl
    cases herrno
  · intro hsafe
    have hkept := (openedRight_iff busyDevice []).mp hsafe.opened
    exact hkept rfl rfl
  · intro hsafe
    have hbody : NodeBody localNode localNode localIp := .port (by decide)
    have hnode : (isItNetworkNode localNode).result = .success :=
      (isItNetworkNode_success_iff localNode).mpr ⟨_, _, Or.inl hbody⟩
    have hon := (onNetwork_iff noFile localNode).mpr ⟨rfl, hnode, rfl⟩
    have htouch :
        .ioctl (openBus noFile localNode).fd ∈
          ((openBus noFile localNode).call (fun _ => quietDevice) quietClient ((), [])
            (.readArray 32 1)).2.2 :=
      call_array (fun _ => quietDevice) quietClient hon.1 ((), []) rfl
    obtain ⟨hdevnode, -⟩ := hsafe.touched _ List.mem_cons_self _ htouch _ rfl
    exact not_onDevnode_of_onNetwork hon hdevnode

end Adav
end BrBox
