import BrBox.Adav.RpcMessages
import BrBox.Adav.RpcRouting

/-!
# Access to an I2C bus

An `I2CBusAccess` is opened on the device node of a bus or on a network node.  On
a network node every method calls the server there, whose `CmnRpc` handlers call
the same method of the `I2CBusAccess` that the server has opened.

The requests and answers are the texts that client and server print and parse.
The connection is faithful: the server gets the request, and the client its
answer.
-/

namespace BrBox
namespace Adav

open CText
open CxxText

universe u v

/-! ## The device node -/

/-- The functions of a device node and the state of its bus. -/
structure I2CDevice (σ : Type v) where
  /-- `ioctl` with `I2C_SLAVE` does not fail. -/
  setSlave : UInt8 → σ → Bool × σ
  /-- `i2c_smbus_read_byte`. -/
  smbusReadByte : σ → Int × σ
  /-- `i2c_smbus_write_byte`. -/
  smbusWriteByte : UInt8 → σ → Int × σ
  /-- `read`: the bytes that were read. -/
  read : Nat → σ → Bytes × σ
  /-- `write`: the number that it returns. -/
  write : Bytes → σ → Int × σ

/-- What a read returns, with the value if it has stored one. -/
abbrev ReadResult (α : Type) := RpcSrvResult × Option α

/-- The methods of an `I2CBusAccess`. -/
structure BusMethods (σ : Type v) where
  readByte : UInt32 → σ → ReadResult UInt8 × σ
  writeByte : UInt32 → UInt8 → σ → RpcSrvResult × σ
  readWord : UInt32 → σ → ReadResult UInt16 × σ
  writeWord : UInt32 → UInt16 → σ → RpcSrvResult × σ
  readDword : UInt32 → σ → ReadResult UInt32 × σ
  writeDword : UInt32 → UInt32 → σ → RpcSrvResult × σ

/-- `errno` after the device node was opened. -/
inductive OpenErrno where
  | enoent
  | enotdir
  | eacces
  | other
deriving DecidableEq, Repr

/-- `DevOpened` of a device node. -/
def OpenErrno.devOpened : OpenErrno → RpcSrvResult
  | .enoent => .fileNotFound
  | .enotdir => .fileNotFound
  | .eacces => .devnodeAccerr
  | .other => .success

namespace I2CDevice

variable {σ : Type v}

/-- `SetSlaveAddr`. -/
def setSlaveAddr (dev : I2CDevice σ) (addr : UInt8) (s : σ) : RpcSrvResult × σ :=
  let (ok, s) := dev.setSlave addr s
  (if ok then .success else .busError, s)

/-- What every method does first: a node that is not open and a slave address
that cannot be set end the call. -/
def withSlave
    {β : Type} (dev : I2CDevice σ) (errno : OpenErrno) (addr : UInt32)
    (failed : RpcSrvResult → β) (access : σ → β × σ) (s : σ) : β × σ :=
  if errno.devOpened ≠ .success then
    (failed errno.devOpened, s)
  else
    let (ret, s) := dev.setSlaveAddr addr.toUInt8 s
    if ret ≠ .success then (failed ret, s) else access s

/-- `read_byte`. -/
def readByte (dev : I2CDevice σ) (errno : OpenErrno) (addr : UInt32) :
    σ → ReadResult UInt8 × σ :=
  dev.withSlave errno addr (fun ret => (ret, none)) fun s =>
    let (smret, s) := dev.smbusReadByte s
    if smret < 0 then
      ((.fileReadErr, none), s)
    else
      ((.success, some (UInt8.ofInt smret)), s)

/-- `write_byte`. -/
def writeByte (dev : I2CDevice σ) (errno : OpenErrno) (addr : UInt32) (data : UInt8) :
    σ → RpcSrvResult × σ :=
  dev.withSlave errno addr id fun s =>
    let (smret, s) := dev.smbusWriteByte data s
    (if smret ≠ 0 then .fileWriteErr else .success, s)

/-- `read_word`. -/
def readWord (dev : I2CDevice σ) (errno : OpenErrno) (addr : UInt32) :
    σ → ReadResult UInt16 × σ :=
  dev.withSlave errno addr (fun ret => (ret, none)) fun s =>
    match dev.read 2 s with
    | ([b0, b1], s) => ((.success, some (b0.toUInt16 <<< 8 ||| b1.toUInt16)), s)
    | (_, s) => ((.fileReadErr, none), s)

/-- `write_word`. -/
def writeWord (dev : I2CDevice σ) (errno : OpenErrno) (addr : UInt32) (data : UInt16) :
    σ → RpcSrvResult × σ :=
  dev.withSlave errno addr id fun s =>
    let (count, s) := dev.write [(data >>> 8).toUInt8, data.toUInt8] s
    (if count ≠ 2 then .fileWriteErr else .success, s)

/-- `read_dword`. -/
def readDword (dev : I2CDevice σ) (errno : OpenErrno) (addr : UInt32) :
    σ → ReadResult UInt32 × σ :=
  dev.withSlave errno addr (fun ret => (ret, none)) fun s =>
    match dev.read 4 s with
    | ([b0, b1, b2, b3], s) =>
        ((.success, some (b0.toUInt32 <<< 24 ||| b1.toUInt32 <<< 16 |||
          b2.toUInt32 <<< 8 ||| b3.toUInt32)), s)
    | (_, s) => ((.fileReadErr, none), s)

/-- `write_dword`. -/
def writeDword (dev : I2CDevice σ) (errno : OpenErrno) (addr : UInt32) (data : UInt32) :
    σ → RpcSrvResult × σ :=
  dev.withSlave errno addr id fun s =>
    let (count, s) := dev.write
      [(data >>> 24).toUInt8, (data >>> 16).toUInt8, (data >>> 8).toUInt8,
        data.toUInt8] s
    (if count ≠ 4 then .fileWriteErr else .success, s)

/-- The methods on the device node. -/
def methods (dev : I2CDevice σ) (errno : OpenErrno) : BusMethods σ :=
  { readByte := dev.readByte errno
    writeByte := dev.writeByte errno
    readWord := dev.readWord errno
    writeWord := dev.writeWord errno
    readDword := dev.readDword errno
    writeDword := dev.writeDword errno }

end I2CDevice

/-! ## The server -/

/-- `RPCMGR_MIDDLEWARE_PACKET`. -/
structure MiddlewarePacket where
  addr : UInt32
  byte : UInt8
  word : UInt16
  dword : UInt32
deriving DecidableEq, Repr

/-- A network node during a call: the next id of its client, and of its server
the size of an `unsigned long` and what a new variable and a new packet hold. -/
structure NetworkNode where
  reqId : Int
  reqId_low : -2 ^ 31 ≤ reqId
  reqId_high : reqId < 2 ^ 31
  ulongBits : Nat
  ulongBits_eq : ulongBits = 32 ∨ ulongBits = 64
  tmp : Nat
  packet : MiddlewarePacket

/-- The commands of the bus, with their numbers in `EJSON_RPCGMGR_CMD`. -/
inductive MwCommand where
  | getMwByte
  | setMwByte
  | getMwWord
  | setMwWord
  | getMwDword
  | setMwDword
deriving DecidableEq, Repr

/-- The command of a number. -/
def mwCommand (index : Int) : Option MwCommand :=
  if index = 18 then some .getMwByte
  else if index = 19 then some .setMwByte
  else if index = 20 then some .getMwWord
  else if index = 21 then some .setMwWord
  else if index = 22 then some .getMwDword
  else if index = 23 then some .setMwDword
  else none

/-- The handlers that `main` attaches. -/
def i2csrvRpclist : List RpcHandler :=
  [.new (text "pcf8574_get") 0, .new (text "pcf8574_set") 1, cmnRpcHandler]

section Server

variable {J : Type u}
variable (lib : ClientJson J)

/-- The common part of the getters. -/
def jsonToBinGetMw (node : NetworkNode) (s : Bytes) : Option MiddlewarePacket :=
  (jsonStringToUlong lib node.ulongBits s (text "addr") node.tmp).map fun tmp =>
    { node.packet with addr := UInt32.ofNat tmp }

/-- `json_to_bin_get_mw_byte`. -/
def jsonToBinGetMwByte : NetworkNode → Bytes → Option MiddlewarePacket :=
  jsonToBinGetMw lib

/-- `json_to_bin_get_mw_word`. -/
def jsonToBinGetMwWord : NetworkNode → Bytes → Option MiddlewarePacket :=
  jsonToBinGetMw lib

/-- `json_to_bin_get_mw_dword`. -/
def jsonToBinGetMwDword : NetworkNode → Bytes → Option MiddlewarePacket :=
  jsonToBinGetMw lib

/-- The common part of the setters: both numbers are read into one variable. -/
def jsonToBinSetMw
    (store : MiddlewarePacket → Nat → MiddlewarePacket) (node : NetworkNode)
    (s : Bytes) : Option MiddlewarePacket :=
  (jsonStringToUlong lib node.ulongBits s (text "addr") node.tmp).bind fun addr =>
    (jsonStringToUlong lib node.ulongBits s (text "data") addr).map fun tmp =>
      store { node.packet with addr := UInt32.ofNat addr } tmp

/-- `json_to_bin_set_mw_byte`. -/
def jsonToBinSetMwByte : NetworkNode → Bytes → Option MiddlewarePacket :=
  jsonToBinSetMw lib fun p tmp => { p with byte := UInt8.ofNat tmp }

/-- `json_to_bin_set_mw_word`: the cast is that of a byte. -/
def jsonToBinSetMwWord : NetworkNode → Bytes → Option MiddlewarePacket :=
  jsonToBinSetMw lib fun p tmp => { p with word := (UInt8.ofNat tmp).toUInt16 }

/-- `json_to_bin_set_mw_dword`: the cast is that of a byte. -/
def jsonToBinSetMwDword : NetworkNode → Bytes → Option MiddlewarePacket :=
  jsonToBinSetMw lib fun p tmp => { p with dword := (UInt8.ofNat tmp).toUInt32 }

/-- `MyMapJsonToBinary`. -/
def myMapJsonToBinary : MwCommand → NetworkNode → Bytes → Option MiddlewarePacket
  | .getMwByte => jsonToBinGetMwByte lib
  | .setMwByte => jsonToBinSetMwByte lib
  | .getMwWord => jsonToBinGetMwWord lib
  | .setMwWord => jsonToBinSetMwWord lib
  | .getMwDword => jsonToBinGetMwDword lib
  | .setMwDword => jsonToBinSetMwDword lib

/-- `process_get_mw_byte`, and its siblings for the other widths: a read that
stores nothing leaves the packet. -/
def processGetMw
    {σ : Type v} {α : Type} (read : UInt32 → σ → ReadResult α × σ)
    (store : MiddlewarePacket → α → MiddlewarePacket) (p : MiddlewarePacket) (s : σ) :
    (RpcSrvResult × MiddlewarePacket) × σ :=
  let (r, s) := read p.addr s
  ((r.1, (r.2.map (store p)).getD p), s)

/-- `process_set_mw_byte`, and its siblings for the other widths. -/
def processSetMw
    {σ : Type v} {α : Type} (write : UInt32 → α → σ → RpcSrvResult × σ)
    (load : MiddlewarePacket → α) (p : MiddlewarePacket) (s : σ) :
    (RpcSrvResult × MiddlewarePacket) × σ :=
  let (r, s) := write p.addr (load p) s
  ((r, p), s)

/-- `ProcessWork` of `CmnRpc`. -/
def cmnProcessWork
    {σ : Type v} (m : BusMethods σ) :
    MwCommand → MiddlewarePacket → σ → (RpcSrvResult × MiddlewarePacket) × σ
  | .getMwByte => processGetMw m.readByte fun p data => { p with byte := data }
  | .setMwByte => processSetMw m.writeByte fun p => p.byte
  | .getMwWord => processGetMw m.readWord fun p data => { p with word := data }
  | .setMwWord => processSetMw m.writeWord fun p => p.word
  | .getMwDword => processGetMw m.readDword fun p data => { p with dword := data }
  | .setMwDword => processSetMw m.writeDword fun p => p.dword

/-- `PREPARE_JSON_RESP_INT`. -/
def prepareJsonRespInt (result : RpcSrvResult) (value : Nat) : J :=
  if result = .success ∨ result = .inProg then
    prepareResultString lib result [(text "data", lib.newInt (wrapInt32 value))]
  else
    prepareResultString lib result []

/-- `MyMapBinaryToJson`. -/
def myMapBinaryToJson (result : RpcSrvResult) (p : MiddlewarePacket) : MwCommand → J
  | .getMwByte => prepareJsonRespInt lib result p.byte.toNat
  | .setMwByte => prepareResultString lib result []
  | .getMwWord => prepareJsonRespInt lib result p.word.toNat
  | .setMwWord => prepareResultString lib result []
  | .getMwDword => prepareJsonRespInt lib result p.dword.toNat
  | .setMwDword => prepareResultString lib result []

/-- A request that was checked is rejected, or mapped, processed and answered.  The
methods that do not access the bus are left out. -/
def answerRequest
    (node : NetworkNode) {σ : Type v} (m : BusMethods σ) (request : Bytes) (s : σ) :
    RequestVerdict → RpcMessage J × σ
  | .reject err id => (jsonSendErrorResponse id err, s)
  | .accept id command _ =>
      match mwCommand command.methodIndex with
      | none => (.result (.failed "Unknown") id, s)
      | some cmd =>
          match myMapJsonToBinary lib cmd node request with
          | none => (.result (.failed "ParamError") id, s)
          | some p =>
              let ((result, p), s) := cmnProcessWork m cmd p s
              (.result (.object (myMapBinaryToJson lib result p cmd)) id, s)

/-- The proxy and the mapper of a server. -/
def serve
    (checker : Bytes → Bool) (node : NetworkNode) {σ : Type v} (m : BusMethods σ)
    (request : Bytes) (s : σ) : RpcMessage J × σ :=
  answerRequest lib node m request s
    (jsonProcessRequest (proxyLib lib checker) (startMethods i2csrvRpclist) request).value

end Server

/-! ## The network node -/

section Network

variable {J : Type u}
variable (lib : ClientJson J)
variable (checker : Bytes → Bool)
variable {σ : Type v}

/-- A call of the client that reaches the server and gets its answer. -/
def callServer
    (node : NetworkNode) (m : BusMethods σ) (call : ClientCall) (s : σ) :
    CallOutcome × σ :=
  let (message, s) := serve lib checker node m (lib.prepareJsonRequest call node.reqId) s
  (lib.outcome call (messageText lib message), s)

/-- The common part of the reads on a network node. -/
def networkRead
    {α : Type} (cast : Int → α) (method : Bytes) (node : NetworkNode)
    (m : BusMethods σ) (addr : UInt32) (s : σ) : ReadResult α × σ :=
  let (o, s) := callServer lib checker node m
    (ClientCall.getIntegerTypeWithAddrPara method (text "addr") (wrapInt32 addr.toNat)
      (text "data")) s
  ((o.1, if o.1 = .success then some (cast (atoi (o.2.getD []))) else none), s)

/-- The common part of the writes on a network node. -/
def networkWrite
    (method : Bytes) (node : NetworkNode) (m : BusMethods σ) (addr : UInt32) (data : Nat)
    (s : σ) : RpcSrvResult × σ :=
  let (o, s) := callServer lib checker node m
    (ClientCall.setIntegerTypeWithAddrPara method (text "addr") (wrapInt32 addr.toNat)
      (text "data") (wrapInt32 data)) s
  (o.1, s)

/-- The methods on a network node that is connected. -/
def networkMethods (node : NetworkNode) (m : BusMethods σ) : BusMethods σ :=
  { readByte := networkRead lib checker UInt8.ofInt (text "read_byte") node m
    writeByte := fun addr data =>
      networkWrite lib checker (text "write_byte") node m addr data.toNat
    readWord := networkRead lib checker UInt16.ofInt (text "read_word") node m
    writeWord := fun addr data =>
      networkWrite lib checker (text "write_word") node m addr data.toNat
    readDword := networkRead lib checker UInt32.ofInt (text "read_dword") node m
    writeDword := fun addr data =>
      networkWrite lib checker (text "write_dword") node m addr data.toNat }

/-- The methods on a network node that was not reached. -/
def unreachedMethods : BusMethods σ :=
  { readByte := fun _ s => ((.hostNotReachableErr, none), s)
    writeByte := fun _ _ s => (.hostNotReachableErr, s)
    readWord := fun _ s => ((.hostNotReachableErr, none), s)
    writeWord := fun _ _ s => (.hostNotReachableErr, s)
    readDword := fun _ s => ((.hostNotReachableErr, none), s)
    writeDword := fun _ _ s => (.hostNotReachableErr, s) }

/-- `I2CBusAccess`: a device node, or a network node with the access that its
server has opened. -/
inductive I2CBusAccess where
  | devnode (errno : OpenErrno)
  | network (connected : Bool) (node : NetworkNode) (server : I2CBusAccess)

/-- The methods of an access. -/
def I2CBusAccess.methods (dev : I2CDevice σ) : I2CBusAccess → BusMethods σ
  | .devnode errno => dev.methods errno
  | .network connected node server =>
      if connected then
        networkMethods lib checker node (server.methods dev)
      else
        unreachedMethods

end Network

end Adav
end BrBox
