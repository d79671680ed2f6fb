import BrBox.Adav.I2CBusAccess

/-!
# Remote access to an I2C bus

Through any number of network nodes the reads and `write_byte` do on the bus what
they do on the device node itself.  Numbers go through `int` and its decimal text
in both directions, and nothing is lost of an address or a value, but the server
casts the data of `write_word` and `write_dword` to a byte.

* `remote_iff`: remote access equals local access exactly if the data of such a
  write fits into a byte, or if the device node could not be opened.
* `not_remote_writeWord`: a word that does not is cut on its way.
-/

namespace BrBox
namespace Adav

open CText
open CxxText

universe u v

/-! ## Numbers on their way -/

/-- A scanned address is the one that was sent. -/
theorem ofNat_ulong
    {bits : Nat} (hbits : bits = 32 ∨ bits = 64) (a : UInt32) :
    UInt32.ofNat (wrapInt32 a.toNat % 2 ^ bits).toNat = a := by
  apply UInt32.toNat_inj.mp
  have hmod := ulong_mod hbits a.toNat
  have hlt := a.toNat_lt
  simp only [UInt32.toNat_ofNat']
  omega

/-- A scanned number that is cast to a byte is the low byte of what was sent. -/
theorem byte_ulong
    {bits : Nat} (hbits : bits = 32 ∨ bits = 64) (n : Nat) :
    UInt8.ofNat (wrapInt32 n % 2 ^ bits).toNat = UInt8.ofNat n := by
  apply UInt8.toNat_inj.mp
  have hmod := ulong_mod hbits n
  simp only [UInt8.toNat_ofNat']
  omega

/-- A byte that was answered is read back. -/
theorem ofInt_byte
    (v : UInt8) :
    UInt8.ofInt (wrapInt32 v.toNat) = v := by
  apply UInt8.toNat_inj.mp
  have hmod := wrapInt32_emod v.toNat
  have hlt := v.toNat_lt
  simp only [UInt8.ofInt, UInt8.toNat_ofNat']
  omega

/-- A word that was answered is read back. -/
theorem ofInt_word
    (v : UInt16) :
    UInt16.ofInt (wrapInt32 v.toNat) = v := by
  apply UInt16.toNat_inj.mp
  have hmod := wrapInt32_emod v.toNat
  have hlt := v.toNat_lt
  simp only [UInt16.ofInt, UInt16.toNat_ofNat']
  omega

/-- A double word that was answered is read back, negative or not. -/
theorem ofInt_dword
    (v : UInt32) :
    UInt32.ofInt (wrapInt32 v.toNat) = v := by
  apply UInt32.toNat_inj.mp
  have hmod := wrapInt32_emod v.toNat
  have hlt := v.toNat_lt
  simp only [UInt32.ofInt, UInt32.toNat_ofNat']
  omega

/-! ## One network node -/

/-- The method is registered under the number of the command. -/
def Registered (method : Bytes) (cmd : MwCommand) : Prop :=
  PlainText method ∧
    (isThisMethodRegistered (startMethods i2csrvRpclist) method).bind
      (fun command => mwCommand command.methodIndex) = some cmd

instance (method : Bytes) (cmd : MwCommand) : Decidable (Registered method cmd) :=
  inferInstanceAs (Decidable (_ ∧ _))

theorem mw_registered :
    Registered (text "read_byte") .getMwByte ∧ Registered (text "write_byte") .setMwByte ∧
    Registered (text "read_word") .getMwWord ∧ Registered (text "write_word") .setMwWord ∧
    Registered (text "read_dword") .getMwDword ∧
    Registered (text "write_dword") .setMwDword := by
  decide +kernel

/-- The calls of the methods arrive as they were sent. -/
theorem sendable_get
    {method : Bytes} (hmethod : PlainText method) (addr : Nat) :
    Sendable (ClientCall.getIntegerTypeWithAddrPara method (text "addr") (wrapInt32 addr)
      (text "data")) where
  method := hmethod
  nonempty := by simp [ClientCall.getIntegerTypeWithAddrPara]
  names := by simp [ClientCall.getIntegerTypeWithAddrPara]
  plain := by
    intro p hp
    obtain rfl := List.mem_singleton.mp hp
    exact (by decide : PlainText (text "addr"))
  args := by
    intro p hp
    obtain rfl := List.mem_singleton.mp hp
    exact wrapInt32_range _

theorem sendable_set
    {method : Bytes} (hmethod : PlainText method) (addr data : Nat) :
    Sendable (ClientCall.setIntegerTypeWithAddrPara method (text "addr") (wrapInt32 addr)
      (text "data") (wrapInt32 data)) where
  method := hmethod
  nonempty := by simp [ClientCall.setIntegerTypeWithAddrPara]
  names := by
    simp only [ClientCall.setIntegerTypeWithAddrPara, List.map_cons, List.map_nil]
    decide
  plain := by
    intro p hp
    simp only [ClientCall.setIntegerTypeWithAddrPara, List.mem_cons, List.not_mem_nil,
      or_false] at hp
    rcases hp with rfl | rfl
    · exact (by decide : PlainText (text "addr"))
    · exact (by decide : PlainText (text "data"))
  args := by
    intro p hp
    simp only [ClientCall.setIntegerTypeWithAddrPara, List.mem_cons, List.not_mem_nil,
      or_false] at hp
    rcases hp with rfl | rfl
    · exact wrapInt32_range _
    · exact wrapInt32_range _

/-- A read that stores a value exactly if it succeeds, and reports a result that
can be sent. -/
def RegularRead {α : Type} (r : ReadResult α) : Prop :=
  (∃ v, r = (.success, some v)) ∨ (r.1 ≠ .success ∧ r.1 ≠ .none ∧ r.2 = none)

theorem RegularRead.ne_none
    {α : Type} {r : ReadResult α} (hr : RegularRead r) :
    r.1 ≠ .none := by
  rcases hr with ⟨v, rfl⟩ | ⟨-, hne, -⟩
  · simp
  · exact hne

/-- The data that a getter answers with. -/
def answeredData (result : RpcSrvResult) (value : Nat) : Option Int :=
  if result = .success ∨ result = .inProg then some (wrapInt32 value) else none

theorem prepareJsonRespInt_eq
    {J : Type u} (lib : ClientJson J) (result : RpcSrvResult) (value : Nat) :
    prepareJsonRespInt lib result value =
      prepareResultString lib result (dataField lib (answeredData result value)) := by
  unfold prepareJsonRespInt answeredData
  split <;> rfl

theorem answeredData_range
    (result : RpcSrvResult) (value : Nat) :
    ∀ d ∈ answeredData result value, -2 ^ 31 ≤ d ∧ d < 2 ^ 31 := by
  intro d hd
  unfold answeredData at hd
  split at hd
  · obtain rfl := Option.some.inj hd
    exact wrapInt32_range _
  · cases hd

/-- The client takes from the answer what the read of the server has stored. -/
theorem RegularRead.answered
    {α : Type} {r : ReadResult α} (hr : RegularRead r)
    {cast : Int → α} {store : MiddlewarePacket → α → MiddlewarePacket}
    {load : MiddlewarePacket → Nat}
    (hcast : ∀ p v, cast (wrapInt32 (load (store p v))) = v)
    (p : MiddlewarePacket) (initial : Bytes) :
    (r.1, if r.1 = .success then
      some (cast (atoi ((some (((answeredData r.1
        (load ((r.2.map (store p)).getD p))).map decimalText).getD initial)).getD [])))
      else none) = r := by
  obtain ⟨v, rfl⟩ | ⟨hfail, -, hnone⟩ := hr
  · obtain ⟨hlow, hhigh⟩ := wrapInt32_range (load (store p v))
    have hdata : answeredData .success (load (store p v)) =
        some (wrapInt32 (load (store p v))) := if_pos (.inl rfl)
    -- By rewriting: `simp` leaves to the kernel an unfolding of `decimalText`.
    rw [if_pos rfl, Option.map_some, Option.getD_some, Option.getD_some, hdata,
      Option.map_some, Option.getD_some, atoi_decimalText hlow hhigh, hcast]
  · rw [if_neg hfail, ← hnone]

/-- Methods whose reads are regular and whose results can be sent. -/
structure BusMethods.Regular {σ : Type v} (m : BusMethods σ) : Prop where
  readByte : ∀ addr s, RegularRead (m.readByte addr s).1
  writeByte : ∀ addr data s, (m.writeByte addr data s).1 ≠ .none
  readWord : ∀ addr s, RegularRead (m.readWord addr s).1
  writeWord : ∀ addr data s, (m.writeWord addr data s).1 ≠ .none
  readDword : ∀ addr s, RegularRead (m.readDword addr s).1
  writeDword : ∀ addr data s, (m.writeDword addr data s).1 ≠ .none

/-- The methods with words and double words cut to a byte before they are
written. -/
def BusMethods.cutWrites {σ : Type v} (m : BusMethods σ) : BusMethods σ :=
  { m with
    writeWord := fun addr data => m.writeWord addr data.toUInt8.toUInt16
    writeDword := fun addr data => m.writeDword addr data.toUInt8.toUInt32 }

section OneNode

variable {J : Type u} {lib : ClientJson J} {checker : Bytes → Bool}
variable (hjson : FaithfulJson lib checker)
variable {σ : Type v}
include hjson

/-- A getter's request as a packet. -/
theorem jsonToBinGetMw_request
    (node : NetworkNode) {method : Bytes} (hmethod : PlainText method) (addr : UInt32) :
    jsonToBinGetMw lib node (lib.prepareJsonRequest
      (ClientCall.getIntegerTypeWithAddrPara method (text "addr") (wrapInt32 addr.toNat)
        (text "data")) node.reqId) = some { node.packet with addr := addr } := by
  rw [jsonToBinGetMw, jsonStringToUlong_request hjson node.ulongBits_eq
    (sendable_get hmethod _) node.reqId_low node.reqId_high (n := addr.toNat)
    (by simp [ClientCall.getIntegerTypeWithAddrPara]), Option.map_some,
    ofNat_ulong node.ulongBits_eq]

/-- A setter's request as a packet. -/
theorem jsonToBinSetMw_request
    (store : MiddlewarePacket → Nat → MiddlewarePacket)
    (node : NetworkNode) {method : Bytes} (hmethod : PlainText method)
    (addr : UInt32) (data : Nat) :
    jsonToBinSetMw lib store node (lib.prepareJsonRequest
      (ClientCall.setIntegerTypeWithAddrPara method (text "addr") (wrapInt32 addr.toNat)
        (text "data") (wrapInt32 data)) node.reqId) =
      some (store { node.packet with addr := addr }
        (wrapInt32 data % 2 ^ node.ulongBits).toNat) := by
  have hne : text "addr" ≠ text "data" := by
    decide
  have hcall := sendable_set hmethod addr.toNat data
  rw [jsonToBinSetMw,
    jsonStringToUlong_request hjson node.ulongBits_eq hcall node.reqId_low
      node.reqId_high (n := addr.toNat)
      (by simp [ClientCall.setIntegerTypeWithAddrPara]),
    Option.bind_some,
    jsonStringToUlong_request hjson node.ulongBits_eq hcall node.reqId_low
      node.reqId_high (n := data)
      (by simp [ClientCall.setIntegerTypeWithAddrPara, hne]),
    Option.map_some, ofNat_ulong node.ulongBits_eq]

/-- The server processes a request of a registered method. -/
theorem serve_request
    (node : NetworkNode) (m : BusMethods σ) {call : ClientCall} (hcall : Sendable call)
    {cmd : MwCommand} (hregistered : Registered call.method cmd)
    {p : MiddlewarePacket}
    (hmap : myMapJsonToBinary lib cmd node (lib.prepareJsonRequest call node.reqId) =
      some p) (s : σ) :
    serve lib checker node m (lib.prepareJsonRequest call node.reqId) s =
      (.result (.object (myMapBinaryToJson lib (cmnProcessWork m cmd p s).1.1
        (cmnProcessWork m cmd p s).1.2 cmd)) node.reqId, (cmnProcessWork m cmd p s).2) := by
  obtain ⟨command, hcommand, hcmd⟩ := Option.bind_eq_some_iff.mp hregistered.2
  rw [serve, jsonProcessRequest_request hjson hcall node.reqId_low node.reqId_high hcommand]
  simp only [answerRequest, hcmd, hmap]

/-- A read on a network node is the read of its server. -/
theorem networkRead_eq
    {α : Type} {cast : Int → α} {method : Bytes} {cmd : MwCommand}
    (node : NetworkNode) {m : BusMethods σ} {read : UInt32 → σ → ReadResult α × σ}
    {store : MiddlewarePacket → α → MiddlewarePacket} (load : MiddlewarePacket → Nat)
    (hregistered : Registered method cmd)
    (hmap : myMapJsonToBinary lib cmd = jsonToBinGetMw lib)
    (hprocess : cmnProcessWork m cmd = processGetMw read store)
    (hanswer : ∀ result p, myMapBinaryToJson lib result p cmd =
      prepareJsonRespInt lib result (load p))
    (hcast : ∀ p v, cast (wrapInt32 (load (store p v))) = v)
    (hread : ∀ addr s, RegularRead (read addr s).1) (addr : UInt32) (s : σ) :
    networkRead lib checker cast method node m addr s = read addr s := by
  have hmap' := (congrFun (congrFun hmap node) _).trans
    (jsonToBinGetMw_request hjson node hregistered.1 addr)
  have hserve := serve_request hjson node m (sendable_get hregistered.1 addr.toNat)
    hregistered hmap' s
  have hregular := hread addr s
  rw [networkRead, callServer, hserve]
  simp only [hprocess, processGetMw, hanswer, messageText, prepareJsonRespInt_eq]
  rw [outcome_get hjson rfl node.reqId_low node.reqId_high hregular.ne_none
    (answeredData_range _ _)]
  exact Prod.ext (hregular.answered hcast _ _) rfl

/-- A write on a network node is the write of its server with the number that the
server has stored. -/
theorem networkWrite_eq
    {α : Type} {method : Bytes} {cmd : MwCommand}
    (node : NetworkNode) {m : BusMethods σ} {write : UInt32 → α → σ → RpcSrvResult × σ}
    (store : MiddlewarePacket → Nat → MiddlewarePacket) {load : MiddlewarePacket → α}
    (hregistered : Registered method cmd)
    (hmap : myMapJsonToBinary lib cmd = jsonToBinSetMw lib store)
    (hprocess : cmnProcessWork m cmd = processSetMw write load)
    (hanswer : ∀ result p, myMapBinaryToJson lib result p cmd =
      prepareResultString lib result [])
    (haddr : ∀ p tmp, (store p tmp).addr = p.addr)
    (hwrite : ∀ addr data s, (write addr data s).1 ≠ .none)
    (addr : UInt32) (data : Nat) (s : σ) :
    networkWrite lib checker method node m addr data s =
      write addr (load (store { node.packet with addr := addr }
        (wrapInt32 data % 2 ^ node.ulongBits).toNat)) s := by
  have hmap' := (congrFun (congrFun hmap node) _).trans
    (jsonToBinSetMw_request hjson store node hregistered.1 addr data)
  have hserve := serve_request hjson node m (sendable_set hregistered.1 addr.toNat data)
    hregistered hmap' s
  rw [networkWrite, callServer, hserve]
  simp only [hprocess, processSetMw, hanswer, messageText, haddr]
  rw [outcome_set hjson rfl node.reqId_low node.reqId_high (hwrite _ _ _)]

/-- A network node passes on everything but the upper bytes of a write. -/
theorem networkMethods_eq
    (node : NetworkNode) {m : BusMethods σ} (hm : m.Regular) :
    networkMethods lib checker node m = m.cutWrites := by
  obtain ⟨hrb, hwb, hrw, hww, hrd, hwd⟩ := mw_registered
  have hreadByte : networkRead lib checker UInt8.ofInt (text "read_byte") node m =
      m.readByte := by
    funext addr s
    exact networkRead_eq hjson node (fun p => p.byte.toNat) hrb rfl rfl
      (fun _ _ => rfl) (fun _ v => ofInt_byte v) hm.readByte addr s
  have hreadWord : networkRead lib checker UInt16.ofInt (text "read_word") node m =
      m.readWord := by
    funext addr s
    exact networkRead_eq hjson node (fun p => p.word.toNat) hrw rfl rfl
      (fun _ _ => rfl) (fun _ v => ofInt_word v) hm.readWord addr s
  have hreadDword : networkRead lib checker UInt32.ofInt (text "read_dword") node m =
      m.readDword := by
    funext addr s
    exact networkRead_eq hjson node (fun p => p.dword.toNat) hrd rfl rfl
      (fun _ _ => rfl) (fun _ v => ofInt_dword v) hm.readDword addr s
  have hwriteByte : (fun (addr : UInt32) (data : UInt8) =>
      networkWrite lib checker (text "write_byte") node m addr data.toNat) =
        m.writeByte := by
    funext addr data s
    rw [networkWrite_eq hjson node (fun p tmp => { p with byte := UInt8.ofNat tmp }) hwb
      rfl rfl (fun _ _ => rfl) (fun _ _ => rfl) hm.writeByte,
      byte_ulong node.ulongBits_eq, UInt8.ofNat_toNat]
  have hwriteWord : (fun (addr : UInt32) (data : UInt16) =>
      networkWrite lib checker (text "write_word") node m addr data.toNat) =
        fun addr data => m.writeWord addr data.toUInt8.toUInt16 := by
    funext addr data s
    rw [networkWrite_eq hjson node (fun p tmp => { p with word := (UInt8.ofNat tmp).toUInt16 }) hww
      rfl rfl (fun _ _ => rfl) (fun _ _ => rfl) hm.writeWord,
      byte_ulong node.ulongBits_eq, UInt8.ofNat_uInt16ToNat]
  have hwriteDword : (fun (addr : UInt32) (data : UInt32) =>
      networkWrite lib checker (text "write_dword") node m addr data.toNat) =
        fun addr data => m.writeDword addr data.toUInt8.toUInt32 := by
    funext addr data s
    rw [networkWrite_eq hjson node (fun p tmp => { p with dword := (UInt8.ofNat tmp).toUInt32 }) hwd
      rfl rfl (fun _ _ => rfl) (fun _ _ => rfl) hm.writeDword,
      byte_ulong node.ulongBits_eq, UInt8.ofNat_uInt32ToNat]
  rw [networkMethods, hreadByte, hreadWord, hreadDword, hwriteByte, hwriteWord,
    hwriteDword]
  rfl

end OneNode

/-! ## Any number of network nodes -/

namespace I2CDevice

variable {σ : Type v} (dev : I2CDevice σ)

/-- A method that fails before its access reports an error. -/
theorem withSlave_cases
    {β : Type} (errno : OpenErrno) (addr : UInt32) (failed : RpcSrvResult → β)
    (access : σ → β × σ) (s : σ) :
    (∃ r, r ≠ .success ∧ r ≠ .none ∧
      (dev.withSlave errno addr failed access s).1 = failed r) ∨
    ∃ s', dev.withSlave errno addr failed access s = access s' := by
  unfold withSlave
  by_cases hopen : errno.devOpened = .success
  · rw [if_neg (not_not.mpr hopen)]
    cases hslave : (dev.setSlave addr.toUInt8 s).1 with
    | true =>
        exact .inr ⟨(dev.setSlave addr.toUInt8 s).2, by simp [setSlaveAddr, hslave]⟩
    | false =>
        exact .inl ⟨.busError, by decide, by decide, by simp [setSlaveAddr, hslave]⟩
  · rw [if_pos hopen]
    refine .inl ⟨errno.devOpened, hopen, ?_, rfl⟩
    cases errno <;> decide

/-- A read is regular if its access is. -/
theorem regularRead_withSlave
    {α : Type} (errno : OpenErrno) (addr : UInt32) {access : σ → ReadResult α × σ}
    (haccess : ∀ s, RegularRead (access s).1) (s : σ) :
    RegularRead (dev.withSlave errno addr (fun ret => (ret, none)) access s).1 := by
  rcases dev.withSlave_cases errno addr (fun ret => ((ret, none) : ReadResult α)) access s
    with ⟨r, hfail, hne, hr⟩ | ⟨s', hs'⟩
  · rw [hr]
    exact .inr ⟨hfail, hne, rfl⟩
  · rw [hs']
    exact haccess s'

/-- The result of a write can be sent if that of its access can. -/
theorem write_withSlave
    (errno : OpenErrno) (addr : UInt32) {access : σ → RpcSrvResult × σ}
    (haccess : ∀ s, (access s).1 ≠ .none) (s : σ) :
    (dev.withSlave errno addr id access s).1 ≠ .none := by
  rcases dev.withSlave_cases errno addr id access s with ⟨r, -, hne, hr⟩ | ⟨s', hs'⟩
  · rw [hr]
    exact hne
  · rw [hs']
    exact haccess s'

/-- The methods on a device node are regular. -/
theorem methods_regular
    (errno : OpenErrno) :
    (dev.methods errno).Regular where
  readByte := by
    intro addr s
    refine dev.regularRead_withSlave errno addr (fun s => ?_) s
    dsimp only
    split
    · exact .inr ⟨by simp, by simp, rfl⟩
    · exact .inl ⟨_, rfl⟩
  writeByte := by
    intro addr data s
    refine dev.write_withSlave errno addr (fun s => ?_) s
    dsimp only
    split <;> decide
  readWord := by
    intro addr s
    refine dev.regularRead_withSlave errno addr (fun s => ?_) s
    split
    · exact .inl ⟨_, rfl⟩
    · exact .inr ⟨by simp, by simp, rfl⟩
  writeWord := by
    intro addr data s
    refine dev.write_withSlave errno addr (fun s => ?_) s
    dsimp only
    split <;> decide
  readDword := by
    intro addr s
    refine dev.regularRead_withSlave errno addr (fun s => ?_) s
    split
    · exact .inl ⟨_, rfl⟩
    · exact .inr ⟨by simp, by simp, rfl⟩
  writeDword := by
    intro addr data s
    refine dev.write_withSlave errno addr (fun s => ?_) s
    dsimp only
    split <;> decide

end I2CDevice

/-- An `I2CBusAccess` through connected network nodes, the first one nearest, to a
device node. -/
def overNetwork (errno : OpenErrno) : List NetworkNode → I2CBusAccess
  | [] => .devnode errno
  | node :: nodes => .network true node (overNetwork errno nodes)

namespace BusMethods

variable {σ : Type v} {m : BusMethods σ}

/-- Cutting leaves the methods regular. -/
theorem Regular.cutWrites
    (hm : m.Regular) :
    m.cutWrites.Regular where
  readByte := hm.readByte
  writeByte := hm.writeByte
  readWord := hm.readWord
  writeWord := fun addr data s => hm.writeWord addr data.toUInt8.toUInt16 s
  readDword := hm.readDword
  writeDword := fun addr data s => hm.writeDword addr data.toUInt8.toUInt32 s

/-- A byte is not cut again. -/
theorem cutWrites_cutWrites :
    m.cutWrites.cutWrites = m.cutWrites := by
  have hword : ∀ data : UInt16, data.toUInt8.toUInt16.toUInt8 = data.toUInt8 :=
    fun data => UInt8.toUInt8_toUInt16 data.toUInt8
  have hdword : ∀ data : UInt32, data.toUInt8.toUInt32.toUInt8 = data.toUInt8 :=
    fun data => UInt8.toUInt8_toUInt32 data.toUInt8
  simp only [cutWrites, hword, hdword]

end BusMethods

/-- Any number of network nodes cut what one of them cuts. -/
theorem methods_overNetwork
    {J : Type u} {lib : ClientJson J} {checker : Bytes → Bool}
    (hjson : FaithfulJson lib checker)
    {σ : Type v} (dev : I2CDevice σ) (errno : OpenErrno)
    {nodes : List NetworkNode} (hnodes : nodes ≠ []) :
    (overNetwork errno nodes).methods lib checker dev = (dev.methods errno).cutWrites := by
  have hdev := dev.methods_regular errno
  induction nodes with
  | nil =>
      exact absurd rfl hnodes
  | cons node nodes ih =>
      simp only [overNetwork, I2CBusAccess.methods, if_true]
      by_cases hrest : nodes = []
      · subst hrest
        exact networkMethods_eq hjson node hdev
      · rw [ih hrest, networkMethods_eq hjson node hdev.cutWrites,
          BusMethods.cutWrites_cutWrites]

/-! ## Remote and local access -/

/-- A call of a method. -/
inductive BusOp where
  | readByte (addr : UInt32)
  | writeByte (addr : UInt32) (data : UInt8)
  | readWord (addr : UInt32)
  | writeWord (addr : UInt32) (data : UInt16)
  | readDword (addr : UInt32)
  | writeDword (addr : UInt32) (data : UInt32)
deriving DecidableEq, Repr

/-- The result code of a call and the data of a read. -/
inductive BusResult where
  | written (ret : RpcSrvResult)
  | byte (r : ReadResult UInt8)
  | word (r : ReadResult UInt16)
  | dword (r : ReadResult UInt32)
deriving DecidableEq, Repr

/-- What a call returns and the bus after it. -/
def BusMethods.call {σ : Type v} (m : BusMethods σ) (s : σ) : BusOp → BusResult × σ
  | .readByte addr => (m.readByte addr s).map .byte id
  | .writeByte addr data => (m.writeByte addr data s).map .written id
  | .readWord addr => (m.readWord addr s).map .word id
  | .writeWord addr data => (m.writeWord addr data s).map .written id
  | .readDword addr => (m.readDword addr s).map .dword id
  | .writeDword addr data => (m.writeDword addr data s).map .written id

/-- The call that the device node gets to see. -/
def BusOp.cut : BusOp → BusOp
  | .writeWord addr data => .writeWord addr data.toUInt8.toUInt16
  | .writeDword addr data => .writeDword addr data.toUInt8.toUInt32
  | op => op

/-- The data of a write fits into a byte. -/
def BusOp.FitsByte : BusOp → Prop
  | .writeWord _ data => data.toNat < 256
  | .writeDword _ data => data.toNat < 256
  | _ => True

instance : ∀ op : BusOp, Decidable op.FitsByte
  | .writeWord _ _ => inferInstanceAs (Decidable (_ < _))
  | .writeDword _ _ => inferInstanceAs (Decidable (_ < _))
  | .readByte _ => isTrue trivial
  | .writeByte _ _ => isTrue trivial
  | .readWord _ => isTrue trivial
  | .readDword _ => isTrue trivial

theorem BusMethods.call_cutWrites
    {σ : Type v} (m : BusMethods σ) (s : σ) (op : BusOp) :
    m.cutWrites.call s op = m.call s op.cut := by
  cases op <;> rfl

/-- Data that fits into a byte is not cut. -/
theorem BusOp.cut_eq_self
    {op : BusOp} (hop : op.FitsByte) :
    op.cut = op := by
  cases op with
  | writeWord addr data =>
      have hdata : data.toUInt8.toUInt16 = data := by
        apply UInt16.toNat_inj.mp
        have hlt : data.toNat < 256 := hop
        simp only [UInt8.toNat_toUInt16, UInt16.toNat_toUInt8]
        omega
      rw [cut, hdata]
  | writeDword addr data =>
      have hdata : data.toUInt8.toUInt32 = data := by
        apply UInt32.toNat_inj.mp
        have hlt : data.toNat < 256 := hop
        simp only [UInt8.toNat_toUInt32, UInt32.toNat_toUInt8]
        omega
      rw [cut, hdata]
  | _ =>
      rfl

/-- A device node that could not be opened does not look at the data. -/
theorem BusMethods.call_cut_of_not_open
    {σ : Type v} (dev : I2CDevice σ) {errno : OpenErrno}
    (hopen : errno.devOpened ≠ .success) (s : σ) (op : BusOp) :
    (dev.methods errno).call s op.cut = (dev.methods errno).call s op := by
  cases op with
  | writeWord addr data =>
      simp [call, BusOp.cut, I2CDevice.methods, I2CDevice.writeWord, I2CDevice.withSlave,
        hopen]
  | writeDword addr data =>
      simp [call, BusOp.cut, I2CDevice.methods, I2CDevice.writeDword, I2CDevice.withSlave,
        hopen]
  | _ =>
      rfl

/-- A bus that keeps what is written. -/
def recorder : I2CDevice (List Bytes) :=
  { setSlave := fun _ s => (true, s)
    smbusReadByte := fun s => (0, s)
    smbusWriteByte := fun data s => (0, [data] :: s)
    read := fun _ s => ([], s)
    write := fun data s => (data.length, data :: s) }

/-- The bytes of a word on that bus. -/
theorem recorder_writeWord
    {errno : OpenErrno} (hopen : errno.devOpened = .success)
    (addr : UInt32) (data : UInt16) :
    ((recorder.methods errno).call [] (.writeWord addr data)).2 =
      [[(data >>> 8).toUInt8, data.toUInt8]] := by
  simp only [BusMethods.call, I2CDevice.methods, I2CDevice.writeWord, I2CDevice.withSlave,
    I2CDevice.setSlaveAddr, recorder, hopen]
  rfl

/-- The bytes of a double word on that bus. -/
theorem recorder_writeDword
    {errno : OpenErrno} (hopen : errno.devOpened = .success)
    (addr : UInt32) (data : UInt32) :
    ((recorder.methods errno).call [] (.writeDword addr data)).2 =
      [[(data >>> 24).toUInt8, (data >>> 16).toUInt8, (data >>> 8).toUInt8,
        data.toUInt8]] := by
  simp only [BusMethods.call, I2CDevice.methods, I2CDevice.writeDword, I2CDevice.withSlave,
    I2CDevice.setSlaveAddr, recorder, hopen]
  rfl

/-- A bus that keeps what is written sees the difference. -/
theorem BusOp.fitsByte_of_recorder
    {errno : OpenErrno} (hopen : errno.devOpened = .success) {op : BusOp}
    (heq : ((recorder.methods errno).call [] op.cut).2 =
      ((recorder.methods errno).call [] op).2) :
    op.FitsByte := by
  cases op with
  | writeWord addr data =>
      rw [cut, recorder_writeWord hopen, recorder_writeWord hopen] at heq
      have hhigh := congrArg UInt8.toNat (List.cons.inj (List.cons.inj heq).1).1
      have hlt := data.toNat_lt
      simp only [UInt16.toNat_toUInt8, UInt16.toNat_shiftRight, UInt8.toNat_toUInt16,
        Nat.shiftRight_eq_div_pow, Nat.reducePow, UInt16.reduceToNat, Nat.reduceMod]
        at hhigh
      show data.toNat < 256
      omega
  | writeDword addr data =>
      rw [cut, recorder_writeDword hopen, recorder_writeDword hopen] at heq
      obtain ⟨h24, hrest⟩ := List.cons.inj (List.cons.inj heq).1
      obtain ⟨h16, hrest⟩ := List.cons.inj hrest
      have h8 := (List.cons.inj hrest).1
      have hlt := data.toNat_lt
      replace h24 := congrArg UInt8.toNat h24
      replace h16 := congrArg UInt8.toNat h16
      replace h8 := congrArg UInt8.toNat h8
      simp only [UInt32.toNat_toUInt8, UInt32.toNat_shiftRight, UInt8.toNat_toUInt32,
        Nat.shiftRight_eq_div_pow, Nat.reducePow, UInt32.reduceToNat, Nat.reduceMod]
        at h24 h16 h8
      show data.toNat < 256
      omega
  | _ =>
      exact trivial

/-- Remote access equals local access on every bus exactly if the data of a write
of more than a byte fits into a byte, or the device node could not be opened. -/
theorem remote_iff
    {J : Type u} (lib : ClientJson J) (checker : Bytes → Bool)
    (hjson : FaithfulJson lib checker)
    {nodes : List NetworkNode} (hnodes : nodes ≠ []) (errno : OpenErrno) (op : BusOp) :
    (∀ (σ : Type) (dev : I2CDevice σ) (s : σ),
      ((overNetwork errno nodes).methods lib checker dev).call s op =
        ((I2CBusAccess.devnode errno).methods lib checker dev).call s op) ↔
    (errno.devOpened = .success → op.FitsByte) := by
  have hremote : ∀ (σ : Type) (dev : I2CDevice σ) (s : σ),
      ((overNetwork errno nodes).methods lib checker dev).call s op =
        (dev.methods errno).call s op.cut := by
    intro σ dev s
    rw [methods_overNetwork hjson dev errno hnodes, BusMethods.call_cutWrites]
  constructor
  · intro hlocal hopen
    apply BusOp.fitsByte_of_recorder hopen
    exact congrArg Prod.snd ((hremote _ recorder []).symm.trans (hlocal _ recorder []))
  · intro hfits σ dev s
    rw [hremote]
    by_cases hopen : errno.devOpened = .success
    · rw [BusOp.cut_eq_self (hfits hopen)]
      rfl
    · rw [BusMethods.call_cut_of_not_open dev hopen]
      rfl

/-- A network node whose server has 32 or 64 bits in an `unsigned long`. -/
def sampleNode (ulongBits : Nat) (hbits : ulongBits = 32 ∨ ulongBits = 64) : NetworkNode :=
  { reqId := 0
    reqId_low := by decide
    reqId_high := by decide
    ulongBits := ulongBits
    ulongBits_eq := hbits
    tmp := 7
    packet := ⟨1, 2, 3, 4⟩ }

/-- Two network nodes in a row. -/
def sampleNodes : List NetworkNode :=
  [sampleNode 32 (by decide), sampleNode 64 (by decide)]

/-- The small library's access to the recording bus. -/
abbrev sampleMethods (access : I2CBusAccess) : BusMethods (List Bytes) :=
  access.methods PlainJson.lib (fun s => (PlainJson.lib.tokenerParse s).isSome) recorder

/-- A word that fits into a byte arrives, through two nodes, at a large address. -/
theorem remote_twoNodes :
    (sampleMethods (overNetwork .other sampleNodes)).call [] (.writeWord 0xFFFFFF20 0x34) =
      (.written .success, [[0, 0x34]]) := by
  have hremote := (remote_iff PlainJson.lib (fun s => (PlainJson.lib.tokenerParse s).isSome)
    PlainJson.faithful (List.cons_ne_nil _ _ : sampleNodes ≠ []) .other
    (.writeWord 0xFFFFFF20 0x34)).mpr (fun _ => by decide) (List Bytes) recorder []
  exact hremote.trans (by decide)

/-- The upper byte of a word is lost on its way. -/
theorem not_remote_writeWord :
    (sampleMethods (overNetwork .other [sampleNode 32 (by decide)])).call []
        (.writeWord 0x20 0x1234) ≠
      (sampleMethods (.devnode .other)).call [] (.writeWord 0x20 0x1234) := by
  have hremote : (sampleMethods (overNetwork .other [sampleNode 32 (by decide)])).call []
      (.writeWord 0x20 0x1234) = (.written .success, [[0, 0x34]]) := by
    decide +kernel
  have hlocal : (sampleMethods (.devnode .other)).call [] (.writeWord 0x20 0x1234) =
      (.written .success, [[0x12, 0x34]]) := by
    decide
  rw [hremote, hlocal]
  decide

end Adav
end BrBox
