import BrBox.Adav.I2CRemote

/-!
# The width of a register on its way through a mapper

The six mappers of the middleware registers go through an `unsigned long`, the
casts of the setters and the `int` of `PREPARE_JSON_RESP_INT`.

* `kept_iff`: for every address and every value of the width, the value comes
  out of the mapper unchanged exactly if it fits the cast of that mapper.
-/

namespace BrBox
namespace Adav

open CText
open CxxText

universe u

/-- The widths of a register. -/
inductive MwWidth where
  | byte
  | word
  | dword
deriving DecidableEq, Repr

/-- Number of bits of a register. -/
def MwWidth.bits : MwWidth → Nat
  | .byte => 8
  | .word => 16
  | .dword => 32

/-- The field of the packet that holds a register. -/
def MwWidth.field (p : MiddlewarePacket) : MwWidth → Nat
  | .byte => p.byte.toNat
  | .word => p.word.toNat
  | .dword => p.dword.toNat

/-- `read_byte`, `read_word` and `read_dword`. -/
def MwWidth.getCommand : MwWidth → MwCommand
  | .byte => .getMwByte
  | .word => .getMwWord
  | .dword => .getMwDword

/-- `write_byte`, `write_word` and `write_dword`. -/
def MwWidth.setCommand : MwWidth → MwCommand
  | .byte => .setMwByte
  | .word => .setMwWord
  | .dword => .setMwDword

/-- What a mapper is given: the request of a write, or the packet of a read. -/
inductive MwInput where
  | write (width : MwWidth) (request : Bytes)
  | read (width : MwWidth) (p : MiddlewarePacket)

/-- The width that a mapper is for. -/
def MwInput.width : MwInput → MwWidth
  | .write width _ => width
  | .read width _ => width

section Mappers

variable {J : Type u}

/-- The request has the decimal parameters `addr` and `data`, or the packet has
the value in its field. -/
def MwInput.Moves (lib : ClientJson J) (a v : Nat) : MwInput → Prop
  | .write _ request =>
      findSingleParam lib request (text "addr") = some (decimalText a) ∧
      findSingleParam lib request (text "data") = some (decimalText v)
  | .read width p => width.field p = v

/-- The number of the field `data` of a result object. -/
def answeredText (lib : ClientJson J) (answer : J) : Option Bytes :=
  (lib.objectGet answer (text "data")).map lib.getString

/-- The packet has the address and the value, or the answer has the value. -/
def MwInput.Kept
    (lib : ClientJson J) (node : NetworkNode) (a v : Nat) : MwInput → Prop
  | .write width request =>
      ∃ p,
        myMapJsonToBinary lib width.setCommand node request = some p ∧
        p.addr.toNat = a ∧
        width.field p = v
  | .read width p =>
      answeredText lib (myMapBinaryToJson lib .success p width.getCommand) =
        some (decimalText v)

/-- The value fits the cast to `uint8_t` of a setter, or the `int` of an answer. -/
def MwInput.Fits (v : Nat) : MwInput → Prop
  | .write _ _ => v < 2 ^ 8
  | .read _ _ => v < 2 ^ 31

/-- A decimal number in the range of `unsigned long` is read as it is. -/
theorem scanUlong_nat
    {bits n : Nat} (hn : n < 2 ^ bits) :
    scanUlong bits (decimalText n) = some n := by
  rw [scanUlong_decimalText (by simpa using hn)]
  congr 1
  have hmod : ((n : Int) % 2 ^ bits) = ((n % 2 ^ bits : Nat) : Int) := by
    push_cast
    rfl
  rw [hmod, Int.toNat_natCast, Nat.mod_eq_of_lt hn]

/-- A decimal parameter of the request is scanned. -/
theorem jsonStringToUlong_param
    {lib : ClientJson J} {node : NetworkNode} {request name : Bytes} {n : Nat}
    (hparam : findSingleParam lib request name = some (decimalText n))
    (hn : n < 2 ^ 32) (old : Nat) :
    jsonStringToUlong lib node.ulongBits request name old = some n := by
  have hbits : n < 2 ^ node.ulongBits := by
    rcases node.ulongBits_eq with h | h
    · rw [h]
      exact hn
    · rw [h]
      exact Nat.lt_trans hn (by decide)
  rw [jsonStringToUlong, hparam, Option.map_some, scanUlong_nat hbits, Option.getD_some]

/-- The packet that a setter makes. -/
theorem jsonToBinSetMw_params
    {lib : ClientJson J} (node : NetworkNode) {request : Bytes} {a v : Nat}
    (store : MiddlewarePacket → Nat → MiddlewarePacket)
    (haddr : findSingleParam lib request (text "addr") = some (decimalText a))
    (hdata : findSingleParam lib request (text "data") = some (decimalText v))
    (ha : a < 2 ^ 32) (hv : v < 2 ^ 32) :
    jsonToBinSetMw lib store node request =
      some (store { node.packet with addr := UInt32.ofNat a } v) := by
  rw [jsonToBinSetMw, jsonStringToUlong_param haddr ha, Option.bind_some,
    jsonStringToUlong_param hdata hv, Option.map_some]

/-- What a setter has stored: the address, and the low byte of the data. -/
theorem myMapJsonToBinary_params
    {lib : ClientJson J} (node : NetworkNode) {request : Bytes} {a v : Nat}
    (width : MwWidth)
    (haddr : findSingleParam lib request (text "addr") = some (decimalText a))
    (hdata : findSingleParam lib request (text "data") = some (decimalText v))
    (ha : a < 2 ^ 32) (hv : v < 2 ^ 32) :
    ∃ p,
      myMapJsonToBinary lib width.setCommand node request = some p ∧
      p.addr.toNat = a ∧
      width.field p = v % 2 ^ 8 := by
  have haddr' : (UInt32.ofNat a).toNat = a := by
    rw [UInt32.toNat_ofNat', Nat.mod_eq_of_lt ha]
  cases width with
  | byte =>
      have hmap :=
        jsonToBinSetMw_params node
          (fun p tmp => { p with byte := UInt8.ofNat tmp }) haddr hdata ha hv
      exact ⟨_, hmap, haddr', by simp [MwWidth.field]⟩
  | word =>
      have hmap :=
        jsonToBinSetMw_params node
          (fun p tmp => { p with word := (UInt8.ofNat tmp).toUInt16 }) haddr hdata ha hv
      exact ⟨_, hmap, haddr', by simp [MwWidth.field]⟩
  | dword =>
      have hmap :=
        jsonToBinSetMw_params node
          (fun p tmp => { p with dword := (UInt8.ofNat tmp).toUInt32 }) haddr hdata ha hv
      exact ⟨_, hmap, haddr', by simp [MwWidth.field]⟩

/-- Different numbers have different decimal texts. -/
theorem decimalText_inj
    {m n : Int} :
    decimalText m = decimalText n ↔ m = n := by
  constructor
  · intro h
    rw [← decimalValue_decimalText m, h, decimalValue_decimalText]
  · rintro rfl
    rfl

/-- The answer of a successful read goes through an `int`. -/
theorem answeredText_get
    {lib : ClientJson J} {checker : Bytes → Bool} (hjson : FaithfulJson lib checker)
    (p : MiddlewarePacket) (width : MwWidth) :
    answeredText lib (myMapBinaryToJson lib .success p width.getCommand) =
      some (decimalText (wrapInt32 (width.field p))) := by
  have hanswer : ∀ value : Nat,
      answeredText lib (prepareJsonRespInt lib .success value) =
        some (decimalText (wrapInt32 value)) := by
    intro value
    have hdata : answeredData .success value = some (wrapInt32 value) :=
      if_pos (Or.inl rfl)
    rw [prepareJsonRespInt_eq, hdata, prepareResultString_eq (by decide), answeredText,
      objectGet_data hjson _ (hdata ▸ answeredData_range .success value)]
    rfl
  cases width with
  | byte =>
      exact hanswer _
  | word =>
      exact hanswer _
  | dword =>
      exact hanswer _

/-- A number of 32 bits is kept by an `int` exactly if it is not negative there. -/
theorem wrapInt32_eq_iff
    {v : Nat} (hv : v < 2 ^ 32) :
    wrapInt32 v = v ↔ v < 2 ^ 31 := by
  constructor
  · intro h
    have hrange := (wrapInt32_range v).2
    omega
  · intro h
    exact wrapInt32_of_range (by omega) (by omega)

theorem MwWidth.bits_le
    (width : MwWidth) :
    2 ^ width.bits ≤ 2 ^ 32 := by
  cases width with
  | byte =>
      decide
  | word =>
      decide
  | dword =>
      decide

/--
Every address, and every value of the width: what goes into a mapper comes out
of it exactly if the value fits a byte on a write and an `int` on a read.
-/
theorem kept_iff
    {lib : ClientJson J} {checker : Bytes → Bool} (hjson : FaithfulJson lib checker)
    (node : NetworkNode) {input : MwInput} {a v : Nat}
    (ha : a < 2 ^ 32)
    (hv : v < 2 ^ input.width.bits)
    (hmoves : input.Moves lib a v) :
    input.Kept lib node a v ↔ input.Fits v := by
  have hv32 : v < 2 ^ 32 := Nat.lt_of_lt_of_le hv input.width.bits_le
  cases input with
  | write width request =>
      obtain ⟨haddr, hdata⟩ := hmoves
      obtain ⟨p, hmap, hpaddr, hfield⟩ :=
        myMapJsonToBinary_params node width haddr hdata ha hv32
      constructor
      · rintro ⟨q, hq, -, hqfield⟩
        rw [hmap, Option.some.injEq] at hq
        subst hq
        rw [hfield] at hqfield
        exact Nat.mod_eq_iff_lt (by decide) |>.mp hqfield
      · intro hfits
        exact ⟨p, hmap, hpaddr, by rw [hfield, Nat.mod_eq_of_lt hfits]⟩
  | read width p =>
      have hfield : width.field p = v := hmoves
      have hkept :
          MwInput.Kept lib node a v (.read width p) ↔
            some (decimalText (wrapInt32 (width.field p))) = some (decimalText v) := by
        rw [← answeredText_get hjson]
        rfl
      rw [hkept, hfield, Option.some.injEq, decimalText_inj, wrapInt32_eq_iff hv32]
      rfl

end Mappers

/-- 32 bits are a width of `unsigned long`. -/
theorem ulongBits_32 : 32 = 32 ∨ 32 = 64 :=
  Or.inl rfl

/-- A node of 32 bits whose variables hold nothing yet. -/
def plainNode : NetworkNode where
  reqId := 1
  reqId_low := by decide
  reqId_high := by decide
  ulongBits := 32
  ulongBits_eq := ulongBits_32
  tmp := 0
  packet := { addr := 0, byte := 0, word := 0, dword := 0 }

/-- The request of a client that writes a word. -/
def writeWordRequest (a v : Nat) : Bytes :=
  PlainJson.lib.prepareJsonRequest
    (ClientCall.setIntegerTypeWithAddrPara (text "write_word") (text "addr")
      (wrapInt32 a) (text "data") (wrapInt32 v)) 1

/-- It has the parameters of the call. -/
theorem moves_writeWordRequest
    {a v : Nat} (ha : a < 2 ^ 31) (hv : v < 2 ^ 31) :
    (MwInput.write .word (writeWordRequest a v)).Moves PlainJson.lib a v := by
  have hparams :=
    findSingleParam_request PlainJson.faithful
      (sendable_set mw_registered.2.2.2.1.1 a v)
      (show -2 ^ 31 ≤ (1 : Int) by decide) (show (1 : Int) < 2 ^ 31 by decide)
  have hne : text "addr" ≠ text "data" := by
    decide
  constructor
  · rw [writeWordRequest, hparams]
    simp [ClientCall.setIntegerTypeWithAddrPara, argText,
      (wrapInt32_eq_iff (by omega)).mpr ha]
  · rw [writeWordRequest, hparams]
    simp [ClientCall.setIntegerTypeWithAddrPara, argText, hne,
      (wrapInt32_eq_iff (by omega)).mpr hv]

/-- A word of one byte arrives. -/
theorem kept_writeWord :
    (MwInput.write .word (writeWordRequest 4096 200)).Kept PlainJson.lib plainNode
      4096 200 := by
  refine
    (kept_iff PlainJson.faithful plainNode ?_ ?_
      (moves_writeWordRequest ?_ ?_)).mpr ?_
  · decide
  · decide
  · decide
  · decide
  · exact (by decide : 200 < 2 ^ 8)

/-- Of the word 256 nothing is left. -/
theorem not_kept_writeWord :
    (MwInput.write .word (writeWordRequest 4096 256)).Moves PlainJson.lib 4096 256 ∧
      ¬ (MwInput.write .word (writeWordRequest 4096 256)).Kept PlainJson.lib plainNode
        4096 256 := by
  have hmoves :=
    moves_writeWordRequest (show 4096 < 2 ^ 31 by decide) (show 256 < 2 ^ 31 by decide)
  refine ⟨hmoves, ?_⟩
  obtain ⟨p, hmap, -, hfield⟩ :=
    myMapJsonToBinary_params plainNode .word hmoves.1 hmoves.2 (by decide) (by decide)
  rintro ⟨q, hq, -, hqfield⟩
  rw [hmap, Option.some.injEq] at hq
  subst hq
  rw [hfield] at hqfield
  omega

end Adav
end BrBox
