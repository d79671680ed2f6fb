import BrBox.Lib.CText
import BrBox.Lib.Overlay

/-!
# Reading Intel hex files with micronucleus

`parseIntelHex` looks for a colon, reads the fields of a record by `strtol` and stores the
bytes of data records in `dataBuffer`.  A checksum that is wrong is only reported.  A byte
stored outside of the buffer is none.

* `parseIntelHex_safe`: a file without a minus sign is stored inside of the buffer.
* `parseIntelHex_print`: what a writer of hex files prints is read back.
-/

namespace BrBox
namespace Firmware

open CText
open Overlay

/-- The size of `dataBuffer`. -/
def dataBufferSize : Nat := 65536 + 256

/-- The value of a hexadecimal digit. -/
def hexDigitValue (c : Byte) : Option Nat :=
  if 48 ≤ c ∧ c ≤ 57 then
    some (c.toNat - 48)
  else if 65 ≤ c ∧ c ≤ 70 then
    some (c.toNat - 55)
  else if 97 ≤ c ∧ c ≤ 102 then
    some (c.toNat - 87)
  else
    none

/-- The value of the leading hexadecimal digits. -/
def hexDigitsValue : Nat → Bytes → Nat
  | value, [] => value
  | value, c :: s =>
      match hexDigitValue c with
      | some digit => hexDigitsValue (value * 16 + digit) s
      | none => value

/-- Without `0x` before a digit. -/
def dropHexMark (s : Bytes) : Bytes :=
  match s with
  | 48 :: x :: c :: rest =>
      if (x = 120 ∨ x = 88) ∧ (hexDigitValue c).isSome then
        c :: rest
      else
        s
  | _ => s

/-- `strtol` with base 16, of a few digits. -/
def strtol16 (s : Bytes) : Int :=
  match s.dropWhile isSpace with
  | 45 :: rest => -(hexDigitsValue 0 (dropHexMark rest) : Int)
  | 43 :: rest => hexDigitsValue 0 (dropHexMark rest)
  | rest => hexDigitsValue 0 (dropHexMark rest)

/-- `getc` for a `char`; at the end EOF is the byte 0xFF. -/
def getc : Bytes → Byte × Bytes
  | [] => (0xFF, [])
  | c :: stream => (c, stream)

/-- Several calls of `getc`. -/
def getChars : Nat → Bytes → Bytes × Bytes
  | 0, stream => ([], stream)
  | n + 1, stream =>
      let rest := getChars n (getc stream).2
      ((getc stream).1 :: rest.1, rest.2)

/-- `parseHex`: the number and the rest of the stream. -/
def parseHex (stream : Bytes) (numDigits : Nat) : Int × Bytes :=
  let temp := getChars numDigits stream
  (strtol16 (cString temp.1), temp.2)

/-- `parseUntilColon`: what is behind the next colon. -/
def parseUntilColon : Bytes → Option Bytes
  | [] => none
  | c :: stream => if c = 58 then some stream else parseUntilColon stream

/-- What the parser fills; `warnings` are the addresses it reports. -/
structure HexImage where
  buffer : Nat → Byte
  startAddr : Int
  endAddr : Int
  warnings : List (Int × Int)

/-- The loop over the bytes of a record: the buffer, the address behind them, the sum and the
rest of the stream; none is a byte outside of the buffer. -/
def storeData : Nat → Bytes → (Nat → Byte) → (address sum : Int) →
    Option ((Nat → Byte) × Int × Int × Bytes)
  | 0, stream, buffer, address, sum => some (buffer, address, sum, stream)
  | n + 1, stream, buffer, address, sum =>
      let d := parseHex stream 2
      if 0 ≤ address ∧ address < dataBufferSize then
        storeData n d.2 (Function.update buffer address.toNat (UInt8.ofNat (d.1 % 256).toNat))
          (address + 1) (sum + d.1)
      else
        none

/-- A record behind its colon, and the rest of the stream. -/
def parseRecord (stream : Bytes) (st : HexImage) : Option (HexImage × Bytes) :=
  let lineLen := parseHex stream 2
  let base := parseHex lineLen.2 4
  let kind := parseHex base.2 2
  let sum := lineLen.1 + base.1 / 256 + base.1 + kind.1
  if kind.1 ≠ 0 then
    some (st, kind.2)
  else
    match storeData lineLen.1.toNat kind.2 st.buffer base.1 sum with
    | none => none
    | some (buffer, address, sum', stream') =>
        let check := parseHex stream' 2
        some
          ({ buffer := buffer
             startAddr := if base.1 < st.startAddr then base.1 else st.startAddr
             endAddr := if st.endAddr < address then address else st.endAddr
             warnings :=
              if (sum' + check.1) % 256 ≠ 0 then
                st.warnings ++ [(base.1, address)]
              else
                st.warnings },
            check.2)

section Rest

theorem getChars_suffix
    (n : Nat)
    (stream : Bytes) :
    (getChars n stream).2 <:+ stream := by
  induction n generalizing stream with
  | zero =>
      exact List.suffix_refl _
  | succ n ih =>
      cases stream with
      | nil =>
          exact ih []
      | cons c stream =>
          exact (ih stream).trans (List.suffix_cons _ _)

theorem parseHex_suffix
    (stream : Bytes)
    (numDigits : Nat) :
    (parseHex stream numDigits).2 <:+ stream :=
  getChars_suffix numDigits stream

theorem parseUntilColon_suffix
    {stream rest : Bytes}
    (hcolon : parseUntilColon stream = some rest) :
    58 :: rest <:+ stream := by
  induction stream with
  | nil =>
      simp [parseUntilColon] at hcolon
  | cons c stream ih =>
      rw [parseUntilColon] at hcolon
      by_cases hc : c = 58
      · rw [if_pos hc, Option.some.injEq] at hcolon
        subst hc hcolon
        exact List.suffix_refl _
      · rw [if_neg hc] at hcolon
        exact (ih hcolon).trans (List.suffix_cons _ _)

theorem storeData_suffix
    {n : Nat}
    {stream rest : Bytes}
    {buffer buffer' : Nat → Byte}
    {address sum address' sum' : Int}
    (hstore : storeData n stream buffer address sum = some (buffer', address', sum', rest)) :
    rest <:+ stream := by
  induction n generalizing stream buffer address sum with
  | zero =>
      rw [storeData, Option.some.injEq, Prod.mk.injEq, Prod.mk.injEq, Prod.mk.injEq] at hstore
      obtain ⟨-, -, -, rfl⟩ := hstore
      exact List.suffix_refl _
  | succ n ih =>
      rw [storeData] at hstore
      split at hstore
      · exact (ih hstore).trans (parseHex_suffix stream 2)
      · cases hstore

/-- What is left of a stream behind the kind of a record. -/
theorem kind_suffix
    (stream : Bytes) :
    (parseHex (parseHex (parseHex stream 2).2 4).2 2).2 <:+ stream :=
  (parseHex_suffix _ _).trans ((parseHex_suffix _ _).trans (parseHex_suffix stream 2))

theorem parseRecord_suffix
    {stream rest : Bytes}
    {st st' : HexImage}
    (hrecord : parseRecord stream st = some (st', rest)) :
    rest <:+ stream := by
  have hkind := kind_suffix stream
  rw [parseRecord] at hrecord
  simp only at hrecord
  split at hrecord
  · rw [Option.some.injEq, Prod.mk.injEq] at hrecord
    rwa [← hrecord.2]
  · split at hrecord
    · cases hrecord
    · rename_i hstore
      rw [Option.some.injEq, Prod.mk.injEq] at hrecord
      rw [← hrecord.2]
      exact (parseHex_suffix _ _).trans ((storeData_suffix hstore).trans hkind)

theorem length_lt_of_parseRecord
    {stream record rest : Bytes}
    {st st' : HexImage}
    (hcolon : parseUntilColon stream = some record)
    (hrecord : parseRecord record st = some (st', rest)) :
    rest.length < stream.length :=
  Nat.lt_of_le_of_lt (parseRecord_suffix hrecord).length_le
    (parseUntilColon_suffix hcolon).length_le

end Rest

/-- The loop of `parseIntelHex`. -/
def parseRecords (stream : Bytes) (st : HexImage) : Option HexImage :=
  match _hcolon : parseUntilColon stream with
  | none => some st
  | some record =>
      match _hrecord : parseRecord record st with
      | none => none
      | some (st', rest) => parseRecords rest st'
termination_by stream.length
decreasing_by
  exact length_lt_of_parseRecord ‹_› ‹_›

/-- `parseIntelHex` of a file, into a buffer that `main` has filled. -/
def parseIntelHex (content : Bytes) : Option HexImage :=
  parseRecords content
    { buffer := fun _ => 0xFF, startAddr := 1, endAddr := 0, warnings := [] }

theorem parseRecords_none
    {stream : Bytes}
    (hcolon : parseUntilColon stream = none)
    (st : HexImage) :
    parseRecords stream st = some st := by
  rw [parseRecords]
  split
  · rfl
  · rename_i hsome
    rw [hcolon] at hsome
    cases hsome

theorem parseRecords_some
    {stream record : Bytes}
    (hcolon : parseUntilColon stream = some record)
    (st : HexImage) :
    parseRecords stream st =
      (parseRecord record st).bind fun next => parseRecords next.2 next.1 := by
  rw [parseRecords]
  split
  · rename_i hnone
    rw [hcolon] at hnone
    cases hnone
  · rename_i record' hsome
    rw [hcolon] at hsome
    obtain rfl := Option.some.inj hsome
    split
    · rename_i hrecord
      rw [hrecord]
      rfl
    · rename_i hrecord
      rw [hrecord]
      rfl

section Safe

theorem hexDigitValue_lt
    {c : Byte}
    {digit : Nat}
    (hdigit : hexDigitValue c = some digit) :
    digit < 16 := by
  simp only [hexDigitValue, UInt8.le_iff_toNat_le] at hdigit
  split at hdigit
  · rename_i hc
    have hc2 := hc.2
    rw [← Option.some.inj hdigit]
    simp only [UInt8.reduceToNat] at hc2
    omega
  · split at hdigit
    · rename_i hc
      have hc2 := hc.2
      rw [← Option.some.inj hdigit]
      simp only [UInt8.reduceToNat] at hc2
      omega
    · split at hdigit
      · rename_i hc
        have hc2 := hc.2
        rw [← Option.some.inj hdigit]
        simp only [UInt8.reduceToNat] at hc2
        omega
      · cases hdigit

theorem hexDigitsValue_lt
    (value : Nat)
    (s : Bytes) :
    hexDigitsValue value s < (value + 1) * 16 ^ s.length := by
  induction s generalizing value with
  | nil =>
      simp [hexDigitsValue]
  | cons c s ih =>
      rw [hexDigitsValue]
      cases hdigit : hexDigitValue c with
      | none =>
          have hpos : 0 < 16 ^ (c :: s).length := Nat.pow_pos (by decide)
          exact Nat.lt_of_lt_of_le (Nat.lt_succ_self value) (Nat.le_mul_of_pos_right _ hpos)
      | some digit =>
          have hlt := hexDigitValue_lt hdigit
          have hrest := ih (value * 16 + digit)
          have hle : (value * 16 + digit + 1) * 16 ^ s.length ≤
              (value + 1) * 16 * 16 ^ s.length := Nat.mul_le_mul_right _ (by omega)
          rw [List.length_cons, Nat.pow_succ', ← Nat.mul_assoc]
          exact Nat.lt_of_lt_of_le hrest hle

theorem length_dropHexMark_le
    (s : Bytes) :
    (dropHexMark s).length ≤ s.length := by
  unfold dropHexMark
  split
  · split
    · simp only [List.length_cons]
      omega
    · exact Nat.le_refl _
  · exact Nat.le_refl _

/-- A number of some digits without a minus sign. -/
theorem strtol16_range
    {s : Bytes}
    (hminus : (45 : Byte) ∉ s) :
    0 ≤ strtol16 s ∧ strtol16 s < 16 ^ s.length := by
  have hvalue : ∀ t : Bytes, t.length ≤ s.length →
      (0 : Int) ≤ hexDigitsValue 0 (dropHexMark t) ∧
        (hexDigitsValue 0 (dropHexMark t) : Int) < 16 ^ s.length := by
    intro t ht
    have hlt := hexDigitsValue_lt 0 (dropHexMark t)
    rw [Nat.zero_add, Nat.one_mul] at hlt
    have hpow : 16 ^ (dropHexMark t).length ≤ 16 ^ s.length :=
      Nat.pow_le_pow_right (by decide) ((length_dropHexMark_le t).trans ht)
    refine ⟨Int.natCast_nonneg _, ?_⟩
    exact_mod_cast Nat.lt_of_lt_of_le hlt hpow
  have hsuffix := List.dropWhile_suffix isSpace (l := s)
  have hlen := hsuffix.length_le
  rw [strtol16]
  split
  · rename_i rest hrest
    rw [hrest] at hsuffix
    exact absurd (hsuffix.subset List.mem_cons_self) hminus
  · rename_i rest hrest
    rw [hrest, List.length_cons] at hlen
    exact hvalue rest (by omega)
  · exact hvalue _ hlen

theorem mem_getChars
    {n : Nat}
    {stream : Bytes}
    {c : Byte}
    (hmem : c ∈ (getChars n stream).1) :
    c ∈ stream ∨ c = 0xFF := by
  induction n generalizing stream with
  | zero =>
      simp [getChars] at hmem
  | succ n ih =>
      rw [getChars, List.mem_cons] at hmem
      cases stream with
      | nil =>
          rcases hmem with hfirst | hrest
          · exact .inr hfirst
          · exact ih hrest
      | cons d stream =>
          rcases hmem with hfirst | hrest
          · exact .inl (hfirst ▸ List.mem_cons_self)
          · rcases ih hrest with hold | hend
            · exact .inl (List.mem_cons_of_mem _ hold)
            · exact .inr hend

theorem length_getChars
    (n : Nat)
    (stream : Bytes) :
    (getChars n stream).1.length = n := by
  induction n generalizing stream with
  | zero =>
      rfl
  | succ n ih =>
      rw [getChars, List.length_cons, ih]

/-- A field of a file without a minus sign. -/
theorem parseHex_range
    {stream : Bytes}
    (hminus : (45 : Byte) ∉ stream)
    (numDigits : Nat) :
    0 ≤ (parseHex stream numDigits).1 ∧ (parseHex stream numDigits).1 < 16 ^ numDigits := by
  have hpre : cString (getChars numDigits stream).1 <+: (getChars numDigits stream).1 :=
    List.takeWhile_prefix _
  have hnone : (45 : Byte) ∉ cString (getChars numDigits stream).1 := by
    intro hmem
    rcases mem_getChars (hpre.subset hmem) with hold | hend
    · exact hminus hold
    · exact absurd hend (by decide)
  obtain ⟨hlow, hhigh⟩ := strtol16_range hnone
  refine ⟨hlow, Int.lt_of_lt_of_le hhigh ?_⟩
  have hlen := hpre.length_le
  rw [length_getChars] at hlen
  exact_mod_cast Nat.pow_le_pow_right (by decide) hlen

/-- What the parser has filled is inside of the buffer, and erased behind `endAddr`. -/
structure HexImage.Inside (st : HexImage) : Prop where
  start_nonneg : 0 ≤ st.startAddr
  start_le : st.startAddr ≤ 1
  end_nonneg : 0 ≤ st.endAddr
  end_le : st.endAddr ≤ 65535 + 255
  erased : ∀ address : Nat, st.endAddr ≤ address → st.buffer address = 0xFF

/-- Bytes that fit are stored; those behind them are kept. -/
theorem exists_storeData
    {n : Nat}
    {address : Int}
    (hlow : 0 ≤ address)
    (hhigh : address + n ≤ dataBufferSize)
    (stream : Bytes)
    (buffer : Nat → Byte)
    (sum : Int) :
    ∃ buffer' sum' rest,
      storeData n stream buffer address sum = some (buffer', address + n, sum', rest) ∧
        ∀ a : Nat, address + n ≤ a → buffer' a = buffer a := by
  induction n generalizing address stream buffer sum with
  | zero =>
      exact ⟨buffer, sum, stream, by simp [storeData], fun _ _ => rfl⟩
  | succ n ih =>
      push_cast at hhigh
      have hlow' : 0 ≤ address + 1 := by omega
      have hhigh' : address + 1 + n ≤ dataBufferSize := by omega
      obtain ⟨buffer', sum', rest, hstore, hkept⟩ :=
        ih hlow' hhigh' (parseHex stream 2).2
          (Function.update buffer address.toNat
            (UInt8.ofNat ((parseHex stream 2).1 % 256).toNat))
          (sum + (parseHex stream 2).1)
      refine ⟨buffer', sum', rest, ?_, fun a ha => ?_⟩
      · rw [storeData, if_pos ⟨hlow, by omega⟩, hstore]
        push_cast
        congr 3
        omega
      · push_cast at ha
        rw [hkept a (by omega), Function.update_of_ne (by omega)]

/-- A record of a file without a minus sign. -/
theorem inside_parseRecord
    {stream : Bytes}
    (hminus : (45 : Byte) ∉ stream)
    {st : HexImage}
    (hinside : st.Inside) :
    ∃ st' rest, parseRecord stream st = some (st', rest) ∧ st'.Inside := by
  have hlen := parseHex_range hminus 2
  have hminus₁ : (45 : Byte) ∉ (parseHex stream 2).2 := fun h =>
    hminus ((parseHex_suffix _ _).subset h)
  have hbase := parseHex_range hminus₁ 4
  rw [parseRecord]
  simp only
  split
  · exact ⟨st, _, rfl, hinside⟩
  · obtain ⟨hlenLow, hlenHigh⟩ := hlen
    obtain ⟨hbaseLow, hbaseHigh⟩ := hbase
    generalize parseHex stream 2 = lineLen at *
    generalize parseHex lineLen.2 4 = base at *
    generalize parseHex base.2 2 = kind at *
    obtain ⟨buffer', sum', rest, hstore, hkept⟩ := exists_storeData (n := lineLen.1.toNat)
      hbaseLow (by simp only [dataBufferSize]; omega) kind.2 st.buffer
      (lineLen.1 + base.1 / 256 + base.1 + kind.1)
    rw [hstore]
    have hend : base.1 + lineLen.1.toNat ≤ 65535 + 255 := by omega
    refine ⟨_, _, rfl, ?_⟩
    have hstartLow := hinside.start_nonneg
    have hstartHigh := hinside.start_le
    have hendLow := hinside.end_nonneg
    have hendHigh := hinside.end_le
    constructor
    · simp only
      split <;> omega
    · simp only
      split <;> omega
    · simp only
      split <;> omega
    · simp only
      split <;> omega
    · intro address haddress
      simp only at haddress ⊢
      split at haddress
      · rw [hkept address haddress]
        exact hinside.erased address (by omega)
      · rw [hkept address (by omega)]
        exact hinside.erased address haddress

theorem inside_parseRecords
    (n : Nat)
    {stream : Bytes}
    (hlength : stream.length ≤ n)
    (hminus : (45 : Byte) ∉ stream)
    {st : HexImage}
    (hinside : st.Inside) :
    ∃ st', parseRecords stream st = some st' ∧ st'.Inside := by
  induction n generalizing stream st with
  | zero =>
      obtain rfl := List.eq_nil_of_length_eq_zero (Nat.le_zero.mp hlength)
      exact ⟨st, parseRecords_none rfl st, hinside⟩
  | succ n ih =>
      cases hcolon : parseUntilColon stream with
      | none =>
          exact ⟨st, parseRecords_none hcolon st, hinside⟩
      | some record =>
          have hsuffix := parseUntilColon_suffix hcolon
          have hminus₁ : (45 : Byte) ∉ record := fun h =>
            hminus (hsuffix.subset (List.mem_cons_of_mem _ h))
          obtain ⟨st₁, rest, hrecord, hinside₁⟩ := inside_parseRecord hminus₁ hinside
          have hrest := parseRecord_suffix hrecord
          have hshort := length_lt_of_parseRecord hcolon hrecord
          rw [parseRecords_some hcolon, hrecord]
          exact ih (by omega) (fun h => hminus₁ (hrest.subset h)) hinside₁

/-- A file without a minus sign is read inside of the buffer, whatever else it holds, and the
buffer is erased behind `endAddr`. -/
theorem parseIntelHex_safe
    {content : Bytes}
    (hminus : (45 : Byte) ∉ content) :
    ∃ st, parseIntelHex content = some st ∧ st.Inside := by
  refine inside_parseRecords content.length (Nat.le_refl _) hminus ?_
  constructor <;> simp

/-- A file that is cut off. -/
theorem parseIntelHex_safe_cut :
    ∃ st, parseIntelHex [58, 48, 52, 48] = some st ∧ st.Inside :=
  parseIntelHex_safe (by decide)

end Safe

section Print

/-- An upper case hexadecimal digit. -/
def hexDigit (n : Nat) : Byte :=
  if n < 10 then UInt8.ofNat (48 + n) else UInt8.ofNat (55 + n)

/-- A number in two digits, or in four. -/
def hexByte (n : Nat) : Bytes :=
  [hexDigit (n / 16 % 16), hexDigit (n % 16)]

def hexWord (n : Nat) : Bytes :=
  [hexDigit (n / 4096 % 16), hexDigit (n / 256 % 16), hexDigit (n / 16 % 16), hexDigit (n % 16)]

/-- A record of a hex file; kind 0 holds data. -/
structure HexRecord where
  kind : Byte
  address : Nat
  data : Bytes

/-- The sum of the bytes of a record before its checksum. -/
def HexRecord.sum (r : HexRecord) : Nat :=
  r.data.length + r.address / 256 + r.address + r.kind.toNat + (r.data.map UInt8.toNat).sum

/-- What a writer of hex files prints for a record, behind the colon. -/
def HexRecord.print (r : HexRecord) : Bytes :=
  hexByte r.data.length ++ (hexWord r.address ++ (hexByte r.kind.toNat ++
    (r.data.flatMap (fun d => hexByte d.toNat) ++ hexByte ((256 - r.sum % 256) % 256))))

/-- The fields of a record fit. -/
structure HexRecord.Fits (r : HexRecord) : Prop where
  length_lt : r.data.length < 256
  address_lt : r.address < 65536

/-- What a record loads; only data are taken. -/
def HexRecord.load (st : HexImage) (r : HexRecord) : HexImage :=
  if r.kind = 0 then
    { st with
      buffer := overlay st.buffer r.address r.data
      startAddr := min st.startAddr r.address
      endAddr := max st.endAddr (r.address + r.data.length) }
  else
    st

/-- A digit is read as its value. -/
theorem hexDigit_spec :
    ∀ n < 16, hexDigitValue (hexDigit n) = some n ∧ isSpace (hexDigit n) = false ∧
      hexDigit n ≠ 45 ∧ hexDigit n ≠ 43 ∧ hexDigit n ≠ 0 ∧ hexDigit n ≠ 58 ∧
      hexDigit n ≠ 120 ∧ hexDigit n ≠ 88 := by
  decide

theorem strtol16_digits
    {c : Byte} {s : Bytes}
    (hspace : isSpace c = false)
    (hminus : c ≠ 45)
    (hplus : c ≠ 43)
    (hmark : dropHexMark (c :: s) = c :: s) :
    strtol16 (c :: s) = hexDigitsValue 0 (c :: s) := by
  have hdrop : (c :: s).dropWhile isSpace = c :: s :=
    List.dropWhile_cons_of_neg (by simp [hspace])
  unfold strtol16
  rw [hdrop]
  split
  · rename_i heq
    exact absurd (List.cons.inj heq).1 hminus
  · rename_i heq
    exact absurd (List.cons.inj heq).1 hplus
  · rw [hmark]

/-- Two digits are read back. -/
theorem parseHex_hexByte
    {n : Nat}
    (hn : n < 256)
    (rest : Bytes) :
    parseHex (hexByte n ++ rest) 2 = ((n : Int), rest) := by
  obtain ⟨hhigh, hspace, hminus, hplus, hzero, -, -, -⟩ :=
    hexDigit_spec (n / 16 % 16) (Nat.mod_lt _ (by decide))
  obtain ⟨hlow, -, -, -, hzero', -, -, -⟩ := hexDigit_spec (n % 16) (Nat.mod_lt _ (by decide))
  have hchars : getChars 2 (hexByte n ++ rest) = (hexByte n, rest) := rfl
  have hstring : cString (hexByte n) = hexByte n :=
    cString_of_zero_not_mem (by simp [hexByte, Ne.symm hzero, Ne.symm hzero'])
  rw [parseHex, hchars]
  simp only
  have hmark : dropHexMark (hexByte n) = hexByte n := by
    unfold dropHexMark
    split
    · rename_i heq
      simp [hexByte] at heq
    · rfl
  rw [hstring]
  change (strtol16 (hexDigit (n / 16 % 16) :: _), rest) = _
  rw [strtol16_digits hspace hminus hplus hmark]
  simp only [hexDigitsValue, hhigh, hlow]
  congr 2
  omega

/-- Four digits are read back. -/
theorem parseHex_hexWord
    {n : Nat}
    (hn : n < 65536)
    (rest : Bytes) :
    parseHex (hexWord n ++ rest) 4 = ((n : Int), rest) := by
  obtain ⟨h₁, hspace, hminus, hplus, z₁, -, -, -⟩ :=
    hexDigit_spec (n / 4096 % 16) (Nat.mod_lt _ (by decide))
  obtain ⟨h₂, -, -, -, z₂, -, hx, hX⟩ :=
    hexDigit_spec (n / 256 % 16) (Nat.mod_lt _ (by decide))
  obtain ⟨h₃, -, -, -, z₃, -, -, -⟩ := hexDigit_spec (n / 16 % 16) (Nat.mod_lt _ (by decide))
  obtain ⟨h₄, -, -, -, z₄, -, -, -⟩ := hexDigit_spec (n % 16) (Nat.mod_lt _ (by decide))
  have hchars : getChars 4 (hexWord n ++ rest) = (hexWord n, rest) := rfl
  have hstring : cString (hexWord n) = hexWord n :=
    cString_of_zero_not_mem
      (by simp [hexWord, Ne.symm z₁, Ne.symm z₂, Ne.symm z₃, Ne.symm z₄])
  have hmark : dropHexMark (hexWord n) = hexWord n := by
    unfold dropHexMark
    split
    · rename_i heq
      have hsecond : hexDigit (n / 256 % 16) = _ := (List.cons.inj (List.cons.inj heq).2).1
      rw [← hsecond, if_neg (by simp [hx, hX])]
    · rfl
  rw [parseHex, hchars]
  simp only
  rw [hstring]
  change (strtol16 (hexDigit (n / 4096 % 16) :: _), rest) = _
  rw [strtol16_digits hspace hminus hplus hmark]
  simp only [hexDigitsValue, h₁, h₂, h₃, h₄]
  congr 2
  omega

/-- The data of a record are stored one after the other. -/
theorem storeData_print
    {data : Bytes}
    {address : Nat}
    (hfits : address + data.length ≤ dataBufferSize)
    (rest : Bytes)
    (buffer : Nat → Byte)
    (sum : Int) :
    storeData data.length (data.flatMap (fun d => hexByte d.toNat) ++ rest) buffer address sum =
      some (overlay buffer address data, ((address + data.length : Nat) : Int),
        sum + ((data.map UInt8.toNat).sum : Nat), rest) := by
  induction data generalizing address buffer sum with
  | nil =>
      simp [storeData]
  | cons d data ih =>
      rw [List.length_cons] at hfits
      have hbyte : UInt8.ofNat ((d.toNat : Int) % 256).toNat = d := by
        have hd := d.toNat_lt
        have hmod : ((d.toNat : Int) % 256).toNat = d.toNat := by omega
        rw [hmod, UInt8.ofNat_toNat]
      have hfits' : address + 1 + data.length ≤ dataBufferSize := by omega
      have hrest := ih hfits' (Function.update buffer address d) (sum + d.toNat)
      rw [List.length_cons, storeData, List.flatMap_cons, List.append_assoc,
        parseHex_hexByte d.toNat_lt]
      simp only
      rw [if_pos ⟨Int.natCast_nonneg _, by exact_mod_cast (by omega)⟩, Int.toNat_natCast, hbyte]
      have hnext : (address : Int) + 1 = ((address + 1 : Nat) : Int) := by push_cast; rfl
      rw [hnext, hrest, overlay_cons]
      simp only [List.map_cons, List.sum_cons]
      congr 3
      · omega
      · push_cast
        congr 1
        omega

theorem parseUntilColon_append
    {s : Bytes}
    (hs : (58 : Byte) ∉ s)
    (rest : Bytes) :
    parseUntilColon (s ++ rest) = parseUntilColon rest := by
  induction s with
  | nil =>
      rfl
  | cons c s ih =>
      obtain ⟨hc, hs'⟩ := not_or.mp (List.mem_cons.not.mp hs)
      rw [List.cons_append, parseUntilColon, if_neg (Ne.symm hc), ih hs']

theorem colon_not_mem_hexByte
    (n : Nat) :
    (58 : Byte) ∉ hexByte n := by
  obtain ⟨-, -, -, -, -, hhigh, -, -⟩ := hexDigit_spec (n / 16 % 16) (Nat.mod_lt _ (by decide))
  obtain ⟨-, -, -, -, -, hlow, -, -⟩ := hexDigit_spec (n % 16) (Nat.mod_lt _ (by decide))
  simp [hexByte, Ne.symm hhigh, Ne.symm hlow]

/-- A record that is printed is loaded; its checksum is right. -/
theorem parseRecord_print
    {r : HexRecord}
    (hfits : r.Fits)
    (rest : Bytes)
    (st : HexImage) :
    ∃ rest', parseRecord (r.print ++ rest) st = some (r.load st, rest') ∧
      parseUntilColon rest' = parseUntilColon rest := by
  have hlength := hfits.length_lt
  have haddress := hfits.address_lt
  have hkind := r.kind.toNat_lt
  have hcheck : (256 - r.sum % 256) % 256 < 256 := Nat.mod_lt _ (by decide)
  simp only [HexRecord.print, List.append_assoc]
  rw [parseRecord, parseHex_hexByte hlength]
  simp only
  rw [parseHex_hexWord haddress]
  simp only
  rw [parseHex_hexByte hkind]
  simp only
  by_cases hzero : r.kind = 0
  · have hsize : r.address + r.data.length ≤ dataBufferSize := by
      rw [dataBufferSize]
      omega
    rw [if_neg (by simp [hzero]), Int.toNat_natCast, storeData_print hsize]
    simp only
    rw [parseHex_hexByte hcheck]
    refine ⟨rest, ?_, rfl⟩
    have hsum : ((r.data.length : Int) + (r.address : Int) / 256 + r.address + r.kind.toNat +
        ((r.data.map UInt8.toNat).sum : Nat) + ((256 - r.sum % 256) % 256 : Nat)) % 256 = 0 := by
      have htotal : (r.data.length : Int) + (r.address : Int) / 256 + r.address + r.kind.toNat +
          ((r.data.map UInt8.toNat).sum : Nat) = (r.sum : Nat) := by
        rw [HexRecord.sum]
        push_cast
        rfl
      rw [htotal]
      omega
    rw [HexRecord.load, if_pos hzero]
    congr 3
    · split <;> omega
    · split <;> omega
    · exact if_neg (not_not.mpr hsum)
  · have hne : (r.kind.toNat : Int) ≠ 0 := by
      intro h
      apply hzero
      apply UInt8.toNat_inj.mp
      exact_mod_cast h
    rw [if_pos hne, HexRecord.load, if_neg hzero]
    refine ⟨_, rfl, ?_⟩
    have hdata : (58 : Byte) ∉ r.data.flatMap fun d => hexByte d.toNat := by
      rw [List.mem_flatMap]
      rintro ⟨d, -, hd⟩
      exact colon_not_mem_hexByte d.toNat hd
    rw [parseUntilColon_append hdata, parseUntilColon_append (colon_not_mem_hexByte _)]

/-- A file of records, with something between them that has no colon. -/
def printHex (gap : Bytes) (records : List HexRecord) : Bytes :=
  records.flatMap fun r => 58 :: (r.print ++ gap)

theorem parseRecords_congr
    {stream stream' : Bytes}
    (hcolon : parseUntilColon stream = parseUntilColon stream')
    (st : HexImage) :
    parseRecords stream st = parseRecords stream' st := by
  cases hrecord : parseUntilColon stream' with
  | none =>
      rw [parseRecords_none (hcolon.trans hrecord), parseRecords_none hrecord]
  | some record =>
      rw [parseRecords_some (hcolon.trans hrecord), parseRecords_some hrecord]

theorem parseRecords_print
    {gap : Bytes}
    (hgap : (58 : Byte) ∉ gap)
    {records : List HexRecord}
    (hfits : ∀ r ∈ records, r.Fits)
    (st : HexImage) :
    parseRecords (printHex gap records) st = some (records.foldl HexRecord.load st) := by
  induction records generalizing st with
  | nil =>
      exact parseRecords_none rfl st
  | cons r records ih =>
      obtain ⟨rest', hrecord, hcolon⟩ := parseRecord_print (hfits r List.mem_cons_self)
        (gap ++ printHex gap records) st
      have hfile : printHex gap (r :: records) =
          58 :: (r.print ++ (gap ++ printHex gap records)) := by
        simp [printHex]
      have hfirst : parseUntilColon (58 :: (r.print ++ (gap ++ printHex gap records))) =
          some (r.print ++ (gap ++ printHex gap records)) := rfl
      rw [hfile, parseRecords_some hfirst, hrecord, Option.bind_some,
        parseRecords_congr (hcolon.trans (parseUntilColon_append hgap _)),
        ih fun r' hr' => hfits r' (List.mem_cons_of_mem _ hr')]
      rfl

/-- What a writer of hex files prints is read back without a warning, records that hold no
data being left out. -/
theorem parseIntelHex_print
    {gap : Bytes}
    (hgap : (58 : Byte) ∉ gap)
    {records : List HexRecord}
    (hfits : ∀ r ∈ records, r.Fits) :
    parseIntelHex (printHex gap records) =
      some (records.foldl HexRecord.load
        { buffer := fun _ => 0xFF, startAddr := 1, endAddr := 0, warnings := [] }) :=
  parseRecords_print hgap hfits _

/-- A record of data and the one at the end, on lines. -/
theorem parseIntelHex_print_lines :
    parseIntelHex (printHex [13, 10] [⟨0, 16, [0xC0, 0x02]⟩, ⟨1, 0, []⟩]) =
      some ([⟨0, 16, [0xC0, 0x02]⟩, ⟨1, 0, []⟩].foldl HexRecord.load
        { buffer := fun _ => 0xFF, startAddr := 1, endAddr := 0, warnings := [] }) := by
  refine parseIntelHex_print (by decide) fun r hr => ?_
  simp only [List.mem_cons, List.not_mem_nil, or_false] at hr
  rcases hr with rfl | rfl
  · exact ⟨by decide, by decide⟩
  · exact ⟨by decide, by decide⟩

end Print

end Firmware
end BrBox
