import BrBox.Adav.JsonRpcProxy

/-!
# The copies made while a request is mapped

Every parameter the mappers take out of a request goes through an array of a
fixed size: the `param_value` of the mapper macros and the string fields of the
packets.  The mappers are programs with copies, so that each copy is seen with
the array it goes to.

`mapJsonToBinary_fits` says when a mapper stays inside its arrays: when every
parameter it gets to read is short enough.
-/

namespace BrBox
namespace Adav

open CText
open CxxText
open CopyTrace

universe u

/-- The JSON functions, with the lookup of a member as a value. -/
structure ParamLib (J : Type u) extends JsonLib J where
  /-- `json_object_object_get`. -/
  objectGet : J → Bytes → Option J

def keyParams : Bytes := text "params"

/-- `param_value` of the mapper macros. -/
def paramValue : CharArray := { name := "param_value", capacity := 255 }

/-- `temp_param` of the event mappers. -/
def tempParam : CharArray := { name := "temp_param", capacity := 255 }

namespace Copies

/-- One parameter that a mapper takes out of the request. -/
inductive ParamRead where
  /-- `JSON_STRING_TO_ENUM`: the names before `ENUM_MAX` are accepted. -/
  | enum (name : Bytes) (names : List Bytes)
  /-- `JSON_STRING_TO_STRING`: copied on to a field of the packet. -/
  | string (name : Bytes) (field : CharArray)
  /-- A number is read out of `param_value`. -/
  | number (name : Bytes)
  /-- Looked for with `temp_param` first; read as a number when it is there. -/
  | optional (name : Bytes)
deriving DecidableEq, Repr

namespace ParamRead

/-- `JSON_STRING_TO_INT`. -/
def jsonStringToInt (name : Bytes) : ParamRead :=
  .number name

/-- `JSON_STRING_TO_ULONG`. -/
def jsonStringToUlong (name : Bytes) : ParamRead :=
  .number name

/-- The name of the parameter. -/
def name : ParamRead → Bytes
  | .enum name _ => name
  | .string name _ => name
  | .number name => name
  | .optional name => name

/-- The field of the packet that is written, when it is a string. -/
def field : ParamRead → Option CharArray
  | .string _ field => some field
  | _ => none

end ParamRead

/-- The packet of a command, as far as the mapper fills it. -/
structure Packet where
  enums : List Nat
  strings : List (CharArray × Bytes)
deriving DecidableEq, Repr

/-- A freshly created packet. -/
def Packet.fresh : Packet :=
  { enums := [], strings := [] }

/-- The text in a string field; a field that was not written is empty. -/
def Packet.get (packet : Packet) (field : CharArray) : Bytes :=
  ((packet.strings.find? fun entry => entry.1 = field).map Prod.snd).getD []

section Mapper

variable {J : Type u}
variable (lib : ParamLib J)
variable (jsonString : Bytes)

/-- The text of a parameter of the request. -/
def lookupParam (paramName : Bytes) : Option Bytes :=
  match lib.tokenerParse jsonString with
  | none => none
  | some obj =>
      match lib.getString obj keyParams with
      | none => none
      | some _ =>
          match lib.objectGet obj keyParams with
          | none => none
          | some params => lib.getString params paramName

/-- `find_single_param`: the array of the caller is written without a check. -/
def findSingleParam (value : CharArray) (paramName : Bytes) : Traced (Option Bytes) :=
  match lookupParam lib jsonString paramName with
  | none => pure none
  | some found => do
      let held ← Traced.copy value found
      pure (some held)

/-- `string_to_enum`. -/
def stringToEnum (names : List Bytes) (value : Bytes) : Nat :=
  names.idxOf value

/-- One macro of a mapper; no packet means `CMD_TASK_RESULT_INVALID_PARAM`. -/
def ParamRead.run (packet : Packet) : ParamRead → Traced (Option Packet)
  | .enum name names => do
      match ← findSingleParam lib jsonString paramValue name with
      | none => pure none
      | some value =>
          let index := stringToEnum names value
          pure (if names.length ≤ index then none
            else some { packet with enums := packet.enums ++ [index] })
  | .string name field => do
      match ← findSingleParam lib jsonString paramValue name with
      | none => pure none
      | some value => do
          let held ← Traced.copy field value
          pure (some { packet with strings := packet.strings ++ [(field, held)] })
  | .number name => do
      match ← findSingleParam lib jsonString paramValue name with
      | none => pure none
      | some _ => pure (some packet)
  | .optional name => do
      match ← findSingleParam lib jsonString tempParam name with
      | none => pure (some packet)
      | some _ =>
          match ← findSingleParam lib jsonString paramValue name with
          | none => pure none
          | some _ => pure (some packet)

/-- The macros of a `json_to_bin` function, in order. -/
def mapJsonToBinary : List ParamRead → Packet → Traced (Option Packet)
  | [], packet => pure (some packet)
  | read :: reads, packet => do
      match ← read.run lib jsonString packet with
      | none => pure none
      | some packet => mapJsonToBinary reads packet

/-- The request has the parameter, with a value the macro accepts. -/
def ParamRead.Accepted : ParamRead → Prop
  | .enum name names => ∃ value ∈ names, lookupParam lib jsonString name = some value
  | .string name _ => ∃ value, lookupParam lib jsonString name = some value
  | .number name => ∃ value, lookupParam lib jsonString name = some value
  | .optional _ => True

/-- The parameter is missing, or it has at most 254 characters. -/
def ParamRead.Short (read : ParamRead) : Prop :=
  ∀ value, lookupParam lib jsonString read.name = some value → value.length ≤ 254

/-- Every parameter up to the first that is not accepted is short. -/
def ReadsShort : List ParamRead → Prop
  | [] => True
  | read :: reads =>
      read.Short lib jsonString ∧ (read.Accepted lib jsonString → ReadsShort reads)

@[simp] theorem findSingleParam_value
    (value : CharArray) (paramName : Bytes) :
    (findSingleParam lib jsonString value paramName).value =
      lookupParam lib jsonString paramName := by
  unfold findSingleParam
  cases lookupParam lib jsonString paramName <;> simp

theorem findSingleParam_fits
    (value : CharArray) (paramName : Bytes) :
    (findSingleParam lib jsonString value paramName).Fits ↔
      ∀ found, lookupParam lib jsonString paramName = some found →
        found.length + 1 ≤ value.capacity := by
  unfold findSingleParam
  cases lookupParam lib jsonString paramName <;> simp

/-- A macro hands on a packet exactly when it accepts the parameter. -/
theorem ParamRead.run_value_isSome
    (read : ParamRead) (packet : Packet) :
    (read.run lib jsonString packet).value.isSome ↔ read.Accepted lib jsonString := by
  cases read with
  | enum name names =>
      simp only [run, Accepted, Traced.value_bind, findSingleParam_value, stringToEnum]
      cases lookupParam lib jsonString name with
      | none => simp
      | some value =>
          by_cases hmem : value ∈ names
          · have hindex := List.idxOf_lt_length_of_mem hmem
            simp [hmem, Nat.not_le.mpr hindex]
          · simp [hmem]
  | string name field =>
      simp only [run, Accepted, Traced.value_bind, findSingleParam_value]
      cases lookupParam lib jsonString name <;> simp
  | number name =>
      simp only [run, Accepted, Traced.value_bind, findSingleParam_value]
      cases lookupParam lib jsonString name <;> simp
  | optional name =>
      simp only [run, Accepted, Traced.value_bind, findSingleParam_value]
      cases hlookup : lookupParam lib jsonString name <;> simp [hlookup]

/-- The field of the packet is no smaller than `param_value`. -/
def ParamRead.Roomy (read : ParamRead) : Prop :=
  ∀ field, read.field = some field → paramValue.capacity ≤ field.capacity

/-- A short text and its terminator fit `param_value`. -/
theorem short_room
    (value : Bytes) :
    value.length + 1 ≤ 255 ↔ value.length ≤ 254 := by
  omega

/-- One macro stays inside its arrays when the parameter is short. -/
theorem ParamRead.run_fits
    {read : ParamRead}
    (hroomy : read.Roomy)
    (packet : Packet) :
    (read.run lib jsonString packet).Fits ↔ read.Short lib jsonString := by
  cases read with
  | enum name names =>
      simp only [run, Short, ParamRead.name, Traced.fits_bind, findSingleParam_fits,
        findSingleParam_value, paramValue, short_room]
      cases lookupParam lib jsonString name <;> simp
  | string name field =>
      have hcap : 255 ≤ field.capacity := hroomy field rfl
      simp only [run, Short, ParamRead.name, Traced.fits_bind, findSingleParam_fits,
        findSingleParam_value, paramValue, short_room]
      cases lookupParam lib jsonString name <;> simp
      omega
  | number name =>
      simp only [run, Short, ParamRead.name, Traced.fits_bind, findSingleParam_fits,
        findSingleParam_value, paramValue, short_room]
      cases lookupParam lib jsonString name <;> simp
  | optional name =>
      simp only [run, Short, ParamRead.name, Traced.fits_bind, findSingleParam_fits,
        findSingleParam_value, paramValue, tempParam, short_room]
      cases hlookup : lookupParam lib jsonString name with
      | none => simp
      | some value =>
          simp only [Traced.fits_bind, findSingleParam_fits, findSingleParam_value, hlookup,
            short_room]
          simp

/-- A mapper stays inside its arrays when the parameters it reads are short. -/
theorem mapJsonToBinary_fits
    {reads : List ParamRead}
    (hroomy : ∀ read ∈ reads, read.Roomy)
    (packet : Packet) :
    (mapJsonToBinary lib jsonString reads packet).Fits ↔ ReadsShort lib jsonString reads := by
  induction reads generalizing packet with
  | nil => simp [mapJsonToBinary, ReadsShort]
  | cons read reads ih =>
      have hread := ParamRead.run_fits lib jsonString (hroomy read (by simp)) packet
      have haccepted := ParamRead.run_value_isSome lib jsonString read packet
      have hreads := ih fun r hr => hroomy r (List.mem_cons_of_mem _ hr)
      simp only [mapJsonToBinary, ReadsShort, Traced.fits_bind, hread]
      refine and_congr_right fun _ => ?_
      cases hvalue : (read.run lib jsonString packet).value with
      | none =>
          rw [hvalue] at haccepted
          simp [← haccepted]
      | some packet' =>
          rw [hvalue] at haccepted
          simp [← haccepted, hreads]

/-- Every text in the packet is short. -/
def Packet.Short (packet : Packet) : Prop :=
  ∀ entry ∈ packet.strings, entry.2.length ≤ 254

theorem Packet.fresh_short :
    Packet.fresh.Short := by
  intro entry hentry
  cases hentry

theorem Packet.get_short
    {packet : Packet}
    (hshort : packet.Short)
    (field : CharArray) :
    (packet.get field).length ≤ 254 := by
  unfold Packet.get
  cases hfind : packet.strings.find? fun entry => entry.1 = field with
  | none => simp
  | some entry =>
      have hentry := hshort entry (List.mem_of_find?_eq_some hfind)
      simpa using hentry

/-- A short parameter keeps the packet short. -/
theorem ParamRead.run_short
    {read : ParamRead} {packet packet' : Packet}
    (hread : read.Short lib jsonString)
    (hpacket : packet.Short)
    (hrun : (read.run lib jsonString packet).value = some packet') :
    packet'.Short := by
  cases read with
  | enum name names =>
      simp only [run, Traced.value_bind, findSingleParam_value] at hrun
      cases hlookup : lookupParam lib jsonString name with
      | none => simp [hlookup] at hrun
      | some value =>
          simp only [hlookup, Traced.value_pure] at hrun
          split at hrun
          · cases hrun
          · cases hrun
            exact hpacket
  | string name field =>
      simp only [run, Traced.value_bind, findSingleParam_value] at hrun
      cases hlookup : lookupParam lib jsonString name with
      | none => simp [hlookup] at hrun
      | some value =>
          simp only [hlookup, Traced.value_bind, Traced.value_copy, Traced.value_pure,
            Option.some.injEq] at hrun
          subst hrun
          have hvalue : value.length ≤ 254 := hread value hlookup
          intro entry hentry
          rcases List.mem_append.mp hentry with hold | hnew
          · exact hpacket entry hold
          · cases List.mem_singleton.mp hnew
            exact hvalue
  | number name =>
      simp only [run, Traced.value_bind, findSingleParam_value] at hrun
      cases hlookup : lookupParam lib jsonString name <;> simp [hlookup] at hrun
      exact hrun ▸ hpacket
  | optional name =>
      simp only [run, Traced.value_bind, findSingleParam_value] at hrun
      cases hlookup : lookupParam lib jsonString name <;>
        simp [hlookup] at hrun <;> exact hrun ▸ hpacket

/-- The packet of a mapper whose parameters are short is short. -/
theorem mapJsonToBinary_short
    {reads : List ParamRead} {packet packet' : Packet}
    (hreads : ReadsShort lib jsonString reads)
    (hpacket : packet.Short)
    (hmap : (mapJsonToBinary lib jsonString reads packet).value = some packet') :
    packet'.Short := by
  induction reads generalizing packet with
  | nil =>
      cases hmap
      exact hpacket
  | cons read reads ih =>
      have haccepted := ParamRead.run_value_isSome lib jsonString read packet
      simp only [mapJsonToBinary, Traced.value_bind] at hmap
      cases hrun : (read.run lib jsonString packet).value with
      | none => simp [hrun] at hmap
      | some next =>
          rw [hrun] at haccepted hmap
          exact ih (hreads.2 (haccepted.mp rfl))
            (ParamRead.run_short lib jsonString hreads.1 hpacket hrun) hmap

/-- A parameter that is too long for a mapper that stays inside its arrays
    comes after one that is not accepted. -/
theorem mapJsonToBinary_none_of_long
    {reads : List ParamRead} {read : ParamRead}
    (hreads : ReadsShort lib jsonString reads)
    (hmem : read ∈ reads)
    (hlong : ¬ read.Short lib jsonString)
    (packet : Packet) :
    (mapJsonToBinary lib jsonString reads packet).value = none := by
  induction reads generalizing packet with
  | nil => cases hmem
  | cons head reads ih =>
      have haccepted := ParamRead.run_value_isSome lib jsonString head packet
      have hne : read ≠ head := by
        rintro rfl
        exact hlong hreads.1
      have htail : read ∈ reads := (List.mem_cons.mp hmem).resolve_left hne
      simp only [mapJsonToBinary, Traced.value_bind]
      cases hrun : (head.run lib jsonString packet).value with
      | none => rfl
      | some next =>
          rw [hrun] at haccepted
          exact ih (hreads.2 (haccepted.mp rfl)) htail next

end Mapper

end Copies

end Adav
end BrBox
