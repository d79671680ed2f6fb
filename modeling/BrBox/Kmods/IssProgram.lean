import BrBox.Lib.CText
import Mathlib.Data.Option.Basic

/-!
# Programs of the USB-ISS

The adapter is given a program in bytes and does on the I2C bus what it says.  A code is a restart
of the bus, a number of bytes to read, or a number of bytes to write with these bytes behind it.
What the adapter does with the bytes is not known here: `UsbIss.Contract` says what a driver may
rely on.

`Performs code events` says that a part of a program is codes, and what these do:

* `Performs.append`: two parts.
* `UsbIss.Contract.events_eq`, `UsbIss.Contract.reply_eq`: a command of such parts.
* `answers_writes`, `answers_reads`: what the devices on the bus answer.
* `plainIss_contract`: an adapter that runs the bytes one by one does what is relied on.
-/

namespace BrBox
namespace Kmods

open CText

/-- What a master does on the bus; the last byte that it reads is not acknowledged. -/
inductive BusEvent where
  | start
  | restart
  | stop
  | write (value : Byte)
  | read (last : Bool)
deriving DecidableEq, Repr

/-- A byte is read. -/
def BusEvent.isRead : BusEvent → Bool
  | .read _ => true
  | _ => false

/-- `ISS_I2C_READ`. -/
def issRead (n : Nat) : Byte :=
  UInt8.ofNat (0x20 + n - 1)

/-- `ISS_I2C_WRITE`. -/
def issWrite (n : Nat) : Byte :=
  UInt8.ofNat (0x30 + n - 1)

/-- What stands between the start and the stop of a program. -/
inductive IssCode where
  | restart
  | read (n : Nat)
  | readLast
  | write (data : Bytes)
deriving DecidableEq, Repr

/-- A code holds 1 to 16 bytes. -/
def IssCode.Valid : IssCode → Prop
  | .read n => 1 ≤ n ∧ n ≤ 16
  | .write data => 1 ≤ data.length ∧ data.length ≤ 16
  | _ => True

/-- `ISS_I2C_RESTART`, `ISS_I2C_READ`, `ISS_I2C_NACK` in front of a read, `ISS_I2C_WRITE`. -/
def IssCode.bytes : IssCode → Bytes
  | .restart => [0x02]
  | .read n => [issRead n]
  | .readLast => [0x04, issRead 1]
  | .write data => issWrite data.length :: data

/-- What a code does on the bus. -/
def IssCode.events : IssCode → List BusEvent
  | .restart => [.restart]
  | .read n => List.replicate n (.read false)
  | .readLast => [.read true]
  | .write data => data.map .write

/-- `ISS_CMD_I2C_DIRECT` with `ISS_I2C_START` and `ISS_I2C_STOP` around its codes. -/
def directCommand (codes : List IssCode) : Bytes :=
  [0x57, 0x01] ++ codes.flatMap IssCode.bytes ++ [0x03]

/-- What a command does on the bus. -/
def directEvents (codes : List IssCode) : List BusEvent :=
  .start :: (codes.flatMap IssCode.events ++ [.stop])

/-- A part of a program is codes, and does what these do. -/
def Performs (code : Bytes) (events : List BusEvent) : Prop :=
  ∃ codes : List IssCode,
    (∀ c ∈ codes, c.Valid) ∧ code = codes.flatMap IssCode.bytes ∧
      events = codes.flatMap IssCode.events

/-- What is read on the bus: a byte of a message, whatever is behind the others. -/
def answers (slave : Nat → Nat → Byte) : (msg pos : Nat) → List BusEvent → Bytes
  | _, _, [] => []
  | msg, pos, .read _ :: events => slave msg pos :: answers slave msg (pos + 1) events
  | msg, _, .restart :: events => answers slave (msg + 1) 0 events
  | msg, pos, _ :: events => answers slave msg pos events

/-- The devices on a bus: what they answer, and whether all is acknowledged that is written. -/
structure BusDevices where
  answer : (msg pos : Nat) → Byte
  acks : List BusEvent → Bool

/-- What the USB core reports: an error, or what has been received. -/
inductive UsbReply where
  | failed (ret : Int)
  | received (data : Bytes)

/-- A USB-ISS: what a command does on the bus, and the reply to it. -/
structure UsbIss where
  events : BusDevices → Bytes → List BusEvent
  reply : BusDevices → Bytes → UsbReply

/-- What is relied on, for commands and replies that fit the buffer of a driver. -/
structure UsbIss.Contract (iss : UsbIss) : Prop where
  performed : ∀ devices codes, (∀ c ∈ codes, IssCode.Valid c) →
    (directCommand codes).length ≤ 60 → devices.acks (directEvents codes) = true →
      iss.events devices (directCommand codes) = directEvents codes
  answered : ∀ devices codes, (∀ c ∈ codes, IssCode.Valid c) →
    (directCommand codes).length ≤ 60 → devices.acks (directEvents codes) = true →
      (answers devices.answer 0 0 (directEvents codes)).length ≤ 58 →
        iss.reply devices (directCommand codes) =
          .received (0xff ::
            UInt8.ofNat (answers devices.answer 0 0 (directEvents codes)).length ::
              answers devices.answer 0 0 (directEvents codes))
  refused : ∀ devices codes, (∀ c ∈ codes, IssCode.Valid c) →
    (directCommand codes).length ≤ 60 → devices.acks (directEvents codes) = false →
      iss.reply devices (directCommand codes) = .received [0x00, 0x01]

section Codes

theorem performs_nil :
    Performs [] [] :=
  ⟨[], fun _ hmem => absurd hmem List.not_mem_nil, rfl, rfl⟩

/-- One part behind the other. -/
theorem Performs.append
    {code code' : Bytes}
    {events events' : List BusEvent}
    (hfirst : Performs code events)
    (hsecond : Performs code' events') :
    Performs (code ++ code') (events ++ events') := by
  obtain ⟨codes, hvalid, rfl, rfl⟩ := hfirst
  obtain ⟨codes', hvalid', rfl, rfl⟩ := hsecond
  refine ⟨codes ++ codes', fun c hmem => ?_, List.flatMap_append.symm, List.flatMap_append.symm⟩
  rcases List.mem_append.mp hmem with hmem | hmem
  · exact hvalid c hmem
  · exact hvalid' c hmem

theorem performs_code
    {c : IssCode}
    (hvalid : c.Valid) :
    Performs c.bytes c.events := by
  refine ⟨[c], fun c' hmem => ?_, (List.flatMap_singleton _ _).symm,
    (List.flatMap_singleton _ _).symm⟩
  rw [List.mem_singleton.mp hmem]
  exact hvalid

theorem performs_restart :
    Performs [0x02] [.restart] :=
  performs_code (c := .restart) trivial

theorem performs_write
    (data : Bytes)
    (hpos : 1 ≤ data.length)
    (hle : data.length ≤ 16) :
    Performs (issWrite data.length :: data) (data.map .write) :=
  performs_code (c := .write data) ⟨hpos, hle⟩

theorem performs_read
    {n : Nat}
    (hpos : 1 ≤ n)
    (hle : n ≤ 16) :
    Performs [issRead n] (List.replicate n (.read false)) :=
  performs_code (c := .read n) ⟨hpos, hle⟩

/-- The byte that is not acknowledged. -/
theorem performs_last :
    Performs [0x04, issRead 1] [.read true] :=
  performs_code (c := .readLast) trivial

end Codes

section Commands

variable {iss : UsbIss}
variable {devices : BusDevices}
variable {code : Bytes}
variable {events : List BusEvent}

/-- A command does what its parts do. -/
theorem UsbIss.Contract.events_eq
    (hiss : iss.Contract)
    (hperforms : Performs code events)
    (hroom : ([0x57, 0x01] ++ code ++ [0x03]).length ≤ 60)
    (hacks : devices.acks (.start :: (events ++ [.stop])) = true) :
    iss.events devices ([0x57, 0x01] ++ code ++ [0x03]) = .start :: (events ++ [.stop]) := by
  obtain ⟨codes, hvalid, rfl, rfl⟩ := hperforms
  exact hiss.performed devices codes hvalid hroom hacks

/-- What has been read comes back. -/
theorem UsbIss.Contract.reply_eq
    (hiss : iss.Contract)
    (hperforms : Performs code events)
    (hroom : ([0x57, 0x01] ++ code ++ [0x03]).length ≤ 60)
    (hacks : devices.acks (.start :: (events ++ [.stop])) = true)
    {data : Bytes}
    (hdata : answers devices.answer 0 0 (.start :: (events ++ [.stop])) = data)
    (hshort : data.length ≤ 58) :
    iss.reply devices ([0x57, 0x01] ++ code ++ [0x03]) =
      .received (0xff :: UInt8.ofNat data.length :: data) := by
  obtain ⟨codes, hvalid, rfl, rfl⟩ := hperforms
  subst hdata
  exact hiss.answered devices codes hvalid hroom hacks hshort

/-- A device has not acknowledged. -/
theorem UsbIss.Contract.reply_refused
    (hiss : iss.Contract)
    (hperforms : Performs code events)
    (hroom : ([0x57, 0x01] ++ code ++ [0x03]).length ≤ 60)
    (hacks : devices.acks (.start :: (events ++ [.stop])) = false) :
    iss.reply devices ([0x57, 0x01] ++ code ++ [0x03]) = .received [0x00, 0x01] := by
  obtain ⟨codes, hvalid, rfl, rfl⟩ := hperforms
  exact hiss.refused devices codes hvalid hroom hacks

end Commands

section Answers

variable (slave : Nat → Nat → Byte)

/-- Writes are not answered. -/
theorem answers_writes
    (msg pos : Nat)
    (data : Bytes)
    (events : List BusEvent) :
    answers slave msg pos (data.map .write ++ events) = answers slave msg pos events := by
  induction data with
  | nil =>
      rfl
  | cons c data ih =>
      rw [List.map_cons, List.cons_append, answers]
      · exact ih
      · rintro last ⟨⟩
      · rintro ⟨⟩

/-- Each read is answered by the next byte. -/
theorem answers_reads
    (msg pos n : Nat)
    (events : List BusEvent) :
    answers slave msg pos (List.replicate n (.read false) ++ events) =
      (List.range n).map (fun j => slave msg (pos + j)) ++
        answers slave msg (pos + n) events := by
  induction n generalizing pos with
  | zero =>
      rfl
  | succ n ih =>
      rw [List.replicate_succ, List.cons_append, answers, ih, List.range_succ_eq_map,
        List.map_cons, List.map_map, List.cons_append, Nat.add_zero, Nat.add_assoc,
        Nat.add_comm 1 n]
      refine congrArg (fun l => slave msg pos :: (l ++ _)) (List.map_congr_left fun j _ => ?_)
      rw [Function.comp_apply, Nat.succ_eq_add_one, Nat.add_assoc, Nat.add_comm 1 j]

end Answers

section Plain

/-- The bytes of a write that are missing, and whether the next read is the last one. -/
structure IssState where
  writing : Nat
  last : Bool
deriving DecidableEq, Repr

/-- Before the first code. -/
def issIdle : IssState where
  writing := 0
  last := false

/-- Some reads. -/
def readsWith (n : Nat) (last : Bool) : List BusEvent :=
  List.replicate (n - 1) (.read false) ++ [.read last]

/-- One byte of a program. -/
def issStep (s : IssState) (c : Byte) : Option (IssState × List BusEvent) :=
  if s.writing ≠ 0 then some ({ s with writing := s.writing - 1 }, [.write c])
  else if c = 0x01 then some (s, [.start])
  else if c = 0x02 then some (s, [.restart])
  else if c = 0x03 then some (s, [.stop])
  else if c = 0x04 then some ({ s with last := true }, [])
  else if 0x20 ≤ c.toNat ∧ c.toNat < 0x30 then
    some ({ s with last := false }, readsWith (c.toNat - 0x20 + 1) s.last)
  else if 0x30 ≤ c.toNat ∧ c.toNat < 0x40 then
    some ({ s with writing := c.toNat - 0x30 + 1 }, [])
  else none

/-- A program does nothing if it has an unknown code or ends in a write. -/
def issRun : IssState → Bytes → Option (List BusEvent)
  | s, [] => if s.writing = 0 then some [] else none
  | s, c :: p =>
      (issStep s c).bind fun next => (issRun next.1 p).map fun events => next.2 ++ events

/-- `ISS_CMD_I2C_DIRECT` on a bus. -/
def issCommand : Bytes → Option (List BusEvent)
  | [] => none
  | c :: p => if c = 0x57 then issRun issIdle p else none

/-- An adapter that runs a program byte by byte. -/
def plainIss : UsbIss where
  events := fun _ command => (issCommand command).getD []
  reply := fun devices command =>
    match issCommand command with
    | none => .received [0x00, 0x04]
    | some events =>
        if devices.acks events then
          let data := answers devices.answer 0 0 events
          .received (0xff :: UInt8.ofNat data.length :: data)
        else .received [0x00, 0x01]

theorem toNat_issRead
    {n : Nat}
    (hpos : 1 ≤ n)
    (hle : n ≤ 16) :
    (issRead n).toNat = 0x20 + n - 1 := by
  rw [issRead, UInt8.toNat_ofNat']
  omega

theorem toNat_issWrite
    {n : Nat}
    (hpos : 1 ≤ n)
    (hle : n ≤ 16) :
    (issWrite n).toNat = 0x30 + n - 1 := by
  rw [issWrite, UInt8.toNat_ofNat']
  omega

theorem ne_of_toNat
    {c : Byte}
    (hhigh : 0x20 ≤ c.toNat) :
    c ≠ 0x01 ∧ c ≠ 0x02 ∧ c ≠ 0x03 ∧ c ≠ 0x04 := by
  refine ⟨?_, ?_, ?_, ?_⟩ <;>
  · rintro rfl
    exact absurd hhigh (by decide)

theorem issStep_read
    {n : Nat}
    (hpos : 1 ≤ n)
    (hle : n ≤ 16)
    (last : Bool) :
    issStep { writing := 0, last := last } (issRead n) = some (issIdle, readsWith n last) := by
  have hcode := toNat_issRead hpos hle
  obtain ⟨h1, h2, h3, h4⟩ := ne_of_toNat (c := issRead n) (by omega)
  have hcount : 0x20 + n - 1 - 0x20 + 1 = n := by omega
  rw [issStep, if_neg (fun h => h rfl), if_neg h1, if_neg h2, if_neg h3, if_neg h4,
    if_pos (by omega), hcode, hcount]
  rfl

theorem issStep_write
    {n : Nat}
    (hpos : 1 ≤ n)
    (hle : n ≤ 16) :
    issStep issIdle (issWrite n) = some ({ writing := n, last := false }, []) := by
  have hcode := toNat_issWrite hpos hle
  obtain ⟨h1, h2, h3, h4⟩ := ne_of_toNat (c := issWrite n) (by omega)
  have hcount : 0x30 + n - 1 - 0x30 + 1 = n := by omega
  rw [issStep, if_neg (fun h => h rfl), if_neg h1, if_neg h2, if_neg h3, if_neg h4,
    if_neg (by omega), if_pos (by omega), hcode, hcount]
  rfl

/-- The bytes of a write. -/
theorem issRun_writing
    (data p : Bytes) :
    issRun { writing := data.length, last := false } (data ++ p) =
      (issRun issIdle p).map fun rest => data.map .write ++ rest := by
  induction data with
  | nil =>
      show issRun issIdle p = _
      cases issRun issIdle p <;> rfl
  | cons c data ih =>
      have hstep : issStep { writing := (c :: data).length, last := false } c =
          some ({ writing := data.length, last := false }, [.write c]) :=
        if_pos (Nat.succ_ne_zero _)
      rw [List.cons_append, issRun, hstep, Option.bind_some, ih, Option.map_map]
      rfl

theorem readsWith_false
    {n : Nat}
    (hpos : 1 ≤ n) :
    readsWith n false = List.replicate n (.read false) := by
  rw [readsWith, ← List.replicate_succ', Nat.sub_add_cancel hpos]

/-- One code, with any program behind it. -/
theorem issRun_code
    {c : IssCode}
    (hvalid : c.Valid)
    (p : Bytes) :
    issRun issIdle (c.bytes ++ p) = (issRun issIdle p).map fun rest => c.events ++ rest := by
  cases c with
  | restart =>
      rfl
  | read n =>
      obtain ⟨hpos, hle⟩ := hvalid
      rw [IssCode.bytes, IssCode.events, List.singleton_append, issRun, issIdle,
        issStep_read hpos hle, Option.bind_some, readsWith_false hpos]
      rfl
  | readLast =>
      have hnack : issStep issIdle 0x04 = some ({ writing := 0, last := true }, []) := by
        rfl
      rw [IssCode.bytes, List.cons_append, issRun, hnack, Option.bind_some,
        List.singleton_append, issRun, issStep_read (le_refl 1) (by decide), Option.bind_some,
        Option.map_map]
      rfl
  | write data =>
      obtain ⟨hpos, hle⟩ := hvalid
      rw [IssCode.bytes, IssCode.events, List.cons_append, issRun, issStep_write hpos hle,
        Option.bind_some, issRun_writing, Option.map_map]
      rfl

theorem issRun_codes
    {codes : List IssCode}
    (hvalid : ∀ c ∈ codes, c.Valid) :
    issRun issIdle (codes.flatMap IssCode.bytes ++ [0x03]) =
      some (codes.flatMap IssCode.events ++ [.stop]) := by
  induction codes with
  | nil =>
      rfl
  | cons c codes ih =>
      rw [List.flatMap_cons, List.append_assoc, issRun_code (hvalid c List.mem_cons_self),
        ih fun c' hmem => hvalid c' (List.mem_cons_of_mem c hmem), Option.map_some,
        List.flatMap_cons, List.append_assoc]

theorem issCommand_directCommand
    {codes : List IssCode}
    (hvalid : ∀ c ∈ codes, c.Valid) :
    issCommand (directCommand codes) = some (directEvents codes) := by
  have hstart : issStep issIdle 0x01 = some (issIdle, [.start]) := by
    rfl
  have hdirect : issCommand (directCommand codes) =
      issRun issIdle (0x01 :: (codes.flatMap IssCode.bytes ++ [0x03])) := by
    rw [directCommand, List.append_assoc, List.cons_append, issCommand, if_pos rfl]
    rfl
  rw [hdirect, issRun, hstart, Option.bind_some, issRun_codes hvalid, Option.map_some,
    directEvents, List.singleton_append]

theorem plainIss_contract :
    plainIss.Contract where
  performed := by
    intro devices codes hvalid _ _
    show (issCommand (directCommand codes)).getD [] = _
    rw [issCommand_directCommand hvalid, Option.getD_some]
  answered := by
    intro devices codes hvalid _ hacks _
    simp only [plainIss, issCommand_directCommand hvalid, hacks, if_true]
  refused := by
    intro devices codes hvalid _ hacks
    simp only [plainIss, issCommand_directCommand hvalid, hacks, Bool.false_eq_true, if_false]

end Plain

end Kmods
end BrBox
