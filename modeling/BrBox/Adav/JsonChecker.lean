import BrBox.Lib.CText

/-!
# The syntax checker in front of the JSON library

`JSON_checker` is a pushdown automaton: a table of states and character
classes, and a stack of modes of bounded depth.  `json_checker_function` feeds
it a request and stops at the first `char` that is not positive; what that is
depends on whether `char` is signed.

* `stack_ne_nil_of_feed`: the automaton never looks below its stack.
* `feed_done_other`: an accepted text accepts no further other character.
* `verdictAgrees_iff`: when the verdict depends neither on the signedness of
  `char` nor on a suffix that is not looked at.
-/

namespace BrBox
namespace Adav

open CText

/-- `enum classes`. -/
inductive CharClass where
  /-- space -/
  | space
  /-- other whitespace -/
  | white
  | lcurb
  | rcurb
  | lsqrb
  | rsqrb
  | colon
  | comma
  | quote
  | backs
  | slash
  | plus
  | minus
  | point
  | zero
  /-- 123456789 -/
  | digit
  | lowA
  | lowB
  | lowC
  | lowD
  | lowE
  | lowF
  | lowL
  | lowN
  | lowR
  | lowS
  | lowT
  | lowU
  /-- ABCDF -/
  | abcdf
  /-- E -/
  | capE
  /-- everything else -/
  | etc
deriving DecidableEq, Repr

/-- `ascii_class`; none is the error code. -/
def asciiClass (c : Nat) : Option CharClass :=
  if c < 32 then
    if c = 9 ∨ c = 10 ∨ c = 13 then some .white else none
  else if c = 32 then some .space
  else if c = 34 then some .quote
  else if c = 43 then some .plus
  else if c = 44 then some .comma
  else if c = 45 then some .minus
  else if c = 46 then some .point
  else if c = 47 then some .slash
  else if c = 48 then some .zero
  else if 49 ≤ c ∧ c ≤ 57 then some .digit
  else if c = 58 then some .colon
  else if c = 69 then some .capE
  else if 65 ≤ c ∧ c ≤ 70 then some .abcdf
  else if c = 91 then some .lsqrb
  else if c = 92 then some .backs
  else if c = 93 then some .rsqrb
  else if c = 97 then some .lowA
  else if c = 98 then some .lowB
  else if c = 99 then some .lowC
  else if c = 100 then some .lowD
  else if c = 101 then some .lowE
  else if c = 102 then some .lowF
  else if c = 108 then some .lowL
  else if c = 110 then some .lowN
  else if c = 114 then some .lowR
  else if c = 115 then some .lowS
  else if c = 116 then some .lowT
  else if c = 117 then some .lowU
  else if c = 123 then some .lcurb
  else if c = 125 then some .rcurb
  else some .etc

/-- `enum states`. -/
inductive CheckerState where
  /-- start -/
  | GO
  /-- ok -/
  | OK
  /-- object -/
  | OB
  /-- key -/
  | KE
  /-- colon -/
  | CO
  /-- value -/
  | VA
  /-- array -/
  | AR
  /-- string -/
  | ST
  /-- escape -/
  | ES
  | U1
  | U2
  | U3
  | U4
  /-- minus -/
  | MI
  /-- zero -/
  | ZE
  /-- integer -/
  | IN
  /-- fraction -/
  | FR
  /-- e -/
  | E1
  /-- ex -/
  | E2
  /-- exp -/
  | E3
  /-- tr -/
  | T1
  /-- tru -/
  | T2
  /-- true -/
  | T3
  /-- fa -/
  | F1
  /-- fal -/
  | F2
  /-- fals -/
  | F3
  /-- false -/
  | F4
  /-- nu -/
  | N1
  /-- nul -/
  | N2
  /-- null -/
  | N3
deriving DecidableEq, Repr

/-- `enum modes`. -/
inductive CheckerMode where
  | array
  | done
  | key
  | object
deriving DecidableEq, Repr

/-- An entry of `state_transition_table`: a state, an action, or the error. -/
inductive TableEntry where
  | goto (state : CheckerState)
  /-- empty `}`, -9 -/
  | emptyRcurb
  /-- `}`, -8 -/
  | rcurb
  /-- `]`, -7 -/
  | rsqrb
  /-- `{`, -6 -/
  | lcurb
  /-- `[`, -5 -/
  | lsqrb
  /-- `"`, -4 -/
  | quote
  /-- `,`, -3 -/
  | comma
  /-- `:`, -2 -/
  | colon
  /-- `__` -/
  | error
deriving DecidableEq, Repr

/-- The entries that follow a complete number, besides its own characters. -/
def afterNumber : CharClass → TableEntry
  | .space | .white => .goto .OK
  | .rcurb => .rcurb
  | .rsqrb => .rsqrb
  | .comma => .comma
  | _ => .error

/-- The entries for a hexadecimal digit of an escape. -/
def hexDigit (next : CheckerState) : CharClass → TableEntry
  | .zero | .digit | .lowA | .lowB | .lowC | .lowD | .lowE | .lowF
  | .abcdf | .capE => .goto next
  | _ => .error

/-- The entries for one letter of a literal. -/
def letter (c : CharClass) (next : CheckerState) (d : CharClass) : TableEntry :=
  if d = c then .goto next else .error

/-- `state_transition_table`. -/
def stateTransitionTable : CheckerState → CharClass → TableEntry
  | .GO => fun
      | .space | .white => .goto .GO
      | .lcurb => .lcurb
      | .lsqrb => .lsqrb
      | _ => .error
  | .OK => fun
      | .space | .white => .goto .OK
      | .rcurb => .rcurb
      | .rsqrb => .rsqrb
      | .comma => .comma
      | _ => .error
  | .OB => fun
      | .space | .white => .goto .OB
      | .rcurb => .emptyRcurb
      | .quote => .goto .ST
      | _ => .error
  | .KE => fun
      | .space | .white => .goto .KE
      | .quote => .goto .ST
      | _ => .error
  | .CO => fun
      | .space | .white => .goto .CO
      | .colon => .colon
      | _ => .error
  | .VA => fun
      | .space | .white => .goto .VA
      | .lcurb => .lcurb
      | .lsqrb => .lsqrb
      | .quote => .goto .ST
      | .minus => .goto .MI
      | .zero => .goto .ZE
      | .digit => .goto .IN
      | .lowF => .goto .F1
      | .lowN => .goto .N1
      | .lowT => .goto .T1
      | _ => .error
  | .AR => fun
      | .space | .white => .goto .AR
      | .lcurb => .lcurb
      | .lsqrb => .lsqrb
      | .rsqrb => .rsqrb
      | .quote => .goto .ST
      | .minus => .goto .MI
      | .zero => .goto .ZE
      | .digit => .goto .IN
      | .lowF => .goto .F1
      | .lowN => .goto .N1
      | .lowT => .goto .T1
      | _ => .error
  | .ST => fun
      | .white => .error
      | .quote => .quote
      | .backs => .goto .ES
      | _ => .goto .ST
  | .ES => fun
      | .quote | .backs | .slash | .lowB | .lowF | .lowN | .lowR | .lowT =>
          .goto .ST
      | .lowU => .goto .U1
      | _ => .error
  | .U1 => hexDigit .U2
  | .U2 => hexDigit .U3
  | .U3 => hexDigit .U4
  | .U4 => hexDigit .ST
  | .MI => fun
      | .zero => .goto .ZE
      | .digit => .goto .IN
      | _ => .error
  | .ZE => fun
      | .point => .goto .FR
      | c => afterNumber c
  | .IN => fun
      | .point => .goto .FR
      | .zero | .digit => .goto .IN
      | .lowE | .capE => .goto .E1
      | c => afterNumber c
  | .FR => fun
      | .zero | .digit => .goto .FR
      | .lowE | .capE => .goto .E1
      | c => afterNumber c
  | .E1 => fun
      | .plus | .minus => .goto .E2
      | .zero | .digit => .goto .E3
      | _ => .error
  | .E2 => fun
      | .zero | .digit => .goto .E3
      | _ => .error
  | .E3 => fun
      | .zero | .digit => .goto .E3
      | c => afterNumber c
  | .T1 => letter .lowR .T2
  | .T2 => letter .lowU .T3
  | .T3 => letter .lowE .OK
  | .F1 => letter .lowA .F2
  | .F2 => letter .lowL .F3
  | .F3 => letter .lowS .F4
  | .F4 => letter .lowE .OK
  | .N1 => letter .lowU .N2
  | .N2 => letter .lowL .N3
  | .N3 => letter .lowL .OK

/-- `JSON_checker_struct`; the top of the stack comes first. -/
structure JsonChecker where
  state : CheckerState
  depth : Nat
  stack : List CheckerMode
deriving DecidableEq, Repr

/-- `push`: none on overflow. -/
def push (jc : JsonChecker) (mode : CheckerMode) : Option JsonChecker :=
  if jc.depth ≤ jc.stack.length then
    none
  else
    some { jc with stack := mode :: jc.stack }

/-- `pop`: none on underflow and on another mode. -/
def pop (jc : JsonChecker) (mode : CheckerMode) : Option JsonChecker :=
  match jc.stack with
  | [] => none
  | top :: stack => if top = mode then some { jc with stack := stack } else none

/-- `new_JSON_checker`, for a depth that is not zero. -/
def newJsonChecker (depth : Nat) : JsonChecker where
  state := .GO
  depth := depth
  stack := [.done]

/-- Set the state, if nothing has failed. -/
def enter (state : CheckerState) (jc : Option JsonChecker) :
    Option JsonChecker :=
  jc.map fun jc => { jc with state := state }

/-- The `switch` of `JSON_checker_char` over the actions. -/
def performEntry (jc : JsonChecker) : TableEntry → Option JsonChecker
  | .goto state => some { jc with state := state }
  | .emptyRcurb => enter .OK (pop jc .key)
  | .rcurb => enter .OK (pop jc .object)
  | .rsqrb => enter .OK (pop jc .array)
  | .lcurb => enter .OB (push jc .key)
  | .lsqrb => enter .AR (push jc .array)
  | .quote =>
      match jc.stack.head? with
      | some .key => some { jc with state := .CO }
      | some .array | some .object => some { jc with state := .OK }
      | _ => none
  | .comma =>
      match jc.stack.head? with
      | some .object => enter .KE ((pop jc .object).bind fun jc => push jc .key)
      | some .array => some { jc with state := .VA }
      | _ => none
  | .colon => enter .VA ((pop jc .key).bind fun jc => push jc .object)
  | .error => none

/-- The class of a character; none rejects the text. -/
def charClass (nextChar : Int) : Option CharClass :=
  if nextChar < 0 then
    none
  else if 128 ≤ nextChar then
    some .etc
  else
    asciiClass nextChar.toNat

/-- `JSON_checker_char`; none is a rejected text. -/
def jsonCheckerChar (jc : JsonChecker) (nextChar : Int) : Option JsonChecker :=
  match charClass nextChar with
  | none => none
  | some nextClass => performEntry jc (stateTransitionTable jc.state nextClass)

/-- `JSON_checker_done`. -/
def jsonCheckerDone (jc : JsonChecker) : Bool :=
  decide (jc.state = .OK) && (pop jc .done).isSome

/-- A `char` as an `int`, where `char` is signed and where it is not. -/
def charToInt (charSigned : Bool) (c : Byte) : Int :=
  if charSigned = true ∧ 128 ≤ c.toNat then (c.toNat : Int) - 256 else c.toNat

/-- The loop of `json_checker_function` over the characters of the string. -/
def checkLoop (charSigned : Bool) :
    Bytes → JsonChecker → Option JsonChecker
  | [], jc => some jc
  | c :: rest, jc =>
      if charToInt charSigned c ≤ 0 then
        some jc
      else
        match jsonCheckerChar jc (charToInt charSigned c) with
        | none => none
        | some jc => checkLoop charSigned rest jc

/-- `json_checker_function`. -/
def jsonCheckerFunction (charSigned : Bool) (string : Bytes) : Int :=
  match checkLoop charSigned (cString string) (newJsonChecker 20) with
  | none => -1
  | some jc => if jsonCheckerDone jc then 0 else -1

/-- Feed bytes to `JSON_checker_char`, each as a character of its own value. -/
def feed (jc : JsonChecker) (s : Bytes) : Option JsonChecker :=
  s.foldlM (fun jc c => jsonCheckerChar jc c.toNat) jc

/-- `JSON_checker_char` takes all of the text and `JSON_checker_done` accepts. -/
def Accepted (s : Bytes) : Prop :=
  ∃ jc, feed (newJsonChecker 20) s = some jc ∧ jsonCheckerDone jc = true

instance (s : Bytes) : Decidable (Accepted s) :=
  decidable_of_iff
    ((feed (newJsonChecker 20) s).any fun jc => jsonCheckerDone jc) (by
      rw [Option.any_eq_true]
      rfl)

/-- The verdict over all bytes up to the terminating NUL. -/
def fullVerdict (string : Bytes) : Int :=
  if Accepted (cString string) then 0 else -1

/-- The verdict is the full one, with a signed and with an unsigned `char`. -/
def VerdictAgrees (string : Bytes) : Prop :=
  jsonCheckerFunction true string = fullVerdict string ∧
    jsonCheckerFunction false string = fullVerdict string

/-- The bytes in front of the first one that is negative as a signed `char`. -/
def asciiPart (s : Bytes) : Bytes :=
  s.takeWhile fun c => c < 128

@[simp] theorem feed_nil
    (jc : JsonChecker) :
    feed jc [] = some jc := by
  rfl

theorem feed_cons
    (jc : JsonChecker) (c : Byte) (s : Bytes) :
    feed jc (c :: s) = (jsonCheckerChar jc c.toNat).bind fun jc => feed jc s := by
  rfl

theorem feed_append
    (jc : JsonChecker) (s t : Bytes) :
    feed jc (s ++ t) = (feed jc s).bind fun jc => feed jc t := by
  rw [feed, List.foldlM_append]
  rfl

/-- `MODE_DONE` is the mode at the bottom of the stack. -/
def JsonChecker.Bottom (jc : JsonChecker) : Prop :=
  jc.stack.getLast? = some .done

theorem newJsonChecker_bottom
    (depth : Nat) :
    (newJsonChecker depth).Bottom := by
  rfl

theorem JsonChecker.Bottom.stack_ne_nil
    {jc : JsonChecker}
    (hbottom : jc.Bottom) :
    jc.stack ≠ [] := by
  intro hnil
  rw [JsonChecker.Bottom, hnil] at hbottom
  cases hbottom

/-- `push` keeps the bottom. -/
theorem push_bottom
    {jc jc' : JsonChecker} {mode : CheckerMode}
    (hbottom : jc.Bottom)
    (hpush : push jc mode = some jc') :
    jc'.Bottom := by
  unfold push at hpush
  split at hpush
  · cases hpush
  · obtain rfl := Option.some.inj hpush
    rw [JsonChecker.Bottom, List.getLast?_cons, hbottom]
    rfl

/-- `pop` keeps the bottom, as `MODE_DONE` is popped at the end only. -/
theorem pop_bottom
    {jc jc' : JsonChecker} {mode : CheckerMode}
    (hbottom : jc.Bottom)
    (hmode : mode ≠ .done)
    (hpop : pop jc mode = some jc') :
    jc'.Bottom := by
  unfold pop at hpop
  cases hstack : jc.stack with
  | nil =>
      rw [hstack] at hpop
      cases hpop
  | cons top stack =>
      simp only [hstack] at hpop
      split at hpop
      · rename_i htop
        obtain rfl := Option.some.inj hpop
        rw [JsonChecker.Bottom, hstack] at hbottom
        cases hrest : stack with
        | nil =>
            rw [hrest] at hbottom
            exact absurd (htop.symm.trans (Option.some.inj hbottom)) hmode
        | cons next rest =>
            rw [hrest, List.getLast?_cons_cons] at hbottom
            exact hbottom
      · cases hpop

/-- Setting the state keeps the bottom. -/
theorem enter_bottom
    {state : CheckerState} {o : Option JsonChecker} {jc' : JsonChecker}
    (hbottom : ∀ jc, o = some jc → jc.Bottom)
    (henter : enter state o = some jc') :
    jc'.Bottom := by
  obtain ⟨jc, hjc, rfl⟩ := Option.map_eq_some_iff.mp henter
  exact hbottom jc hjc

/-- Flipping the mode on top keeps the bottom. -/
theorem flip_bottom
    {jc jc' : JsonChecker} {old new : CheckerMode}
    (hbottom : jc.Bottom)
    (hold : old ≠ .done)
    (hflip : ((pop jc old).bind fun jc => push jc new) = some jc') :
    jc'.Bottom := by
  obtain ⟨popped, hpop, hpush⟩ := Option.bind_eq_some_iff.mp hflip
  exact push_bottom (pop_bottom hbottom hold hpop) hpush

/-- Every entry of the table keeps the bottom. -/
theorem performEntry_bottom
    {jc jc' : JsonChecker} {entry : TableEntry}
    (hbottom : jc.Bottom)
    (hstep : performEntry jc entry = some jc') :
    jc'.Bottom := by
  cases entry with
  | goto state =>
      obtain rfl := Option.some.inj hstep
      exact hbottom
  | emptyRcurb =>
      exact enter_bottom (fun _ => pop_bottom hbottom (by decide)) hstep
  | rcurb =>
      exact enter_bottom (fun _ => pop_bottom hbottom (by decide)) hstep
  | rsqrb =>
      exact enter_bottom (fun _ => pop_bottom hbottom (by decide)) hstep
  | lcurb =>
      exact enter_bottom (fun _ => push_bottom hbottom) hstep
  | lsqrb =>
      exact enter_bottom (fun _ => push_bottom hbottom) hstep
  | quote =>
      simp only [performEntry] at hstep
      split at hstep
      · obtain rfl := Option.some.inj hstep
        exact hbottom
      · obtain rfl := Option.some.inj hstep
        exact hbottom
      · obtain rfl := Option.some.inj hstep
        exact hbottom
      · cases hstep
  | comma =>
      simp only [performEntry] at hstep
      split at hstep
      · exact enter_bottom (fun _ => flip_bottom hbottom (by decide)) hstep
      · obtain rfl := Option.some.inj hstep
        exact hbottom
      · cases hstep
  | colon =>
      exact enter_bottom (fun _ => flip_bottom hbottom (by decide)) hstep
  | error =>
      cases hstep

/-- One character keeps the bottom. -/
theorem jsonCheckerChar_bottom
    {jc jc' : JsonChecker} {nextChar : Int}
    (hbottom : jc.Bottom)
    (hstep : jsonCheckerChar jc nextChar = some jc') :
    jc'.Bottom := by
  unfold jsonCheckerChar at hstep
  split at hstep
  · cases hstep
  · exact performEntry_bottom hbottom hstep

/-- A text that is taken keeps the bottom. -/
theorem feed_bottom
    {jc jc' : JsonChecker} {s : Bytes}
    (hbottom : jc.Bottom)
    (hfeed : feed jc s = some jc') :
    jc'.Bottom := by
  induction s generalizing jc with
  | nil =>
      obtain rfl := Option.some.inj hfeed
      exact hbottom
  | cons c s ih =>
      rw [feed_cons] at hfeed
      obtain ⟨jc₁, hstep, hrest⟩ := Option.bind_eq_some_iff.mp hfeed
      exact ih (jsonCheckerChar_bottom hbottom hstep) hrest

/-- The stack never runs empty, so `stack[top]` is always inside the stack. -/
theorem stack_ne_nil_of_feed
    {depth : Nat} {jc : JsonChecker} {s : Bytes}
    (hfeed : feed (newJsonChecker depth) s = some jc) :
    jc.stack ≠ [] :=
  (feed_bottom (newJsonChecker_bottom depth) hfeed).stack_ne_nil

/-- What `JSON_checker_done` accepts takes no other character any more. -/
theorem feed_done_other
    {jc : JsonChecker} {c : Byte}
    (hdone : jsonCheckerDone jc = true)
    (hc : 128 ≤ c.toNat)
    (rest : Bytes) :
    feed jc (c :: rest) = none := by
  have hstate : jc.state = .OK := by
    rw [jsonCheckerDone, Bool.and_eq_true] at hdone
    exact of_decide_eq_true hdone.1
  have hclass : charClass (c.toNat : Int) = some .etc := by
    rw [charClass, if_neg (by omega), if_pos (by omega)]
  rw [feed_cons, jsonCheckerChar, hclass]
  simp only [hstate]
  rfl

/-- A byte that is not NUL is positive where `char` is unsigned. -/
theorem charToInt_unsigned
    (c : Byte) :
    charToInt false c = c.toNat := by
  rfl

theorem toNat_pos
    {c : Byte} (hc : c ≠ 0) :
    0 < c.toNat := by
  rcases Nat.eq_zero_or_pos c.toNat with hzero | hpos
  · exact absurd (UInt8.toNat_inj.mp hzero) hc
  · exact hpos

/-- With an unsigned `char` every byte of the string is fed. -/
theorem checkLoop_unsigned
    {s : Bytes}
    (hzero : (0 : Byte) ∉ s) :
    ∀ jc, checkLoop false s jc = feed jc s := by
  induction s with
  | nil =>
      intro jc
      rfl
  | cons c s ih =>
      intro jc
      rw [List.mem_cons, not_or] at hzero
      have hpos := toNat_pos (fun h => hzero.1 h.symm)
      rw [checkLoop, charToInt_unsigned, if_neg (by omega), feed_cons]
      cases jsonCheckerChar jc c.toNat with
      | none =>
          rfl
      | some jc' =>
          exact ih hzero.2 jc'

/-- With a signed `char` the first byte that is not ASCII ends the loop. -/
theorem checkLoop_signed
    {s : Bytes}
    (hzero : (0 : Byte) ∉ s) :
    ∀ jc, checkLoop true s jc = feed jc (asciiPart s) := by
  induction s with
  | nil =>
      intro jc
      rfl
  | cons c s ih =>
      intro jc
      rw [List.mem_cons, not_or] at hzero
      have hpos := toNat_pos (fun h => hzero.1 h.symm)
      have hlt := c.toNat_lt
      by_cases hc : 128 ≤ c.toNat
      · have hnot : ¬ c < 128 := by
          rw [UInt8.lt_iff_toNat_lt]
          exact Nat.not_lt.mpr hc
        have hneg : charToInt true c ≤ 0 := by
          rw [charToInt, if_pos ⟨rfl, hc⟩]
          omega
        rw [checkLoop, if_pos hneg, asciiPart,
          List.takeWhile_cons_of_neg (by simpa using hnot), feed_nil]
      · have hascii : c < 128 := by
          rw [UInt8.lt_iff_toNat_lt]
          exact Nat.not_le.mp hc
        have hint : charToInt true c = c.toNat := by
          rw [charToInt, if_neg (fun h => hc h.2)]
        rw [checkLoop, hint, if_neg (by omega), asciiPart,
          List.takeWhile_cons_of_pos (by simpa using hascii), feed_cons]
        cases jsonCheckerChar jc c.toNat with
        | none =>
            rfl
        | some jc' =>
            exact ih hzero.2 jc'

/-- The verdict on the bytes that were fed. -/
theorem verdict_feed
    (s : Bytes) :
    (match feed (newJsonChecker 20) s with
      | none => -1
      | some jc => if jsonCheckerDone jc then 0 else -1) =
      if Accepted s then (0 : Int) else -1 := by
  cases hfeed : feed (newJsonChecker 20) s with
  | none =>
      have hnot : ¬ Accepted s := by
        rintro ⟨jc, hjc, -⟩
        rw [hfeed] at hjc
        cases hjc
      rw [if_neg hnot]
  | some jc =>
      have hiff : Accepted s ↔ jsonCheckerDone jc = true := by
        constructor
        · rintro ⟨jc', hjc', hdone⟩
          rw [hfeed, Option.some.injEq] at hjc'
          rw [hjc']
          exact hdone
        · intro hdone
          exact ⟨jc, hfeed, hdone⟩
      simp only [hiff]

/-- Where `char` is unsigned the verdict is the full one. -/
theorem jsonCheckerFunction_unsigned
    (string : Bytes) :
    jsonCheckerFunction false string = fullVerdict string := by
  rw [jsonCheckerFunction, checkLoop_unsigned (zero_not_mem_cString string),
    verdict_feed, fullVerdict]

/-- Where `char` is signed it is the verdict on the part that is ASCII. -/
theorem jsonCheckerFunction_signed
    (string : Bytes) :
    jsonCheckerFunction true string =
      if Accepted (asciiPart (cString string)) then 0 else -1 := by
  rw [jsonCheckerFunction, checkLoop_signed (zero_not_mem_cString string),
    verdict_feed]

/-- A text that is not all ASCII goes on with another character. -/
theorem asciiPart_append
    {s : Bytes}
    (hs : ¬ ∀ c ∈ s, c < 128) :
    ∃ c rest, s = asciiPart s ++ c :: rest ∧ 128 ≤ c.toNat := by
  induction s with
  | nil =>
      exact absurd (by simp) hs
  | cons d s ih =>
      by_cases hd : d < 128
      · have hrest : ¬ ∀ c ∈ s, c < 128 := by
          intro h
          apply hs
          intro c hc
          rcases List.mem_cons.mp hc with rfl | hc
          · exact hd
          · exact h c hc
        obtain ⟨c, rest, hsplit, hc⟩ := ih hrest
        refine ⟨c, rest, ?_, hc⟩
        rw [asciiPart, List.takeWhile_cons_of_pos (by simpa using hd),
          List.cons_append]
        exact congrArg (d :: ·) hsplit
      · refine ⟨d, s, ?_, ?_⟩
        · rw [asciiPart, List.takeWhile_cons_of_neg (by simpa using hd)]
          rfl
        · rw [UInt8.lt_iff_toNat_lt] at hd
          exact Nat.not_lt.mp hd

/-- Behind an accepted text another character is a syntax error. -/
theorem not_accepted_append_other
    {s : Bytes} {c : Byte}
    (haccepted : Accepted s)
    (hc : 128 ≤ c.toNat)
    (rest : Bytes) :
    ¬ Accepted (s ++ c :: rest) := by
  obtain ⟨jc, hfeed, hdone⟩ := haccepted
  rintro ⟨jc', hfeed', -⟩
  rw [feed_append, hfeed, Option.bind_some, feed_done_other hdone hc] at hfeed'
  cases hfeed'

/--
For every string: the verdict is the same for both kinds of `char`, and the
one on all bytes, exactly if there is no byte from 0x80 on, or if neither the
text nor its part in front of the first such byte is a JSON text.
-/
theorem verdictAgrees_iff
    (string : Bytes) :
    VerdictAgrees string ↔
      (∀ c ∈ cString string, c < 128) ∨
        (¬ Accepted (asciiPart (cString string)) ∧
          ¬ Accepted (cString string)) := by
  rw [VerdictAgrees, jsonCheckerFunction_unsigned, jsonCheckerFunction_signed,
    fullVerdict]
  by_cases hascii : ∀ c ∈ cString string, c < 128
  · have hpart : asciiPart (cString string) = cString string := by
      rw [asciiPart, List.takeWhile_eq_self_iff]
      intro c hc
      exact decide_eq_true (hascii c hc)
    rw [hpart]
    exact ⟨fun _ => Or.inl hascii, fun _ => ⟨rfl, rfl⟩⟩
  · obtain ⟨c, rest, hsplit, hc⟩ := asciiPart_append hascii
    have hnot :
        Accepted (asciiPart (cString string)) → ¬ Accepted (cString string) := by
      intro haccepted
      rw [hsplit]
      exact not_accepted_append_other haccepted hc rest
    constructor
    · rintro ⟨hverdict, -⟩
      right
      by_cases hpart : Accepted (asciiPart (cString string))
      · rw [if_pos hpart, if_neg (hnot hpart)] at hverdict
        cases hverdict
      · refine ⟨hpart, ?_⟩
        intro hfull
        rw [if_neg hpart, if_pos hfull] at hverdict
        cases hverdict
    · rintro (h | ⟨hpart, hfull⟩)
      · exact absurd h hascii
      · rw [if_neg hpart, if_neg hfull]
        exact ⟨rfl, rfl⟩

/-- An `é` inside a string, `{"a":"é"}` in UTF-8, is rejected if `char` is signed. -/
theorem not_verdictAgrees_nonAscii :
    ¬ VerdictAgrees
      [123, 34, 97, 34, 58, 34, 195, 169, 34, 125, 0] := by
  rintro ⟨hsigned, -⟩
  revert hsigned
  decide

end Adav
end BrBox
