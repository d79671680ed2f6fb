import Mathlib.Algebra.Ring.Int.Defs
import Mathlib.Algebra.Ring.Nat
import Mathlib.Data.List.TakeWhile
import Mathlib.Tactic.Common

/-!
# C integers and C strings

The machine-level vocabulary of the C and C++ sources: 32-bit `int`
arithmetic, NUL-terminated strings and `strncpy`.

A buffer is the list of the bytes it holds.  Reading past its end is
undefined behaviour in C; here such a read returns none, so a function that
returns a value has stayed inside its buffer.
-/

namespace BrBox
namespace CText

/-- One `char`. -/
abbrev Byte := UInt8

/-- The contents of a `char` buffer. -/
abbrev Bytes := List Byte

instance decidableMemTexts (s : Bytes) (texts : List Bytes) : Decidable (s ∈ texts) :=
  List.instDecidableMemOfLawfulBEq s texts

instance decidableForallByte (s : Bytes) (p : Byte → Prop) [DecidablePred p] :
    Decidable (∀ c ∈ s, p c) :=
  List.decidableBAll p s

instance decidableForallOptionByte (o : Option Byte) (p : Byte → Prop) [DecidablePred p] :
    Decidable (∀ c ∈ o, p c) :=
  Option.decidableForallMem o

/-- Two's-complement reduction to a 32-bit `int`. -/
def wrapInt32 (n : Int) : Int :=
  Int.bmod n (2 ^ 32)

/-- Values in the range of an `int` are kept. -/
theorem wrapInt32_of_range
    {n : Int}
    (hlow : -2 ^ 31 ≤ n)
    (hhigh : n < 2 ^ 31) :
    wrapInt32 n = n := by
  unfold wrapInt32
  apply Int.bmod_eq_of_le <;> omega

/-- The range of an `int`. -/
theorem wrapInt32_range
    (n : Int) :
    -2 ^ 31 ≤ wrapInt32 n ∧ wrapInt32 n < 2 ^ 31 := by
  unfold wrapInt32
  constructor
  · exact Int.le_bmod (by decide)
  · exact Int.bmod_lt (by decide)

/-- An `int` has the low bits of the number that it was made of. -/
theorem wrapInt32_emod
    (n : Int) :
    wrapInt32 n % 2 ^ 32 = n % 2 ^ 32 := by
  unfold wrapInt32
  exact Int.bmod_emod

/-- The C string that starts at the first byte of a buffer. -/
def cString (buf : Bytes) : Bytes :=
  buf.takeWhile (fun c => c ≠ 0)

@[simp] theorem cString_nil :
    cString [] = [] := by
  rfl

@[simp] theorem cString_zero_cons
    (buf : Bytes) :
    cString (0 :: buf) = [] := by
  simp [cString]

theorem cString_cons_of_ne
    {c : Byte} (hc : c ≠ 0) (buf : Bytes) :
    cString (c :: buf) = c :: cString buf := by
  simp [cString, hc]

/-- A string without NUL is read back whole from its terminated buffer. -/
theorem cString_append_zero
    {s : Bytes} (hs : (0 : Byte) ∉ s) (rest : Bytes) :
    cString (s ++ 0 :: rest) = s := by
  induction s with
  | nil =>
      simp
  | cons c s ih =>
      have hc : c ≠ 0 := by
        intro h
        exact hs (by simp [h])
      have hs' : (0 : Byte) ∉ s := by
        intro h
        exact hs (List.mem_cons_of_mem _ h)
      rw [List.cons_append, cString_cons_of_ne hc, ih hs']

/-- A string without NUL is its own C string. -/
theorem cString_of_zero_not_mem
    {s : Bytes} (hs : (0 : Byte) ∉ s) :
    cString s = s := by
  rw [cString, List.takeWhile_eq_self_iff]
  intro c hc
  rw [decide_eq_true_eq]
  rintro rfl
  exact hs hc

/-- There is no NUL in a C string. -/
theorem zero_not_mem_cString
    (buf : Bytes) :
    (0 : Byte) ∉ cString buf := by
  intro h
  have := List.mem_takeWhile_imp h
  simp at this

/-- `isspace` in the C locale. -/
def isSpace (c : Byte) : Bool :=
  c == 32 || (9 ≤ c && c ≤ 13)

/-- `isdigit`. -/
def isDigit (c : Byte) : Bool :=
  48 ≤ c && c ≤ 57

/-- The value of the leading decimal digits. -/
def digitsValue (s : Bytes) : Nat :=
  (s.takeWhile isDigit).foldl (fun n c => 10 * n + (c.toNat - 48)) 0

/-- `atoi`: blanks, an optional sign and decimal digits, as an `int`. -/
def atoi (s : Bytes) : Int :=
  match s.dropWhile isSpace with
  | [] => 0
  | c :: rest =>
      if c = 45 then
        wrapInt32 (-(digitsValue rest : Int))
      else if c = 43 then
        wrapInt32 (digitsValue rest)
      else
        wrapInt32 (digitsValue (c :: rest))

/-- `strncpy` of `n` bytes from position `start`: stop at a NUL and pad. -/
def strncpy (buf : Bytes) : (start n : Nat) → Option Bytes
  | _, 0 => some []
  | start, n + 1 =>
      match buf[start]? with
      | none => none
      | some c =>
          if c = 0 then
            some (List.replicate (n + 1) 0)
          else
            match strncpy buf (start + 1) n with
            | none => none
            | some rest => some (c :: rest)

/-- The bytes copied by `strncpy` read as the C string of the source range. -/
theorem strncpy_spec
    (buf : Bytes) (start n : Nat)
    (hfit : start + n ≤ buf.length) :
    ∃ data,
      strncpy buf start n = some data ∧
      data.length = n ∧
      cString data = cString ((buf.drop start).take n) := by
  induction n generalizing start with
  | zero =>
      exact ⟨[], rfl, rfl, by simp⟩
  | succ n ih =>
      have hlt : start < buf.length := by omega
      have hget : buf[start]? = some buf[start] :=
        List.getElem?_eq_getElem hlt
      have hdrop :
          (buf.drop start).take (n + 1) =
            buf[start] :: (buf.drop (start + 1)).take n := by
        rw [List.drop_eq_getElem_cons hlt, List.take_succ_cons]
      by_cases hc : buf[start] = 0
      · refine ⟨List.replicate (n + 1) 0, ?_, by simp, ?_⟩
        · simp [strncpy, hget, hc]
        · rw [hdrop, hc]
          simp [List.replicate_succ]
      · obtain ⟨rest, hrest, hlen, hstr⟩ :=
          ih (start + 1) (by omega)
        refine ⟨buf[start] :: rest, ?_, by simp [hlen], ?_⟩
        · simp [strncpy, hget, hc, hrest]
        · rw [hdrop, cString_cons_of_ne hc, cString_cons_of_ne hc, hstr]

end CText
end BrBox
