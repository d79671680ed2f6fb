import BrBox.Lib.CText
import Mathlib.Data.Nat.Digits.Defs
import Mathlib.Data.Nat.Digits.Lemmas

/-!
# Byte order of integers in memory

A machine stores an unsigned integer least or most significant byte first;
`htonl` turns a 32 bit value round so that it lies in memory in network order.

* `load_store`: what is stored is read back, up to the width.
* `store_htonl`, `ntohl_load`: four bytes in network order on every machine.
* `load_eq_zero_iff`: zero is all bytes zero.
-/

namespace BrBox
namespace ByteOrder

open CText

inductive Endian
  | little
  | big
deriving DecidableEq, Repr

section Values

/-- The number of bytes that lie least significant first. -/
def ofLe (bs : Bytes) : Nat :=
  Nat.ofDigits 256 (bs.map UInt8.toNat)

/-- The lowest `n` bytes of a number, least significant first. -/
def toLe : Nat → Nat → Bytes
  | 0, _ => []
  | n + 1, v => UInt8.ofNat v :: toLe n (v / 256)

/-- Read an unsigned integer from memory. -/
def load (e : Endian) (bs : Bytes) : Nat :=
  match e with
  | .little => ofLe bs
  | .big => ofLe bs.reverse

/-- Write an unsigned integer of `n` bytes to memory. -/
def store (e : Endian) (n v : Nat) : Bytes :=
  match e with
  | .little => toLe n v
  | .big => (toLe n v).reverse

/-- `htonl` and `ntohl`, which cut their argument to 32 bits. -/
def htonl (e : Endian) (v : Nat) : Nat :=
  match e with
  | .little => ofLe (toLe 4 v).reverse
  | .big => v % 2 ^ 32

variable {bs : Bytes} {e : Endian} {n v : Nat}

@[simp] theorem toLe_length :
    (toLe n v).length = n := by
  induction n generalizing v with
  | zero =>
      rfl
  | succ n ih =>
      simp [toLe, ih]

@[simp] theorem store_length :
    (store e n v).length = n := by
  cases e <;> simp [store]

@[simp] theorem ofLe_nil :
    ofLe [] = 0 := by
  rfl

@[simp] theorem ofLe_cons
    (b : Byte) (bs : Bytes) :
    ofLe (b :: bs) = b.toNat + 256 * ofLe bs := by
  simp [ofLe, Nat.ofDigits_cons]

theorem ofLe_lt
    (bs : Bytes) :
    ofLe bs < 256 ^ bs.length := by
  have hlt : Nat.ofDigits 256 (bs.map UInt8.toNat) < 256 ^ (bs.map UInt8.toNat).length := by
    apply Nat.ofDigits_lt_base_pow_length (by omega)
    intro d hd
    obtain ⟨b, -, rfl⟩ := List.mem_map.mp hd
    exact b.toNat_lt
  simpa [ofLe] using hlt

theorem ofLe_toLe :
    ofLe (toLe n v) = v % 256 ^ n := by
  induction n generalizing v with
  | zero =>
      simp [toLe, Nat.mod_one]
  | succ n ih =>
      rw [toLe, ofLe_cons, ih, UInt8.toNat_ofNat', pow_succ' 256, Nat.mod_mul]

theorem toLe_ofLe
    (bs : Bytes) :
    toLe bs.length (ofLe bs) = bs := by
  induction bs with
  | nil =>
      rfl
  | cons b bs ih =>
      have hlow : UInt8.ofNat (b.toNat + 256 * ofLe bs) = b := by
        apply UInt8.toNat_inj.mp
        have hb := b.toNat_lt
        rw [UInt8.toNat_ofNat']
        omega
      have hhigh : (b.toNat + 256 * ofLe bs) / 256 = ofLe bs := by
        have hb := b.toNat_lt
        omega
      rw [List.length_cons, ofLe_cons, toLe, hlow, hhigh, ih]

theorem ofLe_eq_zero_iff :
    ofLe bs = 0 ↔ ∀ b ∈ bs, b = 0 := by
  induction bs with
  | nil =>
      simp
  | cons b bs ih =>
      rw [ofLe_cons, List.forall_mem_cons, ← ih, ← UInt8.toNat_inj]
      simp

/-- The bytes of a number that is small enough end in zeros. -/
theorem toLe_add
    {m : Nat}
    (hv : v < 256 ^ m) :
    toLe (m + n) v = toLe m v ++ List.replicate n 0 := by
  induction m generalizing v with
  | zero =>
      obtain rfl : v = 0 := by simpa using hv
      induction n with
      | zero =>
          rfl
      | succ n ih =>
          rw [show 0 + (n + 1) = 0 + n + 1 by omega, toLe]
          simpa [toLe, List.replicate_succ] using ih
  | succ m ih =>
      rw [show m + 1 + n = m + n + 1 by omega, toLe, toLe, ih, List.cons_append]
      rw [pow_succ'] at hv
      exact Nat.div_lt_of_lt_mul hv

end Values

section Memory

variable {bs : Bytes} {e : Endian} {n v : Nat}

theorem load_store :
    load e (store e n v) = v % 256 ^ n := by
  cases e <;> simp [load, store, ofLe_toLe]

theorem load_lt
    (e : Endian) (bs : Bytes) :
    load e bs < 256 ^ bs.length := by
  cases e with
  | little =>
      exact ofLe_lt bs
  | big =>
      simpa [load] using ofLe_lt bs.reverse

theorem store_load
    (e : Endian) (bs : Bytes) :
    store e bs.length (load e bs) = bs := by
  cases e with
  | little =>
      exact toLe_ofLe bs
  | big =>
      have hrev := toLe_ofLe bs.reverse
      rw [List.length_reverse] at hrev
      simp [store, load, hrev]

theorem load_eq_zero_iff :
    load e bs = 0 ↔ ∀ b ∈ bs, b = 0 := by
  cases e <;> simp [load, ofLe_eq_zero_iff]

/-- A 32 bit value that went through `htonl` lies in memory in network order. -/
theorem store_htonl
    (e : Endian) (v : Nat) :
    store e 4 (htonl e v) = store .big 4 v := by
  cases e with
  | little =>
      have h := toLe_ofLe (toLe 4 v).reverse
      rw [List.length_reverse, toLe_length] at h
      exact h
  | big =>
      simp only [store, htonl, List.reverse_inj]
      have h := toLe_ofLe (toLe 4 v)
      rwa [toLe_length, ofLe_toLe] at h

/-- Four bytes in network order are read by `ntohl` on every machine. -/
theorem ntohl_load
    (e : Endian)
    (hlen : bs.length = 4) :
    htonl e (load e bs) = load .big bs := by
  cases e with
  | little =>
      simp only [htonl, load]
      rw [← hlen, toLe_ofLe]
  | big =>
      have hlt := load_lt .big bs
      rw [hlen] at hlt
      exact Nat.mod_eq_of_lt hlt

theorem htonl_lt
    (e : Endian) (v : Nat) :
    htonl e v < 2 ^ 32 := by
  cases e with
  | little =>
      simpa [htonl] using ofLe_lt (toLe 4 v).reverse
  | big =>
      exact Nat.mod_lt _ (by omega)

/-- `ntohl` undoes `htonl`. -/
theorem htonl_htonl
    (e : Endian) (v : Nat) :
    htonl e (htonl e v) = v % 2 ^ 32 := by
  have hread := ntohl_load e (store_length (e := e) (n := 4) (v := htonl e v))
  rw [load_store, store_htonl, load_store] at hread
  have hpow : 256 ^ 4 = 2 ^ 32 := by norm_num
  rwa [hpow, Nat.mod_eq_of_lt (htonl_lt e v)] at hread

theorem htonl_ne_zero
    (e : Endian)
    (hpos : 0 < v)
    (hlt : v < 2 ^ 32) :
    htonl e v ≠ 0 := by
  intro hzero
  have hback := htonl_htonl e v
  have hback' := htonl_htonl e 0
  rw [hzero, Nat.mod_eq_of_lt hlt] at hback
  cases e with
  | little =>
      have : htonl .little 0 = 0 := by decide
      omega
  | big =>
      have : htonl .big 0 = 0 := by decide
      omega

end Memory

end ByteOrder
end BrBox
