import BrBox.Lib.CText
import BrBox.Lib.HashBuckets
import Mathlib.Data.Set.Card

/-!
# The string map of lib-settings

A `StrMap` is an array of buckets; the hash of a key tells its bucket.  The width of
`unsigned long` and the sign of `char` are those of the machine.  Every allocation succeeds,
and no pointer is null.

* `strMap_refines`: whatever the machine and the capacity, a map that was filled by `sm_put`
  answers as the function from keys to the last values that were put.
-/

namespace BrBox
namespace Settingslib

open CText
open HashBuckets

/-- What a hash depends on. -/
structure Machine where
  longBits : Nat
  charSigned : Bool
deriving DecidableEq, Repr

/-- A `char` as an `int`. -/
def Machine.charValue (m : Machine) (c : Byte) : Int :=
  if m.charSigned ∧ 128 ≤ c.toNat then
    (c.toNat : Int) - 256
  else
    c.toNat

/-- `hash`, in an `unsigned long`. -/
def hash (m : Machine) (str : Bytes) : Nat :=
  str.foldl
    (fun hash c => ((((hash * 32 + hash : Nat) : Int) + m.charValue c) % 2 ^ m.longBits).toNat)
    5381

/-- The index of the bucket of a key. -/
def bucketIndex (m : Machine) (count : Nat) [NeZero count] (key : Bytes) : Fin count :=
  Fin.ofNat count (hash m key)

/-- `StrMap`, with `count` buckets. -/
abbrev StrMap (m : Machine) (count : Nat) [NeZero count] :=
  Table Bytes Bytes (bucketIndex m count)

section Operations

variable {m : Machine} {count : Nat} [NeZero count]

/-- `sm_new`. -/
def smNew : StrMap m count :=
  Table.empty

/-- `get_pair` in the bucket of a key: the value of the first pair with the key. -/
def getPair (map : StrMap m count) (key : Bytes) : Option Bytes :=
  map.find key

/-- `sm_put`: the value of a pair is replaced, or a pair is put at the end of its bucket. -/
def smPut (map : StrMap m count) (key value : Bytes) : StrMap m count :=
  map.put key value

/-- `sm_get` with a buffer or none: the answer, and what is copied to the buffer. -/
def smGet
    (map : StrMap m count) (key : Bytes) (outBuf : Bool) (nOutBuf : Nat) :
    Nat × Option Bytes :=
  match getPair map key with
  | none => (0, none)
  | some value =>
      if outBuf = false ∧ nOutBuf = 0 then
        (value.length + 1, none)
      else if outBuf = false then
        (0, none)
      else if nOutBuf ≤ value.length then
        (0, none)
      else
        (1, some value)

/-- `sm_exists`. -/
def smExists (map : StrMap m count) (key : Bytes) : Nat :=
  match getPair map key with
  | none => 0
  | some _ => 1

/-- `sm_get_count`: one loop in the other. -/
def smGetCount (map : StrMap m count) : Nat :=
  (List.finRange count).foldl
    (fun n i => (map.bucket i).foldl (fun n _ => n + 1) n) 0

/-- `sm_enum`, with what its function does to the object. -/
def smEnum {σ : Type}
    (map : StrMap m count) (enumFunc : σ → Bytes → Bytes → σ) (obj : σ) : σ :=
  (List.finRange count).foldl
    (fun obj i => (map.bucket i).foldl (fun obj pair => enumFunc obj pair.1 pair.2) obj) obj

/-- The calls of `sm_put` on a map. -/
def smPutAll (map : StrMap m count) (pairs : List (Bytes × Bytes)) : StrMap m count :=
  pairs.foldl (fun map pair => smPut map pair.1 pair.2) map

theorem smEnum_eq
    {σ : Type}
    (map : StrMap m count)
    (enumFunc : σ → Bytes → Bytes → σ)
    (obj : σ) :
    smEnum map enumFunc obj =
      map.toList.foldl (fun obj pair => enumFunc obj pair.1 pair.2) obj := by
  rw [smEnum, Table.toList, List.foldl_flatMap]

theorem smGetCount_eq
    (map : StrMap m count) :
    smGetCount map = map.toList.length := by
  rw [smGetCount, ← List.foldl_flatMap, ← Table.toList, List.foldl_add_const]
  simp

end Operations

/-- A map for its users: the value of each key. -/
def putValues (values : Bytes → Option Bytes) (pairs : List (Bytes × Bytes)) :
    Bytes → Option Bytes :=
  pairs.foldl (fun values pair => Function.update values pair.1 (some pair.2)) values

/-- The answers of a map are those of a function from keys to values. -/
structure Answers
    {m : Machine} {count : Nat} [NeZero count]
    (map : StrMap m count) (values : Bytes → Option Bytes) : Prop where
  get_fits : ∀ key value nOutBuf, values key = some value → value.length < nOutBuf →
    smGet map key true nOutBuf = (1, some value)
  get_else : ∀ key nOutBuf, (∀ value, values key = some value → nOutBuf ≤ value.length) →
    smGet map key true nOutBuf = (0, none)
  get_size : ∀ key, smGet map key false 0 = ((values key).elim 0 fun value => value.length + 1,
    none)
  exist : ∀ key, smExists map key = 1 ↔ (values key).isSome
  counted : smGetCount map = {key | (values key).isSome}.ncard
  enumerated : ∃ pairs : List (Bytes × Bytes),
    (∀ (σ : Type) (enumFunc : σ → Bytes → Bytes → σ) (obj : σ),
      smEnum map enumFunc obj =
        pairs.foldl (fun obj pair => enumFunc obj pair.1 pair.2) obj) ∧
      (pairs.map Prod.fst).Nodup ∧
      ∀ key value, (key, value) ∈ pairs ↔ values key = some value

section Refinement

variable {m : Machine} {count : Nat} [NeZero count]

/-- The keys that a map finds are those it lists. -/
theorem ncard_find
    (map : StrMap m count) :
    {key | (map.find key).isSome}.ncard = map.toList.length := by
  have hkeys : {key | (map.find key).isSome} = ↑(map.toList.map Prod.fst).toFinset := by
    ext key
    simp only [Set.mem_ofPred_eq, List.coe_toFinset, List.mem_map, Option.isSome_iff_exists,
      ← Table.mem_toList_iff]
    constructor
    · rintro ⟨value, hmem⟩
      exact ⟨(key, value), hmem, rfl⟩
    · rintro ⟨pair, hmem, rfl⟩
      exact ⟨pair.2, hmem⟩
  rw [hkeys, Set.ncard_coe_finset, List.toFinset_card_of_nodup map.nodup_toList,
    List.length_map]

theorem answers_find
    (map : StrMap m count) :
    Answers map map.find where
  get_fits key value nOutBuf hvalue hfits := by
    simp [smGet, getPair, hvalue, Nat.not_le.mpr hfits]
  get_else key nOutBuf helse := by
    rw [smGet, getPair]
    cases hvalue : map.find key with
    | none =>
        rfl
    | some value =>
        simp [helse value hvalue]
  get_size key := by
    rw [smGet, getPair]
    cases map.find key with
    | none =>
        rfl
    | some value =>
        simp
  exist key := by
    rw [smExists, getPair]
    cases map.find key with
    | none =>
        simp
    | some value =>
        simp
  counted := by
    rw [smGetCount_eq, ncard_find]
  enumerated :=
    ⟨map.toList, fun _ enumFunc obj => smEnum_eq map enumFunc obj, map.nodup_toList,
      map.mem_toList_iff⟩

/-- One `sm_put` changes one value. -/
theorem find_smPut
    (map : StrMap m count)
    (key value : Bytes) :
    (smPut map key value).find = Function.update map.find key (some value) := by
  funext key'
  rw [smPut, Table.find_put, Function.update_apply]

theorem find_smPutAll
    (map : StrMap m count)
    (pairs : List (Bytes × Bytes)) :
    (smPutAll map pairs).find = putValues map.find pairs := by
  induction pairs generalizing map with
  | nil =>
      rfl
  | cons pair pairs ih =>
      have hrest := ih (smPut map pair.1 pair.2)
      rw [find_smPut] at hrest
      exact hrest

end Refinement

/-- A map filled by `sm_put` answers as the function to the values put last, whatever the
machine and the capacity. -/
theorem strMap_refines
    (m : Machine)
    (count : Nat)
    [NeZero count]
    (pairs : List (Bytes × Bytes)) :
    Answers (smPutAll (smNew : StrMap m count) pairs) (putValues (fun _ => none) pairs) := by
  have hfind : (smPutAll (smNew : StrMap m count) pairs).find =
      putValues (fun _ => none) pairs := find_smPutAll smNew pairs
  rw [← hfind]
  exact answers_find _

/-- A key that is put twice, in a map of three buckets. -/
theorem strMap_refines_two :
    Answers (smPutAll (smNew : StrMap ⟨32, true⟩ 3) [([97], [49]), ([98], []), ([97], [50])])
      (putValues (fun _ => none) [([97], [49]), ([98], []), ([97], [50])]) :=
  strMap_refines ⟨32, true⟩ 3 _

end Settingslib
end BrBox
