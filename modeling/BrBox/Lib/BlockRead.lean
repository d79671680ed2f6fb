import Mathlib.Data.List.GetD

/-!
# Reading data in blocks

A reader has one buffer and fills it with the data, a block of `n` elements at a
time.  A short block leaves the rest of the buffer as it is, so the buffer holds at
each place the newest element that was read into it.

* `buffer_succ`: what the buffer holds after a block, without the rounds before it.
* `take_eq_take_iff`: two buffers agree on what they have read exactly if the data do.
* `prefix_iff`: the data of one reader start with the data of the other.
* `length_le_iff`: no block is shorter than the other exactly if the data are not.
-/

namespace BrBox
namespace BlockRead

universe u

section Blocks

variable {α : Type u}

/-- The buffer when a block is read into it. -/
def fill (buf : Nat → α) (block : List α) (p : Nat) : α :=
  block.getD p (buf p)

/-- Block `j` of the data, which is empty behind the end. -/
def blockAt (n : Nat) (data : List α) (j : Nat) : List α :=
  (data.drop (n * j)).take n

/-- The buffer when `j` blocks are read. -/
def buffer (n : Nat) (init : Nat → α) (data : List α) : Nat → Nat → α
  | 0 => init
  | j + 1 => fill (buffer n init data j) (blockAt n data j)

/-- The newest element that the blocks up to `j` have at a place. -/
def heldAt (n : Nat) (init : Nat → α) (data : List α) (j p : Nat) : α :=
  data.getD (n * min j ((data.length - 1 - p) / n) + p) (init p)

variable {n j p : Nat}
variable {init init' : Nat → α}
variable {data data' : List α}

@[simp]
theorem length_blockAt :
    (blockAt n data j).length = min n (data.length - n * j) := by
  simp [blockAt]

theorem fill_blockAt_of_lt
    (buf : Nat → α)
    (hp : p < n)
    (hlt : n * j + p < data.length) :
    fill buf (blockAt n data j) p = data[n * j + p] := by
  have hin : p < (blockAt n data j).length := by
    rw [length_blockAt]
    omega
  rw [fill, List.getD_eq_getElem _ _ hin]
  simp [blockAt]

theorem fill_blockAt_of_le
    (buf : Nat → α)
    (hle : data.length ≤ n * j + p) :
    fill buf (blockAt n data j) p = buf p := by
  refine List.getD_eq_default _ _ ?_
  rw [length_blockAt]
  omega

/-- A place that block `j` reaches holds the element of that block. -/
theorem heldAt_of_lt
    (hn : 0 < n)
    (hlt : n * j + p < data.length) :
    heldAt n init data j p = data[n * j + p] := by
  have hj : j ≤ (data.length - 1 - p) / n := by
    rw [Nat.le_div_iff_mul_le hn, Nat.mul_comm]
    omega
  rw [heldAt, Nat.min_eq_left hj, List.getD_eq_getElem _ _ hlt]

/-- A place that the block does not reach holds what it held before. -/
theorem heldAt_succ_of_le
    (hn : 0 < n)
    (hle : data.length ≤ n * (j + 1) + p) :
    heldAt n init data (j + 1) p = heldAt n init data j p := by
  have hmul : 0 < n * (j + 1) := Nat.mul_pos hn (Nat.succ_pos j)
  have hlast : (data.length - 1 - p) / n ≤ j := by
    rw [← Nat.lt_succ_iff, Nat.div_lt_iff_lt_mul hn, Nat.mul_comm, Nat.succ_eq_add_one]
    omega
  rw [heldAt, heldAt, Nat.min_eq_right hlast, Nat.min_eq_right (by omega)]

/-- The buffer after a block holds the newest elements. -/
theorem buffer_succ
    (hp : p < n) :
    buffer n init data (j + 1) p = heldAt n init data j p := by
  have hn : 0 < n := by omega
  induction j with
  | zero =>
      by_cases hlt : n * 0 + p < data.length
      · rw [heldAt_of_lt hn hlt]
        exact fill_blockAt_of_lt _ hp hlt
      · rw [heldAt, Nat.zero_min, List.getD_eq_default _ _ (by omega)]
        exact fill_blockAt_of_le _ (by omega)
  | succ j ih =>
      by_cases hlt : n * (j + 1) + p < data.length
      · rw [heldAt_of_lt hn hlt]
        exact fill_blockAt_of_lt _ hp hlt
      · rw [heldAt_succ_of_le hn (by omega), ← ih]
        exact fill_blockAt_of_le _ (by omega)

/-- What was in the buffer before does not matter where something is read. -/
theorem heldAt_eq_of_lt_length
    (init init' : Nat → α)
    (hp : p < data.length) :
    heldAt n init data j p = heldAt n init' data j p := by
  have hback :
      n * min j ((data.length - 1 - p) / n) ≤ data.length - 1 - p :=
    Nat.le_trans (Nat.mul_le_mul_left n (Nat.min_le_right _ _)) (Nat.mul_div_le _ _)
  have hin : n * min j ((data.length - 1 - p) / n) + p < data.length := by omega
  rw [heldAt, heldAt, List.getD_eq_getElem _ _ hin, List.getD_eq_getElem _ _ hin]

/-- The buffer may have been filled from the start of the data before. -/
theorem heldAt_fill_take
    (k : Nat) :
    heldAt n (fill init (data.take k)) data j p = heldAt n init data j p := by
  by_cases hp : p < data.length
  · exact heldAt_eq_of_lt_length _ _ hp
  · have hshort : (data.take k).length ≤ p := by
      rw [List.length_take]
      omega
    rw [heldAt, heldAt, fill, List.getD_eq_default _ _ hshort]

/-- Two readers hold the same at every place below `len` exactly if their data are the
same up to `len`. -/
theorem take_eq_take_iff
    (init init' : Nat → α)
    (hn : 0 < n)
    {len : Nat}
    (hlen : len ≤ data.length)
    (hlen' : len ≤ data'.length) :
    data.take len = data'.take len ↔
      ∀ j p, p < n → n * j + p < len →
        heldAt n init data j p = heldAt n init' data' j p := by
  constructor
  · intro htake j p _ hlt
    rw [heldAt_of_lt hn (by omega), heldAt_of_lt hn (by omega)]
    have hget := congrArg (fun bs => bs[n * j + p]?) htake
    simp only [List.getElem?_take, if_pos hlt] at hget
    rwa [List.getElem?_eq_getElem (by omega), List.getElem?_eq_getElem (by omega),
      Option.some.injEq] at hget
  · intro hheld
    refine List.ext_getElem (by simp; omega) ?_
    intro i hi hi'
    have hilt : i < len := by
      rw [List.length_take] at hi
      omega
    have hsplit : n * (i / n) + i % n = i := Nat.div_add_mod i n
    have h := hheld (i / n) (i % n) (Nat.mod_lt i hn) (by omega)
    rw [heldAt_of_lt hn (by omega), heldAt_of_lt hn (by omega)] at h
    simpa only [hsplit, List.getElem_take] using h

/-- The data of one reader start with the data of the other. -/
theorem prefix_iff
    (init init' : Nat → α)
    (hn : 0 < n)
    (hlength : data.length ≤ data'.length) :
    data <+: data' ↔
      ∀ j p, p < n → n * j + p < data.length →
        heldAt n init data j p = heldAt n init' data' j p := by
  rw [← take_eq_take_iff init init' hn Nat.le.refl hlength, List.take_length]
  exact List.prefix_iff_eq_take

/-- In every round the block of the one data is at most as long as the block of the
other exactly if the data are. -/
theorem length_le_iff
    (hn : 0 < n)
    {len : Nat}
    (hlen : data.length ≤ len) :
    (∀ j, n * j < len → (blockAt n data j).length ≤ (blockAt n data' j).length) ↔
      data.length ≤ data'.length := by
  simp only [length_blockAt]
  constructor
  · intro hblocks
    by_cases hdata : data.length = 0
    · omega
    · have hlast : n * ((data.length - 1) / n) ≤ data.length - 1 := Nat.mul_div_le _ _
      have hover : data.length - 1 < n * ((data.length - 1) / n) + n := by
        have := Nat.lt_mul_div_succ (data.length - 1) hn
        rwa [Nat.mul_add, Nat.mul_one] at this
      have := hblocks ((data.length - 1) / n) (by omega)
      omega
  · intro hle j _
    omega

end Blocks

end BlockRead
end BrBox
