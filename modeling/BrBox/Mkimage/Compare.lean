import BrBox.Lib.BlockRead
import BrBox.Lib.WhileLoop
import BrBox.Mkimage.Image

/-!
# Comparing images

`file_compare_binary` and `file_compare` read two files in blocks of 2048 bytes and
compare the buffers.  How many bytes are compared comes from the expected length and
not from what was read, so behind the end of a file the bytes that an earlier round
has left are compared, or what the stack held before.

* `compareLoop_zero_iff`: a loop ends, with zero exactly if its rounds agree.
* `fileCompareBinary_zero_iff`, `fileCompare_zero_iff`: when the functions return zero.
* `exact_iff`: the calls whose answer is exact.
-/

namespace BrBox
namespace Mkimage
namespace Compare

open BlockRead
open ByteOrder
open CText
open WhileLoop

section Model

/-- `max_len`. -/
def maxLen : Nat := 2048

/-- What the two buffers on the stack hold at first: the one of the file whose reads
decide on the length, and the other one. -/
structure Stack where
  leadBuff : Nat → Byte
  otherBuff : Nat → Byte

/-- The variables of a compare loop, with what is left to read of the two files. -/
structure State where
  i : Nat
  leadBuff : Nat → Byte
  otherBuff : Nat → Byte
  leadRest : Bytes
  otherRest : Bytes

/-- `memcmp(left, right, n) != 0`. -/
def memcmpDiffers (left right : Nat → Byte) (n : Nat) : Bool :=
  (List.range n).any fun p => left p != right p

/-- A round of a compare loop; only one of the two loops has the check for a short read. -/
def compareRound (checkShort : Bool) (len : Nat) (s : State) : State ⊕ Int :=
  if s.i < len then
    let leadRead := s.leadRest.take maxLen
    let otherRead := s.otherRest.take maxLen
    let leadBuff := fill s.leadBuff leadRead
    let otherBuff := fill s.otherBuff otherRead
    let readLenImg :=
      if (s.i + leadRead.length) % 2 ^ 32 < len then maxLen else len - s.i
    if memcmpDiffers leadBuff otherBuff readLenImg ∨
        checkShort ∧ otherRead.length < leadRead.length then
      .inr (-1)
    else
      .inl
        { i := (s.i + readLenImg) % 2 ^ 32
          leadBuff := leadBuff
          otherBuff := otherBuff
          leadRest := s.leadRest.drop maxLen
          otherRest := s.otherRest.drop maxLen }
  else
    .inr 0

/-- The state in front of a compare loop. -/
def startState (stack : Stack) (lead other : Bytes) : State :=
  { i := 0
    leadBuff := stack.leadBuff
    otherBuff := stack.otherBuff
    leadRest := lead
    otherRest := other }

/-- The result of `fseek` is zero. -/
def fseekOk (m : Machine) (pos : Nat) : Bool :=
  ¬(m.sizeofLong = 4 ∧ 2 ^ 31 ≤ pos)

/-- `file_compare_binary` of two files that can be opened; none if the rounds are used
up. -/
def fileCompareBinary (m : Machine) (stack : Stack) (file1 file2 : Bytes)
    (skip seek file1Len fuel : Nat) : Option Int :=
  if fseekOk m skip = false then
    some (-1)
  else if fseekOk m seek = false then
    some (-1)
  else
    loop (compareRound true file1Len) fuel
      (startState stack (file1.drop skip) (file2.drop seek))

/-- `ih_size`. -/
def ihSize (hdr : Bytes) : Nat := field hdr 12

/--
`file_compare` of two files that can be opened; none if the rounds are used up.  The
header is read into the buffer of the image first, and the result of `fseek` is not
looked at.
-/
def fileCompare (m : Machine) (stack : Stack) (img proj : Bytes)
    (skip projFileLen fuel : Nat) : Option Int :=
  if img.length < headerSize then
    some (-1)
  else if (ihSize img + headerSize) % 2 ^ 32 ≠ projFileLen then
    some (-1)
  else
    let read := { stack with otherBuff := fill stack.otherBuff (img.take headerSize) }
    loop (compareRound false projFileLen) fuel
      (startState read (proj.drop (seekPos m skip)) img)

end Model

/-! ## The loop -/

section Loop

variable {stack : Stack}
variable {lead other : Bytes}
variable {checkShort : Bool}
variable {len j : Nat}

/-- The state after `j` full rounds. -/
def stateAt (stack : Stack) (lead other : Bytes) (j : Nat) : State :=
  { i := maxLen * j
    leadBuff := buffer maxLen stack.leadBuff lead j
    otherBuff := buffer maxLen stack.otherBuff other j
    leadRest := lead.drop (maxLen * j)
    otherRest := other.drop (maxLen * j) }

/-- The number of bytes that round `j` compares. -/
def comparedLen (lead : Bytes) (len j : Nat) : Nat :=
  if maxLen * j + (blockAt maxLen lead j).length < len then maxLen else len - maxLen * j

/-- Round `j` finds no difference. -/
def RoundAgrees (stack : Stack) (lead other : Bytes) (checkShort : Bool) (len j : Nat) :
    Prop :=
  (∀ p, p < comparedLen lead len j →
      heldAt maxLen stack.leadBuff lead j p = heldAt maxLen stack.otherBuff other j p) ∧
    (checkShort = true →
      (blockAt maxLen lead j).length ≤ (blockAt maxLen other j).length)

theorem startState_eq :
    startState stack lead other = stateAt stack lead other 0 := by
  simp [startState, stateAt, buffer]

theorem maxLen_pos : 0 < maxLen := by decide

theorem comparedLen_le :
    comparedLen lead len j ≤ maxLen := by
  unfold comparedLen
  rw [length_blockAt]
  split <;> omega

theorem memcmpDiffers_eq_false_iff
    {left right : Nat → Byte} {n : Nat} :
    memcmpDiffers left right n = false ↔ ∀ p, p < n → left p = right p := by
  simp [memcmpDiffers]

/-- The round that follows `j` full rounds. -/
theorem compareRound_stateAt
    (hlen : len < 2 ^ 31)
    (hj : maxLen * j < len) :
    compareRound checkShort len (stateAt stack lead other j) =
      if memcmpDiffers (buffer maxLen stack.leadBuff lead (j + 1))
            (buffer maxLen stack.otherBuff other (j + 1)) (comparedLen lead len j) ∨
          checkShort ∧
            (blockAt maxLen other j).length < (blockAt maxLen lead j).length then
        .inr (-1)
      else
        .inl { stateAt stack lead other (j + 1) with
          i := maxLen * j + comparedLen lead len j } := by
  have hblock (data : Bytes) :
      (data.drop (maxLen * j)).take maxLen = blockAt maxLen data j := rfl
  have hdrop (data : Bytes) :
      (data.drop (maxLen * j)).drop maxLen = data.drop (maxLen * (j + 1)) := by
    rw [List.drop_drop, Nat.mul_succ]
  have hcompared :
      (if (maxLen * j + (blockAt maxLen lead j).length) % 2 ^ 32 < len then maxLen
        else len - maxLen * j) = comparedLen lead len j := by
    have hread : maxLen * j + (blockAt maxLen lead j).length < 2 ^ 32 := by
      rw [length_blockAt]
      unfold maxLen at *
      omega
    rw [Nat.mod_eq_of_lt hread]
    rfl
  have hnext :
      (maxLen * j + comparedLen lead len j) % 2 ^ 32 =
        maxLen * j + comparedLen lead len j := by
    refine Nat.mod_eq_of_lt ?_
    have := @comparedLen_le lead len j
    unfold maxLen at *
    omega
  simp only [compareRound, stateAt, if_pos hj, hblock, hdrop, hcompared, hnext]
  rfl

theorem memcmpDiffers_buffers
    {n : Nat}
    (hn : n ≤ maxLen) :
    memcmpDiffers (buffer maxLen stack.leadBuff lead (j + 1))
        (buffer maxLen stack.otherBuff other (j + 1)) n = false ↔
      ∀ p, p < n →
        heldAt maxLen stack.leadBuff lead j p = heldAt maxLen stack.otherBuff other j p := by
  rw [memcmpDiffers_eq_false_iff]
  constructor
  · intro hsame p hp
    have h := hsame p hp
    rwa [buffer_succ (by omega), buffer_succ (by omega)] at h
  · intro hheld p hp
    rw [buffer_succ (by omega), buffer_succ (by omega)]
    exact hheld p hp

/-- A round that finds no difference goes on, with full rounds or to the end. -/
theorem compareRound_of_agrees
    (hlen : len < 2 ^ 31)
    (hj : maxLen * j < len)
    (hagrees : RoundAgrees stack lead other checkShort len j) :
    ∃ t, compareRound checkShort len (stateAt stack lead other j) = .inl t ∧
      (t = stateAt stack lead other (j + 1) ∨ len ≤ t.i ∧ len ≤ maxLen * (j + 1)) := by
  refine
    ⟨{ stateAt stack lead other (j + 1) with i := maxLen * j + comparedLen lead len j },
      ?_, ?_⟩
  · rw [compareRound_stateAt hlen hj, if_neg]
    rintro (hdiffers | ⟨hcheck, hshort⟩)
    · rw [(memcmpDiffers_buffers comparedLen_le).mpr hagrees.1] at hdiffers
      exact Bool.false_ne_true hdiffers
    · have := hagrees.2 hcheck
      omega
  · by_cases hfull :
      maxLen * j + (blockAt maxLen lead j).length < len
    · left
      rw [comparedLen, if_pos hfull, ← Nat.mul_succ]
      rfl
    · right
      have hle : (blockAt maxLen lead j).length ≤ maxLen := by
        rw [length_blockAt]
        exact Nat.min_le_left _ _
      rw [comparedLen, if_neg hfull, Nat.mul_succ]
      constructor
      · dsimp only
        omega
      · omega

/-- A round that finds a difference fails. -/
theorem compareRound_of_differs
    (hlen : len < 2 ^ 31)
    (hj : maxLen * j < len)
    (hdiffers : ¬ RoundAgrees stack lead other checkShort len j) :
    compareRound checkShort len (stateAt stack lead other j) = .inr (-1) := by
  rw [compareRound_stateAt hlen hj, if_pos]
  by_contra hsame
  rw [not_or, Bool.not_eq_true] at hsame
  refine hdiffers ⟨(memcmpDiffers_buffers comparedLen_le).mp hsame.1, ?_⟩
  intro hcheck
  by_contra hshort
  exact hsame.2 ⟨hcheck, by omega⟩

theorem compareRound_of_le
    {s : State}
    (hi : len ≤ s.i) :
    compareRound checkShort len s = .inr 0 := by
  rw [compareRound, if_neg (by omega)]

/-- No round finds a difference. -/
def AllAgree (stack : Stack) (lead other : Bytes) (checkShort : Bool) (len : Nat) : Prop :=
  ∀ j, maxLen * j < len → RoundAgrees stack lead other checkShort len j

/-- Rounds that agree lead to a zero. -/
theorem returns_zero
    (hlen : len < 2 ^ 31)
    (hagree : AllAgree stack lead other checkShort len) :
    Returns (compareRound checkShort len) (stateAt stack lead other j) 0 := by
  -- Each round leaves fewer bytes.
  induction hleft : len - maxLen * j using Nat.strongRecOn generalizing j with
  | ind left ih =>
      by_cases hj : maxLen * j < len
      · obtain ⟨t, ht, hnext⟩ := compareRound_of_agrees hlen hj (hagree j hj)
        rw [returns_iff_of_inl ht]
        obtain rfl | ⟨hi, -⟩ := hnext
        · refine ih (len - maxLen * (j + 1)) ?_ rfl
          rw [Nat.mul_succ]
          unfold maxLen at *
          omega
        · exact returns_of_inr (compareRound_of_le hi)
      · exact returns_of_inr (compareRound_of_le (Nat.le_of_not_lt hj))

/-- A difference leads to a failure, wherever the loop starts before it. -/
theorem returns_fail
    (hlen : len < 2 ^ 31)
    {k : Nat}
    (hjk : j ≤ k)
    (hk : maxLen * k < len)
    (hdiffers : ¬ RoundAgrees stack lead other checkShort len k) :
    Returns (compareRound checkShort len) (stateAt stack lead other j) (-1) := by
  induction hleft : k - j generalizing j with
  | zero =>
      obtain rfl : j = k := by omega
      exact returns_of_inr (compareRound_of_differs hlen hk hdiffers)
  | succ left ih =>
      have hmul : maxLen * (j + 1) ≤ maxLen * k := Nat.mul_le_mul_left maxLen (by omega)
      have hj : maxLen * j < len := by
        rw [Nat.mul_succ] at hmul
        omega
      by_cases hagrees : RoundAgrees stack lead other checkShort len j
      · obtain ⟨t, ht, hnext⟩ := compareRound_of_agrees hlen hj hagrees
        rw [returns_iff_of_inl ht]
        obtain rfl | ⟨-, hend⟩ := hnext
        · exact ih (by omega) (by omega)
        · omega
      · exact returns_of_inr (compareRound_of_differs hlen hj hagrees)

theorem returns_fail_of_not_allAgree
    (hlen : len < 2 ^ 31)
    (hnot : ¬ AllAgree stack lead other checkShort len) :
    Returns (compareRound checkShort len) (stateAt stack lead other 0) (-1) := by
  simp only [AllAgree, not_forall] at hnot
  obtain ⟨k, hk, hdiffers⟩ := hnot
  exact returns_fail hlen (Nat.zero_le k) hk hdiffers

/-- A compare loop ends. -/
theorem compareLoop_returns
    (hlen : len < 2 ^ 31) :
    ∃ r, Returns (compareRound checkShort len) (startState stack lead other) r := by
  rw [startState_eq]
  by_cases hagree : AllAgree stack lead other checkShort len
  · exact ⟨0, returns_zero hlen hagree⟩
  · exact ⟨-1, returns_fail_of_not_allAgree hlen hagree⟩

/-- A compare loop returns zero exactly if no round finds a difference. -/
theorem compareLoop_zero_iff
    (hlen : len < 2 ^ 31) :
    Returns (compareRound checkShort len) (startState stack lead other) 0 ↔
      AllAgree stack lead other checkShort len := by
  rw [startState_eq]
  constructor
  · intro hzero
    by_contra hagree
    have h := Returns.unique hzero (returns_fail_of_not_allAgree hlen hagree)
    exact absurd h (by decide)
  · exact returns_zero hlen

end Loop

/-! ## What the rounds compare -/

section Rounds

variable {stack : Stack}
variable {lead other : Bytes}
variable {checkShort : Bool}
variable {len j p : Nat}

/-- In every place behind the end of the lead, both buffers hold the same. -/
def StaleAgree (stack : Stack) (lead other : Bytes) (len : Nat) : Prop :=
  ∀ j p, maxLen * j < len → p < maxLen → lead.length ≤ maxLen * j + p →
    heldAt maxLen stack.leadBuff lead j p = heldAt maxLen stack.otherBuff other j p

/-- A lead that is too short makes the rounds compare whole buffers. -/
theorem lt_comparedLen_iff
    (hj : maxLen * j < len) :
    p < comparedLen lead len j ↔
      p < maxLen ∧ (maxLen * j + p < len ∨ lead.length < len) := by
  unfold comparedLen
  rw [length_blockAt]
  split <;> omega

/-- The rounds with the check for a short read. -/
theorem allAgree_check_iff
    (hle : lead.length ≤ len) :
    AllAgree stack lead other true len ↔
      lead <+: other ∧ (lead.length = len ∨ StaleAgree stack lead other len) := by
  constructor
  · intro hagree
    have hlength : lead.length ≤ other.length :=
      (length_le_iff maxLen_pos hle).mp fun j hj => (hagree j hj).2 rfl
    constructor
    · refine (prefix_iff stack.leadBuff stack.otherBuff maxLen_pos hlength).mpr ?_
      intro j p hp hlt
      have hj : maxLen * j < len := by omega
      exact (hagree j hj).1 p ((lt_comparedLen_iff hj).mpr ⟨hp, .inl (by omega)⟩)
    · by_cases hsame : lead.length = len
      · exact .inl hsame
      · right
        intro j p hj hp _
        exact (hagree j hj).1 p ((lt_comparedLen_iff hj).mpr ⟨hp, .inr (by omega)⟩)
  · rintro ⟨hstart, hrest⟩ j hj
    have hlength : lead.length ≤ other.length := hstart.length_le
    refine ⟨?_, fun _ => (length_le_iff maxLen_pos hle).mpr hlength j hj⟩
    intro p hp
    obtain ⟨hp, hreach⟩ := (lt_comparedLen_iff hj).mp hp
    by_cases hin : maxLen * j + p < lead.length
    · exact (prefix_iff _ _ maxLen_pos hlength).mp hstart j p hp hin
    · obtain hsame | hstale := hrest
      · omega
      · exact hstale j p hj hp (by omega)

/-- The rounds without the check, where no file is too short. -/
theorem allAgree_iff_of_le
    (hlead : len ≤ lead.length)
    (hother : len ≤ other.length) :
    AllAgree stack lead other false len ↔ other.take len = lead.take len := by
  rw [eq_comm, take_eq_take_iff stack.leadBuff stack.otherBuff maxLen_pos hlead hother]
  constructor
  · intro hagree j p hp hlt
    have hj : maxLen * j < len := by omega
    exact (hagree j hj).1 p ((lt_comparedLen_iff hj).mpr ⟨hp, .inl hlt⟩)
  · intro hheld j hj
    refine ⟨?_, fun hcheck => absurd hcheck Bool.false_ne_true⟩
    intro p hp
    obtain ⟨hp, hreach⟩ := (lt_comparedLen_iff hj).mp hp
    exact hheld j p hp (by omega)

/-- What was read into the other buffer from the start of its file does not matter. -/
theorem allAgree_fill_take
    (k : Nat) :
    AllAgree { stack with otherBuff := fill stack.otherBuff (other.take k) } lead other
        checkShort len ↔
      AllAgree stack lead other checkShort len := by
  simp only [AllAgree, RoundAgrees, heldAt_fill_take]

end Rounds

/-! ## The two functions -/

section Functions

variable {m : Machine}
variable {stack : Stack}

theorem fileCompareBinary_returns
    (file1 file2 : Bytes)
    (skip seek : Nat)
    {len : Nat}
    (hlen : len < 2 ^ 31) :
    ∃ r fuel, fileCompareBinary m stack file1 file2 skip seek len fuel = some r := by
  unfold fileCompareBinary
  split
  · exact ⟨-1, 0, rfl⟩
  · split
    · exact ⟨-1, 0, rfl⟩
    · exact compareLoop_returns hlen

/-- `file_compare_binary` returns zero for equal bytes only, and for these if nothing is
skipped or the bytes behind the end agree as well. -/
theorem fileCompareBinary_zero_iff
    {file1 file2 : Bytes} {skip seek : Nat}
    (hlen : file1.length < 2 ^ 31)
    (hskip : skip ≤ file1.length) :
    (∃ fuel, fileCompareBinary m stack file1 file2 skip seek file1.length fuel = some 0) ↔
      fseekOk m seek = true ∧ file1.drop skip <+: file2.drop seek ∧
        (skip = 0 ∨ StaleAgree stack (file1.drop skip) (file2.drop seek) file1.length) := by
  have hseek1 : fseekOk m skip = true := by
    simp only [fseekOk, decide_eq_true_eq]
    omega
  have hwhole : (file1.drop skip).length = file1.length ↔ skip = 0 := by
    rw [List.length_drop]
    omega
  by_cases hseek : fseekOk m seek = true
  · simp only [fileCompareBinary, hseek1, hseek, Bool.true_eq_false, if_false, true_and]
    rw [← hwhole, ← allAgree_check_iff (by simp)]
    exact compareLoop_zero_iff hlen
  · simp [fileCompareBinary, hseek1, hseek]

theorem fileCompare_returns
    (img proj : Bytes)
    (skip : Nat)
    {len : Nat}
    (hlen : len < 2 ^ 31) :
    ∃ r fuel, fileCompare m stack img proj skip len fuel = some r := by
  unfold fileCompare
  split
  · exact ⟨-1, 0, rfl⟩
  · split
    · exact ⟨-1, 0, rfl⟩
    · exact compareLoop_returns hlen

/-- `file_compare` returns zero for an accepted header and rounds that agree. -/
theorem fileCompare_zero_iff
    {img proj : Bytes} {skip len : Nat}
    (hlen : len < 2 ^ 31) :
    (∃ fuel, fileCompare m stack img proj skip len fuel = some 0) ↔
      headerSize ≤ img.length ∧ (ihSize img + headerSize) % 2 ^ 32 = len ∧
        AllAgree stack (proj.drop (seekPos m skip)) img false len := by
  by_cases hheader : img.length < headerSize
  · simp [fileCompare, hheader]
  · by_cases hsize : (ihSize img + headerSize) % 2 ^ 32 = len
    · have hle : headerSize ≤ img.length := Nat.le_of_not_lt hheader
      simp only [fileCompare, hheader, hsize, hle, ne_eq, not_true_eq_false, if_false,
        true_and]
      rw [← allAgree_fill_take headerSize]
      exact compareLoop_zero_iff hlen
    · have hfail (fuel : Nat) :
          fileCompare m stack img proj skip len fuel = some (-1) := by
        rw [fileCompare, if_neg hheader, if_pos hsize]
      simp only [hfail, hsize, false_and, and_false]
      simp

end Functions

section Exactness

/-- A call of one of the two functions. -/
inductive Call where
  /-- `file_compare_binary(file1, file2, skip, seek, size of file1)`. -/
  | binary (file1 file2 : Bytes) (skip seek : Nat)
  /-- `file_compare(img, proj, skip, len)`. -/
  | image (img proj : Bytes) (skip len : Nat)

/-- The result of the call, if the rounds are enough. -/
def Call.run (m : Machine) (stack : Stack) (fuel : Nat) : Call → Option Int
  | binary file1 file2 skip seek =>
      fileCompareBinary m stack file1 file2 skip seek file1.length fuel
  | image img proj skip len =>
      fileCompare m stack img proj skip len fuel

/-- The files have the bytes to compare, and these are equal. -/
def Call.Equal : Call → Prop
  | binary file1 file2 skip seek => file1.drop skip <+: file2.drop seek
  | image img proj skip len =>
      len ≤ img.length ∧ ihSize img + headerSize = len ∧
        skip + len ≤ proj.length ∧ img.take len = (proj.drop skip).take len

/-- Sizes below 2 GiB, and positions of 32 bits. -/
def Call.Sizes : Call → Prop
  | binary file1 file2 skip seek =>
      file1.length < 2 ^ 31 ∧ file2.length < 2 ^ 31 ∧ skip ≤ file1.length ∧ seek < 2 ^ 32
  | image img proj skip len =>
      img.length < 2 ^ 31 ∧ proj.length < 2 ^ 31 ∧ len < 2 ^ 31 ∧ skip < 2 ^ 32

/-- The call ends, with zero exactly if the bytes to compare are equal. -/
def Exact (m : Machine) (stack : Stack) (call : Call) : Prop :=
  (∃ r fuel, call.run m stack fuel = some r) ∧
    ((∃ fuel, call.run m stack fuel = some 0) ↔ call.Equal)

/-- In some round a byte that is compared differs. -/
def RoundsDiffer (stack : Stack) (lead other : Bytes) (len : Nat) : Prop :=
  ∃ j p, maxLen * j < len ∧ p < comparedLen lead len j ∧
    heldAt maxLen stack.leadBuff lead j p ≠ heldAt maxLen stack.otherBuff other j p

/--
The calls with an exact answer.  Equal bytes of a file that is not compared from its
start must be followed by equal bytes in the buffers; and where an image is accepted by
its header but one of the files is too short, the buffers must differ.
-/
def Call.AnswersExactly (m : Machine) (stack : Stack) : Call → Prop
  | binary file1 file2 skip seek =>
      ¬ file1.drop skip <+: file2.drop seek ∨
        fseekOk m seek = true ∧
          (skip = 0 ∨ StaleAgree stack (file1.drop skip) (file2.drop seek) file1.length)
  | image img proj skip len =>
      img.length < headerSize ∨
        (ihSize img + headerSize) % 2 ^ 32 ≠ len ∨
        headerSize ≤ len ∧ len ≤ img.length ∧ skip + len ≤ proj.length ∨
        RoundsDiffer stack (proj.drop (seekPos m skip)) img len

variable {m : Machine}
variable {stack : Stack}

/-- The loops end for every input. -/
theorem Call.returns
    (m : Machine) (stack : Stack)
    (call : Call)
    (hsizes : call.Sizes) :
    ∃ r fuel, call.run m stack fuel = some r := by
  cases call with
  | binary file1 file2 skip seek =>
      exact fileCompareBinary_returns file1 file2 skip seek hsizes.1
  | image img proj skip len =>
      exact fileCompare_returns img proj skip hsizes.2.2.1

theorem binary_exact_iff
    {file1 file2 : Bytes} {skip seek : Nat}
    (hsizes : (Call.binary file1 file2 skip seek).Sizes) :
    ((∃ fuel, (Call.binary file1 file2 skip seek).run m stack fuel = some 0) ↔
        (Call.binary file1 file2 skip seek).Equal) ↔
      (Call.binary file1 file2 skip seek).AnswersExactly m stack := by
  simp only [Call.run, Call.Equal, Call.AnswersExactly,
    fileCompareBinary_zero_iff hsizes.1 hsizes.2.2.1]
  tauto

theorem roundsDiffer_iff
    {lead other : Bytes} {len : Nat} :
    RoundsDiffer stack lead other len ↔ ¬ AllAgree stack lead other false len := by
  simp only [RoundsDiffer, AllAgree, RoundAgrees, Bool.false_eq_true, false_implies, and_true,
    not_forall]
  constructor
  · rintro ⟨j, p, hj, hp, hne⟩
    exact ⟨j, hj, p, hp, hne⟩
  · rintro ⟨j, hj, p, hp, hne⟩
    exact ⟨j, p, hj, hp, hne⟩

theorem ihSize_lt
    (hdr : Bytes) :
    ihSize hdr < 2 ^ 32 := by
  have hfour : ((hdr.drop 12).take 4).length ≤ 4 := List.length_take_le _ _
  calc
    ihSize hdr < 256 ^ ((hdr.drop 12).take 4).length := load_lt .big _
    _ ≤ 256 ^ 4 := Nat.pow_le_pow_right (by decide) hfour

/-- Files that are long enough are compared exactly. -/
theorem image_equal_iff_of_fits
    {img proj : Bytes} {skip len : Nat}
    (hsizes : (Call.image img proj skip len).Sizes)
    (hsize : headerSize ≤ len)
    (himg : len ≤ img.length)
    (hproj : skip + len ≤ proj.length) :
    (Call.image img proj skip len).Equal ↔
      headerSize ≤ img.length ∧ (ihSize img + headerSize) % 2 ^ 32 = len ∧
        AllAgree stack (proj.drop (seekPos m skip)) img false len := by
  obtain ⟨himgsize, hprojsize, hlen, -⟩ := hsizes
  have hseek : seekPos m skip = skip := by
    rw [seekPos, if_neg (by omega)]
  -- A size that wraps is smaller than a header.
  have hdeclared : (ihSize img + headerSize) % 2 ^ 32 = len ↔ ihSize img + headerSize = len := by
    have := ihSize_lt img
    unfold headerSize at *
    omega
  rw [hseek, hdeclared, allAgree_iff_of_le (by rw [List.length_drop]; omega) himg]
  constructor
  · rintro ⟨-, hsame, -, hbytes⟩
    exact ⟨by omega, hsame, hbytes⟩
  · rintro ⟨-, hsame, hbytes⟩
    exact ⟨himg, hsame, hproj, hbytes⟩

theorem image_exact_iff
    {img proj : Bytes} {skip len : Nat}
    (hsizes : (Call.image img proj skip len).Sizes) :
    ((∃ fuel, (Call.image img proj skip len).run m stack fuel = some 0) ↔
        (Call.image img proj skip len).Equal) ↔
      (Call.image img proj skip len).AnswersExactly m stack := by
  simp only [Call.run, Call.AnswersExactly, fileCompare_zero_iff hsizes.2.2.1,
    roundsDiffer_iff]
  by_cases hfits : headerSize ≤ len ∧ len ≤ img.length ∧ skip + len ≤ proj.length
  · have hequal :=
      @image_equal_iff_of_fits m stack img proj skip len hsizes hfits.1 hfits.2.1 hfits.2.2
    simp [hequal, hfits]
  · have hnot : ¬ (Call.image img proj skip len).Equal := by
      rintro ⟨himg, hsame, hproj, -⟩
      exact hfits ⟨by omega, himg, hproj⟩
    have hshort : img.length < headerSize ↔ ¬ headerSize ≤ img.length := by omega
    simp only [hnot, hfits, hshort, iff_false, false_or]
    tauto

/-- A call that ends answers exactly if its condition holds. -/
theorem exact_iff
    (m : Machine) (stack : Stack)
    (call : Call)
    (hsizes : call.Sizes) :
    Exact m stack call ↔ call.AnswersExactly m stack := by
  have hends := call.returns m stack hsizes
  rw [Exact, and_iff_right hends]
  cases call with
  | binary file1 file2 skip seek => exact binary_exact_iff hsizes
  | image img proj skip len => exact image_exact_iff hsizes

theorem exact_iff_tail :
    Exact { endian := .little, sizeofLong := 8, word := .inr rfl }
      { leadBuff := fun _ => 0, otherBuff := fun _ => 0 } (.binary [1, 2] [0, 1, 2] 0 1) :=
  (exact_iff _ _ (.binary [1, 2] [0, 1, 2] 0 1) (by simp [Call.Sizes])).mpr
    (.inr ⟨by decide, .inl rfl⟩)

/-- A file of zeros. -/
def zeros (n : Nat) : Bytes := List.replicate n 0

@[simp]
theorem length_zeros
    (n : Nat) :
    (zeros n).length = n :=
  List.length_replicate

@[simp]
theorem drop_zeros
    (k n : Nat) :
    (zeros n).drop k = zeros (n - k) :=
  List.drop_replicate

theorem getD_zeros
    (n i : Nat) :
    (zeros n).getD i 0 = 0 := by
  rw [zeros, List.getD_eq_getElem?_getD, List.getElem?_replicate]
  split <;> rfl

/-- Behind the last byte the second round sees a zero of the first round, and the byte
that follows in the other file. -/
theorem zeros_not_staleAgree :
    ¬ StaleAgree stack (zeros 2049) (zeros 2049 ++ [1]) 2050 := by
  intro hstale
  have h := hstale 1 1 (by decide) (by decide) (by rw [length_zeros]; decide)
  have hzero : heldAt maxLen stack.leadBuff (zeros 2049) 1 1 = 0 := by
    rw [heldAt_eq_of_lt_length _ (fun _ => 0) (by rw [length_zeros]; decide)]
    exact getD_zeros _ _
  have hin : maxLen * 1 + 1 < (zeros 2049 ++ [(1 : Byte)]).length := by
    rw [List.length_append, length_zeros]
    decide
  have hone : heldAt maxLen stack.otherBuff (zeros 2049 ++ [(1 : Byte)]) 1 1 = 1 := by
    rw [heldAt_of_lt maxLen_pos hin]
    exact List.getElem_concat_length (length_zeros 2049).symm hin
  rw [hzero, hone] at h
  exact absurd h (by decide)

theorem not_exact_zeros :
    ¬ Exact { endian := .little, sizeofLong := 8, word := .inr rfl }
      { leadBuff := fun _ => 0, otherBuff := fun _ => 0 }
      (.binary (zeros 2050) (zeros 2049 ++ [1]) 1 0) := by
  rintro ⟨-, hanswer⟩
  have hequal : (Call.binary (zeros 2050) (zeros 2049 ++ [1]) 1 0).Equal := by
    simp only [Call.Equal, drop_zeros, List.drop_zero]
    exact List.prefix_append _ _
  obtain ⟨-, -, hskip | hstale⟩ :=
    (fileCompareBinary_zero_iff (by rw [length_zeros]; decide)
      (by rw [length_zeros]; decide)).mp (hanswer.mpr hequal)
  · exact absurd hskip (by decide)
  · rw [drop_zeros, List.drop_zero, length_zeros] at hstale
    exact zeros_not_staleAgree hstale

end Exactness

end Compare
end Mkimage
end BrBox
