import BrBox.Lib.AccessTrace
import BrBox.Mkimage.RoundTrip

/-!
# Malformed multi-file images

The checksums of the outer header say nothing about the table of sizes.  It is
scanned for its zero without a bound, and each size gives the place of the next file
and the length of a checksum.  Here the runs of `-l` note every read of the mapped
file, every subtraction of a header length and every counter that leaves an `int`.

* `scanTable_keeps_iff`: the scan stays in the file exactly if its zero is there.
* `printLoop_spec`: what `print_header` reads of the files.
* `runList_value`: without the notes these are the runs of `Image`.
* `rejected_iff`: the files that are read as they should be, and refused otherwise.
-/

namespace BrBox
namespace Mkimage
namespace Malformed

open ByteOrder
open CText
open AccessTrace
open AccessTrace.Accessed

/-! ## The runs with their accesses -/

inductive Access where
  /-- `n` bytes are read at this place of the mapped file. -/
  | read (off n : Nat)
  /-- `size - sizeof(image_header_t)` -/
  | subtract (size : Nat)
  /-- A counter of the type `int` is increased beyond its range. -/
  | overflow
deriving DecidableEq, Repr

/-- The access is in order for this file. -/
def Access.Ok (img : Bytes) : Access → Prop
  | read off n => off + n ≤ img.length
  | subtract size => headerSize ≤ size
  | overflow => False

/-- Bytes of the mapped file. -/
def readAt (img : Bytes) (off n : Nat) : Accessed Access Bytes :=
  { events := [.read off n], value := peek img off n }

/-- `len_ptr[i]`. -/
def tableEntry (m : Machine) (img : Bytes) (i : Nat) : Accessed Access Nat := do
  let entry ← readAt img (headerSize + i * m.sizeofLong) m.sizeofLong
  return load m.endian entry

/-- The numbers that are left for a counter that starts at 0. -/
def intLimit : Nat := 2 ^ 31

/-- The scan for the zero from `i` on, with `left` numbers left. -/
def scanTable (m : Machine) (img : Bytes) : (left i : Nat) → Accessed Access Nat
  | 0, _ => stop .overflow
  | left + 1, i => do
      let len ← tableEntry m img i
      if len = 0 then
        return i
      else
        scanTable m img left (i + 1)

/-- The place of the first file, behind `ptrs + 1` sizes. -/
def firstData (m : Machine) (ptrs : Nat) : Accessed Access Nat :=
  if ptrs + 1 < intLimit then
    return headerSize + (ptrs + 1) * m.sizeofLong
  else
    stop .overflow

/-- `image_len = size - sizeof(image_header_t)`. -/
def subtractHeader (size : Nat) : Accessed Access Nat :=
  { events := [.subtract size], value := some (imageLen size) }

/-- The two checksums of a sub-image. -/
def subImage (img : Bytes) (data size : Nat) : Accessed Access Bool := do
  let hdr ← readAt img data headerSize
  if checkHeader hdr then
    let len ← subtractHeader size
    let imageData ← readAt img (data + headerSize) len
    return (crc32 imageData).toNat = ihDcrc hdr
  else
    return false

/-- The second loop of `print_header`, with `n` sizes to go. -/
def printLoop (m : Machine) (img : Bytes) : (n i data : Nat) → Accessed Access Bool
  | 0, i, _ => do
      let _ ← tableEntry m img i
      return true
  | n + 1, i, data => do
      let len ← tableEntry m img i
      let ok ← subImage img data (htonl m.endian len)
      let result ← printLoop m img n (i + 1)
        (pointer m (data + alignSize (htonl m.endian len)))
      return ok && result

/-- `print_header`: the result is zero. -/
def printHeader (m : Machine) (img : Bytes) : Accessed Access Bool := do
  if ihType img = ihTypeMulti ∨ ihType img = ihTypeScript then
    let ptrs ← scanTable m img intLimit 0
    let data ← firstData m ptrs
    printLoop m img ptrs 0 data
  else
    return true

/--
The checks of the outer header.  A 32 bit process cannot open a file of 2 GiB, and no
process can map one of 2^63 bytes; the size is an `unsigned`, and the length of the
checksum as well.
-/
def outerChecks (m : Machine) (img : Bytes) : Accessed Access Bool := do
  if m.sizeofLong = 4 ∧ 2 ^ 31 ≤ img.length ∨ 2 ^ 63 ≤ img.length then
    return false
  else if img.length % 2 ^ 32 < headerSize then
    return false
  else
    let hdr ← readAt img 0 headerSize
    if checkHeader hdr then
      let data ← readAt img headerSize ((img.length - headerSize) % 2 ^ 32)
      return (crc32 data).toNat = ihDcrc hdr
    else
      return false

/-- The second loop of `extract_file_from_multi`, with `n` sizes to go. -/
def extractLoop (m : Machine) (img : Bytes) (imageType : Byte) (action : TypeAction) :
    (n i pos data imgCount : Nat) → Accessed Access Outcome
  | 0, i, _, _, imgCount => do
      let _ ← tableEntry m img i
      return if action = .count then .counted imgCount else .fail
  | n + 1, i, pos, data, imgCount => do
      let len ← tableEntry m img i
      let hdr ← readAt img data headerSize
      let size := htonl m.endian len
      let next := extractLoop m img imageType action n (i + 1)
        ((pos + alignSize size) % 2 ^ 32) (pointer m (data + alignSize size))
      if checkHeader hdr then
        if ihType hdr = imageType then
          match action with
          | .query => return .found
          | .extract => return .copied (fileCopy m img ((pos + 4) % 2 ^ 32) size)
          | .exthdr => return .copied (fileCopy m img ((pos + 4) % 2 ^ 32) headerSize)
          | .count => return .fail
        else
          next (imgCount + 1)
      else
        next imgCount

/-- `extract_file_from_multi`. -/
def extractFileFromMulti (m : Machine) (img : Bytes) (imageType : Byte)
    (action : TypeAction) : Accessed Access Outcome := do
  if ihType img = ihTypeMulti then
    let ptrs ← scanTable m img intLimit 0
    let data ← firstData m ptrs
    extractLoop m img imageType action ptrs 0
      ((headerSize + ptrs * m.sizeofLong) % 2 ^ 32) data 0
  else
    return .fail

/-- The second loop of `extract_file_number`, with `n` sizes to go. -/
def numberLoop (m : Machine) (img : Bytes) (imageNo : Int) :
    (n i pos data : Nat) → Accessed Access Outcome
  | 0, i, _, _ => do
      let _ ← tableEntry m img i
      return .fail
  | n + 1, i, pos, data => do
      let len ← tableEntry m img i
      let hdr ← readAt img data headerSize
      let size := htonl m.endian len
      if checkHeader hdr ∧ (i : Int) = imageNo then
        return .copied (fileCopy m img ((pos + 4) % 2 ^ 32) size)
      else
        numberLoop m img imageNo n (i + 1)
          ((pos + alignSize size) % 2 ^ 32) (pointer m (data + alignSize size))

/-- `extract_file_number`. -/
def extractFileNumber (m : Machine) (img : Bytes) (imageNo : Int) :
    Accessed Access Outcome := do
  if ihType img = ihTypeMulti then
    let ptrs ← scanTable m img intLimit 0
    let data ← firstData m ptrs
    numberLoop m img imageNo ptrs 0 ((headerSize + ptrs * m.sizeofLong) % 2 ^ 32) data
  else
    return .fail

/-- What is asked for besides `-l`. -/
inductive ListOption where
  /-- nothing -/
  | alone
  /-- `-t` -/
  | count
  /-- `-X` with `-o` -/
  | extract (imageName : Bytes)
  /-- `-H` with `-o` -/
  | exthdr (imageName : Bytes)
  /-- `-q` -/
  | query (imageName : Bytes)
  /-- `-f` -/
  | number (imageNo : Int)

/-- What is done after `print_header`. -/
def ListOption.run (m : Machine) (img : Bytes) : ListOption → Accessed Access Outcome
  | alone => return .found
  | count => extractFileFromMulti m img 0 .count
  | extract imageName => extractFileFromMulti m img (getImageType imageName) .extract
  | exthdr imageName => extractFileFromMulti m img (getImageType imageName) .exthdr
  | query imageName => extractFileFromMulti m img (getImageType imageName) .query
  | number imageNo => extractFileNumber m img imageNo

/-- A run with `-l`, which ends with `exit(-1)` if a check fails. -/
def runList (m : Machine) (img : Bytes) (option : ListOption) : Accessed Access Outcome := do
  let outer ← outerChecks m img
  if outer then
    let inner ← printHeader m img
    if inner then
      option.run m img
    else
      return .fail
  else
    return .fail

/-! ## What is read of the table -/

/-- The size at this place of the table. -/
def entryAt (m : Machine) (img : Bytes) (i : Nat) : Nat :=
  load m.endian ((img.drop (headerSize + i * m.sizeofLong)).take m.sizeofLong)

/-- The first zero of the table is its entry `z`, and it lies in the file. -/
structure TableEnds (m : Machine) (img : Bytes) (z : Nat) : Prop where
  inFile : headerSize + (z + 1) * m.sizeofLong ≤ img.length
  zero : entryAt m img z = 0
  first : ∀ i < z, entryAt m img i ≠ 0

section Reads

variable {m : Machine}
variable {img : Bytes}

theorem readAt_keeps
    (off n : Nat) :
    Keeps (Access.Ok img) (readAt img off n) ↔ off + n ≤ img.length := by
  simp [Keeps, readAt, Access.Ok]

theorem readAt_value
    {off n : Nat}
    (hle : off + n ≤ img.length) :
    (readAt img off n).value = some ((img.drop off).take n) :=
  peek_of_le hle

theorem tableEntry_keeps
    (i : Nat) :
    Keeps (Access.Ok img) (tableEntry m img i) ↔
      headerSize + (i + 1) * m.sizeofLong ≤ img.length := by
  simp only [tableEntry, keeps_bind, readAt_keeps, keeps_pure, implies_true, and_true,
    Nat.add_mul, Nat.one_mul, Nat.add_assoc]

theorem tableEntry_value
    {i : Nat}
    (hle : headerSize + (i + 1) * m.sizeofLong ≤ img.length) :
    (tableEntry m img i).value = some (entryAt m img i) := by
  rw [Nat.add_mul, Nat.one_mul, ← Nat.add_assoc] at hle
  rw [tableEntry, value_bind_of_value (readAt_value hle)]
  rfl

/-- An earlier entry lies in the file as well. -/
theorem TableEnds.entry_inFile
    {z i : Nat}
    (hends : TableEnds m img z)
    (hi : i ≤ z) :
    headerSize + (i + 1) * m.sizeofLong ≤ img.length := by
  have hmul : (i + 1) * m.sizeofLong ≤ (z + 1) * m.sizeofLong :=
    Nat.mul_le_mul_right _ (by omega)
  have hfile := hends.inFile
  omega

/-- Go on with bytes that lie in the file. -/
theorem keeps_bind_readAt
    {α : Type}
    {off n : Nat}
    (hle : off + n ≤ img.length)
    (f : Bytes → Accessed Access α) :
    Keeps (Access.Ok img) (readAt img off n >>= f) ↔
      Keeps (Access.Ok img) (f ((img.drop off).take n)) := by
  rw [keeps_bind_of_value _ (readAt_value hle), readAt_keeps]
  exact and_iff_right hle

/-- Go on with an entry that is not behind the zero. -/
theorem TableEnds.keeps_bind_entry
    {α : Type}
    {z i : Nat}
    (hends : TableEnds m img z)
    (hi : i ≤ z)
    (f : Nat → Accessed Access α) :
    Keeps (Access.Ok img) (tableEntry m img i >>= f) ↔
      Keeps (Access.Ok img) (f (entryAt m img i)) := by
  have hle := hends.entry_inFile hi
  rw [keeps_bind_of_value _ (tableEntry_value hle), tableEntry_keeps]
  exact and_iff_right hle

theorem TableEnds.value_bind_entry
    {α : Type}
    {z i : Nat}
    (hends : TableEnds m img z)
    (hi : i ≤ z)
    (f : Nat → Accessed Access α) :
    (tableEntry m img i >>= f).value = (f (entryAt m img i)).value :=
  value_bind_of_value (tableEntry_value (hends.entry_inFile hi)) f

/-- The scan stays in the file exactly if it meets a zero there. -/
theorem scanTable_keeps_iff
    (left i : Nat) :
    Keeps (Access.Ok img) (scanTable m img left i) ↔
      ∃ z, i ≤ z ∧ z < i + left ∧
        headerSize + (z + 1) * m.sizeofLong ≤ img.length ∧ entryAt m img z = 0 ∧
          ∀ j, i ≤ j → j < z → entryAt m img j ≠ 0 := by
  induction left generalizing i with
  | zero =>
      simp only [scanTable, keeps_stop, Access.Ok, false_iff]
      rintro ⟨z, hle, hlt, -⟩
      omega
  | succ left ih =>
      by_cases hfile : headerSize + (i + 1) * m.sizeofLong ≤ img.length
      · rw [scanTable, keeps_bind_of_value _ (tableEntry_value hfile), tableEntry_keeps]
        by_cases hzero : entryAt m img i = 0
        · simp only [hzero, if_true, keeps_pure, and_true, hfile, true_iff]
          exact ⟨i, Nat.le_refl i, by omega, hfile, hzero, fun j hle hlt => by omega⟩
        · simp only [hzero, if_false, hfile, true_and, ih]
          constructor
          · rintro ⟨z, hle, hlt, hinFile, hz, hfirst⟩
            refine ⟨z, by omega, by omega, hinFile, hz, ?_⟩
            intro j hj hjz
            rcases Nat.eq_or_lt_of_le hj with rfl | hj
            · exact hzero
            · exact hfirst j hj hjz
          · rintro ⟨z, hle, hlt, hinFile, hz, hfirst⟩
            have hne : i ≠ z := by
              rintro rfl
              exact hzero hz
            exact ⟨z, by omega, by omega, hinFile, hz,
              fun j hj hjz => hfirst j (by omega) hjz⟩
      · rw [scanTable, keeps_bind, tableEntry_keeps]
        refine iff_of_false (fun h => hfile h.1) ?_
        rintro ⟨z, hle, -, hinFile, -⟩
        have hmul : (i + 1) * m.sizeofLong ≤ (z + 1) * m.sizeofLong :=
          Nat.mul_le_mul_right _ (by omega)
        omega

/-- The scan counts the entries before the zero. -/
theorem scanTable_value
    {z : Nat}
    (hends : TableEnds m img z)
    {left i : Nat}
    (hi : i ≤ z)
    (hleft : z < i + left) :
    (scanTable m img left i).value = some z := by
  induction left generalizing i with
  | zero => omega
  | succ left ih =>
      rw [scanTable, hends.value_bind_entry hi]
      by_cases heq : i = z
      · rw [heq, if_pos hends.zero]
        rfl
      · rw [if_neg (hends.first i (by omega))]
        exact ih (by omega) (by omega)

/-- The scan from the start of the table. -/
theorem scanTable_zero
    {z : Nat}
    (hends : TableEnds m img z)
    (hlt : z < intLimit) :
    (scanTable m img intLimit 0).value = some z :=
  scanTable_value hends (Nat.zero_le z) (by omega)

theorem tableEnds_iff
    (m : Machine)
    (img : Bytes) :
    Keeps (Access.Ok img) (scanTable m img intLimit 0) ↔
      ∃ z < intLimit, TableEnds m img z := by
  rw [scanTable_keeps_iff]
  constructor
  · rintro ⟨z, -, hlt, hfile, hzero, hfirst⟩
    exact ⟨z, by omega, hfile, hzero, fun i hi => hfirst i (Nat.zero_le i) hi⟩
  · rintro ⟨z, hlt, hends⟩
    exact ⟨z, Nat.zero_le z, by omega, hends.inFile, hends.zero,
      fun i _ hi => hends.first i hi⟩

theorem TableEnds.unique
    {z z' : Nat}
    (hends : TableEnds m img z)
    (hends' : TableEnds m img z') :
    z = z' := by
  rcases Nat.lt_trichotomy z z' with hlt | heq | hlt
  · exact absurd hends.zero (hends'.first z hlt)
  · exact heq
  · exact absurd hends'.zero (hends.first z' hlt)

end Reads

/-! ## What is read of the files -/

/--
The walk over the files from entry `i` on, with `n` to go: each header lies in the
file, and if it is a good one, so does the data after it, as long as the size says.
-/
def WalkFits (m : Machine) (img : Bytes) : (n i data : Nat) → Prop
  | 0, _, _ => True
  | n + 1, i, data =>
      data + headerSize ≤ img.length ∧
        (checkHeader ((img.drop data).take headerSize) = true →
          headerSize ≤ htonl m.endian (entryAt m img i) ∧
            data + htonl m.endian (entryAt m img i) ≤ img.length) ∧
        WalkFits m img n (i + 1)
          (pointer m (data + alignSize (htonl m.endian (entryAt m img i))))

/-- Each file is a header and its data, and lies in the image. -/
def RangesFit (m : Machine) (img : Bytes) : (n i data : Nat) → Prop
  | 0, _, _ => True
  | n + 1, i, data =>
      (headerSize ≤ htonl m.endian (entryAt m img i) ∧
          data + htonl m.endian (entryAt m img i) ≤ img.length) ∧
        RangesFit m img n (i + 1)
          (pointer m (data + alignSize (htonl m.endian (entryAt m img i))))

/-- The table and the sizes fit into the file. -/
def SizesFit (m : Machine) (img : Bytes) : Prop :=
  ∃ z, TableEnds m img z ∧
    RangesFit m img z 0 (headerSize + (z + 1) * m.sizeofLong)

section Walk

variable {m : Machine}
variable {img : Bytes}
variable {z : Nat}

/-- A good header is followed by data of the length that the size says. -/
theorem subImage_spec
    (img : Bytes)
    (data : Nat)
    {size : Nat}
    (hsize : size < 2 ^ 32) :
    (Keeps (Access.Ok img) (subImage img data size) ↔
      data + headerSize ≤ img.length ∧
        (checkHeader ((img.drop data).take headerSize) = true →
          headerSize ≤ size ∧ data + size ≤ img.length)) ∧
    (Keeps (Access.Ok img) (subImage img data size) →
      ∃ ok, (subImage img data size).value = some ok ∧
        (ok = true → headerSize ≤ size ∧ data + size ≤ img.length)) := by
  by_cases hhdr : data + headerSize ≤ img.length
  · rw [subImage, keeps_bind_readAt hhdr, value_bind_of_value (readAt_value hhdr)]
    by_cases hcheck : checkHeader ((img.drop data).take headerSize) = true
    · simp only [hcheck, if_true, hhdr, true_and, forall_true_left]
      have hsubtract : (subtractHeader size).value = some (imageLen size) := rfl
      rw [keeps_bind_of_value _ hsubtract, value_bind_of_value hsubtract]
      have hkeepsSub : Keeps (Access.Ok img) (subtractHeader size) ↔ headerSize ≤ size := by
        simp [Keeps, subtractHeader, Access.Ok]
      by_cases hlen : headerSize ≤ size
      · have himage : imageLen size = size - headerSize := by
          unfold imageLen headerSize at *
          omega
        have hrange :
            data + headerSize + imageLen size ≤ img.length ↔ data + size ≤ img.length := by
          rw [himage]
          omega
        rw [keeps_bind, readAt_keeps, hkeepsSub, hrange]
        simp only [keeps_pure, implies_true, and_true, hlen, true_and]
        intro hfile
        rw [value_bind_of_value (readAt_value (hrange.mpr hfile))]
        exact ⟨_, rfl, fun _ => hfile⟩
      · rw [hkeepsSub]
        exact ⟨iff_of_false (fun h => hlen h.1) (fun h => hlen h.1),
          fun h => absurd h.1 hlen⟩
    · simp only [hcheck, hhdr, keeps_pure, value_pure, true_and, if_false, false_implies,
        Bool.false_eq_true]
      exact fun _ => ⟨false, rfl, by simp⟩
  · have hnot : ¬Keeps (Access.Ok img) (subImage img data size) := by
      rw [subImage, keeps_bind, readAt_keeps]
      exact fun h => hhdr h.1
    exact ⟨iff_of_false hnot fun h => hhdr h.1, fun h => absurd h hnot⟩

/-- The walk of `print_header`: what it reads, and what it has found at its end. -/
theorem printLoop_spec
    (hends : TableEnds m img z)
    {n i : Nat}
    (hn : i + n = z)
    (data : Nat) :
    (Keeps (Access.Ok img) (printLoop m img n i data) ↔ WalkFits m img n i data) ∧
    (Keeps (Access.Ok img) (printLoop m img n i data) →
      ∃ ok, (printLoop m img n i data).value = some ok ∧
        (ok = true → RangesFit m img n i data)) := by
  induction n generalizing i data with
  | zero =>
      rw [printLoop, hends.keeps_bind_entry (by omega), hends.value_bind_entry (by omega)]
      exact ⟨iff_of_true (keeps_pure _ _) trivial, fun _ => ⟨true, rfl, fun _ => trivial⟩⟩
  | succ n ih =>
      obtain ⟨hsub, hsubValue⟩ :=
        subImage_spec img data (htonl_lt m.endian (entryAt m img i))
      obtain ⟨hrest, hrestValue⟩ :=
        ih (i := i + 1) (by omega)
          (pointer m (data + alignSize (htonl m.endian (entryAt m img i))))
      rw [printLoop, hends.keeps_bind_entry (by omega), hends.value_bind_entry (by omega)]
      by_cases hsubKeeps :
          Keeps (Access.Ok img) (subImage img data (htonl m.endian (entryAt m img i)))
      · obtain ⟨ok, hok, hrange⟩ := hsubValue hsubKeeps
        rw [keeps_bind_of_value _ hok, value_bind_of_value hok, keeps_bind, hrest]
        simp only [hsubKeeps, keeps_pure, implies_true, and_true, true_and]
        constructor
        · rw [WalkFits, ← and_assoc, ← hsub]
          exact (and_iff_right hsubKeeps).symm
        · intro hwalk
          obtain ⟨result, hresult, hranges⟩ := hrestValue (hrest.mpr hwalk)
          rw [value_bind_of_value hresult]
          refine ⟨ok && result, rfl, ?_⟩
          intro hboth
          obtain ⟨hok', hresult'⟩ := Bool.and_eq_true_iff.mp hboth
          exact ⟨hrange hok', hranges hresult'⟩
      · have hnot :
            ¬Keeps (Access.Ok img) (do
              let ok ← subImage img data (htonl m.endian (entryAt m img i))
              let result ← printLoop m img n (i + 1)
                (pointer m (data + alignSize (htonl m.endian (entryAt m img i))))
              return ok && result) := by
          rw [keeps_bind]
          exact fun h => hsubKeeps h.1
        refine ⟨iff_of_false hnot ?_, fun h => absurd h hnot⟩
        rw [WalkFits, ← and_assoc, ← hsub]
        exact fun h => hsubKeeps h.1

/-- The second walk of an extraction reads nothing that the first one has not read. -/
theorem extractLoop_keeps
    (hends : TableEnds m img z)
    (imageType : Byte)
    (action : TypeAction)
    {n i data : Nat}
    (hn : i + n = z)
    (hwalk : WalkFits m img n i data)
    (pos imgCount : Nat) :
    Keeps (Access.Ok img) (extractLoop m img imageType action n i pos data imgCount) := by
  induction n generalizing i data pos imgCount with
  | zero =>
      rw [extractLoop, hends.keeps_bind_entry (by omega)]
      exact keeps_pure _ _
  | succ n ih =>
      obtain ⟨hhdr, -, hrest⟩ := hwalk
      rw [extractLoop, hends.keeps_bind_entry (by omega), keeps_bind_readAt hhdr]
      split
      · split
        · cases action <;> exact keeps_pure _ _
        · exact ih (by omega) hrest _ _
      · exact ih (by omega) hrest _ _

theorem numberLoop_keeps
    (hends : TableEnds m img z)
    (imageNo : Int)
    {n i data : Nat}
    (hn : i + n = z)
    (hwalk : WalkFits m img n i data)
    (pos : Nat) :
    Keeps (Access.Ok img) (numberLoop m img imageNo n i pos data) := by
  induction n generalizing i data pos with
  | zero =>
      rw [numberLoop, hends.keeps_bind_entry (by omega)]
      exact keeps_pure _ _
  | succ n ih =>
      obtain ⟨hhdr, -, hrest⟩ := hwalk
      rw [numberLoop, hends.keeps_bind_entry (by omega), keeps_bind_readAt hhdr]
      split
      · exact keeps_pure _ _
      · exact ih (by omega) hrest _

end Walk

/-! ## Whole runs -/

/-- The table ends in the file, no counter leaves an `int`, and the walk fits. -/
def ImageFits (m : Machine) (img : Bytes) : Prop :=
  ∃ z, TableEnds m img z ∧ z + 1 < intLimit ∧
    WalkFits m img z 0 (headerSize + (z + 1) * m.sizeofLong)

section Runs

variable {m : Machine}
variable {img : Bytes}

theorem firstData_keeps
    (ptrs : Nat) :
    Keeps (Access.Ok img) (firstData m ptrs) ↔ ptrs + 1 < intLimit := by
  unfold firstData
  split
  · next hlt => simp [hlt]
  · next hlt => simp [hlt, Access.Ok]

theorem firstData_value
    {ptrs : Nat}
    (hlt : ptrs + 1 < intLimit) :
    (firstData m ptrs).value = some (headerSize + (ptrs + 1) * m.sizeofLong) := by
  rw [firstData, if_pos hlt]
  rfl

/-- The scan, and what follows it for the entries it has counted. -/
theorem afterScan_keeps
    {α : Type}
    {z : Nat}
    (hends : TableEnds m img z)
    (hint : z + 1 < intLimit)
    (walk : Nat → Nat → Accessed Access α) :
    Keeps (Access.Ok img)
        (do
          let ptrs ← scanTable m img intLimit 0
          let data ← firstData m ptrs
          walk ptrs data) ↔
      Keeps (Access.Ok img) (walk z (headerSize + (z + 1) * m.sizeofLong)) := by
  have hscan := scanTable_zero hends (by omega)
  have hkeeps := (tableEnds_iff m img).mpr ⟨z, by omega, hends⟩
  rw [keeps_bind_of_value _ hscan, keeps_bind_of_value _ (firstData_value hint),
    firstData_keeps]
  exact (and_iff_right hkeeps).trans (and_iff_right hint)

theorem afterScan_value
    {α : Type}
    {z : Nat}
    (hends : TableEnds m img z)
    (hint : z + 1 < intLimit)
    (walk : Nat → Nat → Accessed Access α) :
    (do
        let ptrs ← scanTable m img intLimit 0
        let data ← firstData m ptrs
        walk ptrs data).value =
      (walk z (headerSize + (z + 1) * m.sizeofLong)).value := by
  have hscan := scanTable_zero hends (by omega)
  rw [value_bind_of_value hscan, value_bind_of_value (firstData_value hint)]

/-- `print_header` reads only the file exactly if the image fits. -/
theorem printHeader_spec
    (htype : ihType img = ihTypeMulti) :
    (Keeps (Access.Ok img) (printHeader m img) ↔ ImageFits m img) ∧
    (Keeps (Access.Ok img) (printHeader m img) →
      ∃ ok, (printHeader m img).value = some ok ∧ (ok = true → SizesFit m img)) := by
  rw [printHeader, if_pos (.inl htype)]
  by_cases hfits : ∃ z, TableEnds m img z ∧ z + 1 < intLimit
  · obtain ⟨z, hends, hint⟩ := hfits
    obtain ⟨hloop, hvalue⟩ :=
      printLoop_spec hends (Nat.zero_add z) (headerSize + (z + 1) * m.sizeofLong)
    rw [afterScan_keeps hends hint fun ptrs data => printLoop m img ptrs 0 data,
      afterScan_value hends hint fun ptrs data => printLoop m img ptrs 0 data]
    refine ⟨?_, ?_⟩
    · rw [hloop]
      constructor
      · exact fun hwalk => ⟨z, hends, hint, hwalk⟩
      · rintro ⟨z', hends', -, hwalk⟩
        obtain rfl := hends.unique hends'
        exact hwalk
    · intro hkeeps
      obtain ⟨ok, hok, hranges⟩ := hvalue hkeeps
      exact ⟨ok, hok, fun htrue => ⟨z, hends, hranges htrue⟩⟩
  · have hnot :
        ¬Keeps (Access.Ok img)
          (do
            let ptrs ← scanTable m img intLimit 0
            let data ← firstData m ptrs
            printLoop m img ptrs 0 data) := by
      rw [keeps_bind, tableEnds_iff]
      rintro ⟨⟨z, hlt, hends⟩, hafter⟩
      have hscan := scanTable_zero hends (by omega)
      have hfirst := (keeps_bind _ _ _).mp (hafter z hscan)
      exact hfits ⟨z, hends, (firstData_keeps z).mp hfirst.1⟩
    refine ⟨iff_of_false hnot ?_, fun h => absurd h hnot⟩
    rintro ⟨z, hends, hint, -⟩
    exact hfits ⟨z, hends, hint⟩

theorem option_keeps
    (htype : ihType img = ihTypeMulti)
    (hfits : ImageFits m img)
    (option : ListOption) :
    Keeps (Access.Ok img) (option.run m img) := by
  obtain ⟨z, hends, hint, hwalk⟩ := hfits
  have hextract :
      ∀ imageType action,
        Keeps (Access.Ok img) (extractFileFromMulti m img imageType action) := by
    intro imageType action
    rw [extractFileFromMulti, if_pos htype,
      afterScan_keeps hends hint fun ptrs data =>
        extractLoop m img imageType action ptrs 0
          ((headerSize + ptrs * m.sizeofLong) % 2 ^ 32) data 0]
    exact extractLoop_keeps hends imageType action (Nat.zero_add z) hwalk _ _
  cases option with
  | alone => exact keeps_pure _ _
  | count => exact hextract _ _
  | extract imageName => exact hextract _ _
  | exthdr imageName => exact hextract _ _
  | query imageName => exact hextract _ _
  | number imageNo =>
      rw [ListOption.run, extractFileNumber, if_pos htype,
        afterScan_keeps hends hint fun ptrs data =>
          numberLoop m img imageNo ptrs 0
            ((headerSize + ptrs * m.sizeofLong) % 2 ^ 32) data]
      exact numberLoop_keeps hends imageNo (Nat.zero_add z) hwalk _

/-- The outer header is one of a multi-file image, and both its checksums are right. -/
structure OuterRight (img : Bytes) : Prop where
  size : headerSize ≤ img.length
  type : ihType img = ihTypeMulti
  header : checkHeader (img.take headerSize) = true
  data : (crc32 (img.drop headerSize)).toNat = ihDcrc (img.take headerSize)

/--
The file is refused all the same: it cannot be opened or mapped, or the length of its
data does not fit 32 bits and the checksum of the rest is another one.
-/
def OuterRefused (m : Machine) (img : Bytes) : Prop :=
  (m.sizeofLong = 4 ∧ 2 ^ 31 ≤ img.length ∨ 2 ^ 63 ≤ img.length) ∨
    img.length % 2 ^ 32 < headerSize ∨
      (crc32 ((img.drop headerSize).take ((img.length - headerSize) % 2 ^ 32))).toNat ≠
        ihDcrc (img.take headerSize)

/-- Below 4 GiB (2 GiB) no file with right checksums is refused by them. -/
theorem not_outerRefused
    (hright : OuterRight img)
    (hlen : img.length < if m.sizeofLong = 4 then 2 ^ 31 else 2 ^ 32) :
    ¬OuterRefused m img := by
  have hsize := hright.size
  have hlt : img.length < 2 ^ 32 := by
    split at hlen <;> omega
  unfold OuterRefused
  rw [Nat.mod_eq_of_lt hlt, Nat.mod_eq_of_lt (by omega), List.take_of_length_le (by simp),
    hright.data]
  rintro ((⟨hword, hbig⟩ | hbig) | hsmall | hcrc)
  · rw [if_pos hword] at hlen
    omega
  · omega
  · omega
  · exact hcrc rfl

/-- The outer checks read only the file. -/
theorem outerChecks_spec
    (hright : OuterRight img) :
    Keeps (Access.Ok img) (outerChecks m img) ∧
      ∃ ok, (outerChecks m img).value = some ok ∧ (ok = true ↔ ¬OuterRefused m img) := by
  have hsize := hright.size
  unfold outerChecks OuterRefused
  split
  · next hbig =>
      exact ⟨keeps_pure _ _, false, rfl, by simp, fun h => absurd (.inl hbig) h⟩
  · next hbig =>
      split
      · next hsmall =>
          exact ⟨keeps_pure _ _, false, rfl, by simp, fun h => absurd (.inr (.inl hsmall)) h⟩
      · next hsmall =>
          have hhdr : 0 + headerSize ≤ img.length := by omega
          have hdata :
              headerSize + (img.length - headerSize) % 2 ^ 32 ≤ img.length := by
            have hmod := Nat.mod_le (img.length - headerSize) (2 ^ 32)
            omega
          have hcheck : checkHeader ((img.drop 0).take headerSize) = true := by
            rw [List.drop_zero]
            exact hright.header
          rw [keeps_bind_readAt hhdr, value_bind_of_value (readAt_value hhdr),
            if_pos hcheck, keeps_bind_readAt hdata,
            value_bind_of_value (readAt_value hdata)]
          refine ⟨keeps_pure _ _, _, rfl, ?_⟩
          rw [decide_eq_true_iff, List.drop_zero, or_iff_right hbig, or_iff_right hsmall,
            not_ne_iff]

/-- What is promised for a file whose outer checksums are right. -/
structure Rejected (m : Machine) (img : Bytes) (option : ListOption) : Prop where
  inside : Keeps (Access.Ok img) (runList m img option)
  refused : ¬SizesFit m img → (runList m img option).value = some .fail

/-- If the outer checks let the file pass, only it is read exactly if it fits. -/
theorem runList_keeps_iff
    (hright : OuterRight img)
    (hpass : ¬OuterRefused m img)
    (option : ListOption) :
    Keeps (Access.Ok img) (runList m img option) ↔ ImageFits m img := by
  obtain ⟨houter, ok, hok, hokIff⟩ := outerChecks_spec (m := m) hright
  obtain ⟨hprint, hprintValue⟩ := printHeader_spec (m := m) hright.type
  have htrue : ok = true := hokIff.mpr hpass
  rw [runList, keeps_bind_of_value _ hok, htrue, if_pos rfl, keeps_bind, hprint]
  constructor
  · exact fun h => h.2.1
  · intro hfits
    refine ⟨houter, hfits, ?_⟩
    intro inner _
    split
    · exact option_keeps hright.type hfits option
    · exact keeps_pure _ _

/-- A file that is read as it should be but does not fit is refused. -/
theorem runList_refused
    (hright : OuterRight img)
    (hpass : ¬OuterRefused m img)
    (hfits : ImageFits m img)
    (hsizes : ¬SizesFit m img)
    (option : ListOption) :
    (runList m img option).value = some .fail := by
  obtain ⟨-, ok, hok, hokIff⟩ := outerChecks_spec (m := m) hright
  obtain ⟨hprint, hprintValue⟩ := printHeader_spec (m := m) hright.type
  obtain ⟨inner, hinner, hinnerFits⟩ := hprintValue (hprint.mpr hfits)
  have hfalse : inner = false := by
    cases inner with
    | false => rfl
    | true => exact absurd (hinnerFits rfl) hsizes
  rw [runList, value_bind_of_value hok, hokIff.mpr hpass, if_pos rfl,
    value_bind_of_value hinner, hfalse]
  rfl

/-- A file that the outer checks refuse is read no further. -/
theorem runList_outerRefused
    (hright : OuterRight img)
    (hrefused : OuterRefused m img)
    (option : ListOption) :
    Rejected m img option := by
  obtain ⟨houter, ok, hok, hokIff⟩ := outerChecks_spec (m := m) hright
  have hfalse : ok = false := by
    simpa [hrefused] using hokIff
  constructor
  · rw [runList, keeps_bind_of_value _ hok, hfalse]
    exact ⟨houter, keeps_pure _ _⟩
  · intro _
    rw [runList, value_bind_of_value hok, hfalse]
    rfl

/--
Only the file is read and one that does not fit is refused, if and only if the outer
checks refuse it anyway or the table and the walk over the files fit.
-/
theorem rejected_iff
    (hright : OuterRight img)
    (option : ListOption) :
    Rejected m img option ↔ OuterRefused m img ∨ ImageFits m img := by
  by_cases hrefused : OuterRefused m img
  · exact iff_of_true (runList_outerRefused hright hrefused option) (.inl hrefused)
  · rw [or_iff_right hrefused]
    constructor
    · exact fun hrejected => (runList_keeps_iff hright hrefused option).mp hrejected.inside
    · intro hfits
      exact ⟨(runList_keeps_iff hright hrefused option).mpr hfits,
        fun hsizes => runList_refused hright hrefused hfits hsizes option⟩

/-- What the tool puts a header over passes the outer checks. -/
theorem outerRight_withHeader
    (a : BuildArgs)
    (data : Bytes) :
    OuterRight (withHeader a ihTypeMulti data) where
  size := by
    rw [withHeader_length]
    omega
  type := ihType_withHeader
  header := checkHeader_withHeader
  data := by
    rw [withHeader_drop, withHeader_take, ihDcrc_header]
    exact (Nat.mod_eq_of_lt (UInt32.toNat_lt _)).symm

theorem mipsel_word :
    4 = 4 ∨ 4 = 8 :=
  Or.inl rfl

/-- A little endian machine with longs of four bytes. -/
def mipsel : Machine where
  endian := .little
  sizeofLong := 4
  word := mipsel_word

/-- The data is only the zero of an empty table. -/
theorem rejected_iff_empty :
    Rejected mipsel (withHeader sampleArgs ihTypeMulti [0, 0, 0, 0]) .count := by
  refine (rejected_iff (outerRight_withHeader sampleArgs [0, 0, 0, 0]) .count).mpr (.inr ?_)
  refine ⟨0, ⟨?_, ?_, by simp⟩, by decide, trivial⟩
  · rw [withHeader_length]
    decide
  · have hdrop := @withHeader_drop sampleArgs ihTypeMulti [0, 0, 0, 0]
    rw [entryAt, Nat.zero_mul, Nat.add_zero, hdrop]
    decide

/-- The data is a table without a zero. -/
theorem not_rejected_unterminated :
    ¬Rejected mipsel (withHeader sampleArgs ihTypeMulti [1, 0, 0, 0]) .alone := by
  intro hrejected
  have hright := outerRight_withHeader sampleArgs [1, 0, 0, 0]
  have hlen : (withHeader sampleArgs ihTypeMulti [1, 0, 0, 0]).length = 68 :=
    withHeader_length
  have hpass : ¬OuterRefused mipsel (withHeader sampleArgs ihTypeMulti [1, 0, 0, 0]) :=
    not_outerRefused hright (by rw [hlen]; decide)
  obtain ⟨z, hends, -⟩ := (runList_keeps_iff hright hpass .alone).mp hrejected.inside
  have hfile := hends.inFile
  have hword : mipsel.sizeofLong = 4 := rfl
  rw [hlen, hword] at hfile
  obtain rfl : z = 0 := by
    unfold headerSize at hfile
    omega
  have hzero := hends.zero
  have hdrop := @withHeader_drop sampleArgs ihTypeMulti [1, 0, 0, 0]
  rw [entryAt, Nat.zero_mul, Nat.add_zero, hdrop] at hzero
  exact absurd hzero (by decide)

end Runs

/-! ## The runs without their accesses -/

section Values

variable {m : Machine}
variable {img : Bytes}

theorem readAt_eq_peek
    (off n : Nat) :
    (readAt img off n).value = peek img off n :=
  rfl

theorem tableEntry_eq_lenPtr
    (i : Nat) :
    (tableEntry m img i).value = lenPtr m img i := by
  rw [tableEntry, value_bind, readAt_eq_peek, lenPtr]
  cases peek img (headerSize + i * m.sizeofLong) m.sizeofLong <;> rfl

theorem ptrsFrom_of_none
    {i : Nat}
    (hlen : lenPtr m img i = none) :
    ptrsFrom m img i = none := by
  rw [ptrsFrom]
  split <;> simp_all

theorem scanTable_eq_ptrsFrom
    {left i : Nat}
    (hleft : mapped img ≤ i + left) :
    (scanTable m img left i).value = ptrsFrom m img i := by
  induction left generalizing i with
  | zero =>
      have hnone : lenPtr m img i = none := by
        by_contra hsome
        obtain ⟨n, hn⟩ := Option.ne_none_iff_exists'.mp hsome
        have hlt := lenPtr_lt_mapped hn
        omega
      rw [ptrsFrom_of_none hnone]
      rfl
  | succ left ih =>
      rw [scanTable, value_bind, tableEntry_eq_lenPtr]
      cases hlen : lenPtr m img i with
      | none =>
          rw [ptrsFrom_of_none hlen]
          rfl
      | some n =>
          by_cases hzero : n = 0
          · subst hzero
            rw [ptrsFrom_of_zero hlen]
            rfl
          · rw [ptrsFrom_of_ne_zero hlen hzero, ← ih (by omega)]
            simp only [Option.bind_some, if_neg hzero]

theorem subImage_eq_subImageOk
    (data size : Nat) :
    (subImage img data size).value = subImageOk img data size := by
  rw [subImage, value_bind, readAt_eq_peek, subImageOk]
  cases peek img data headerSize with
  | none => rfl
  | some hdr =>
      simp only [Option.bind_some]
      split
      · have hlen : (subtractHeader size).value = some (imageLen size) := rfl
        rw [value_bind_of_value hlen, value_bind, readAt_eq_peek]
        cases peek img (data + headerSize) (imageLen size) <;> rfl
      · rfl

theorem printLoop_value
    {n i : Nat}
    (hend : lenPtr m img (i + n) = some 0)
    (data : Nat) :
    (printLoop m img n i data).value = Mkimage.printLoop m img n i data := by
  induction n generalizing i data with
  | zero =>
      have hentry : (tableEntry m img i).value = some 0 :=
        (tableEntry_eq_lenPtr i).trans hend
      rw [printLoop, value_bind_of_value hentry]
      rfl
  | succ n ih =>
      rw [printLoop, value_bind, tableEntry_eq_lenPtr, Mkimage.printLoop]
      cases lenPtr m img i with
      | none => rfl
      | some len =>
          simp only [Option.bind_some, value_bind, subImage_eq_subImageOk]
          cases subImageOk img data (htonl m.endian len) with
          | none => rfl
          | some ok =>
              have hend' : lenPtr m img (i + 1 + n) = some 0 := by
                rw [← hend]
                congr 1
                omega
              simp only [Option.bind_some, ih hend']
              cases Mkimage.printLoop m img n (i + 1)
                  (pointer m (data + alignSize (htonl m.endian len))) <;> rfl

theorem extractLoop_value
    (imageType : Byte)
    (action : TypeAction)
    {n i : Nat}
    (hend : lenPtr m img (i + n) = some 0)
    (pos data imgCount : Nat) :
    (extractLoop m img imageType action n i pos data imgCount).value.getD .killed =
      Mkimage.extractLoop m img imageType action n i pos data imgCount := by
  induction n generalizing i pos data imgCount with
  | zero =>
      have hentry : (tableEntry m img i).value = some 0 :=
        (tableEntry_eq_lenPtr i).trans hend
      rw [extractLoop, value_bind_of_value hentry]
      rfl
  | succ n ih =>
      have hend' : lenPtr m img (i + 1 + n) = some 0 := by
        rw [← hend]
        congr 1
        omega
      rw [extractLoop, value_bind, tableEntry_eq_lenPtr, Mkimage.extractLoop]
      cases lenPtr m img i with
      | none => rfl
      | some len =>
          simp only [Option.bind_some, value_bind, readAt_eq_peek]
          cases peek img data headerSize with
          | none => rfl
          | some hdr =>
              simp only [Option.bind_some]
              split
              · split
                · cases action <;> rfl
                · exact ih hend' _ _ _
              · exact ih hend' _ _ _

theorem numberLoop_value
    (imageNo : Int)
    {n i : Nat}
    (hend : lenPtr m img (i + n) = some 0)
    (pos data : Nat) :
    (numberLoop m img imageNo n i pos data).value.getD .killed =
      Mkimage.numberLoop m img imageNo n i pos data := by
  induction n generalizing i pos data with
  | zero =>
      have hentry : (tableEntry m img i).value = some 0 :=
        (tableEntry_eq_lenPtr i).trans hend
      rw [numberLoop, value_bind_of_value hentry]
      rfl
  | succ n ih =>
      have hend' : lenPtr m img (i + 1 + n) = some 0 := by
        rw [← hend]
        congr 1
        omega
      rw [numberLoop, value_bind, tableEntry_eq_lenPtr, Mkimage.numberLoop]
      cases lenPtr m img i with
      | none => rfl
      | some len =>
          simp only [Option.bind_some, value_bind, readAt_eq_peek]
          cases peek img data headerSize with
          | none => rfl
          | some hdr =>
              simp only [Option.bind_some]
              split
              · rfl
              · exact ih hend' _ _

/-- A table that is scanned to its end leaves room for the counters. -/
theorem ptrs_lt_intLimit
    (hlen : img.length < 2 ^ 31)
    {ptrs : Nat}
    (hptrs : ptrsFrom m img 0 = some ptrs) :
    ptrs + 1 < intLimit := by
  have hzero := lenPtr_of_ptrsFrom hptrs
  simp only [lenPtr, Option.map_eq_some_iff, peek] at hzero
  obtain ⟨bs, hbs, -⟩ := hzero
  split at hbs
  · next hle =>
      have hword : 4 ≤ m.sizeofLong := by
        rcases m.word with hw | hw <;> omega
      have hmul : ptrs * 4 ≤ ptrs * m.sizeofLong := Nat.mul_le_mul_left ptrs hword
      unfold mapped headerSize at hle
      unfold intLimit
      omega
  · cases hbs

/-- What follows the scan, as a program and as its value. -/
theorem afterScan_bind
    {α : Type}
    (hlen : img.length < 2 ^ 31)
    (walk : Nat → Nat → Accessed Access α) :
    (do
        let ptrs ← scanTable m img intLimit 0
        let data ← firstData m ptrs
        walk ptrs data).value =
      (ptrsFrom m img 0).bind fun ptrs =>
        (walk ptrs (headerSize + (ptrs + 1) * m.sizeofLong)).value := by
  have hscan : (scanTable m img intLimit 0).value = ptrsFrom m img 0 := by
    apply scanTable_eq_ptrsFrom
    unfold mapped intLimit
    omega
  rw [value_bind, hscan]
  cases hptrs : ptrsFrom m img 0 with
  | none => rfl
  | some ptrs =>
      rw [Option.bind_some, Option.bind_some,
        value_bind_of_value (firstData_value (ptrs_lt_intLimit hlen hptrs))]

theorem printHeader_value
    (hlen : img.length < 2 ^ 31) :
    (printHeader m img).value = Mkimage.printHeader m img := by
  unfold printHeader Mkimage.printHeader
  split
  · rw [afterScan_bind hlen fun ptrs data => printLoop m img ptrs 0 data]
    cases hptrs : ptrsFrom m img 0 with
    | none => rfl
    | some ptrs =>
        refine printLoop_value ?_ _
        rw [Nat.zero_add]
        exact lenPtr_of_ptrsFrom hptrs
  · rfl

theorem extractFileFromMulti_value
    (hlen : img.length < 2 ^ 31)
    (imageType : Byte)
    (action : TypeAction) :
    (extractFileFromMulti m img imageType action).value.getD .killed =
      Mkimage.extractFileFromMulti m img imageType action := by
  unfold extractFileFromMulti Mkimage.extractFileFromMulti
  split
  · rw [afterScan_bind hlen fun ptrs data =>
      extractLoop m img imageType action ptrs 0
        ((headerSize + ptrs * m.sizeofLong) % 2 ^ 32) data 0]
    cases hptrs : ptrsFrom m img 0 with
    | none => rfl
    | some ptrs =>
        refine extractLoop_value imageType action ?_ _ _ _
        rw [Nat.zero_add]
        exact lenPtr_of_ptrsFrom hptrs
  · rfl

theorem extractFileNumber_value
    (hlen : img.length < 2 ^ 31)
    (imageNo : Int) :
    (extractFileNumber m img imageNo).value.getD .killed =
      Mkimage.extractFileNumber m img imageNo := by
  unfold extractFileNumber Mkimage.extractFileNumber
  split
  · rw [afterScan_bind hlen fun ptrs data =>
      numberLoop m img imageNo ptrs 0 ((headerSize + ptrs * m.sizeofLong) % 2 ^ 32) data]
    cases hptrs : ptrsFrom m img 0 with
    | none => rfl
    | some ptrs =>
        refine numberLoop_value imageNo ?_ _ _
        rw [Nat.zero_add]
        exact lenPtr_of_ptrsFrom hptrs
  · rfl

/-- What an option does to an image whose checks are passed. -/
def ListOption.outcome (m : Machine) (img : Bytes) : ListOption → Outcome
  | alone => .found
  | count => Mkimage.extractFileFromMulti m img 0 .count
  | extract imageName => Mkimage.extractFileFromMulti m img (getImageType imageName) .extract
  | exthdr imageName => Mkimage.extractFileFromMulti m img (getImageType imageName) .exthdr
  | query imageName => Mkimage.extractFileFromMulti m img (getImageType imageName) .query
  | number imageNo => Mkimage.extractFileNumber m img imageNo

theorem option_value
    (hlen : img.length < 2 ^ 31)
    (option : ListOption) :
    (option.run m img).value.getD .killed = option.outcome m img := by
  cases option with
  | alone => rfl
  | count => exact extractFileFromMulti_value hlen _ _
  | extract imageName => exact extractFileFromMulti_value hlen _ _
  | exthdr imageName => exact extractFileFromMulti_value hlen _ _
  | query imageName => exact extractFileFromMulti_value hlen _ _
  | number imageNo => exact extractFileNumber_value hlen imageNo

/-- Below 2 GiB a run does what it does without the notes. -/
theorem runList_value
    (hlen : img.length < 2 ^ 31)
    (option : ListOption) :
    (runList m img option).value.getD .killed =
      listThen m img (option.outcome m img) := by
  have hmod : img.length % 2 ^ 32 = img.length := Nat.mod_eq_of_lt (by omega)
  have hopen : ¬(m.sizeofLong = 4 ∧ 2 ^ 31 ≤ img.length) := by omega
  have hmap : ¬(m.sizeofLong = 4 ∧ 2 ^ 31 ≤ img.length ∨ 2 ^ 63 ≤ img.length) := by omega
  unfold runList outerChecks listThen listImage
  rw [if_neg hopen, if_neg hmap, hmod]
  split
  · rfl
  · next hsize =>
      have hhdr : (readAt img 0 headerSize).value = some (img.take headerSize) := by
        rw [readAt_value (by omega), List.drop_zero]
      have hdata :
          (readAt img headerSize ((img.length - headerSize) % 2 ^ 32)).value =
            some (img.drop headerSize) := by
        have hlt : (img.length - headerSize) % 2 ^ 32 = img.length - headerSize :=
          Nat.mod_eq_of_lt (by omega)
        rw [hlt, readAt_value (by omega), List.take_of_length_le (by simp)]
      have hdcrc : ihDcrc (img.take headerSize) = ihDcrc img := by
        have happ : img = img.take headerSize ++ img.drop headerSize :=
          (List.take_append_drop headerSize img).symm
        have hfour : 24 + 4 ≤ (img.take headerSize).length := by
          rw [List.length_take]
          unfold headerSize at *
          omega
        rw [ihDcrc, ihDcrc, happ, List.take_left' (by simp; omega), field_append hfour]
      by_cases hcheck : checkHeader (img.take headerSize) = true
      · rw [if_neg (by simp [hcheck])]
        simp only [value_bind, hhdr, Option.bind_some, hcheck, if_true, hdata, value_pure,
          hdcrc]
        by_cases hcrc : (crc32 (img.drop headerSize)).toNat = ihDcrc img
        · simp only [hcrc, decide_true, if_true, ne_eq, not_true_eq_false, if_false,
            value_bind, printHeader_value hlen]
          cases Mkimage.printHeader m img with
          | none => rfl
          | some inner =>
              cases inner with
              | false => rfl
              | true => exact option_value hlen option
        · simp [hcrc]
      · simp only [value_bind, hhdr, Option.bind_some, hcheck, Bool.false_eq_true, if_false,
          value_pure, if_true]
        rfl

end Values

end Malformed
end Mkimage
end BrBox
