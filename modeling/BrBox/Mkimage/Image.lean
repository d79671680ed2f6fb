import BrBox.Lib.ByteOrder
import BrBox.Lib.CxxText

/-!
# Images of brbox-mkimage

An image is a header of 64 bytes and its data.  The data of a multi-file image is a
table of sizes, ended by a zero, and the files one after the other.  The table is
written and read as native longs, so its layout depends on the machine.

`buildImage` and `buildMulti` are the build path, `listImage` is the check of `-l`,
and `extractFileFromMulti` and `extractFileNumber` are what the options do behind it.
A read behind the pages of the mapped file kills the process.  The compare action and
the texts that are printed are left out.
-/

namespace BrBox
namespace Mkimage

open ByteOrder
open CText
open CxxText

section Format

/-- The byte order and `sizeof(long)` of a machine. -/
structure Machine where
  endian : Endian
  sizeofLong : Nat
  word : sizeofLong = 4 ∨ sizeofLong = 8

def ihMagic : Nat := 0x27051956

def ihNmlen : Nat := 32

/-- `sizeof(image_header_t)`. -/
def headerSize : Nat := 64

def ihTypeInvalid : Byte := 0
def ihTypeStandalone : Byte := 1
def ihTypeKernel : Byte := 2
def ihTypeRamdisk : Byte := 3
def ihTypeMulti : Byte := 4
def ihTypeFirmware : Byte := 5
def ihTypeScript : Byte := 6
def ihTypeFilesystem : Byte := 7
def ihTypeUboot : Byte := 8
def ihTypeBrboxProj : Byte := 9
def ihTypeBrboxSttng : Byte := 10
def ihTypeBrboxUsrdat : Byte := 11
def ihTypeBrboxRootBtr : Byte := 12
def ihTypeBrboxRootRp1 : Byte := 13
def ihTypeBrboxRootRp2 : Byte := 14
def ihTypeBrboxRootBbb : Byte := 15
def ihTypeBrboxRootWdb : Byte := 16
def ihTypeBrboxRootRp3 : Byte := 17
def ihTypeBrboxRootRp0 : Byte := 18
def ihTypeBrboxGlmt300nv2 : Byte := 19
def ihTypeBrboxGlar150 : Byte := 20
def ihTypeBrboxSignature : Byte := 21
def ihTypeBrboxHlkrm04 : Byte := 22

/-- The short names of `type_name`, which the option -T takes. -/
def typeName : List (Bytes × Byte) :=
  [(text "filesystem", ihTypeFilesystem), (text "firmware", ihTypeFirmware),
    (text "kernel", ihTypeKernel), (text "multi", ihTypeMulti),
    (text "ramdisk", ihTypeRamdisk), (text "script", ihTypeScript),
    (text "standalone", ihTypeStandalone), (text "uboot", ihTypeUboot),
    (text "BrBoxProj", ihTypeBrboxProj), (text "BrBoxSttng", ihTypeBrboxSttng),
    (text "BrBoxUsrDt", ihTypeBrboxUsrdat), (text "BrBoxRtBtr", ihTypeBrboxRootBtr),
    (text "BrBoxRtRp1", ihTypeBrboxRootRp1), (text "BrBoxRtRp2", ihTypeBrboxRootRp2),
    (text "BrBoxRtBbb", ihTypeBrboxRootBbb), (text "BrBoxRtWdb", ihTypeBrboxRootWdb),
    (text "BrBoxRtRp3", ihTypeBrboxRootRp3), (text "BrBoxRtRp0", ihTypeBrboxRootRp0),
    (text "BrBoxGl300N", ihTypeBrboxGlmt300nv2), (text "BrBoxGlA150", ihTypeBrboxGlar150),
    (text "BrBoxSign", ihTypeBrboxSignature), (text "BrBoxHlRm04", ihTypeBrboxHlkrm04)]

/-- The names that `get_image_type` compares with, for the options -X, -H and -q. -/
def imageTypes : List (Bytes × Byte) :=
  [(text "uboot", ihTypeUboot), (text "kernel", ihTypeKernel),
    (text "ramdisk", ihTypeRamdisk), (text "BrBoxProj", ihTypeBrboxProj),
    (text "BrBoxSttng", ihTypeBrboxSttng), (text "BrBoxUsrDt", ihTypeBrboxUsrdat),
    (text "BrBoxRtBtr", ihTypeBrboxRootBtr), (text "BrBoxRtRp1", ihTypeBrboxRootRp1),
    (text "BrBoxRtRp2", ihTypeBrboxRootRp2), (text "BrBoxRtBbb", ihTypeBrboxRootBbb),
    (text "BrBoxRtWdb", ihTypeBrboxRootWdb), (text "BrBoxRtRp3", ihTypeBrboxRootRp3),
    (text "BrBoxRtRp0", ihTypeBrboxRootRp0), (text "BrBoxGl300N", ihTypeBrboxGlmt300nv2),
    (text "BrBoxGlA150", ihTypeBrboxGlar150), (text "BrBoxSign", ihTypeBrboxSignature),
    (text "BrBoxHlRm04", ihTypeBrboxHlkrm04)]

/-- `get_image_type`. -/
def getImageType (imageName : Bytes) : Byte :=
  match imageTypes.find? fun row => row.1 = imageName with
  | some row => row.2
  | none => ihTypeInvalid

/-- One round of `make_crc_table`. -/
def crcShift (c : UInt32) : UInt32 :=
  if c &&& 1 ≠ 0 then (0xedb88320 : UInt32) ^^^ (c >>> 1) else c >>> 1

/-- `crc_table`. -/
def crcTable (n : UInt32) : UInt32 :=
  crcShift (crcShift (crcShift (crcShift (crcShift (crcShift (crcShift (crcShift n)))))))

/-- `crc32(0, buf, len)`. -/
def crc32 (buf : Bytes) : UInt32 :=
  let crc : UInt32 := buf.foldl
    (fun crc b => crcTable ((crc ^^^ b.toUInt32) &&& 0xff) ^^^ (crc >>> 8)) 0xffffffff
  crc ^^^ 0xffffffff

/-- A field of a header in host order. -/
def field (hdr : Bytes) (off : Nat) : Nat :=
  load .big ((hdr.drop off).take 4)

def ihHcrc (hdr : Bytes) : Nat := field hdr 4

def ihDcrc (hdr : Bytes) : Nat := field hdr 24

def ihType (hdr : Bytes) : Byte := hdr.getD 30 0

def ihName (hdr : Bytes) : Bytes := (hdr.drop 32).take ihNmlen

/-- `hdr->ih_hcrc = htonl(0)`. -/
def clearHcrc (hdr : Bytes) : Bytes :=
  hdr.take 4 ++ [0, 0, 0, 0] ++ hdr.drop 8

/-- `check_header`. -/
def checkHeader (hdr : Bytes) : Bool :=
  field hdr 0 = ihMagic ∧ (crc32 (clearHcrc hdr)).toNat = ihHcrc hdr

end Format

section Build

/-- What the build path takes from its options and from the clock. -/
structure BuildArgs where
  time : Nat
  load : Nat
  ep : Nat
  os : Byte
  arch : Byte
  comp : Byte
  name : Bytes

/-- `strncpy` of the name into a cleared header. -/
def nameField (name : Bytes) : Bytes :=
  name.take ihNmlen ++ List.replicate (ihNmlen - name.length) 0

/-- The header with a value for `ih_hcrc`. -/
def header (a : BuildArgs) (type : Byte) (size dcrc hcrc : Nat) : Bytes :=
  store .big 4 ihMagic ++ store .big 4 hcrc ++ store .big 4 a.time ++ store .big 4 size ++
    store .big 4 a.load ++ store .big 4 a.ep ++ store .big 4 dcrc ++
    [a.os, a.arch, type, a.comp] ++ nameField a.name

/-- The header is built over the data that is already in the file. -/
def withHeader (a : BuildArgs) (type : Byte) (data : Bytes) : Bytes :=
  let hdr := header a type data.length (crc32 data).toNat 0
  header a type data.length (crc32 data).toNat (crc32 hdr).toNat ++ data

/-- `copy_file` without -x. -/
def copyFile (file : Bytes) (pad : Bool) : Bytes :=
  if pad ∧ file.length % 4 ≠ 0 then
    file ++ List.replicate (4 - file.length % 4) 0
  else
    file

/-- The second loop over the data files: all but the last are padded. -/
def copyFiles : List Bytes → Bytes
  | [] => []
  | [file] => copyFile file false
  | file :: files => copyFile file true ++ copyFiles files

/-- The first loop over the data files. -/
def sizeTable (m : Machine) (files : List Bytes) : Bytes :=
  (files.flatMap fun file => store m.endian m.sizeofLong (htonl m.endian file.length)) ++
    store m.endian m.sizeofLong 0

/-- A build with a type that is neither multi nor script. -/
def buildImage (a : BuildArgs) (type : Byte) (file : Bytes) : Bytes :=
  withHeader a type (copyFile file false)

/-- A build with -T multi. -/
def buildMulti (m : Machine) (a : BuildArgs) (files : List Bytes) : Bytes :=
  withHeader a ihTypeMulti (sizeTable m files ++ copyFiles files)

end Build

section Read

/-- The end of the last page of a mapped file. -/
def mapped (img : Bytes) : Nat :=
  (img.length + 4095) / 4096 * 4096

/-- Bytes of a mapped file; behind its end the page is zero, and behind the page
nothing is mapped. -/
def peek (img : Bytes) (off n : Nat) : Option Bytes :=
  if off + n ≤ mapped img then
    some (((img ++ List.replicate (mapped img - img.length) 0).drop off).take n)
  else
    none

/-- `len_ptr[i]`. -/
def lenPtr (m : Machine) (img : Bytes) (i : Nat) : Option Nat :=
  (peek img (headerSize + i * m.sizeofLong) m.sizeofLong).map (load m.endian)

theorem lenPtr_lt_mapped
    {m : Machine} {img : Bytes} {i n : Nat}
    (hlen : lenPtr m img i = some n) :
    i < mapped img := by
  simp only [lenPtr, Option.map_eq_some_iff, peek] at hlen
  obtain ⟨bs, hbs, -⟩ := hlen
  split at hbs
  · next hle =>
      have hword : 1 ≤ m.sizeofLong := by
        have := m.word
        omega
      have hmul : i * 1 ≤ i * m.sizeofLong := Nat.mul_le_mul_left i hword
      omega
  · simp at hbs

/-- The loop that looks for the terminator, from `i` on. -/
def ptrsFrom (m : Machine) (img : Bytes) (i : Nat) : Option Nat :=
  match hlen : lenPtr m img i with
  | none => none
  | some 0 => some i
  | some (_ + 1) => ptrsFrom m img (i + 1)
termination_by mapped img - i
decreasing_by
  have := lenPtr_lt_mapped hlen
  omega

/-- A pointer into the map, as an offset: the addresses are as wide as a long. -/
def pointer (m : Machine) (off : Nat) : Nat :=
  off % 256 ^ m.sizeofLong

/-- `size += 3; size &= ~3`. -/
def alignSize (size : Nat) : Nat :=
  (size + 3) % 2 ^ 32 / 4 * 4

/-- What the options ask of `extract_file_from_multi`. -/
inductive TypeAction
  | extract
  | query
  | exthdr
  | count
deriving DecidableEq, Repr

/-- What a run does: a signal, a failure, or success with what it writes or counts. -/
inductive Outcome
  | killed
  | fail
  | found
  | copied (bytes : Bytes)
  | counted (images : Nat)
deriving DecidableEq, Repr

/-- The loop of `file_copy`, which has written `total` of `len` bytes. -/
def fileCopyLoop (len total : Nat) (rest : Bytes) : Bytes :=
  if rest = [] then
    []
  else if total + (rest.take 2048).length < len then
    rest.take 2048 ++ fileCopyLoop len (total + (rest.take 2048).length) (rest.drop 2048)
  else
    (rest.take 2048).take (len - total)
termination_by rest.length
decreasing_by
  have : 0 < rest.length := List.length_pos_iff.mpr (by assumption)
  simp only [List.length_drop]
  omega

/-- `fseek` takes a long; a position that is negative there does not move the file. -/
def seekPos (m : Machine) (skip : Nat) : Nat :=
  if m.sizeofLong = 4 ∧ 2 ^ 31 ≤ skip then 0 else skip

/-- `file_copy`: what is written. -/
def fileCopy (m : Machine) (img : Bytes) (skip len : Nat) : Bytes :=
  fileCopyLoop len 0 (img.drop (seekPos m skip))

/-- `image_len = size - sizeof(image_header_t)`, in 32 bits. -/
def imageLen (size : Nat) : Nat :=
  (size + 2 ^ 32 - headerSize) % 2 ^ 32

/-- The body of the second loop of `print_header`: the two checksums of a sub-image. -/
def subImageOk (img : Bytes) (data size : Nat) : Option Bool :=
  match peek img data headerSize with
  | none => none
  | some hdr =>
      if checkHeader hdr then
        (peek img (data + headerSize) (imageLen size)).map fun imageData =>
          (crc32 imageData).toNat = ihDcrc hdr
      else
        some false

/-- The second loop of `print_header`, with `n` sizes to go: whether all are good. -/
def printLoop (m : Machine) (img : Bytes) : (n i data : Nat) → Option Bool
  | 0, _, _ => some true
  | n + 1, i, data =>
      match lenPtr m img i with
      | none => none
      | some len =>
          match subImageOk img data (htonl m.endian len) with
          | none => none
          | some ok =>
              (printLoop m img n (i + 1)
                  (pointer m (data + alignSize (htonl m.endian len)))).map
                fun result => ok && result

/-- `print_header`: the result is zero. -/
def printHeader (m : Machine) (img : Bytes) : Option Bool :=
  if ihType img = ihTypeMulti ∨ ihType img = ihTypeScript then
    match ptrsFrom m img 0 with
    | none => none
    | some ptrs => printLoop m img ptrs 0 (headerSize + (ptrs + 1) * m.sizeofLong)
  else
    some true

/-- The check that -l makes before anything else.  A 32 bit process cannot open and map
a file of 2 GiB. -/
def listImage (m : Machine) (img : Bytes) : Option Bool :=
  if m.sizeofLong = 4 ∧ 2 ^ 31 ≤ img.length then
    some false
  else if img.length < headerSize then
    some false
  else if checkHeader (img.take headerSize) = false then
    some false
  else if (crc32 (img.drop headerSize)).toNat ≠ ihDcrc img then
    some false
  else
    printHeader m img

/-- The second loop of `extract_file_from_multi`, with `n` sizes to go. -/
def extractLoop (m : Machine) (img : Bytes) (imageType : Byte) (action : TypeAction) :
    (n i pos data imgCount : Nat) → Outcome
  | 0, _, _, _, imgCount => if action = .count then .counted imgCount else .fail
  | n + 1, i, pos, data, imgCount =>
      match lenPtr m img i, peek img data headerSize with
      | some len, some hdr =>
          let size := htonl m.endian len
          let next := extractLoop m img imageType action n (i + 1)
            ((pos + alignSize size) % 2 ^ 32) (pointer m (data + alignSize size))
          if checkHeader hdr then
            if ihType hdr = imageType then
              match action with
              | .query => .found
              | .extract => .copied (fileCopy m img ((pos + 4) % 2 ^ 32) size)
              | .exthdr => .copied (fileCopy m img ((pos + 4) % 2 ^ 32) headerSize)
              | .count => .fail
            else
              next (imgCount + 1)
          else
            next imgCount
      | _, _ => .killed

/-- `extract_file_from_multi`. -/
def extractFileFromMulti (m : Machine) (img : Bytes) (imageType : Byte)
    (action : TypeAction) : Outcome :=
  if ihType img = ihTypeMulti then
    match ptrsFrom m img 0 with
    | none => .killed
    | some ptrs =>
        extractLoop m img imageType action ptrs 0
          ((headerSize + ptrs * m.sizeofLong) % 2 ^ 32)
          (headerSize + (ptrs + 1) * m.sizeofLong) 0
  else
    .fail

/-- The second loop of `extract_file_number`, with `n` sizes to go. -/
def numberLoop (m : Machine) (img : Bytes) (imageNo : Int) :
    (n i pos data : Nat) → Outcome
  | 0, _, _, _ => .fail
  | n + 1, i, pos, data =>
      match lenPtr m img i, peek img data headerSize with
      | some len, some hdr =>
          let size := htonl m.endian len
          if checkHeader hdr ∧ (i : Int) = imageNo then
            .copied (fileCopy m img ((pos + 4) % 2 ^ 32) size)
          else
            numberLoop m img imageNo n (i + 1)
              ((pos + alignSize size) % 2 ^ 32) (pointer m (data + alignSize size))
      | _, _ => .killed

/-- `extract_file_number`. -/
def extractFileNumber (m : Machine) (img : Bytes) (imageNo : Int) : Outcome :=
  if ihType img = ihTypeMulti then
    match ptrsFrom m img 0 with
    | none => .killed
    | some ptrs =>
        numberLoop m img imageNo ptrs 0
          ((headerSize + ptrs * m.sizeofLong) % 2 ^ 32)
          (headerSize + (ptrs + 1) * m.sizeofLong)
  else
    .fail

/-- A run with -l and one option more. -/
def listThen (m : Machine) (img : Bytes) (next : Outcome) : Outcome :=
  match listImage m img with
  | none => .killed
  | some false => .fail
  | some true => next

/-- A run with -l and -t. -/
def runCount (m : Machine) (img : Bytes) : Outcome :=
  listThen m img (extractFileFromMulti m img 0 .count)

/-- A run with -l and -f. -/
def runFile (m : Machine) (img : Bytes) (imageNo : Int) : Outcome :=
  listThen m img (extractFileNumber m img imageNo)

/-- A run with -l and -X. -/
def runExtract (m : Machine) (img imageName : Bytes) : Outcome :=
  listThen m img (extractFileFromMulti m img (getImageType imageName) .extract)

/-- A run with -l and -H. -/
def runExtractHeader (m : Machine) (img imageName : Bytes) : Outcome :=
  listThen m img (extractFileFromMulti m img (getImageType imageName) .exthdr)

end Read

end Mkimage
end BrBox
