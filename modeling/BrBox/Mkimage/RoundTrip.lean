import BrBox.Mkimage.Image

/-!
# Multi-file images are read back

What `buildMulti` writes is read by a walk over the sizes and the files.  `Walk` says
where such a walk stands; each of the three readers is followed along it.  The readers
copy from a position that is four bytes behind the table without its terminator, which
is the start of the files where a long has four bytes.

`roundTrips_iff` says when a file is read back as it should be.
-/

namespace BrBox
namespace Mkimage

open ByteOrder
open CText
open CxxText

section Headers

variable {a : BuildArgs} {type : Byte} {size dcrc hcrc : Nat} {hdr rest : Bytes} {off : Nat}

theorem nameField_length
    (name : Bytes) :
    (nameField name).length = 32 := by
  simp only [nameField, ihNmlen, List.length_append, List.length_take, List.length_replicate]
  omega

theorem header_length :
    (header a type size dcrc hcrc).length = headerSize := by
  simp [header, nameField_length, headerSize]

/-- A field lies in the header, whatever stands behind it. -/
theorem field_append
    (hoff : off + 4 ≤ hdr.length) :
    field (hdr ++ rest) off = field hdr off := by
  unfold field
  rw [List.drop_append_of_le_length (by omega), List.take_append_of_le_length]
  rw [List.length_drop]
  omega

/-- The field behind a part of the header. -/
theorem field_append_store
    {v : Nat}
    (hoff : hdr.length = off) :
    field (hdr ++ (store .big 4 v ++ rest)) off = v % 2 ^ 32 := by
  unfold field
  rw [List.drop_left' hoff, List.take_left' store_length, load_store]
  norm_num

theorem ihType_append
    (hlen : headerSize ≤ hdr.length) :
    ihType (hdr ++ rest) = ihType hdr := by
  unfold headerSize at hlen
  simp [ihType, List.getD_eq_getElem?_getD,
    List.getElem?_append_left (show 30 < hdr.length by omega)]

theorem field_header_magic :
    field (header a type size dcrc hcrc) 0 = ihMagic := by
  have h : field ([] ++ (store .big 4 ihMagic ++ (store .big 4 hcrc ++ store .big 4 a.time ++
      store .big 4 size ++ store .big 4 a.load ++ store .big 4 a.ep ++ store .big 4 dcrc ++
      [a.os, a.arch, type, a.comp] ++ nameField a.name))) 0 = ihMagic % 2 ^ 32 :=
    field_append_store rfl
  simpa [header, ihMagic] using h

theorem ihHcrc_header :
    ihHcrc (header a type size dcrc hcrc) = hcrc % 2 ^ 32 := by
  have h : field (store .big 4 ihMagic ++ (store .big 4 hcrc ++ (store .big 4 a.time ++
      store .big 4 size ++ store .big 4 a.load ++ store .big 4 a.ep ++ store .big 4 dcrc ++
      [a.os, a.arch, type, a.comp] ++ nameField a.name))) 4 = hcrc % 2 ^ 32 :=
    field_append_store store_length
  simpa [header, ihHcrc] using h

theorem ihDcrc_header :
    ihDcrc (header a type size dcrc hcrc) = dcrc % 2 ^ 32 := by
  have h : field ((store .big 4 ihMagic ++ store .big 4 hcrc ++ store .big 4 a.time ++
      store .big 4 size ++ store .big 4 a.load ++ store .big 4 a.ep) ++ (store .big 4 dcrc ++
      ([a.os, a.arch, type, a.comp] ++ nameField a.name))) 24 = dcrc % 2 ^ 32 :=
    field_append_store (by simp)
  simpa [header, ihDcrc] using h

theorem ihType_header :
    ihType (header a type size dcrc hcrc) = type := by
  simp [header, ihType, List.getD_eq_getElem?_getD, List.getElem?_append]

theorem ihName_header :
    ihName (header a type size dcrc hcrc) = nameField a.name := by
  have happ : header a type size dcrc hcrc =
      (store .big 4 ihMagic ++ store .big 4 hcrc ++ store .big 4 a.time ++
        store .big 4 size ++ store .big 4 a.load ++ store .big 4 a.ep ++
        store .big 4 dcrc ++ [a.os, a.arch, type, a.comp]) ++ nameField a.name := rfl
  rw [ihName, happ, List.drop_left' (by simp), List.take_of_length_le]
  rw [nameField_length, ihNmlen]

theorem clearHcrc_header :
    clearHcrc (header a type size dcrc hcrc) = header a type size dcrc 0 := by
  have hzero : store .big 4 0 = [0, 0, 0, 0] := by decide
  have htake : (header a type size dcrc hcrc).take 4 = store .big 4 ihMagic := by
    simp only [header, List.append_assoc]
    exact List.take_left' store_length
  have hdrop : (header a type size dcrc hcrc).drop 8 =
      store .big 4 a.time ++ (store .big 4 size ++ (store .big 4 a.load ++
        (store .big 4 a.ep ++ (store .big 4 dcrc ++
          ([a.os, a.arch, type, a.comp] ++ nameField a.name))))) := by
    have happ : header a type size dcrc hcrc =
        (store .big 4 ihMagic ++ store .big 4 hcrc) ++ (store .big 4 a.time ++
          (store .big 4 size ++ (store .big 4 a.load ++ (store .big 4 a.ep ++
            (store .big 4 dcrc ++ ([a.os, a.arch, type, a.comp] ++ nameField a.name)))))) := by
      simp [header]
    rw [happ]
    exact List.drop_left' (by simp)
  unfold clearHcrc
  rw [htake, hdrop, ← hzero]
  simp [header]

end Headers

section Built

/-- A well-formed single image. -/
structure WellFormed (file : Bytes) : Prop where
  size : headerSize ≤ file.length
  header : checkHeader (file.take headerSize)
  data : (crc32 (file.drop headerSize)).toNat = ihDcrc (file.take headerSize)
  type : ihType file ≠ ihTypeInvalid

variable {a : BuildArgs} {type : Byte} {data : Bytes}

theorem withHeader_take :
    (withHeader a type data).take headerSize =
      header a type data.length (crc32 data).toNat
        (crc32 (header a type data.length (crc32 data).toNat 0)).toNat :=
  List.take_left' header_length

theorem withHeader_drop :
    (withHeader a type data).drop headerSize = data :=
  List.drop_left' header_length

theorem withHeader_length :
    (withHeader a type data).length = headerSize + data.length := by
  simp [withHeader, header_length]

/-- A built file is 64 bytes and the data. -/
theorem withHeader_eq_append
    (a : BuildArgs) (type : Byte) (data : Bytes) :
    ∃ hdr : Bytes, hdr.length = headerSize ∧ withHeader a type data = hdr ++ data :=
  ⟨_, header_length, rfl⟩

/-- The header that is built passes its own check. -/
theorem checkHeader_withHeader :
    checkHeader ((withHeader a type data).take headerSize) = true := by
  rw [withHeader_take]
  simp only [checkHeader, decide_eq_true_eq]
  refine ⟨field_header_magic, ?_⟩
  rw [clearHcrc_header, ihHcrc_header]
  exact (Nat.mod_eq_of_lt (UInt32.toNat_lt _)).symm

theorem ihDcrc_withHeader :
    ihDcrc (withHeader a type data) = (crc32 data).toNat := by
  unfold withHeader ihDcrc
  rw [field_append (by rw [header_length]; decide)]
  exact ihDcrc_header.trans (Nat.mod_eq_of_lt (UInt32.toNat_lt _))

theorem ihType_withHeader :
    ihType (withHeader a type data) = type := by
  unfold withHeader
  rw [ihType_append (by rw [header_length])]
  exact ihType_header

/-- What the tool builds as a single image is one. -/
theorem buildImage_wellFormed
    (file : Bytes)
    (htype : type ≠ ihTypeInvalid) :
    WellFormed (buildImage a type file) := by
  constructor
  · simp [buildImage, withHeader_length]
  · exact checkHeader_withHeader
  · rw [buildImage, withHeader_drop, withHeader_take, ihDcrc_header]
    exact (Nat.mod_eq_of_lt (UInt32.toNat_lt _)).symm
  · rw [buildImage, ihType_withHeader]
    exact htype

/-- A built file passes the checks of -l that come before the sub-images. -/
theorem listImage_withHeader
    (m : Machine)
    (htotal : (withHeader a type data).length < 2 ^ 31) :
    listImage m (withHeader a type data) = printHeader m (withHeader a type data) := by
  unfold listImage
  rw [if_neg (by omega), withHeader_drop, ihDcrc_withHeader, checkHeader_withHeader,
    withHeader_length]
  simp

/-- A single image that is built is accepted by -l. -/
theorem listImage_buildImage
    {file : Bytes}
    (m : Machine)
    (htype : type ≠ ihTypeMulti ∧ type ≠ ihTypeScript)
    (htotal : (buildImage a type file).length < 2 ^ 31) :
    listImage m (buildImage a type file) = some true := by
  unfold buildImage at htotal ⊢
  rw [listImage_withHeader m htotal, printHeader, ihType_withHeader, if_neg]
  simp [htype]

end Built

section Copying

theorem fileCopyLoop_eq
    {len total : Nat} {rest : Bytes}
    (hle : total ≤ len) :
    fileCopyLoop len total rest = rest.take (len - total) := by
  fun_induction fileCopyLoop len total rest with
  | case1 total =>
      simp
  | case2 total rest hne hlt ih =>
      rw [ih (by omega)]
      have hshort : (rest.take 2048).length ≤ len - total := by omega
      conv_rhs => rw [← List.take_append_drop 2048 rest]
      rw [List.take_append, List.take_of_length_le hshort]
      congr 2
      omega
  | case3 total rest hne hlt =>
      rw [List.take_take]
      by_cases hlen : 2048 ≤ rest.length
      · simp only [List.length_take] at hlt
        congr 1
        omega
      · simp only [List.length_take] at hlt
        rw [List.take_eq_take_iff]
        omega

/-- The copy is a piece of the file. -/
theorem fileCopy_eq
    (m : Machine) (img : Bytes) (skip len : Nat) :
    fileCopy m img skip len = (img.drop (seekPos m skip)).take len := by
  rw [fileCopy, fileCopyLoop_eq (Nat.zero_le _), Nat.sub_zero]

theorem peek_of_le
    {img : Bytes} {off n : Nat}
    (hle : off + n ≤ img.length) :
    peek img off n = some ((img.drop off).take n) := by
  have hmapped : img.length ≤ mapped img := by
    unfold mapped
    omega
  rw [peek, if_pos (by omega)]
  rw [List.drop_append_of_le_length (by omega), List.take_append_of_le_length]
  rw [List.length_drop]
  omega

/-- All but the last file take a multiple of four bytes. -/
theorem copyFile_length
    {file : Bytes}
    (hlen : file.length < 2 ^ 32 - 3) :
    (copyFile file true).length = alignSize file.length := by
  unfold copyFile alignSize
  split
  · simp only [List.length_append, List.length_replicate]
    omega
  · next h =>
      simp only [true_and, ne_eq, not_not] at h
      omega

/-- The files start with the first file, which is there unchanged. -/
theorem copyFiles_eq
    (file : Bytes) (files : List Bytes) :
    ∃ rest, copyFiles (file :: files) = file ++ rest := by
  cases files with
  | nil =>
      exact ⟨[], by simp [copyFiles, copyFile]⟩
  | cons file' files =>
      unfold copyFiles copyFile
      split
      · exact ⟨_, List.append_assoc _ _ _⟩
      · exact ⟨_, rfl⟩

end Copying

section Table

variable {m : Machine} {img : Bytes} {i n p : Nat}

theorem ptrsFrom_of_zero
    (hlen : lenPtr m img i = some 0) :
    ptrsFrom m img i = some i := by
  rw [ptrsFrom]
  split <;> simp_all

theorem ptrsFrom_of_ne_zero
    (hlen : lenPtr m img i = some n)
    (hne : n ≠ 0) :
    ptrsFrom m img i = ptrsFrom m img (i + 1) := by
  rw [ptrsFrom]
  split <;> simp_all

/-- The number of sizes is where the terminator stands. -/
theorem lenPtr_of_ptrsFrom
    (hptrs : ptrsFrom m img i = some p) :
    lenPtr m img p = some 0 := by
  fun_induction ptrsFrom m img i with
  | case1 i hlen =>
      simp at hptrs
  | case2 i hlen =>
      obtain rfl := Option.some.inj hptrs
      exact hlen
  | case3 i n hlen ih =>
      exact ih hptrs

/-- The first loop stops at the terminator. -/
theorem ptrsFrom_eq
    (hsizes : ∀ j < n, ∃ len, lenPtr m img (i + j) = some len ∧ len ≠ 0)
    (hend : lenPtr m img (i + n) = some 0) :
    ptrsFrom m img i = some (i + n) := by
  induction n generalizing i with
  | zero =>
      exact ptrsFrom_of_zero hend
  | succ n ih =>
      obtain ⟨len, hlen, hne⟩ := hsizes 0 (by omega)
      rw [ptrsFrom_of_ne_zero (by simpa using hlen) hne, ih]
      · congr 1
        omega
      · intro j hj
        obtain ⟨len, hlen, hne⟩ := hsizes (j + 1) (by omega)
        exact ⟨len, by rw [← hlen]; congr 1; omega, hne⟩
      · rw [← hend]
        congr 1
        omega

/-- A block of bytes in a file is what is read there. -/
theorem lenPtr_append
    {before block after : Bytes}
    (himg : img = before ++ (block ++ after))
    (hbefore : before.length = headerSize + i * m.sizeofLong)
    (hblock : block.length = m.sizeofLong) :
    lenPtr m img i = some (load m.endian block) := by
  have hle : headerSize + i * m.sizeofLong + m.sizeofLong ≤ img.length := by
    rw [himg, List.length_append, List.length_append]
    omega
  rw [lenPtr, peek_of_le hle, himg, List.drop_left' hbefore, List.take_left' hblock]
  rfl

variable {a : BuildArgs} {files : List Bytes}

/-- The bytes before the entry of a file, and behind it. -/
theorem buildMulti_entry
    (m : Machine)
    (a : BuildArgs)
    {pre post : List Bytes} {file : Bytes}
    (hfiles : files = pre ++ file :: post) :
    ∃ before after,
      buildMulti m a files = before ++
        (store m.endian m.sizeofLong (htonl m.endian file.length) ++ after) ∧
      before.length = headerSize + pre.length * m.sizeofLong := by
  obtain ⟨hdr, hhdr, heq⟩ := withHeader_eq_append a ihTypeMulti
    (sizeTable m files ++ copyFiles files)
  refine ⟨hdr ++ pre.flatMap fun f => store m.endian m.sizeofLong (htonl m.endian f.length),
    (post.flatMap fun f => store m.endian m.sizeofLong (htonl m.endian f.length)) ++
      (store m.endian m.sizeofLong 0 ++ copyFiles files), ?_, ?_⟩
  · have htable : sizeTable m files =
        (pre.flatMap fun f => store m.endian m.sizeofLong (htonl m.endian f.length)) ++
          (store m.endian m.sizeofLong (htonl m.endian file.length) ++
            ((post.flatMap fun f => store m.endian m.sizeofLong (htonl m.endian f.length)) ++
              store m.endian m.sizeofLong 0)) := by
      simp [sizeTable, hfiles]
    rw [buildMulti, heq, htable]
    simp only [List.append_assoc]
  · simp [hhdr, List.length_flatMap]

/-- The bytes before the terminator, and behind it. -/
theorem buildMulti_terminator
    (m : Machine)
    (a : BuildArgs)
    (files : List Bytes) :
    ∃ before,
      buildMulti m a files = before ++ (store m.endian m.sizeofLong 0 ++ copyFiles files) ∧
      before.length = headerSize + files.length * m.sizeofLong := by
  obtain ⟨hdr, hhdr, heq⟩ := withHeader_eq_append a ihTypeMulti
    (sizeTable m files ++ copyFiles files)
  refine ⟨hdr ++ files.flatMap fun f => store m.endian m.sizeofLong (htonl m.endian f.length),
    ?_, ?_⟩
  · rw [buildMulti, heq, sizeTable]
    simp only [List.append_assoc]
  · simp [hhdr, List.length_flatMap]

/-- The machine that built a file reads back the size of a file. -/
theorem lenPtr_buildMulti
    {pre post : List Bytes} {file : Bytes}
    (hfiles : files = pre ++ file :: post) :
    lenPtr m (buildMulti m a files) pre.length = some (htonl m.endian file.length) := by
  obtain ⟨before, after, himg, hbefore⟩ := buildMulti_entry m a hfiles
  have hword : htonl m.endian file.length < 256 ^ m.sizeofLong := by
    have hlt := htonl_lt m.endian file.length
    rcases m.word with hw | hw <;> rw [hw] <;> norm_num <;> omega
  rw [lenPtr_append himg hbefore store_length, load_store, Nat.mod_eq_of_lt hword]

/-- It reads the terminator behind the sizes. -/
theorem lenPtr_buildMulti_length :
    lenPtr m (buildMulti m a files) files.length = some 0 := by
  obtain ⟨before, himg, hbefore⟩ := buildMulti_terminator m a files
  rw [lenPtr_append himg hbefore store_length, load_store, Nat.zero_mod]

/-- It counts the files. -/
theorem ptrsFrom_buildMulti
    (hsizes : ∀ f ∈ files, 0 < f.length ∧ f.length < 2 ^ 32) :
    ptrsFrom m (buildMulti m a files) 0 = some files.length := by
  have hptrs : ptrsFrom m (buildMulti m a files) 0 = some (0 + files.length) := by
    apply ptrsFrom_eq
    · intro j hj
      have hsplit : files = files.take j ++ files[j] :: files.drop (j + 1) := by
        rw [List.getElem_cons_drop, List.take_append_drop]
      have hlen := lenPtr_buildMulti (m := m) (a := a) hsplit
      rw [List.length_take, Nat.min_eq_left (by omega)] at hlen
      obtain ⟨hpos, hlt⟩ := hsizes files[j] (List.getElem_mem hj)
      exact ⟨_, by simpa using hlen, htonl_ne_zero m.endian hpos hlt⟩
    · simpa using lenPtr_buildMulti_length
  simpa using hptrs

end Table

section Walking

/-- Where a walk stands: the sizes from entry `i` on are those of `rest`, whose bytes
start at `data`. -/
structure Walk (m : Machine) (img : Bytes) (rest : List Bytes) (i data : Nat) : Prop where
  sizes : ∀ j f, rest[j]? = some f → lenPtr m img (i + j) = some (htonl m.endian f.length)
  files : rest ≠ [] → data ≤ img.length ∧ img.drop data = copyFiles rest
  wellFormed : ∀ f ∈ rest, WellFormed f
  total : img.length < 2 ^ 31

variable {m : Machine} {img : Bytes} {rest : List Bytes} {file : Bytes} {i data : Nat}

/-- The file at the front lies in the image. -/
theorem walk_room
    (hwalk : Walk m img (file :: rest) i data) :
    data + file.length ≤ img.length := by
  obtain ⟨hle, hdrop⟩ := hwalk.files (by simp)
  obtain ⟨tail, htail⟩ := copyFiles_eq file rest
  have hlen := congrArg List.length hdrop
  rw [List.length_drop, htail, List.length_append] at hlen
  omega

/-- A part of the file at the front, read where the walk stands. -/
theorem walk_take
    (hwalk : Walk m img (file :: rest) i data)
    {n : Nat}
    (hn : n ≤ file.length) :
    (img.drop data).take n = file.take n := by
  obtain ⟨-, hdrop⟩ := hwalk.files (by simp)
  obtain ⟨tail, htail⟩ := copyFiles_eq file rest
  rw [hdrop, htail, List.take_append_of_le_length hn]

/-- The size of the file at the front. -/
theorem walk_size
    (hwalk : Walk m img (file :: rest) i data) :
    lenPtr m img i = some (htonl m.endian file.length) ∧
      htonl m.endian (htonl m.endian file.length) = file.length := by
  refine ⟨hwalk.sizes 0 file rfl, ?_⟩
  have hroom := walk_room hwalk
  have htotal := hwalk.total
  rw [htonl_htonl, Nat.mod_eq_of_lt (by omega)]

/-- The header of the file at the front. -/
theorem walk_header
    (hwalk : Walk m img (file :: rest) i data) :
    peek img data headerSize = some (file.take headerSize) := by
  have hsize := (hwalk.wellFormed file (by simp)).size
  have hroom := walk_room hwalk
  rw [peek_of_le (by omega), walk_take hwalk hsize]

/-- A pointer that stays in the file does not wrap. -/
theorem pointer_of_lt
    (m : Machine) {off : Nat}
    (hoff : off < 2 ^ 32) :
    pointer m off = off := by
  apply Nat.mod_eq_of_lt
  rcases m.word with hw | hw <;> rw [hw] <;> norm_num <;> omega

/-- One step of the walk. -/
theorem walk_next
    (hwalk : Walk m img (file :: rest) i data) :
    Walk m img rest (i + 1) (pointer m (data + alignSize file.length)) := by
  refine ⟨?_, ?_, fun f hf => hwalk.wellFormed f (List.mem_cons_of_mem _ hf), hwalk.total⟩
  · intro j f hf
    rw [show i + 1 + j = i + (j + 1) by omega]
    exact hwalk.sizes (j + 1) f hf
  · intro hne
    have hroom := walk_room hwalk
    have htotal := hwalk.total
    obtain ⟨hle, hdrop⟩ := hwalk.files (by simp)
    obtain ⟨file', rest', rfl⟩ := List.exists_cons_of_ne_nil hne
    have hcons : copyFiles (file :: file' :: rest') =
        copyFile file true ++ copyFiles (file' :: rest') := rfl
    rw [hcons] at hdrop
    have hcopy : (copyFile file true).length = alignSize file.length :=
      copyFile_length (by omega)
    have hlen := congrArg List.length hdrop
    rw [List.length_drop, List.length_append, hcopy] at hlen
    rw [pointer_of_lt m (by omega)]
    refine ⟨by omega, ?_⟩
    rw [← List.drop_drop, hdrop, List.drop_left' hcopy]

/-- A walk starts behind the table. -/
theorem walk_buildMulti
    {a : BuildArgs} {files : List Bytes}
    (hwf : ∀ f ∈ files, WellFormed f)
    (htotal : (buildMulti m a files).length < 2 ^ 31) :
    Walk m (buildMulti m a files) files 0
      (headerSize + (files.length + 1) * m.sizeofLong) := by
  obtain ⟨before, himg, hbefore⟩ := buildMulti_terminator m a files
  have hlen : (before ++ store m.endian m.sizeofLong 0).length =
      headerSize + (files.length + 1) * m.sizeofLong := by
    rw [List.length_append, hbefore, store_length, Nat.add_mul]
    omega
  refine ⟨?_, ?_, hwf, htotal⟩
  · intro j f hf
    obtain ⟨hlt, rfl⟩ := List.getElem?_eq_some_iff.mp hf
    have hsplit : files = files.take j ++ files[j] :: files.drop (j + 1) := by
      rw [List.getElem_cons_drop, List.take_append_drop]
    have hentry := lenPtr_buildMulti (m := m) (a := a) hsplit
    rw [List.length_take, Nat.min_eq_left (by omega)] at hentry
    rwa [Nat.zero_add]
  · intro _
    rw [← List.append_assoc] at himg
    constructor
    · rw [himg, List.length_append, hlen]
      omega
    · rw [himg]
      exact List.drop_left' hlen

/-- `print_header` finds all sub-images good. -/
theorem printLoop_eq
    (hwalk : Walk m img rest i data) :
    printLoop m img rest.length i data = some true := by
  induction rest generalizing i data with
  | nil =>
      rfl
  | cons file rest ih =>
      obtain ⟨hlen, hsize⟩ := walk_size hwalk
      have hwf := hwalk.wellFormed file (by simp)
      have hroom := walk_room hwalk
      have htotal := hwalk.total
      have hfile := hwf.size
      have hdata : peek img (data + headerSize) (imageLen file.length) =
          some (file.drop headerSize) := by
        have hmod : imageLen file.length = file.length - headerSize := by
          unfold imageLen
          omega
        have htake := congrArg (List.drop headerSize) (walk_take hwalk (Nat.le_refl _))
        rw [List.take_length, List.drop_take, List.drop_drop] at htake
        rw [hmod, peek_of_le (by omega), htake]
      have hok : subImageOk img data file.length = some true := by
        simp [subImageOk, walk_header hwalk, hwf.header, hdata, hwf.data]
      simp [printLoop, hlen, hsize, hok, ih (walk_next hwalk)]

/-- The position the readers copy from, kept along the walk. -/
theorem walk_pos
    {pos : Nat}
    (hwalk : Walk m img (file :: rest) i data)
    (hpos : pos + 4 = data)
    (hne : rest ≠ []) :
    (pos + alignSize file.length) % 2 ^ 32 + 4 =
      pointer m (data + alignSize file.length) := by
  have htotal := hwalk.total
  have hroom := walk_room hwalk
  have halign : alignSize file.length ≤ file.length + 3 := by
    unfold alignSize
    omega
  obtain ⟨hle, -⟩ := (walk_next hwalk).files hne
  rw [pointer_of_lt m (by omega), Nat.mod_eq_of_lt (by omega)]
  omega

/-- What the readers copy where a long has four bytes. -/
theorem walk_fileCopy
    {pos n : Nat}
    (hwalk : Walk m img (file :: rest) i data)
    (hpos : pos + 4 = data)
    (hn : n ≤ file.length) :
    fileCopy m img ((pos + 4) % 2 ^ 32) n = file.take n := by
  have hroom := walk_room hwalk
  have htotal := hwalk.total
  have hseek : seekPos m ((pos + 4) % 2 ^ 32) = data := by
    rw [Nat.mod_eq_of_lt (by omega), seekPos, if_neg (by omega), hpos]
  rw [fileCopy_eq, hseek, walk_take hwalk hn]

theorem ihType_take
    (hwf : WellFormed file) :
    ihType (file.take headerSize) = ihType file := by
  have happ : ihType (file.take headerSize ++ file.drop headerSize) =
      ihType (file.take headerSize) :=
    ihType_append (by rw [List.length_take, Nat.min_eq_left hwf.size])
  rwa [List.take_append_drop, eq_comm] at happ

/-- `extract_file_from_multi` finds the first sub-image of a type. -/
theorem extractLoop_eq
    {imageType : Byte} {action : TypeAction} {pos imgCount : Nat}
    (hwalk : Walk m img rest i data)
    (hpos : rest ≠ [] → pos + 4 = data) :
    extractLoop m img imageType action rest.length i pos data imgCount =
      match rest.find? fun f => ihType f = imageType with
      | some f =>
          match action with
          | .query => .found
          | .extract => .copied f
          | .exthdr => .copied (f.take headerSize)
          | .count => .fail
      | none => if action = .count then .counted (imgCount + rest.length) else .fail := by
  induction rest generalizing i pos data imgCount with
  | nil =>
      rfl
  | cons file rest ih =>
      obtain ⟨hlen, hsize⟩ := walk_size hwalk
      have hwf := hwalk.wellFormed file (by simp)
      have htype := ihType_take hwf
      have hcopy := walk_fileCopy (n := file.length) hwalk (hpos (by simp)) (Nat.le_refl _)
      have hcopyHdr := walk_fileCopy hwalk (hpos (by simp)) hwf.size
      rw [List.take_length] at hcopy
      simp only [List.length_cons, extractLoop, hlen, walk_header hwalk, hsize, hwf.header,
        htype, if_true]
      by_cases hfile : ihType file = imageType
      · rw [List.find?_cons_of_pos (by simpa using hfile), if_pos hfile]
        cases action with
        | extract =>
            simp only [hcopy]
        | query =>
            rfl
        | exthdr =>
            simp only [hcopyHdr]
        | count =>
            rfl
      · rw [List.find?_cons_of_neg (by simpa using hfile), if_neg hfile]
        rw [ih (walk_next hwalk) (fun hne => walk_pos hwalk (hpos (by simp)) hne)]
        rw [show imgCount + 1 + rest.length = imgCount + (rest.length + 1) by omega]

/-- `extract_file_number` finds the sub-image at a position. -/
theorem numberLoop_eq
    (pos : Nat)
    {n : Nat}
    (hwalk : Walk m img rest i data)
    (hpos : rest ≠ [] → pos + 4 = data)
    (hn : rest[n]? = some file) :
    numberLoop m img ((i + n : Nat) : Int) rest.length i pos data = .copied file := by
  induction rest generalizing i pos data n with
  | nil =>
      simp at hn
  | cons head rest ih =>
      obtain ⟨hlen, hsize⟩ := walk_size hwalk
      have hwf := hwalk.wellFormed head (by simp)
      have hcopy := walk_fileCopy (n := head.length) hwalk (hpos (by simp)) (Nat.le_refl _)
      rw [List.take_length] at hcopy
      simp only [List.length_cons, numberLoop, hlen, walk_header hwalk, hsize, hwf.header,
        true_and]
      cases n with
      | zero =>
          obtain rfl : head = file := by simpa using hn
          rw [if_pos (by simp), hcopy]
      | succ n =>
          rw [if_neg (by omega), show i + (n + 1) = i + 1 + n by omega]
          have hne : rest ≠ [] := by
            rintro rfl
            simp at hn
          exact ih _ (walk_next hwalk) (fun _ => walk_pos hwalk (hpos (by simp)) hne)
            (by simpa using hn)

end Walking

section SameMachine

variable {m : Machine} {a : BuildArgs} {files : List Bytes}

theorem length_le_copyFiles
    {file : Bytes}
    (hfile : file ∈ files) :
    file.length ≤ (copyFiles files).length := by
  induction files with
  | nil =>
      simp at hfile
  | cons head files ih =>
      obtain ⟨rest, hrest⟩ := copyFiles_eq head files
      rcases List.mem_cons.mp hfile with rfl | hfile
      · rw [hrest, List.length_append]
        omega
      · cases files with
        | nil =>
            simp at hfile
        | cons head' files =>
            have hlen := ih hfile
            rw [show copyFiles (head :: head' :: files) =
              copyFile head true ++ copyFiles (head' :: files) from rfl, List.length_append]
            omega

/-- The sizes of the files are not zero and fit into 32 bits. -/
theorem size_of_wellFormed
    (hwf : ∀ f ∈ files, WellFormed f)
    (htotal : (buildMulti m a files).length < 2 ^ 31) :
    ∀ f ∈ files, 0 < f.length ∧ f.length < 2 ^ 32 := by
  intro f hf
  have hsize := (hwf f hf).size
  have hle := length_le_copyFiles hf
  rw [buildMulti, withHeader_length, List.length_append] at htotal
  unfold headerSize at hsize
  constructor <;> omega

/-- The machine that built a file accepts it. -/
theorem listImage_buildMulti
    (hwf : ∀ f ∈ files, WellFormed f)
    (htotal : (buildMulti m a files).length < 2 ^ 31) :
    listImage m (buildMulti m a files) = some true := by
  have hptrs := ptrsFrom_buildMulti (m := m) (a := a) (size_of_wellFormed hwf htotal)
  have hloop := printLoop_eq (walk_buildMulti hwf htotal)
  unfold buildMulti at hptrs hloop htotal ⊢
  rw [listImage_withHeader m htotal, printHeader, ihType_withHeader, if_pos (Or.inl rfl), hptrs]
  exact hloop

/-- `extract_file_from_multi` on the machine that built the file. -/
theorem extractFileFromMulti_buildMulti
    {imageType : Byte} {action : TypeAction}
    (hword : m.sizeofLong = 4)
    (hwf : ∀ f ∈ files, WellFormed f)
    (htotal : (buildMulti m a files).length < 2 ^ 31) :
    extractFileFromMulti m (buildMulti m a files) imageType action =
      match files.find? fun f => ihType f = imageType with
      | some f =>
          match action with
          | .query => .found
          | .extract => .copied f
          | .exthdr => .copied (f.take headerSize)
          | .count => .fail
      | none => if action = .count then .counted files.length else .fail := by
  have hptrs := ptrsFrom_buildMulti (m := m) (a := a) (size_of_wellFormed hwf htotal)
  have hwalk := walk_buildMulti hwf htotal
  have htype : ihType (buildMulti m a files) = ihTypeMulti := ihType_withHeader
  rw [extractFileFromMulti, if_pos htype, hptrs]
  simp only
  rw [extractLoop_eq hwalk, Nat.zero_add]
  intro hne
  obtain ⟨hle, -⟩ := hwalk.files hne
  rw [hword] at hle ⊢
  rw [Nat.mod_eq_of_lt (by omega)]
  omega

/-- `extract_file_number` on the machine that built the file. -/
theorem extractFileNumber_buildMulti
    {n : Nat} {file : Bytes}
    (hword : m.sizeofLong = 4)
    (hwf : ∀ f ∈ files, WellFormed f)
    (htotal : (buildMulti m a files).length < 2 ^ 31)
    (hn : files[n]? = some file) :
    extractFileNumber m (buildMulti m a files) n = .copied file := by
  have hptrs := ptrsFrom_buildMulti (m := m) (a := a) (size_of_wellFormed hwf htotal)
  have hwalk := walk_buildMulti hwf htotal
  have htype : ihType (buildMulti m a files) = ihTypeMulti := ihType_withHeader
  rw [extractFileNumber, if_pos htype, hptrs]
  simp only
  have hloop := numberLoop_eq (n := n) ((headerSize + files.length * m.sizeofLong) % 2 ^ 32)
    hwalk ?_ hn
  · rwa [Nat.zero_add] at hloop
  · intro hne
    obtain ⟨hle, -⟩ := hwalk.files hne
    rw [hword] at hle ⊢
    rw [Nat.mod_eq_of_lt (by omega)]
    omega

end SameMachine

section OtherMachines

variable {m : Machine} {img : Bytes} {file : Bytes}

/-- A header that passes its check starts with the magic number. -/
theorem take_of_checkHeader
    {hdr : Bytes}
    (hcheck : checkHeader hdr = true)
    (hlen : 4 ≤ hdr.length) :
    hdr.take 4 = [0x27, 0x05, 0x19, 0x56] := by
  simp only [checkHeader, decide_eq_true_eq] at hcheck
  have hback := store_load .big (hdr.take 4)
  have hmagic : load .big (hdr.take 4) = ihMagic := hcheck.1
  rw [hmagic, List.length_take, Nat.min_eq_left hlen] at hback
  rw [← hback]
  decide

/-- Behind its number the loop of `extract_file_number` copies nothing. -/
theorem numberLoop_ne_copied
    {imageNo : Int} {n i pos data : Nat}
    (hi : imageNo < i) :
    numberLoop m img imageNo n i pos data ≠ .copied file := by
  induction n generalizing i pos data with
  | zero =>
      simp [numberLoop]
  | succ n ih =>
      simp only [numberLoop]
      split
      · rw [if_neg (by omega)]
        exact ih (by omega)
      · simp

/-- Where a long has eight bytes the copy starts in the terminator. -/
theorem getElem_of_terminator
    {p : Nat}
    (hword : m.sizeofLong = 8)
    (hzero : lenPtr m img p = some 0) :
    ∀ b, img[headerSize + p * 8 + 4]? = some b → b = 0 := by
  intro b hb
  simp only [lenPtr, hword, Option.map_eq_some_iff, peek] at hzero
  obtain ⟨bs, hbs, hload⟩ := hzero
  split at hbs
  · obtain rfl := Option.some.inj hbs
    apply load_eq_zero_iff.mp hload
    obtain ⟨hlt, rfl⟩ := List.getElem?_eq_some_iff.mp hb
    apply List.mem_of_getElem? (i := 4)
    rw [List.getElem?_take_of_lt (by omega), List.getElem?_drop,
      List.getElem?_append_left hlt, List.getElem?_eq_getElem hlt]
  · simp at hbs

/-- Where a long has eight bytes no file of the image is extracted as the first. -/
theorem extractFileNumber_ne_of_eight
    (hword : m.sizeofLong = 8)
    (hlen : img.length < 2 ^ 31)
    (hwf : WellFormed file) :
    extractFileNumber m img 0 ≠ .copied file := by
  have hsize := hwf.size
  unfold headerSize at hsize
  unfold extractFileNumber
  split
  · cases hptrs : ptrsFrom m img 0 with
    | none =>
        simp
    | some p =>
        have hzero := lenPtr_of_ptrsFrom hptrs
        have hmapped : headerSize + p * 8 + 8 ≤ mapped img := by
          simp only [lenPtr, hword, Option.map_eq_some_iff, peek] at hzero
          obtain ⟨bs, hbs, -⟩ := hzero
          split at hbs
          · assumption
          · simp at hbs
        cases p with
        | zero =>
            simp [numberLoop]
        | succ p =>
            simp only [numberLoop]
            split
            · next len hdr hlen' hhdr =>
                split
                · intro hcopied
                  simp only [Outcome.copied.injEq] at hcopied
                  have hpos : seekPos m
                      (((headerSize + (p + 1) * m.sizeofLong) % 2 ^ 32 + 4) % 2 ^ 32) =
                        headerSize + (p + 1) * 8 + 4 := by
                    unfold mapped at hmapped
                    rw [hword, Nat.mod_eq_of_lt (by omega), Nat.mod_eq_of_lt (by omega),
                      seekPos, if_neg (by omega)]
                  rw [fileCopy_eq, hpos] at hcopied
                  have hfirst := take_of_checkHeader hwf.header (by
                    rw [List.length_take]
                    unfold headerSize
                    omega)
                  have hb : file[0]? = some 0x27 := by
                    have h := congrArg (fun l => l[0]?) hfirst
                    simpa [headerSize] using h
                  rw [← hcopied, List.getElem?_take] at hb
                  split at hb
                  · rw [List.getElem?_drop] at hb
                    exact absurd (getElem_of_terminator hword hzero _ hb) (by decide)
                  · simp at hb
                · exact numberLoop_ne_copied (by omega)
            · simp
  · simp

/-- The count is at most the number of sizes. -/
theorem extractLoop_counted_le
    {imageType : Byte} {n i pos data imgCount x : Nat}
    (hcounted : extractLoop m img imageType .count n i pos data imgCount = .counted x) :
    x ≤ imgCount + n := by
  induction n generalizing i pos data imgCount with
  | zero =>
      simp only [extractLoop, if_true, Outcome.counted.injEq] at hcounted
      omega
  | succ n ih =>
      simp only [extractLoop] at hcounted
      split at hcounted
      · split at hcounted
        · split at hcounted
          · simp at hcounted
          · have := ih hcounted
            omega
        · have := ih hcounted
          omega
      · simp at hcounted

variable {mb mr : Machine} {a : BuildArgs} {files : List Bytes}

/-- The low half of an entry of eight bytes comes first on a little endian machine. -/
theorem store_little_eight
    {v : Nat}
    (hv : v < 2 ^ 32) :
    store .little 8 v = store .little 4 v ++ List.replicate 4 0 :=
  toLe_add (m := 4) (n := 4) (by omega)

theorem store_big_eight
    {v : Nat}
    (hv : v < 2 ^ 32) :
    store .big 8 v = List.replicate 4 0 ++ store .big 4 v := by
  have h := toLe_add (v := v) (m := 4) (n := 4) (by omega)
  simp only [store]
  rw [show (8 : Nat) = 4 + 4 by omega, h, List.reverse_append, List.reverse_replicate]

/-- Where a long has four bytes, the table of a machine with eight is at an end after
one entry at most. -/
theorem ptrsFrom_of_eight
    (hmb : mb.sizeofLong = 8)
    (hmr : mr.sizeofLong = 4)
    (hendian : mr.endian = mb.endian)
    (hfiles : files = file :: files.tail)
    (hsize : 0 < file.length ∧ file.length < 2 ^ 32) :
    ptrsFrom mr (buildMulti mb a files) 0 = some 0 ∨
      ptrsFrom mr (buildMulti mb a files) 0 = some 1 ∧ mb.endian = .little := by
  have hpre : files = [] ++ file :: files.tail := hfiles
  obtain ⟨before, after, himg, hbefore⟩ := buildMulti_entry mb a hpre
  simp only [List.length_nil, Nat.zero_mul, Nat.add_zero] at hbefore
  have hhtonl := htonl_lt mb.endian file.length
  rw [hmb] at himg
  cases he : mb.endian with
  | little =>
      right
      refine ⟨?_, rfl⟩
      rw [he, store_little_eight (he ▸ hhtonl)] at himg
      have hfirst : lenPtr mr (buildMulti mb a files) 0 =
          some (load mr.endian (store .little 4 (htonl .little file.length))) := by
        refine lenPtr_append (?_ : _ = before ++ (_ ++ (List.replicate 4 0 ++ after))) ?_ ?_
        · rw [himg]
          simp
        · simp [hbefore]
        · simp [hmr]
      have hsecond : lenPtr mr (buildMulti mb a files) 1 =
          some (load mr.endian (List.replicate 4 0)) := by
        refine lenPtr_append (?_ : _ =
          (before ++ store .little 4 (htonl .little file.length)) ++ (_ ++ after)) ?_ ?_
        · rw [himg]
          simp
        · simp [hbefore, hmr]
        · simp [hmr]
      rw [hendian, he, load_store, Nat.mod_eq_of_lt (by
        have := htonl_lt .little file.length
        omega)] at hfirst
      have hzero : load mr.endian (List.replicate 4 0) = 0 := by
        rw [load_eq_zero_iff]
        simp
      rw [hzero] at hsecond
      rw [ptrsFrom_of_ne_zero hfirst (htonl_ne_zero .little hsize.1 hsize.2)]
      exact ptrsFrom_of_zero hsecond
  | big =>
      left
      rw [he, store_big_eight (he ▸ hhtonl)] at himg
      have hfirst : lenPtr mr (buildMulti mb a files) 0 =
          some (load mr.endian (List.replicate 4 0)) := by
        refine lenPtr_append (?_ : _ =
          before ++ (_ ++ (store .big 4 (htonl .big file.length) ++ after))) ?_ ?_
        · rw [himg]
          simp
        · simp [hbefore]
        · simp [hmr]
      have hzero : load mr.endian (List.replicate 4 0) = 0 := by
        rw [load_eq_zero_iff]
        simp
      rw [hzero] at hfirst
      exact ptrsFrom_of_zero hfirst

/-- With one file, such a reader looks for its header in the terminator. -/
theorem checkHeader_of_eight
    {hdr : Bytes}
    (hmb : mb.sizeofLong = 8)
    (he : mb.endian = .little)
    (hone : files.length = 1)
    (hhdr : peek (buildMulti mb a files) (headerSize + 8) headerSize = some hdr) :
    checkHeader hdr = false := by
  obtain ⟨before, himg, hbefore⟩ :=
    buildMulti_terminator mb a files
  rw [hmb, hone, Nat.one_mul] at hbefore
  rw [hmb, he, store_little_eight (by decide)] at himg
  have htake : hdr.take 4 = store .little 4 0 := by
    rw [peek] at hhdr
    split at hhdr
    · rw [← Option.some.inj hhdr, List.take_take, himg]
      simp only [List.append_assoc]
      rw [List.drop_left' hbefore]
      exact List.take_left' rfl
    · simp at hhdr
  by_contra hcheck
  have hlen : 4 ≤ hdr.length := by
    have h := congrArg List.length htake
    rw [store_length, List.length_take] at h
    omega
  have hmagic := take_of_checkHeader (by simpa using hcheck) hlen
  rw [htake] at hmagic
  exact absurd hmagic (by decide)

/-- Where a long has four bytes, the images of a machine with eight are not counted. -/
theorem extractFileFromMulti_ne_of_eight
    (hmb : mb.sizeofLong = 8)
    (hmr : mr.sizeofLong = 4)
    (hendian : mr.endian = mb.endian)
    (hfiles : files = file :: files.tail)
    (hsize : 0 < file.length ∧ file.length < 2 ^ 32) :
    extractFileFromMulti mr (buildMulti mb a files) 0 .count ≠ .counted files.length := by
  intro hcounted
  have htype : ihType (buildMulti mb a files) = ihTypeMulti := ihType_withHeader
  have hpos : 0 < files.length := by
    rw [hfiles]
    simp
  rw [extractFileFromMulti, if_pos htype] at hcounted
  rcases ptrsFrom_of_eight (a := a) hmb hmr hendian hfiles hsize with hptrs | ⟨hptrs, he⟩
  · rw [hptrs] at hcounted
    have hle := extractLoop_counted_le hcounted
    omega
  · rw [hptrs] at hcounted
    have hle := extractLoop_counted_le hcounted
    have hone : files.length = 1 := by omega
    simp only [hmr] at hcounted
    rw [extractLoop] at hcounted
    split at hcounted
    · next len hdr hlen hhdr =>
        rw [checkHeader_of_eight hmb he hone hhdr] at hcounted
        simp [extractLoop, hone] at hcounted
    · simp at hcounted

end OtherMachines

section AnyImage

variable {m : Machine} {img sub : Bytes}

theorem peek_length_le
    {off n : Nat} {bs : Bytes}
    (hpeek : peek img off n = some bs) :
    off + n ≤ mapped img := by
  unfold peek at hpeek
  split at hpeek
  · assumption
  · simp at hpeek

/-- The type of a header is the type of the file that starts with it. -/
theorem ihType_of_take_eq
    {hdr : Bytes}
    (htake : sub.take headerSize = hdr) :
    ihType sub = ihType hdr := by
  unfold ihType
  rw [List.getD_eq_getElem?_getD, List.getD_eq_getElem?_getD, ← htake,
    List.getElem?_take_of_lt (by decide)]

/-- Whatever the file, on a 32 bit machine the bytes that are copied start with the
header that was checked. -/
theorem extractLoop_type
    {imageType : Byte} {n i pos data imgCount : Nat}
    (hlen : img.length < 2 ^ 31)
    (hword : m.sizeofLong = 4)
    (hdata : (pos + 4) % 2 ^ 32 = data)
    (hcopied : extractLoop m img imageType .extract n i pos data imgCount = .copied sub)
    (hsub : headerSize ≤ sub.length) :
    ihType sub = imageType := by
  induction n generalizing i pos data imgCount with
  | zero =>
      simp [extractLoop] at hcopied
  | succ n ih =>
      have hnext : ∀ size, ((pos + alignSize size) % 2 ^ 32 + 4) % 2 ^ 32 =
          pointer m (data + alignSize size) := by
        intro size
        rw [pointer, hword]
        norm_num
        omega
      simp only [extractLoop] at hcopied
      split at hcopied
      · next len hdr hlen' hhdr =>
          split at hcopied
          · split at hcopied
            · next htype =>
                simp only [Outcome.copied.injEq] at hcopied
                have hle := peek_length_le hhdr
                have hseek : seekPos m ((pos + 4) % 2 ^ 32) = data := by
                  unfold mapped headerSize at hle
                  rw [hdata, seekPos, if_neg (by omega)]
                rw [fileCopy_eq, hseek] at hcopied
                have hroom : data + headerSize ≤ img.length := by
                  have h := congrArg List.length hcopied
                  rw [List.length_take, List.length_drop] at h
                  unfold headerSize at hsub ⊢
                  omega
                rw [peek_of_le hroom, Option.some.injEq] at hhdr
                have htake : sub.take headerSize = hdr := by
                  rw [← hhdr, ← hcopied, List.take_take, Nat.min_eq_left]
                  have h := congrArg List.length hcopied
                  rw [List.length_take] at h
                  omega
                rw [ihType_of_take_eq htake, htype]
            · exact ih (hnext _) hcopied
          · exact ih (hnext _) hcopied
      · simp at hcopied

/-- What -X extracts on a 32 bit machine is an image of the type, if it has a header. -/
theorem ihType_of_runExtract
    {imageName : Bytes}
    (hword : m.sizeofLong = 4)
    (hcopied : runExtract m img imageName = .copied sub)
    (hsub : headerSize ≤ sub.length) :
    ihType sub = getImageType imageName := by
  unfold runExtract listThen at hcopied
  cases hlist : listImage m img with
  | none =>
      simp [hlist] at hcopied
  | some ok =>
      cases ok with
      | false =>
          simp [hlist] at hcopied
      | true =>
          have hlen : img.length < 2 ^ 31 := by
            by_contra hlong
            rw [listImage, if_pos ⟨hword, by omega⟩] at hlist
            simp at hlist
          simp only [hlist, extractFileFromMulti] at hcopied
          split at hcopied
          · split at hcopied
            · simp at hcopied
            · next ptrs hptrs =>
                have hzero := lenPtr_of_ptrsFrom hptrs
                simp only [lenPtr, Option.map_eq_some_iff] at hzero
                obtain ⟨bs, hbs, -⟩ := hzero
                have hle := peek_length_le hbs
                unfold mapped at hle
                refine extractLoop_type hlen hword ?_ hcopied hsub
                rw [hword] at hle ⊢
                omega
          · simp at hcopied

end AnyImage

section RoundTrip

/-- A multi-file image is read back as its files. -/
structure RoundTrips (m : Machine) (img : Bytes) (files : List Bytes) : Prop where
  accepted : listImage m img = some true
  counted : runCount m img = .counted files.length
  numbered : ∀ (n : Nat) file, files[n]? = some file → runFile m img (n : Int) = .copied file
  extracted : ∀ row ∈ typeName, runExtract m img row.1 =
    match files.find? fun f => ihType f = row.2 with
    | some file => .copied file
    | none => .fail
  header : ∀ row ∈ typeName, runExtractHeader m img row.1 =
    match files.find? fun f => ihType f = row.2 with
    | some file => .copied (file.take headerSize)
    | none => .fail

/-- The type of the file has a name for -X and -H, if it has one for -T. -/
def Extractable (file : Bytes) : Prop :=
  ∀ row ∈ typeName, ihType file = row.2 → getImageType row.1 = row.2

/-- The names that -X and -H do not know. -/
theorem getImageType_typeName :
    ∀ row ∈ typeName, getImageType row.1 = row.2 ∨ getImageType row.1 = ihTypeInvalid := by
  decide

variable {files : List Bytes}

/-- The first file of the type that a name stands for, and of the type that the name
is read as. -/
theorem find_getImageType
    {row : Bytes × Byte}
    (hrow : row ∈ typeName)
    (hwf : ∀ f ∈ files, WellFormed f)
    (hextractable : ∀ f ∈ files, Extractable f) :
    (files.find? fun f => ihType f = getImageType row.1) =
      files.find? fun f => ihType f = row.2 := by
  rcases getImageType_typeName row hrow with heq | hinvalid
  · rw [heq]
  · rw [hinvalid]
    have hnone : (files.find? fun f => ihType f = row.2) = none := by
      rw [List.find?_eq_none]
      intro f hf htype
      have htype' : ihType f = row.2 := by simpa using htype
      have hknown := hextractable f hf row hrow htype'
      exact (hwf f hf).type (by rw [htype', ← hknown, hinvalid])
    have hinv : (files.find? fun f => ihType f = ihTypeInvalid) = none := by
      rw [List.find?_eq_none]
      intro f hf htype
      exact (hwf f hf).type (by simpa using htype)
    rw [hnone, hinv]

variable {mb mr m : Machine} {a : BuildArgs}

/-- Where a long has four bytes, on both machines, the image is read back. -/
theorem roundTrips_of_four
    (hword : m.sizeofLong = 4)
    (hwf : ∀ f ∈ files, WellFormed f)
    (htotal : (buildMulti m a files).length < 2 ^ 31)
    (hextractable : ∀ f ∈ files, Extractable f) :
    RoundTrips m (buildMulti m a files) files := by
  have haccepted := listImage_buildMulti hwf htotal
  have hnone : (files.find? fun f => ihType f = 0) = none := by
    rw [List.find?_eq_none]
    intro f hf htype
    exact (hwf f hf).type (of_decide_eq_true htype)
  refine ⟨haccepted, ?_, ?_, ?_, ?_⟩
  · simp only [runCount, listThen, haccepted,
      extractFileFromMulti_buildMulti hword hwf htotal, hnone, if_true]
  · intro n file hn
    simp only [runFile, listThen, haccepted,
      extractFileNumber_buildMulti hword hwf htotal hn]
  · intro row hrow
    simp only [runExtract, listThen, haccepted,
      extractFileFromMulti_buildMulti hword hwf htotal,
      find_getImageType hrow hwf hextractable]
    rfl
  · intro row hrow
    simp only [runExtractHeader, listThen, haccepted,
      extractFileFromMulti_buildMulti hword hwf htotal,
      find_getImageType hrow hwf hextractable]
    rfl

/-- A reader whose longs have eight bytes does not give the first file. -/
theorem not_roundTrips_of_eight
    {img : Bytes}
    (hword : m.sizeofLong = 8)
    (hlen : img.length < 2 ^ 31)
    (hne : files ≠ [])
    (hwf : ∀ f ∈ files, WellFormed f) :
    ¬ RoundTrips m img files := by
  intro h
  obtain ⟨file, tail, rfl⟩ := List.exists_cons_of_ne_nil hne
  have hfirst := h.numbered 0 file rfl
  simp only [runFile, listThen, h.accepted] at hfirst
  exact extractFileNumber_ne_of_eight hword hlen (hwf file (by simp)) hfirst

/-- An image of a machine whose longs have eight bytes is not read where they have
four. -/
theorem not_roundTrips_from_eight
    (hmb : mb.sizeofLong = 8)
    (hmr : mr.sizeofLong = 4)
    (hendian : mr.endian = mb.endian)
    (hne : files ≠ [])
    (hwf : ∀ f ∈ files, WellFormed f)
    (htotal : (buildMulti mb a files).length < 2 ^ 31) :
    ¬ RoundTrips mr (buildMulti mb a files) files := by
  intro h
  obtain ⟨file, tail, rfl⟩ := List.exists_cons_of_ne_nil hne
  have hcounted := h.counted
  simp only [runCount, listThen, h.accepted] at hcounted
  exact extractFileFromMulti_ne_of_eight hmb hmr hendian rfl
    (size_of_wellFormed hwf htotal file (by simp)) hcounted

/-- A file whose type has no name for -X is not extracted. -/
theorem extractable_of_roundTrips
    {img file : Bytes}
    (h : RoundTrips m img files)
    (hfile : file ∈ files)
    (hloop : ∀ imageType, (files.find? fun f => ihType f = imageType) = none →
      extractFileFromMulti m img imageType .extract = .fail)
    (hwf : ∀ f ∈ files, WellFormed f) :
    Extractable file := by
  intro row hrow htype
  rcases getImageType_typeName row hrow with heq | hinvalid
  · exact heq
  · have hextracted := h.extracted row hrow
    simp only [runExtract, listThen, h.accepted, hinvalid] at hextracted
    rw [hloop] at hextracted
    · cases hfind : files.find? fun f => ihType f = row.2 with
      | none =>
          rw [List.find?_eq_none] at hfind
          exact absurd htype (by simpa using hfind file hfile)
      | some f =>
          rw [hfind] at hextracted
          simp at hextracted
    · rw [List.find?_eq_none]
      intro f hf hinv
      exact (hwf f hf).type (by simpa using hinv)

/-- A multi-file image is read back if and only if a long has four bytes where it is
built and where it is read, and each file has a type that -X knows. -/
theorem roundTrips_iff
    (hendian : mr.endian = mb.endian)
    (hne : files ≠ [])
    (hwf : ∀ f ∈ files, WellFormed f)
    (htotal : (buildMulti mb a files).length < 2 ^ 31) :
    RoundTrips mr (buildMulti mb a files) files ↔
      mb.sizeofLong = 4 ∧ mr.sizeofLong = 4 ∧ ∀ f ∈ files, Extractable f := by
  have hsame : mb.sizeofLong = 4 → mr.sizeofLong = 4 → mr = mb := by
    intro hmb hmr
    cases mb
    cases mr
    simp_all
  constructor
  · intro h
    have hmr : mr.sizeofLong = 4 := by
      rcases mr.word with hmr | hmr
      · exact hmr
      · exact absurd h (not_roundTrips_of_eight hmr htotal hne hwf)
    have hmb : mb.sizeofLong = 4 := by
      rcases mb.word with hmb | hmb
      · exact hmb
      · exact absurd h (not_roundTrips_from_eight hmb hmr hendian hne hwf htotal)
    obtain rfl := hsame hmb hmr
    refine ⟨hmb, hmr, fun f hf => extractable_of_roundTrips h hf ?_ hwf⟩
    intro imageType hnone
    rw [extractFileFromMulti_buildMulti hmb hwf htotal, hnone]
    simp
  · rintro ⟨hmb, hmr, hextractable⟩
    obtain rfl := hsame hmb hmr
    exact roundTrips_of_four hmb hwf htotal hextractable

/-- Header values for the examples. -/
def sampleArgs : BuildArgs :=
  { time := 0, load := 0, ep := 0, os := 5, arch := 5, comp := 0, name := text "sample" }

/-- A kernel and a boot loader, built and read where a long has four bytes. -/
theorem roundTrips_kernel_uboot :
    RoundTrips ⟨.big, 4, Or.inl rfl⟩
      (buildMulti ⟨.big, 4, Or.inl rfl⟩ sampleArgs
        [buildImage sampleArgs ihTypeKernel (text "kernel"),
          buildImage sampleArgs ihTypeUboot (text "loader")])
      [buildImage sampleArgs ihTypeKernel (text "kernel"),
        buildImage sampleArgs ihTypeUboot (text "loader")] := by
  refine (roundTrips_iff rfl (by simp) ?_ ?_).mpr ⟨rfl, rfl, ?_⟩
  · intro f hf
    simp only [List.mem_cons, List.not_mem_nil, or_false] at hf
    rcases hf with rfl | rfl
    · exact buildImage_wellFormed _ (by decide)
    · exact buildImage_wellFormed _ (by decide)
  · simp [buildMulti, buildImage, withHeader_length, sizeTable, copyFiles, copyFile,
      headerSize, text]
  · intro f hf
    simp only [List.mem_cons, List.not_mem_nil, or_false] at hf
    rcases hf with rfl | rfl
    · intro row hrow htype
      rw [buildImage, ihType_withHeader] at htype
      revert row
      decide
    · intro row hrow htype
      rw [buildImage, ihType_withHeader] at htype
      revert row
      decide

/-- The same kernel built and read where a long has eight bytes, and built there and
read where it has four. -/
theorem not_roundTrips_kernel :
    ¬ RoundTrips ⟨.little, 8, Or.inr rfl⟩
        (buildMulti ⟨.little, 8, Or.inr rfl⟩ sampleArgs
          [buildImage sampleArgs ihTypeKernel (text "kernel")])
        [buildImage sampleArgs ihTypeKernel (text "kernel")] ∧
      ¬ RoundTrips ⟨.little, 4, Or.inl rfl⟩
        (buildMulti ⟨.little, 8, Or.inr rfl⟩ sampleArgs
          [buildImage sampleArgs ihTypeKernel (text "kernel")])
        [buildImage sampleArgs ihTypeKernel (text "kernel")] := by
  have hwf : ∀ f ∈ [buildImage sampleArgs ihTypeKernel (text "kernel")], WellFormed f := by
    intro f hf
    rw [List.mem_singleton] at hf
    subst hf
    exact buildImage_wellFormed _ (by decide)
  have htotal : (buildMulti ⟨.little, 8, Or.inr rfl⟩ sampleArgs
      [buildImage sampleArgs ihTypeKernel (text "kernel")]).length < 2 ^ 31 := by
    simp [buildMulti, buildImage, withHeader_length, sizeTable, copyFiles, copyFile,
      headerSize, text]
  constructor
  · exact not_roundTrips_of_eight rfl htotal (by simp) hwf
  · exact not_roundTrips_from_eight rfl rfl rfl (by simp) hwf htotal

end RoundTrip

end Mkimage
end BrBox
