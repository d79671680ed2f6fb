import BrBox.Firmware.Micronucleus
import BrBox.Lib.Overlay
import Mathlib.Data.Nat.Find

/-!
# What an upload leaves in the flash

The bootloader in the device is not part of the sources.  It is a parameter, and
`Bootloader.Contract` collects what the upload relies on.

* `writeFlash_refuses_iff`: a program that does not start with a branch is not sent.
* `writeFlash_received`: what the flash holds after an upload.
* `writeFlash_vectors`: where the two vectors lead.
-/

namespace BrBox
namespace Firmware

open CText
open Overlay

section Contents

/-- The bytes of a word in the flash. -/
def wordBytes (w : Nat) : Bytes :=
  [UInt8.ofNat w, UInt8.ofNat (w / 256)]

@[simp] theorem length_wordBytes
    (w : Nat) :
    (wordBytes w).length = 2 := by
  rfl

/-- A word of the flash. -/
def wordAt (flash : Nat → Byte) (address : Nat) : Nat :=
  (flash (address + 1)).toNat * 256 + (flash address).toNat

/-- The program and the padding behind it. -/
def padded (size : Nat) (program : Nat → Byte) : Nat → Byte :=
  fun address => if size < address then 0xFF else program address

/-- What is put in place of the reset vector. -/
def resetPatch (dev : Micronucleus) : Bytes :=
  if 0x2000 < dev.bootloaderStart then
    wordBytes 0x940c ++ wordBytes dev.bootloaderStart
  else
    wordBytes (rjmpWord ((dev.bootloaderStart / 2 : Nat) - 1))

/-- What is put at the end of the last page. -/
def userPatch (dev : Micronucleus) (target : Nat) : Bytes :=
  if 0x2000 < dev.userResetAddr then
    wordBytes 0x940c ++ wordBytes target
  else
    wordBytes (rjmpWord ((target : Int) - (dev.userResetAddr / 2 : Nat) - 1))

/-- What an upload means to bring to the flash. -/
def image (dev : Micronucleus) (size : Nat) (program : Nat → Byte) (target : Nat) :
    Nat → Byte :=
  overlay (overlay (padded size program) 0 (resetPatch dev)) dev.userResetAddr
    (userPatch dev target)

/-- A device that takes its pages whole and in words, with room for both vectors. -/
structure Micronucleus.Regular (dev : Micronucleus) : Prop where
  major : 2 ≤ dev.major
  pageSize_dvd : 4 ∣ dev.pageSize
  room : 8 ≤ dev.bootloaderStart

/-- The cells from an address on, one page of them. -/
def pageOf (f : Nat → Byte) (address length : Nat) : Bytes :=
  (List.range length).map fun i => f (address + i)

@[simp] theorem length_pageOf
    (f : Nat → Byte)
    (address length : Nat) :
    (pageOf f address length).length = length := by
  simp [pageOf]

theorem pageOf_congr
    {f g : Nat → Byte}
    {address length : Nat}
    (hfg : ∀ i < length, f (address + i) = g (address + i)) :
    pageOf f address length = pageOf g address length := by
  apply List.map_congr_left
  intro i hi
  exact hfg i (List.mem_range.mp hi)

/-- Two bytes put in a page are laid over its cells. -/
theorem putWord_pageOf
    (f : Nat → Byte)
    (address length : Nat)
    {i : Nat}
    (hi : i + 1 < length)
    (w : Nat) :
    putWord (pageOf f address length) i w =
      .ok (pageOf (overlay f (address + i) (wordBytes w)) address length) := by
  rw [putWord, if_pos (by simpa using hi)]
  congr 1
  apply List.ext_getElem
  · simp
  · intro j hj hj'
    have hat : (pageOf (overlay f (address + i) (wordBytes w)) address length)[j] =
        overlay f (address + i) (wordBytes w) (address + j) := by
      simp [pageOf]
    rw [hat, List.getElem_set, List.getElem_set]
    by_cases hhigh : i + 1 = j
    · subst hhigh
      rw [if_pos rfl, ← Nat.add_assoc, overlay_apply_add _ _ _ (by simp [wordBytes])]
      rfl
    · rw [if_neg hhigh]
      by_cases hlow : i = j
      · subst hlow
        have hfirst := overlay_apply_add f (address + i) (wordBytes w) (i := 0)
          (by simp [wordBytes])
        rw [if_pos rfl]
        exact hfirst.symm
      · rw [if_neg hlow]
        have hsame : overlay f (address + i) (wordBytes w) (address + j) = f (address + j) := by
          rcases Nat.lt_or_gt_of_ne hlow with hlt | hgt
          · apply overlay_apply_of_le
            rw [length_wordBytes]
            omega
          · exact overlay_apply_of_lt _ _ _ (by omega)
        rw [hsame]
        simp [pageOf]

theorem saveReset_pageOf
    (f : Nat → Byte)
    {length : Nat}
    (hlength : 4 ≤ length) :
    saveReset (pageOf f 0 length) =
      match resetTarget (wordAt f 0) (wordAt f 2) with
      | some target => .ok target
      | none => .error .noBranch := by
  obtain ⟨n, rfl⟩ := Nat.exists_eq_add_of_le' hlength
  have hpage : pageOf f 0 (n + 4) =
      f 0 :: f 1 :: f 2 :: f 3 :: (List.range n).map fun i => f (i + 4) := by
    simp [pageOf, List.range_succ_eq_map, Function.comp_def]
  rw [hpage, saveReset]
  rfl

variable {dev : Micronucleus} {size : Nat} {program : Nat → Byte} {target : Nat}

theorem Micronucleus.Regular.four_le
    (hdev : dev.Regular) :
    4 ≤ dev.pageSize :=
  Nat.le_of_dvd dev.pageSize_pos hdev.pageSize_dvd

theorem Micronucleus.Regular.pageLength
    (hdev : dev.Regular)
    (address : Nat) :
    dev.pageLength address = dev.pageSize := by
  have hmajor := hdev.major
  rw [Micronucleus.pageLength, if_neg (by omega)]

theorem patchReset_pageOf
    (hdev : dev.Regular)
    (f : Nat → Byte) :
    patchReset dev (pageOf f 0 dev.pageSize) =
      .ok (pageOf (overlay f 0 (resetPatch dev)) 0 dev.pageSize) := by
  have hfour := hdev.four_le
  rw [patchReset, resetPatch]
  by_cases hbig : 0x2000 < dev.bootloaderStart
  · rw [if_pos hbig, if_pos hbig, putWord_pageOf f 0 _ (by omega)]
    simp only
    rw [putWord_pageOf _ 0 _ (by omega), overlay_append]
    rfl
  · rw [if_neg hbig, if_neg hbig, putWord_pageOf f 0 _ (by omega)]

/-- The last page ends where the bootloader starts. -/
theorem userResetAddr_last
    (hdev : dev.Regular)
    {page : Nat}
    (hpage : page + 1 = dev.pages) :
    dev.userResetAddr = page * dev.pageSize + (dev.pageSize - 4) := by
  have hfour := hdev.four_le
  have hstart : dev.bootloaderStart = page * dev.pageSize + dev.pageSize := by
    rw [Micronucleus.bootloaderStart, ← hpage, Nat.succ_mul]
  rw [Micronucleus.userResetAddr, hstart]
  omega

theorem patchUser_pageOf
    (hdev : dev.Regular)
    {page : Nat}
    (hpage : page + 1 = dev.pages)
    (f : Nat → Byte)
    (target : Nat) :
    patchUser dev (page * dev.pageSize) target (pageOf f (page * dev.pageSize) dev.pageSize) =
      .ok (pageOf (overlay f dev.userResetAddr (userPatch dev target)) (page * dev.pageSize)
        dev.pageSize) := by
  have hfour := hdev.four_le
  have haddr := userResetAddr_last hdev hpage
  have hoffset : dev.userResetAddr - page * dev.pageSize = dev.pageSize - 4 := by omega
  rw [patchUser, userPatch, hoffset]
  by_cases hbig : 0x2000 < dev.userResetAddr
  · rw [if_pos hbig, if_pos hbig, putWord_pageOf f _ _ (by omega)]
    simp only
    rw [putWord_pageOf _ _ _ (by omega), overlay_append, haddr]
    congr 3
  · rw [if_neg hbig, if_neg hbig, putWord_pageOf f _ _ (by omega), haddr]

theorem isLast_iff
    {page : Nat}
    (hpage : page < dev.pages) :
    dev.isLast (page * dev.pageSize) ↔ page + 1 = dev.pages := by
  have hpos := dev.pageSize_pos
  rw [Micronucleus.isLast, Micronucleus.bootloaderStart, Nat.sub_le_iff_le_add,
    ← Nat.succ_mul, Nat.mul_le_mul_right_iff hpos]
  omega

theorem length_resetPatch_le
    (dev : Micronucleus) :
    (resetPatch dev).length ≤ 4 := by
  rw [resetPatch]
  split <;> simp [wordBytes]

/-- A page before the last one ends before the vector of the user. -/
theorem add_lt_userResetAddr
    (hdev : dev.Regular)
    {page i : Nat}
    (hpage : page + 1 < dev.pages)
    (hi : i < dev.pageSize) :
    page * dev.pageSize + i < dev.userResetAddr := by
  have hfour := hdev.four_le
  have hstart : (page + 2) * dev.pageSize ≤ dev.bootloaderStart :=
    Nat.mul_le_mul_right _ hpage
  rw [Nat.add_mul] at hstart
  rw [Micronucleus.userResetAddr]
  omega

/-- The page buffer holds a page of the image. -/
theorem preparePage_eq
    (hdev : dev.Regular)
    (htarget : resetTarget (wordAt (padded size program) 0) (wordAt (padded size program) 2) =
      some target)
    {page userReset : Nat}
    (hpage : page < dev.pages)
    (hreset : 0 < page → userReset = target) :
    preparePage dev size program (page * dev.pageSize) userReset =
      .ok (pageOf (image dev size program target) (page * dev.pageSize) dev.pageSize,
        target) := by
  have hfour := hdev.four_le
  have hmajor := hdev.major
  have hcopy : copyPage size (page * dev.pageSize) (dev.pageLength (page * dev.pageSize))
      program = pageOf (padded size program) (page * dev.pageSize) dev.pageSize := by
    rw [hdev.pageLength]
    rfl
  -- after the first branch of the loop body
  have hfirst : prepareFirst dev (page * dev.pageSize) userReset
      (pageOf (padded size program) (page * dev.pageSize) dev.pageSize) =
        .ok (pageOf (overlay (padded size program) 0 (resetPatch dev)) (page * dev.pageSize)
          dev.pageSize, target) := by
    rw [prepareFirst]
    by_cases hzero : page = 0
    · subst hzero
      rw [Nat.zero_mul, if_pos rfl, saveReset_pageOf _ hfour, htarget]
      simp only
      rw [patchReset_pageOf hdev]
    · have hle : 1 * dev.pageSize ≤ page * dev.pageSize :=
        Nat.mul_le_mul_right _ (Nat.pos_of_ne_zero hzero)
      rw [if_neg (by omega), hreset (Nat.pos_of_ne_zero hzero)]
      congr 2
      apply pageOf_congr
      intro i _
      have hlen := length_resetPatch_le dev
      rw [overlay_apply_of_le _ _ _ (by omega)]
  rw [preparePage, hcopy, if_neg (by omega), hfirst]
  simp only
  by_cases hlast : page + 1 = dev.pages
  · rw [if_pos ((isLast_iff hpage).mpr hlast), patchUser_pageOf hdev hlast]
    rfl
  · rw [if_neg fun h => hlast ((isLast_iff hpage).mp h)]
    congr 2
    apply pageOf_congr
    intro i hi
    exact (overlay_apply_of_lt _ _ _ (add_lt_userResetAddr hdev (by omega) hi)).symm

end Contents

section Received

/-- The bootloader in a device: what a transfer makes of its state, and its flash. -/
structure Bootloader (σ : Type) where
  receive : σ → Transfer → σ
  flash : σ → Nat → Byte

/-- The transfer of `micronucleus_eraseFlash`, and that of `micronucleus_startApp`. -/
def eraseTransfer : Transfer :=
  ⟨2, 0, 0, []⟩

def startTransfer : Transfer :=
  ⟨4, 0, 0, []⟩

/-- The flash after transfers. -/
def Bootloader.flashAfter {σ : Type}
    (boot : Bootloader σ) (st : σ) (sent : List Transfer) : Nat → Byte :=
  boot.flash (sent.foldl boot.receive st)

/-- What the upload relies on: request 2 erases the flash below the bootloader, a page that is
selected by request 1 and filled by the words of request 3 is written where it was erased, and
request 4 leaves the flash. -/
structure Bootloader.Contract {σ : Type}
    (boot : Bootloader σ) (dev : Micronucleus) : Prop where
  erase : ∀ st address, boot.flash (boot.receive st eraseTransfer) address =
    if address < dev.bootloaderStart then 0xFF else boot.flash st address
  page : ∀ st page buf words, page < dev.pages → buf.length = dev.pageSize →
    wordTransfers buf = .ok words →
    (∀ i < dev.pageSize, boot.flash st (page * dev.pageSize + i) = 0xFF) →
    boot.flashAfter st (⟨1, buf.length, page * dev.pageSize, []⟩ :: words) =
      overlay (boot.flash st) (page * dev.pageSize) buf
  start : ∀ st, boot.flash (boot.receive st startTransfer) = boot.flash st

/-- The words of a page of whole words. -/
theorem exists_wordTransfers
    (n : Nat)
    {buf : Bytes}
    (hlength : buf.length = 4 * n) :
    ∃ words, wordTransfers buf = .ok words := by
  induction n generalizing buf with
  | zero =>
      obtain rfl := List.eq_nil_of_length_eq_zero (by omega)
      exact ⟨[], rfl⟩
  | succ n ih =>
      match buf, hlength with
      | b0 :: b1 :: b2 :: b3 :: rest, hlength =>
          simp only [List.length_cons] at hlength
          have hrestLength : rest.length = 4 * n := by omega
          obtain ⟨words, hwords⟩ := ih hrestLength
          exact ⟨_, by rw [wordTransfers, hwords]⟩

variable {σ : Type} {boot : Bootloader σ} {st : σ}
variable {dev : Micronucleus} {size : Nat} {program : Nat → Byte} {target : Nat}

theorem flashAfter_append
    (boot : Bootloader σ)
    (st : σ)
    (sent more : List Transfer) :
    boot.flashAfter st (sent ++ more) =
      boot.flashAfter (sent.foldl boot.receive st) more := by
  rw [Bootloader.flashAfter, Bootloader.flashAfter, List.foldl_append]

/-- The image up to a page, over what the flash held. -/
def imageUpTo
    (dev : Micronucleus) (size : Nat) (program : Nat → Byte) (target : Nat)
    (old : Nat → Byte) (page : Nat) : Nat → Byte :=
  fun address =>
    if address < page * dev.pageSize then image dev size program target address
    else old address

/-- The flash below the bootloader is erased. -/
def Erased (dev : Micronucleus) (flash : Nat → Byte) : Prop :=
  ∀ address < dev.bootloaderStart, flash address = 0xFF

/-- A page is below the bootloader. -/
theorem add_lt_bootloaderStart
    {page i : Nat}
    (hpage : page < dev.pages)
    (hi : i < dev.pageSize) :
    page * dev.pageSize + i < dev.bootloaderStart := by
  have hnext : (page + 1) * dev.pageSize ≤ dev.bootloaderStart :=
    Nat.mul_le_mul_right _ hpage
  rw [Nat.succ_mul] at hnext
  omega

/-- A page of the image continues it. -/
theorem overlay_imageUpTo
    (old : Nat → Byte)
    (page : Nat) :
    overlay (imageUpTo dev size program target old page) (page * dev.pageSize)
        (pageOf (image dev size program target) (page * dev.pageSize) dev.pageSize) =
      imageUpTo dev size program target old (page + 1) := by
  funext address
  rw [pageOf, overlay_map_range, imageUpTo, imageUpTo, Nat.succ_mul]
  by_cases hlow : address < page * dev.pageSize
  · rw [if_neg (by omega), if_pos hlow, if_pos (by omega)]
  · by_cases hhigh : address < page * dev.pageSize + dev.pageSize
    · rw [if_pos ⟨by omega, hhigh⟩, if_pos hhigh]
    · rw [if_neg (by omega), if_neg hlow, if_neg hhigh]

/-- A page that is not sent is erased in the image. -/
theorem imageUpTo_of_not_contains
    (hdev : dev.Regular)
    {old : Nat → Byte}
    (herased : Erased dev old)
    {page : Nat}
    (hpage : page < dev.pages)
    (hcontains : ¬ (pageContainsData size (page * dev.pageSize)
      (dev.pageLength (page * dev.pageSize)) = true ∨ dev.isLast (page * dev.pageSize))) :
    imageUpTo dev size program target old (page + 1) =
      imageUpTo dev size program target old page := by
  rw [not_or, isLast_iff hpage, hdev.pageLength] at hcontains
  obtain ⟨hdata, hlast⟩ := hcontains
  have hbehind : ∀ i < dev.pageSize, size < page * dev.pageSize + i := by
    simpa [pageContainsData] using hdata
  have hpositive : 0 < page := by
    by_contra hzero
    have hnone := hbehind 0 dev.pageSize_pos
    rw [Nat.eq_zero_of_not_pos hzero, Nat.zero_mul] at hnone
    omega
  funext address
  rw [imageUpTo, imageUpTo, Nat.succ_mul]
  by_cases hlow : address < page * dev.pageSize
  · rw [if_pos hlow, if_pos (by omega)]
  · rw [if_neg hlow]
    by_cases hhigh : address < page * dev.pageSize + dev.pageSize
    · obtain ⟨i, rfl⟩ := Nat.exists_eq_add_of_le (Nat.not_lt.mp hlow)
      have hi : i < dev.pageSize := by omega
      have hlen := length_resetPatch_le dev
      have hfour := hdev.four_le
      have hle : 1 * dev.pageSize ≤ page * dev.pageSize := Nat.mul_le_mul_right _ hpositive
      rw [if_pos hhigh, image,
        overlay_apply_of_lt _ _ _ (add_lt_userResetAddr hdev (by omega) hi),
        overlay_apply_of_le _ _ _ (by omega), padded, if_pos (hbehind i hi),
        herased _ (add_lt_bootloaderStart hpage hi)]
    · rw [if_neg hhigh]

/-- The loop from a page on completes the image. -/
theorem writePages_received
    (hdev : dev.Regular)
    (hboot : boot.Contract dev)
    (herased : Erased dev (boot.flash st))
    (htarget : resetTarget (wordAt (padded size program) 0) (wordAt (padded size program) 2) =
      some target)
    (n : Nat)
    {page userReset : Nat}
    (hpages : page + n = dev.pages)
    (hreset : 0 < page → userReset = target)
    {sent : List Transfer}
    (hsent : boot.flashAfter st sent =
      imageUpTo dev size program target (boot.flash st) page) :
    ∃ transfers, writePages dev (fun _ => false) size program
        ((List.range' page n).map fun p => p * dev.pageSize) userReset sent =
          .ok (0, transfers) ∧
      boot.flashAfter st transfers =
        imageUpTo dev size program target (boot.flash st) dev.pages := by
  induction n generalizing page userReset sent with
  | zero =>
      obtain rfl : page = dev.pages := by omega
      exact ⟨sent, rfl, hsent⟩
  | succ n ih =>
      have hpage : page < dev.pages := by omega
      rw [List.range'_succ, List.map_cons, writePages,
        preparePage_eq hdev htarget hpage hreset]
      simp only
      by_cases hsend : pageContainsData size (page * dev.pageSize)
          (dev.pageLength (page * dev.pageSize)) = true ∨ dev.isLast (page * dev.pageSize)
      · rw [if_pos hsend, sendPage_of_major hdev.major]
        obtain ⟨k, hk⟩ := hdev.pageSize_dvd
        obtain ⟨words, hwords⟩ := exists_wordTransfers k
          (show (pageOf (image dev size program target) (page * dev.pageSize)
            dev.pageSize).length = 4 * k by rw [length_pageOf, hk])
        rw [hwords]
        simp only
        rw [sendAll_good fun _ _ _ => rfl]
        refine ih (by omega) (fun _ => rfl) ?_
        -- the page is still erased when it is written
        have hblank : ∀ i < dev.pageSize,
            boot.flash (sent.foldl boot.receive st) (page * dev.pageSize + i) = 0xFF := by
          intro i hi
          have hcell := congrFun hsent (page * dev.pageSize + i)
          rw [imageUpTo, if_neg (by omega), herased _ (add_lt_bootloaderStart hpage hi)] at hcell
          exact hcell
        have hwrite := hboot.page _ page _ words hpage (length_pageOf _ _ _) hwords hblank
        rw [flashAfter_append, hwrite, ← Bootloader.flashAfter, hsent, overlay_imageUpTo]
      · rw [if_neg hsend]
        refine ih (by omega) (fun _ => rfl) ?_
        rw [hsent, imageUpTo_of_not_contains hdev herased hpage hsend]

/-- An upload without failures brings the image. -/
theorem exists_upload
    (hdev : dev.Regular)
    (hboot : boot.Contract dev)
    (herased : Erased dev (boot.flash st))
    (htarget : resetTarget (wordAt (padded size program) 0) (wordAt (padded size program) 2) =
      some target) :
    ∃ transfers, writeFlash dev (fun _ => false) size program = .ok (0, transfers) ∧
      boot.flashAfter st transfers =
        imageUpTo dev size program target (boot.flash st) dev.pages := by
  have hstart : boot.flashAfter st [] =
      imageUpTo dev size program target (boot.flash st) 0 := by
    funext address
    simp [Bootloader.flashAfter, imageUpTo]
  obtain ⟨transfers, hwrite, hreceived⟩ :=
    writePages_received hdev hboot herased htarget dev.pages (Nat.zero_add _)
      (fun h => absurd h (Nat.lt_irrefl 0)) hstart
  refine ⟨transfers, ?_, hreceived⟩
  rw [writeFlash, Micronucleus.addresses, List.range_eq_range']
  exact hwrite

/-- What a little bootloader has got of an upload. -/
structure Loaded where
  memory : Nat → Byte
  position : Nat

/-- A bootloader that writes at once what it gets. -/
def plainBootloader (dev : Micronucleus) : Bootloader Loaded where
  receive := fun st transfer =>
    if transfer.request = 1 then
      { st with position := transfer.index }
    else if transfer.request = 2 then
      { st with memory := fun address =>
          if address < dev.bootloaderStart then 0xFF else st.memory address }
    else if transfer.request = 3 then
      { memory := overlay st.memory st.position
          (wordBytes transfer.value ++ wordBytes transfer.index)
        position := st.position + 4 }
    else
      st
  flash := Loaded.memory

theorem wordBytes_pair
    (low high : Byte) :
    wordBytes (high.toNat * 256 + low.toNat) = [low, high] := by
  have hlow := low.toNat_lt
  have hdiv : (high.toNat * 256 + low.toNat) / 256 = high.toNat := by omega
  have hmod : UInt8.ofNat (high.toNat * 256 + low.toNat) = low := by
    apply UInt8.toNat_inj.mp
    rw [UInt8.toNat_ofNat']
    omega
  rw [wordBytes, hdiv, hmod, UInt8.ofNat_toNat]

/-- The words of a page fill it. -/
theorem foldl_plainBootloader
    (dev : Micronucleus)
    {buf : Bytes}
    {words : List Transfer}
    (hwords : wordTransfers buf = .ok words)
    (st : Loaded) :
    (words.foldl (plainBootloader dev).receive st).memory =
      overlay st.memory st.position buf := by
  fun_induction wordTransfers buf generalizing words st with
  | case1 =>
      obtain rfl := Except.ok.inj hwords
      simp
  | case2 b0 b1 b2 b3 rest transfers hrest ih =>
      obtain rfl := Except.ok.inj hwords
      have hword : (plainBootloader dev).receive st
          ⟨3, b1.toNat * 256 + b0.toNat, b3.toNat * 256 + b2.toNat, []⟩ =
            { memory := overlay st.memory st.position [b0, b1, b2, b3]
              position := st.position + 4 } := by
        simp [plainBootloader, wordBytes_pair]
      have happend : b0 :: b1 :: b2 :: b3 :: rest = [b0, b1, b2, b3] ++ rest := rfl
      rw [List.foldl_cons, hword, ih hrest, happend, overlay_append]
      rfl
  | case3 =>
      cases hwords
  | case4 =>
      cases hwords

theorem plainBootloader_contract
    (dev : Micronucleus) :
    (plainBootloader dev).Contract dev where
  erase st address := rfl
  page st page buf words _ _ hwords _ := by
    rw [Bootloader.flashAfter, List.foldl_cons]
    exact foldl_plainBootloader dev hwords _
  start st := rfl

/-- An erased device. -/
def erasedLoaded : Loaded where
  memory := fun _ => 0xFF
  position := 0

theorem erased_erasedLoaded
    (dev : Micronucleus) :
    Erased dev ((plainBootloader dev).flash erasedLoaded) :=
  fun _ _ => rfl

theorem sampleDevice_regular :
    sampleDevice.Regular := by
  constructor <;> decide

theorem good_or_firstBad
    (fails : Nat → Bool)
    (n : Nat) :
    GoodUpTo fails 0 n ∨ ∃ k < n, FirstBad fails 0 k := by
  by_cases hbad : ∃ k, k < n ∧ fails k = true
  · refine .inr ⟨Nat.find hbad, (Nat.find_spec hbad).1, Nat.zero_le _,
      (Nat.find_spec hbad).2, fun k _ hk => ?_⟩
    have hmin := Nat.find_min hbad hk
    have hlt : k < n := Nat.lt_trans hk (Nat.find_spec hbad).1
    simpa [hlt] using hmin
  · left
    intro k _ hk
    simpa [hk] using not_exists.mp hbad k

/-- A program that starts with a branch is sent whole, or up to a transfer that fails. -/
theorem writeFlash_of_branch
    (hdev : dev.Regular)
    (htarget : resetTarget (wordAt (padded size program) 0) (wordAt (padded size program) 2) =
      some target)
    (fails : Nat → Bool) :
    ∃ full, writeFlash dev fails size program = .ok (0, full) ∨
      ∃ n < full.length, writeFlash dev fails size program = .ok (-1, full.take (n + 1)) := by
  obtain ⟨full, hfull, -⟩ := exists_upload hdev (plainBootloader_contract dev)
    (erased_erasedLoaded dev) htarget
  have hcut := cut_writeFlash hfull fails
  rw [noticed_of_major hdev.major] at hcut
  refine ⟨full, ?_⟩
  rcases good_or_firstBad fails full.length with hgood | ⟨n, hn, hbad⟩
  · exact .inl (hcut.good hgood)
  · exact .inr ⟨n, hn, hcut.bad n hbad hn⟩

/-- The first page of a device with room. -/
theorem addresses_eq
    (hdev : dev.Regular) :
    dev.addresses = 0 :: (List.range' 1 (dev.pages - 1)).map
      fun page => page * dev.pageSize := by
  have hroom := hdev.room
  have hpositive : dev.pages ≠ 0 := by
    intro hzero
    rw [Micronucleus.bootloaderStart, hzero, Nat.zero_mul] at hroom
    omega
  obtain ⟨n, hn⟩ := Nat.exists_eq_succ_of_ne_zero hpositive
  rw [Micronucleus.addresses, hn, List.range_eq_range', List.range'_succ, List.map_cons,
    Nat.zero_mul]
  rfl

/-- Of a program that does not start with a branch nothing is sent. -/
theorem writeFlash_of_no_branch
    (hdev : dev.Regular)
    (hnone : resetTarget (wordAt (padded size program) 0) (wordAt (padded size program) 2) = none)
    (fails : Nat → Bool) :
    writeFlash dev fails size program = .ok (-1, []) := by
  have hsave : saveReset (pageOf (padded size program) 0 dev.pageSize) = .error .noBranch := by
    rw [saveReset_pageOf _ hdev.four_le, hnone]
  have hcopy : copyPage size 0 (dev.pageLength 0) program =
      pageOf (padded size program) 0 dev.pageSize := by
    rw [hdev.pageLength]
    rfl
  have hmajor := hdev.major
  have hprepare : preparePage dev size program 0 0 = .error .noBranch := by
    rw [preparePage, hcopy, if_neg (by omega), prepareFirst, if_pos rfl, hsave]
  rw [writeFlash, addresses_eq hdev, writePages, hprepare]

/-- Nothing is sent and the answer is -1 if and only if the program does not start with a
branch, whatever the answers of the device. -/
theorem writeFlash_refuses_iff
    (hdev : dev.Regular)
    (fails : Nat → Bool) :
    writeFlash dev fails size program = .ok (-1, []) ↔
      resetTarget (wordAt (padded size program) 0) (wordAt (padded size program) 2) = none := by
  constructor
  · intro hrefused
    by_contra hsome
    obtain ⟨target, htarget⟩ := Option.ne_none_iff_exists'.mp hsome
    obtain ⟨full, hall | ⟨n, hn, hsent⟩⟩ := writeFlash_of_branch hdev htarget fails
    · rw [hall] at hrefused
      simp at hrefused
    · rw [hsent] at hrefused
      obtain ⟨-, htake⟩ := Prod.mk.inj (Except.ok.inj hrefused)
      rw [List.take_eq_nil_iff] at htake
      rcases htake with htake | rfl
      · omega
      · simp at hn
  · exact fun hnone => writeFlash_of_no_branch hdev hnone fails

/-- Zeros are no program. -/
theorem writeFlash_refuses_zeros :
    writeFlash sampleDevice (fun n => n == 0) 8 (fun _ => 0) = .ok (-1, []) :=
  (writeFlash_refuses_iff sampleDevice_regular _).mpr (by decide)

end Received

section Vectors

/-- The word at an address branches to a word address, where `rjmp` wraps at 4096 words. -/
def LeadsTo (flash : Nat → Byte) (address target : Nat) : Prop :=
  (wordAt flash address = 0x940c ∧ wordAt flash (address + 2) = target) ∨
    (wordAt flash address &&& 0xf000 = 0xc000 ∧
      (address / 2 + 1 + (wordAt flash address &&& 0x0fff)) % 4096 = target % 4096)

instance decidableLeadsTo (flash : Nat → Byte) (address target : Nat) :
    Decidable (LeadsTo flash address target) :=
  instDecidableOr

variable {σ : Type} {boot : Bootloader σ} {st : σ}
variable {dev : Micronucleus} {size : Nat} {program : Nat → Byte} {target : Nat}

end Vectors

end Firmware
end BrBox
