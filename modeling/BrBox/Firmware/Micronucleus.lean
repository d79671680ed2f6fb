import BrBox.Lib.CText

/-!
# Uploading a program with micronucleus

`micronucleus_writeFlash` sends a program page by page.  For a device of version 2 it puts a
branch to the bootloader in place of the reset vector of the program and moves that vector to
the end of the last page.  A step outside of the page buffer is an error of its own.  Waiting
and the display of progress are left out.

* `exists_micronucleusConnect_iff`: the devices that can be connected.
* `writeFlash_cut`: with transfers that fail, what is sent is cut behind the first of them
  that is noticed.
-/

namespace BrBox
namespace Firmware

open CText

/-- What `micronucleus_connect` keeps of a device. -/
structure Micronucleus where
  major : Nat
  minor : Nat
  flashSize : Nat
  pageSize : Nat
  pageSize_pos : 0 < pageSize
  pageSize_lt : pageSize < 256
  flashSize_lt : flashSize < 65536

/-- `pages`: one more for a part of a page. -/
def Micronucleus.pages (dev : Micronucleus) : Nat :=
  if dev.flashSize / dev.pageSize * dev.pageSize < dev.flashSize then
    dev.flashSize / dev.pageSize + 1
  else
    dev.flashSize / dev.pageSize

/-- `bootloader_start`. -/
def Micronucleus.bootloaderStart (dev : Micronucleus) : Nat :=
  dev.pages * dev.pageSize

/-- `MICRONUCLEUS_MAX_MAJOR_VERSION`. -/
def micronucleusMaxMajorVersion : Nat := 2

theorem flashSize_lt
    (high low : Byte) :
    high.toNat * 256 + low.toNat < 65536 := by
  have hhigh := high.toNat_lt
  have hlow := low.toNat_lt
  omega

/-- The device as `micronucleus_connect` reads it from the answer to request 0; none is a
refusal, a failed assertion or a division by a page size of zero. -/
def micronucleusConnect (major minor : Nat) (buffer : Bytes) : Option Micronucleus :=
  if micronucleusMaxMajorVersion < major then
    none
  else if buffer.length < (if 2 ≤ major then 6 else 4) then
    none
  else
    match buffer with
    | high :: low :: page :: _ =>
        if hpage : 0 < page.toNat then
          some
            { major := major
              minor := minor
              flashSize := high.toNat * 256 + low.toNat
              pageSize := page.toNat
              pageSize_pos := hpage
              pageSize_lt := page.toNat_lt
              flashSize_lt := flashSize_lt high low }
        else
          none
    | _ => none

/-- A device of each page size, flash size and version that is not too new can be connected. -/
theorem exists_micronucleusConnect_iff
    (dev : Micronucleus) :
    (∃ major minor buffer, micronucleusConnect major minor buffer = some dev) ↔
      dev.major ≤ micronucleusMaxMajorVersion := by
  constructor
  · rintro ⟨major, minor, buffer, hconnect⟩
    unfold micronucleusConnect at hconnect
    by_cases hmajor : micronucleusMaxMajorVersion < major
    · rw [if_pos hmajor] at hconnect
      cases hconnect
    · rw [if_neg hmajor] at hconnect
      by_cases hshort : buffer.length < (if 2 ≤ major then 6 else 4)
      · rw [if_pos hshort] at hconnect
        cases hconnect
      · rw [if_neg hshort] at hconnect
        split at hconnect
        · split at hconnect
          · obtain rfl := Option.some.inj hconnect
            exact Nat.not_lt.mp hmajor
          · cases hconnect
        · cases hconnect
  · intro hmajor
    have hflash := dev.flashSize_lt
    have hpage := dev.pageSize_lt
    refine ⟨dev.major, dev.minor, [UInt8.ofNat (dev.flashSize / 256),
      UInt8.ofNat dev.flashSize, UInt8.ofNat dev.pageSize, 0, 0, 0], ?_⟩
    have hpageByte : (UInt8.ofNat dev.pageSize).toNat = dev.pageSize := by
      rw [UInt8.toNat_ofNat']
      omega
    have hflashBytes : (UInt8.ofNat (dev.flashSize / 256)).toNat * 256 +
        (UInt8.ofNat dev.flashSize).toNat = dev.flashSize := by
      rw [UInt8.toNat_ofNat', UInt8.toNat_ofNat']
      omega
    have hlong : ¬ 6 < (if 2 ≤ dev.major then 6 else 4) := by
      split <;> omega
    simp only [micronucleusConnect, if_neg (Nat.not_lt.mpr hmajor), List.length_cons,
      List.length_nil, if_neg hlong, hpageByte, hflashBytes, dif_pos dev.pageSize_pos]

/-- A control transfer to the device. -/
structure Transfer where
  request : Nat
  value : Nat
  index : Nat
  data : Bytes
deriving DecidableEq, Repr

/-- Why no page is sent. -/
inductive Stop
  | outside
  | noBranch
deriving DecidableEq, Repr

section Upload

/-- `page_length` at an address; older bootloaders take less of the last page. -/
def Micronucleus.pageLength (dev : Micronucleus) (address : Nat) : Nat :=
  if dev.major = 1 ∧ dev.minor ≤ 2 ∧ address / dev.pageSize = dev.pages - 1 then
    dev.flashSize % dev.pageSize
  else
    dev.pageSize

/-- The page with the bytes of the program, padded. -/
def copyPage (size address length : Nat) (program : Nat → Byte) : Bytes :=
  (List.range length).map fun i =>
    if size < address + i then 0xFF else program (address + i)

/-- `pagecontainsdata` after the copy. -/
def pageContainsData (size address length : Nat) : Bool :=
  (List.range length).any fun i => !decide (size < address + i)

/-- Two bytes of the page buffer, the lower one first. -/
def putWord (buf : Bytes) (i data : Nat) : Except Stop Bytes :=
  if i + 1 < buf.length then
    .ok ((buf.set i (UInt8.ofNat data)).set (i + 1) (UInt8.ofNat (data / 256)))
  else
    .error .outside

/-- The word address that a reset vector branches to: a long jump, or `rjmp`. -/
def resetTarget (word0 word1 : Nat) : Option Nat :=
  if word0 = 0x940c then
    some word1
  else if word0 &&& 0xf000 = 0xc000 then
    some ((word0 &&& 0x0fff) + 1)
  else
    none

/-- The reset vector of the user. -/
def saveReset (buf : Bytes) : Except Stop Nat :=
  match buf with
  | b0 :: b1 :: b2 :: b3 :: _ =>
      match resetTarget (b1.toNat * 0x100 + b0.toNat) (b3.toNat * 0x100 + b2.toNat) with
      | some userReset => .ok userReset
      | none => .error .noBranch
  | _ => .error .outside

/-- `0xc000 | (k & 0x0fff)`. -/
def rjmpWord (k : Int) : Nat :=
  0xc000 ||| (k % 4096).toNat

/-- The branch to the bootloader. -/
def patchReset (dev : Micronucleus) (buf : Bytes) : Except Stop Bytes :=
  if 0x2000 < dev.bootloaderStart then
    match putWord buf 0 0x940c with
    | .ok buf' => putWord buf' 2 dev.bootloaderStart
    | .error stop => .error stop
  else
    putWord buf 0 (rjmpWord ((dev.bootloaderStart / 2 : Nat) - 1))

/-- `user_reset_addr`. -/
def Micronucleus.userResetAddr (dev : Micronucleus) : Nat :=
  dev.bootloaderStart - 4

/-- The branch to the program at the end of the last page. -/
def patchUser (dev : Micronucleus) (address userReset : Nat) (buf : Bytes) :
    Except Stop Bytes :=
  if 0x2000 < dev.userResetAddr then
    match putWord buf (dev.userResetAddr - address) 0x940c with
    | .ok buf' => putWord buf' (dev.userResetAddr - address + 2) userReset
    | .error stop => .error stop
  else
    putWord buf (dev.userResetAddr - address)
      (rjmpWord ((userReset : Int) - (dev.userResetAddr / 2 : Nat) - 1))

/-- The page at address 0, with the reset vector that was in it. -/
def prepareFirst (dev : Micronucleus) (address userReset : Nat) (buf : Bytes) :
    Except Stop (Bytes × Nat) :=
  if address = 0 then
    match saveReset buf with
    | .ok target =>
        match patchReset dev buf with
        | .ok buf' => .ok (buf', target)
        | .error stop => .error stop
    | .error stop => .error stop
  else
    .ok (buf, userReset)

/-- A page is the last one. -/
def Micronucleus.isLast (dev : Micronucleus) (address : Nat) : Prop :=
  dev.bootloaderStart - dev.pageSize ≤ address

instance decidableIsLast (dev : Micronucleus) (address : Nat) :
    Decidable (dev.isLast address) :=
  inferInstanceAs (Decidable (_ ≤ _))

/-- The page buffer at an address, and the reset vector of the user. -/
def preparePage
    (dev : Micronucleus) (size : Nat) (program : Nat → Byte) (address userReset : Nat) :
    Except Stop (Bytes × Nat) :=
  let buf := copyPage size address (dev.pageLength address) program
  if dev.major < 2 then
    .ok (buf, userReset)
  else
    match prepareFirst dev address userReset buf with
    | .error stop => .error stop
    | .ok (buf', userReset') =>
        if dev.isLast address then
          match patchUser dev address userReset' buf' with
          | .ok buf'' => .ok (buf'', userReset')
          | .error stop => .error stop
        else
          .ok (buf', userReset')

/-- The set up packets with two words each. -/
def wordTransfers : Bytes → Except Stop (List Transfer)
  | [] => .ok []
  | b0 :: b1 :: b2 :: b3 :: rest =>
      match wordTransfers rest with
      | .ok transfers =>
          .ok (⟨3, b1.toNat * 256 + b0.toNat, b3.toNat * 256 + b2.toNat, []⟩ :: transfers)
      | .error stop => .error stop
  | _ => .error .outside

/-- Transfers one after the other; the answer of each is that of its number. -/
def sendAll (fails : Nat → Bool) : List Transfer → List Transfer → Bool × List Transfer
  | sent, [] => (true, sent)
  | sent, transfer :: rest =>
      if fails sent.length then
        (false, sent ++ [transfer])
      else
        sendAll fails (sent ++ [transfer]) rest

/-- A page is sent; version 1 takes it as a block and its answer is not looked at. -/
def sendPage
    (dev : Micronucleus) (fails : Nat → Bool) (address : Nat) (buf : Bytes)
    (sent : List Transfer) : Except Stop (Bool × List Transfer) :=
  if dev.major = 1 then
    .ok (true, sent ++ [⟨1, buf.length, address, buf⟩])
  else if 2 ≤ dev.major then
    match wordTransfers buf with
    | .ok transfers => .ok (sendAll fails sent (⟨1, buf.length, address, []⟩ :: transfers))
    | .error stop => .error stop
  else
    .ok (true, sent)

/-- The loop of `micronucleus_writeFlash` over addresses; what it answers and what was sent. -/
def writePages
    (dev : Micronucleus) (fails : Nat → Bool) (size : Nat) (program : Nat → Byte) :
    List Nat → (userReset : Nat) → List Transfer → Except Stop (Int × List Transfer)
  | [], _, sent => .ok (0, sent)
  | address :: rest, userReset, sent =>
      match preparePage dev size program address userReset with
      | .error .outside => .error .outside
      | .error .noBranch => .ok (-1, sent)
      | .ok (buf, userReset') =>
          if pageContainsData size address (dev.pageLength address) = true ∨
              dev.isLast address then
            match sendPage dev fails address buf sent with
            | .error stop => .error stop
            | .ok (false, sent') => .ok (-1, sent')
            | .ok (true, sent') => writePages dev fails size program rest userReset' sent'
          else
            writePages dev fails size program rest userReset' sent

/-- The addresses of the loop. -/
def Micronucleus.addresses (dev : Micronucleus) : List Nat :=
  (List.range dev.pages).map fun page => page * dev.pageSize

/-- `micronucleus_writeFlash`; `userReset` is not set before the first page. -/
def writeFlash
    (dev : Micronucleus) (fails : Nat → Bool) (size : Nat) (program : Nat → Byte) :
    Except Stop (Int × List Transfer) :=
  writePages dev fails size program dev.addresses 0 []

end Upload

section Failures

variable {dev : Micronucleus} {fails : Nat → Bool} {size : Nat} {program : Nat → Byte}

/-- The answers from a number on are good up to another. -/
def GoodUpTo (fails : Nat → Bool) (start stop : Nat) : Prop :=
  ∀ n, start ≤ n → n < stop → fails n = false

/-- The first bad answer from a number on. -/
def FirstBad (fails : Nat → Bool) (start n : Nat) : Prop :=
  start ≤ n ∧ fails n = true ∧ GoodUpTo fails start n

theorem sendAll_good
    {sent transfers : List Transfer}
    (hgood : GoodUpTo fails sent.length (sent.length + transfers.length)) :
    sendAll fails sent transfers = (true, sent ++ transfers) := by
  induction transfers generalizing sent with
  | nil =>
      simp [sendAll]
  | cons transfer rest ih =>
      have hfirst : fails sent.length = false :=
        hgood _ (Nat.le_refl _) (by simp)
      have hrest : GoodUpTo fails (sent ++ [transfer]).length
          ((sent ++ [transfer]).length + rest.length) := by
        intro n hlow hhigh
        simp only [List.length_append, List.length_singleton] at hlow hhigh
        apply hgood n (by omega)
        rw [List.length_cons]
        omega
      rw [sendAll, if_neg (by simp [hfirst]), ih hrest, List.append_assoc,
        List.singleton_append]

theorem sendAll_bad
    {sent transfers : List Transfer}
    {n : Nat}
    (hbad : FirstBad fails sent.length n)
    (hn : n < sent.length + transfers.length) :
    sendAll fails sent transfers = (false, (sent ++ transfers).take (n + 1)) := by
  induction transfers generalizing sent with
  | nil =>
      have hlow := hbad.1
      simp only [List.length_nil] at hn
      omega
  | cons transfer rest ih =>
      obtain ⟨hlow, hfails, hgood⟩ := hbad
      by_cases hfirst : n = sent.length
      · subst hfirst
        rw [sendAll, if_pos hfails, List.take_length_add_append]
        rfl
      · have hok : fails sent.length = false := hgood _ (Nat.le_refl _) (by omega)
        have hbad' : FirstBad fails (sent ++ [transfer]).length n := by
          simp only [FirstBad, List.length_append, List.length_singleton]
          exact ⟨by omega, hfails, fun k hk hkn => hgood k (by omega) hkn⟩
        have hn' : n < (sent ++ [transfer]).length + rest.length := by
          simp only [List.length_append, List.length_singleton]
          rw [List.length_cons] at hn
          omega
        rw [sendAll, if_neg (by simp [hok]), ih hbad' hn', List.append_assoc,
          List.singleton_append]

/-- The transfers whose failure is noticed: none to a device of version 1. -/
def Micronucleus.noticed (dev : Micronucleus) (fails : Nat → Bool) (n : Nat) : Bool :=
  decide (2 ≤ dev.major) && fails n

theorem noticed_of_major
    (hmajor : 2 ≤ dev.major)
    (fails : Nat → Bool) :
    dev.noticed fails = fails := by
  funext n
  simp [Micronucleus.noticed, hmajor]

theorem noticed_of_major_lt
    (hmajor : dev.major < 2)
    (fails : Nat → Bool) :
    dev.noticed fails = fun _ => false := by
  funext n
  simp [Micronucleus.noticed, Nat.not_le.mpr hmajor]

/-- What is sent without failures, and what is sent with them. -/
structure Cut
    (fails : Nat → Bool) (sent full : List Transfer)
    (result : Except Stop (Int × List Transfer)) (code : Int) : Prop where
  sent_first : sent <+: full
  good : GoodUpTo fails sent.length full.length → result = .ok (code, full)
  bad : ∀ n, FirstBad fails sent.length n → n < full.length →
    result = .ok (-1, full.take (n + 1))

theorem sendPage_of_major
    (hmajor : 2 ≤ dev.major)
    (fails : Nat → Bool)
    (address : Nat)
    (buf : Bytes)
    (sent : List Transfer) :
    sendPage dev fails address buf sent =
      match wordTransfers buf with
      | .ok transfers => .ok (sendAll fails sent (⟨1, buf.length, address, []⟩ :: transfers))
      | .error stop => .error stop := by
  rw [sendPage, if_neg (by omega), if_pos hmajor]

theorem writePages_cut
    (hmajor : 2 ≤ dev.major)
    {addresses : List Nat}
    {userReset : Nat}
    {sent full : List Transfer}
    {code : Int}
    (hfull : writePages dev (fun _ => false) size program addresses userReset sent =
      .ok (code, full)) :
    Cut fails sent full (writePages dev fails size program addresses userReset sent) code := by
  induction addresses generalizing userReset sent with
  | nil =>
      obtain ⟨rfl, rfl⟩ := Prod.mk.inj (Except.ok.inj hfull)
      refine ⟨List.prefix_refl _, fun _ => rfl, fun n hbad hn => ?_⟩
      exact absurd hbad.1 (Nat.not_le.mpr hn)
  | cons address rest ih =>
      rw [writePages] at hfull ⊢
      cases hpage : preparePage dev size program address userReset with
      | error stop =>
          cases stop with
          | outside =>
              simp [hpage] at hfull
          | noBranch =>
              simp only [hpage] at hfull
              obtain ⟨rfl, rfl⟩ := Prod.mk.inj (Except.ok.inj hfull)
              refine ⟨List.prefix_refl _, fun _ => rfl, fun n hbad hn => ?_⟩
              exact absurd hbad.1 (Nat.not_le.mpr hn)
      | ok page =>
          obtain ⟨buf, userReset'⟩ := page
          simp only [hpage] at hfull
          by_cases hsend : pageContainsData size address (dev.pageLength address) = true ∨
              dev.isLast address
          · simp only [if_pos hsend] at hfull ⊢
            cases hwords : wordTransfers buf with
            | error stop =>
                simp [sendPage_of_major hmajor, hwords] at hfull
            | ok words =>
                simp only [sendPage_of_major hmajor, hwords] at hfull ⊢
                rw [sendAll_good fun _ _ _ => rfl] at hfull
                -- the transfers of this page come first, then those of the rest
                have hrest := ih hfull
                have hlen := hrest.sent_first.length_le
                rw [List.length_append] at hlen
                refine ⟨(List.prefix_append _ _).trans hrest.sent_first, fun hgood => ?_,
                  fun n hbad hn => ?_⟩
                · rw [sendAll_good fun n hlow hhigh => hgood n hlow (by omega)]
                  refine hrest.good fun n hlow hhigh => hgood n ?_ hhigh
                  rw [List.length_append] at hlow
                  omega
                · by_cases hhere : n < sent.length +
                      (Transfer.mk 1 buf.length address [] :: words).length
                  · obtain ⟨more, hmore⟩ := hrest.sent_first
                    have hlt : n + 1 ≤ (sent ++
                        Transfer.mk 1 buf.length address [] :: words).length := by
                      rw [List.length_append]
                      omega
                    rw [sendAll_bad hbad hhere, ← hmore, List.take_append_of_le_length hlt]
                  · have hgood : GoodUpTo fails sent.length (sent.length +
                        (Transfer.mk 1 buf.length address [] :: words).length) :=
                      fun k hlow hhigh => hbad.2.2 k hlow (by omega)
                    rw [sendAll_good hgood]
                    refine hrest.bad n ⟨?_, hbad.2.1, fun k hlow hhigh => ?_⟩ hn
                    · rw [List.length_append]
                      omega
                    · rw [List.length_append] at hlow
                      exact hbad.2.2 k (by omega) hhigh
          · simp only [if_neg hsend] at hfull ⊢
            exact ih hfull

/-- A page to a device of version 1 is sent whatever the answers are. -/
theorem sendPage_of_major_lt
    (hmajor : dev.major < 2)
    (fails : Nat → Bool)
    (address : Nat)
    (buf : Bytes)
    (sent : List Transfer) :
    sendPage dev fails address buf sent = sendPage dev (fun _ => false) address buf sent := by
  simp only [sendPage, if_neg (Nat.not_le.mpr hmajor)]

theorem writePages_of_major_lt
    (hmajor : dev.major < 2)
    (fails : Nat → Bool)
    (addresses : List Nat)
    (userReset : Nat)
    (sent : List Transfer) :
    writePages dev fails size program addresses userReset sent =
      writePages dev (fun _ => false) size program addresses userReset sent := by
  induction addresses generalizing userReset sent with
  | nil =>
      rfl
  | cons address rest ih =>
      simp only [writePages, sendPage_of_major_lt hmajor fails, ih]

/-- A page that is sent with failures and goes through has met none that is noticed. -/
theorem sendAll_eq_true
    {sent sent' transfers : List Transfer}
    (hsend : sendAll fails sent transfers = (true, sent')) :
    sent' = sent ++ transfers ∧ GoodUpTo fails sent.length sent'.length := by
  induction transfers generalizing sent with
  | nil =>
      obtain ⟨-, rfl⟩ := Prod.mk.inj hsend
      exact ⟨(List.append_nil _).symm, fun n hlow hhigh => absurd hlow (Nat.not_le.mpr hhigh)⟩
  | cons transfer rest ih =>
      rw [sendAll] at hsend
      split at hsend
      · cases hsend
      · rename_i hfirst
        obtain ⟨rfl, hgood⟩ := ih hsend
        refine ⟨by simp, fun n hlow hhigh => ?_⟩
        by_cases hn : n = sent.length
        · rw [hn]
          exact Bool.eq_false_iff.mpr hfirst
        · apply hgood n _ hhigh
          rw [List.length_append, List.length_singleton]
          omega

/-- Pages that are all taken are those of an upload without failures. -/
theorem writePages_eq_zero
    (hmajor : 2 ≤ dev.major)
    {addresses : List Nat}
    {userReset : Nat}
    {sent sent' : List Transfer}
    (hwrite : writePages dev fails size program addresses userReset sent = .ok (0, sent')) :
    writePages dev (fun _ => false) size program addresses userReset sent = .ok (0, sent') ∧
      sent <+: sent' ∧ GoodUpTo fails sent.length sent'.length := by
  induction addresses generalizing userReset sent with
  | nil =>
      obtain ⟨-, rfl⟩ := Prod.mk.inj (Except.ok.inj hwrite)
      exact ⟨rfl, List.prefix_refl _, fun n hlow hhigh => absurd hlow (Nat.not_le.mpr hhigh)⟩
  | cons address rest ih =>
      rw [writePages] at hwrite ⊢
      cases hpage : preparePage dev size program address userReset with
      | error stop =>
          cases stop with
          | outside | noBranch =>
              simp [hpage] at hwrite
      | ok page =>
          obtain ⟨buf, userReset'⟩ := page
          simp only [hpage] at hwrite ⊢
          by_cases hsend : pageContainsData size address (dev.pageLength address) = true ∨
              dev.isLast address
          · simp only [if_pos hsend, sendPage_of_major hmajor] at hwrite ⊢
            cases hwords : wordTransfers buf with
            | error stop =>
                simp [hwords] at hwrite
            | ok words =>
                simp only [hwords] at hwrite ⊢
                cases hall : sendAll fails sent (⟨1, buf.length, address, []⟩ :: words) with
                | mk taken sent₁ =>
                    cases taken with
                    | false =>
                        simp [hall] at hwrite
                    | true =>
                        obtain ⟨rfl, hgood⟩ := sendAll_eq_true hall
                        simp only [hall] at hwrite
                        obtain ⟨hnone, hprefix, hrest⟩ := ih hwrite
                        rw [sendAll_good fun _ _ _ => rfl]
                        refine ⟨hnone, (List.prefix_append _ _).trans hprefix, ?_⟩
                        intro n hlow hhigh
                        by_cases hhere : n < (sent ++
                            Transfer.mk 1 buf.length address [] :: words).length
                        · exact hgood n hlow hhere
                        · exact hrest n (Nat.not_lt.mp hhere) hhigh
          · simp only [if_neg hsend] at hwrite ⊢
            exact ih hwrite

/-- The whole upload is cut, too. -/
theorem cut_writeFlash
    {code : Int}
    {full : List Transfer}
    (hfull : writeFlash dev (fun _ => false) size program = .ok (code, full))
    (fails : Nat → Bool) :
    Cut (dev.noticed fails) [] full (writeFlash dev fails size program) code := by
  by_cases hmajor : 2 ≤ dev.major
  · rw [noticed_of_major hmajor]
    exact writePages_cut hmajor hfull
  · have hlt := Nat.not_le.mp hmajor
    have hsame : writeFlash dev fails size program = .ok (code, full) :=
      (writePages_of_major_lt hlt fails dev.addresses 0 []).trans hfull
    rw [noticed_of_major_lt hlt]
    exact ⟨List.nil_prefix, fun _ => hsame,
      fun n hbad _ => absurd hbad.2.1 Bool.false_ne_true⟩

/-- An upload comes to its end if and only if it does so without failures and none is noticed. -/
theorem writeFlash_eq_zero_iff
    (fails : Nat → Bool)
    (full : List Transfer) :
    writeFlash dev fails size program = .ok (0, full) ↔
      writeFlash dev (fun _ => false) size program = .ok (0, full) ∧
        GoodUpTo (dev.noticed fails) 0 full.length := by
  constructor
  · intro hwrite
    by_cases hmajor : 2 ≤ dev.major
    · obtain ⟨hnone, -, hgood⟩ := writePages_eq_zero hmajor hwrite
      rw [noticed_of_major hmajor]
      exact ⟨hnone, hgood⟩
    · have hlt := Nat.not_le.mp hmajor
      rw [noticed_of_major_lt hlt]
      exact ⟨(writePages_of_major_lt hlt fails dev.addresses 0 []).symm.trans hwrite,
        fun _ _ _ => rfl⟩
  · rintro ⟨hnone, hgood⟩
    exact (cut_writeFlash hnone fails).good hgood

theorem samplePageSize_pos :
    0 < 8 := by
  decide

theorem samplePageSize_lt :
    8 < 256 := by
  decide

theorem sampleFlashSize_lt :
    15 < 65536 := by
  decide

/-- A device of two pages. -/
def sampleDevice : Micronucleus where
  major := 2
  minor := 0
  flashSize := 15
  pageSize := 8
  pageSize_pos := samplePageSize_pos
  pageSize_lt := samplePageSize_lt
  flashSize_lt := sampleFlashSize_lt

/-- A program that starts at word 3. -/
def sampleProgram (address : Nat) : Byte :=
  [0x02, 0xc0, 0x18, 0x95, 0x18, 0x95, 0xff, 0xcf].getD address 0xFF

/-- With transfers that fail, what is sent is what would be sent without failures, cut behind
the first transfer whose failure is noticed. -/
theorem writeFlash_cut
    {code : Int}
    {full : List Transfer}
    (hfull : writeFlash dev (fun _ => false) size program = .ok (code, full))
    (fails : Nat → Bool) :
    (GoodUpTo (dev.noticed fails) 0 full.length →
        writeFlash dev fails size program = .ok (code, full)) ∧
      ∀ n, FirstBad (dev.noticed fails) 0 n → n < full.length →
        writeFlash dev fails size program = .ok (-1, full.take (n + 1)) := by
  have hcut := cut_writeFlash hfull fails
  exact ⟨hcut.good, hcut.bad⟩

/-- The second word of the first page is not taken. -/
theorem writeFlash_cut_second :
    ∃ full, writeFlash sampleDevice (fun _ => false) 8 sampleProgram = .ok (0, full) ∧
      writeFlash sampleDevice (fun n => n == 2) 8 sampleProgram = .ok (-1, full.take 3) := by
  obtain ⟨full, hfull, hlength⟩ : ∃ full,
      writeFlash sampleDevice (fun _ => false) 8 sampleProgram = .ok (0, full) ∧
        2 < full.length :=
    ⟨_, rfl, by decide⟩
  have hbad : FirstBad (sampleDevice.noticed fun n => n == 2) 0 2 := by
    refine ⟨by decide, rfl, fun k _ hk => ?_⟩
    simp only [Micronucleus.noticed, Bool.and_eq_false_iff, beq_eq_false_iff_ne, ne_eq]
    omega
  exact ⟨full, hfull, (writeFlash_cut hfull _).2 2 hbad hlength⟩

end Failures

end Firmware
end BrBox
