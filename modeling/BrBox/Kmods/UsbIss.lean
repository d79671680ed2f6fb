import BrBox.Kmods.IssProgram

/-!
# The I2C adapter of the USB-ISS

`devantech_usb_xfer` translates the messages of a transfer into a program for the USB-ISS, in a
buffer of 60 bytes, and copies what has been read into the last message.

* `overruns_iff`: when the buffer is too short for what is stored.
* `sent_iff`: when a program is sent.
* `storeProgram_performs`: what the program does on the bus, and when it is the transfer.
-/

namespace BrBox
namespace Kmods

open CText

/-- `struct i2c_msg`, with the memory that `buf` points to. -/
structure I2cMsg where
  addr : UInt16
  flags : UInt16
  len : UInt16
  buf : Nat → Byte

/-- `I2C_M_RD` is set. -/
def I2cMsg.rd (m : I2cMsg) : Bool :=
  m.flags &&& 0x0001 ≠ 0

/-- `I2C_M_RECV_LEN` is set. -/
def I2cMsg.recvLen (m : I2cMsg) : Bool :=
  m.flags &&& 0x0400 ≠ 0

/-- The codes of a read of this length. -/
def storeRead (rlen : Nat) : Bytes :=
  if 16 < rlen then issRead 16 :: storeRead (rlen - 16)
  else (if 1 < rlen then [issRead (rlen - 1)] else []) ++ [0x04, issRead 1]

/-- The writes from this byte of a message on, behind so many bytes; false where there is no
room. -/
def storeWrite (pmsg : I2cMsg) (len rlen : Nat) : Bytes × Bool :=
  if rlen < pmsg.len.toNat then
    let clen := min (pmsg.len.toNat - rlen) 16
    if len + clen > 60 - 2 then ([], false)
    else
      let rest := storeWrite pmsg (len + 1 + clen) (rlen + 16)
      (issWrite clen :: (List.range clen).map (fun j => pmsg.buf (rlen + j)) ++ rest.1, rest.2)
  else ([], true)
termination_by pmsg.len.toNat - rlen

/-- One message behind its start; false where there is no room. -/
def storeBody (pmsg : I2cMsg) (len : Nat) : Bytes × Bool :=
  if pmsg.rd then
    ([issWrite 1, ((pmsg.addr <<< 1) ||| 1).toUInt8] ++
      (if pmsg.recvLen then [issRead 16, issRead 16, 0x04, issRead 1]
        else storeRead (min pmsg.len.toNat (60 - 8))), true)
  else
    let rest := storeWrite pmsg (len + 2) 0
    ([issWrite 1, (pmsg.addr <<< 1).toUInt8] ++ rest.1, rest.2)

/-- The messages behind the first one. -/
def storeRest (len : Nat) : List I2cMsg → Bytes × Bool
  | [] => ([], true)
  | pmsg :: msgs =>
      let body := storeBody pmsg (len + 1)
      if body.2 then
        let rest := storeRest (len + 1 + body.1.length) msgs
        (0x02 :: body.1 ++ rest.1, rest.2)
      else (0x02 :: body.1, false)

/-- All messages. -/
def storeMsgs (len : Nat) : List I2cMsg → Bytes × Bool
  | [] => ([], true)
  | pmsg :: msgs =>
      let body := storeBody pmsg len
      if body.2 then
        let rest := storeRest (len + body.1.length) msgs
        (body.1 ++ rest.1, rest.2)
      else body

/-- What is stored for a transfer; false where it is given up. -/
def storeProgram (msgs : List I2cMsg) : Bytes × Bool :=
  let stored := storeMsgs 2 msgs
  ([0x57, 0x01] ++ stored.1 ++ (if stored.2 then [0x03] else []), stored.2)

/-- `devantech_usb_transfer`, with the buffer afterwards. -/
def devantechUsbTransfer (usb : Bytes → UsbReply) (buffer : Bytes) (len : Nat) : Int × Bytes :=
  if len ≤ 0 ∨ len > 60 then (-22, buffer)
  else
    match usb (buffer.take len) with
    | .failed ret => (ret, buffer)
    | .received data =>
        let actual := data.take 60
        (actual.length, actual ++ buffer.drop actual.length)

/-- What has been received goes to the message; nothing where the length is wrong. -/
def copyReceived (ret : Int) (buffer : Bytes) (pmsg : I2cMsg) : Option I2cMsg :=
  if pmsg.rd then
    if pmsg.recvLen then
      let rlen := buffer.getD 2 0
      if rlen.toNat = 0 ∨ rlen.toNat > 32 ∨ (rlen.toNat : Int) > ret - 2 then none
      else
        let len := pmsg.len + rlen.toUInt16
        some { pmsg with
          len := len
          buf := fun i => if i < len.toNat then buffer.getD (i + 2) 0 else pmsg.buf i }
    else
      some { pmsg with
        buf := fun i => if (i : Int) < ret - 2 then buffer.getD (i + 2) 0 else pmsg.buf i }
  else some pmsg

/--
`devantech_usb_xfer`, with the messages afterwards; nothing where it stores outside of the buffer
or has no message.
-/
def devantechUsbXfer (usb : Bytes → UsbReply) (buffer : Bytes) (msgs : List I2cMsg) :
    Option (Int × List I2cMsg) :=
  let program := storeProgram msgs
  if program.1.length > 60 then none
  else if program.2 = false then some (-22, msgs)
  else
    let reply := devantechUsbTransfer usb (program.1 ++ buffer.drop program.1.length)
      program.1.length
    if reply.1 < 0 then some (reply.1, msgs)
    else if reply.1 < 2 then some (-5, msgs)
    else if reply.2.getD 0 0 = 0 then
      some (if reply.2.getD 1 0 = 0x01 then -6 else -5, msgs)
    else
      match msgs.getLast? with
      | none => none
      | some pmsg =>
          match copyReceived reply.1 reply.2 pmsg with
          | none => some (-71, msgs)
          | some pmsg' => some (0, msgs.dropLast ++ [pmsg'])

section Meaning

/-- The reads of a message; the last one is not acknowledged. -/
def readEvents : Nat → List BusEvent
  | 0 => []
  | n + 1 => List.replicate n (.read false) ++ [.read true]

/-- The data that is written. -/
def I2cMsg.data (m : I2cMsg) : Bytes :=
  (List.range m.len.toNat).map m.buf

/-- A message on the bus, with so many bytes where it reads. -/
def messageEvents (n : Nat) (m : I2cMsg) : List BusEvent :=
  if m.rd then .write ((m.addr <<< 1) ||| 1).toUInt8 :: readEvents n
  else .write (m.addr <<< 1).toUInt8 :: m.data.map .write

/-- The messages behind the first one, from this one on. -/
def restEvents (lens : Nat → I2cMsg → Nat) : Nat → List I2cMsg → List BusEvent
  | _, [] => []
  | i, m :: msgs => .restart :: messageEvents (lens i m) m ++ restEvents lens (i + 1) msgs

/-- All messages. -/
def msgsEvents (lens : Nat → I2cMsg → Nat) : List I2cMsg → List BusEvent
  | [] => []
  | m :: msgs => messageEvents (lens 0 m) m ++ restEvents lens 1 msgs

/-- A transfer on the bus. -/
def transferEvents (lens : Nat → I2cMsg → Nat) (msgs : List I2cMsg) : List BusEvent :=
  .start :: (msgsEvents lens msgs ++ [.stop])

/-- A block is its first byte and as many bytes as this says. -/
def I2cMsg.askedLen (first : Byte) (m : I2cMsg) : Nat :=
  if m.recvLen then 1 + first.toNat else m.len.toNat

/-- A block with the room for 32 bytes. -/
def I2cMsg.wholeLen (m : I2cMsg) : Nat :=
  if m.recvLen then 33 else m.len.toNat

/-- What the program reads. -/
def I2cMsg.storedLen (m : I2cMsg) : Nat :=
  if m.recvLen then 33 else max 1 (min m.len.toNat 52)

/-- A read of a number of bytes. -/
def I2cMsg.plainRead (m : I2cMsg) : Bool :=
  m.rd && !m.recvLen

/-- A read that can be translated. -/
def I2cMsg.Exact (m : I2cMsg) : Prop :=
  m.plainRead = true → 1 ≤ m.len.toNat ∧ m.len.toNat ≤ 52

instance (m : I2cMsg) : Decidable m.Exact :=
  inferInstanceAs (Decidable (_ → _))

end Meaning

section Translation

theorem plainRead_iff
    (m : I2cMsg) :
    m.plainRead = true ↔ m.rd = true ∧ m.recvLen = false := by
  rw [I2cMsg.plainRead, Bool.and_eq_true, Bool.not_eq_true']

/-- A byte of its own, such as the address of a device. -/
theorem performs_byte
    (value : Byte) :
    Performs [issWrite 1, value] [.write value] :=
  performs_write [value] (le_refl 1) (Nat.le_add_left 1 15)

theorem performs_storeRead
    (rlen : Nat) :
    Performs (storeRead rlen) (readEvents (max 1 rlen)) := by
  induction rlen using storeRead.induct with
  | case1 rlen hmore ih =>
      obtain ⟨n, hn⟩ : ∃ n, max 1 (rlen - 16) = n + 1 := ⟨rlen - 16 - 1, by omega⟩
      have hall : max 1 rlen = 16 + n + 1 := by omega
      have hcount : readEvents (max 1 rlen) =
          List.replicate 16 (.read false) ++ readEvents (max 1 (rlen - 16)) := by
        rw [hall, hn, readEvents, readEvents, ← List.append_assoc,
          List.replicate_append_replicate]
      rw [storeRead, if_pos hmore, hcount]
      exact (performs_read (by decide) (le_refl 16)).append ih
  | case2 rlen hmore =>
      obtain ⟨n, hn⟩ : ∃ n, max 1 rlen = n + 1 := ⟨rlen - 1, by omega⟩
      rw [storeRead, if_neg hmore, hn, readEvents]
      refine Performs.append ?_ performs_last
      split_ifs with hseveral
      · have hcount : n = rlen - 1 := by omega
        rw [hcount]
        exact performs_read (by omega) (by omega)
      · have hcount : n = 0 := by omega
        rw [hcount]
        exact performs_nil

/-- What is left of a message is a chunk and what is left behind it. -/
theorem rest_eq_chunk
    (buf : Nat → Byte)
    (len rlen : Nat) :
    (List.range (len - rlen)).map (fun j => buf (rlen + j)) =
      (List.range (min (len - rlen) 16)).map (fun j => buf (rlen + j)) ++
        (List.range (len - (rlen + 16))).map fun j => buf (rlen + 16 + j) := by
  by_cases hlast : len - rlen ≤ 16
  · have hnone : len - (rlen + 16) = 0 := by omega
    rw [min_eq_left hlast, hnone, List.range_zero, List.map_nil, List.append_nil]
  · have hcount : len - rlen = 16 + (len - (rlen + 16)) := by omega
    rw [min_eq_right (le_of_not_ge hlast), hcount, List.range_add, List.map_append, List.map_map]
    refine congrArg _ (List.map_congr_left fun j _ => ?_)
    rw [Function.comp_apply, Nat.add_assoc]

theorem performs_storeWrite
    (pmsg : I2cMsg)
    (len rlen : Nat)
    (hroom : (storeWrite pmsg len rlen).2 = true) :
    Performs (storeWrite pmsg len rlen).1
      (((List.range (pmsg.len.toNat - rlen)).map fun j => pmsg.buf (rlen + j)).map .write) := by
  induction len, rlen using storeWrite.induct pmsg with
  | case1 len rlen hmore clen hfull =>
      rw [storeWrite, if_pos hmore, if_pos hfull] at hroom
      exact absurd hroom Bool.false_ne_true
  | case2 len rlen hmore clen hfits ih =>
      rw [storeWrite, if_pos hmore, if_neg hfits] at hroom ⊢
      have hchunk : ((List.range clen).map fun j => pmsg.buf (rlen + j)).length = clen := by
        rw [List.length_map, List.length_range]
      have hfirst := performs_write ((List.range clen).map fun j => pmsg.buf (rlen + j))
        (by omega) (by omega)
      rw [hchunk] at hfirst
      rw [rest_eq_chunk, List.map_append]
      exact hfirst.append (ih hroom)
  | case3 len rlen hdone =>
      have hnone : pmsg.len.toNat - rlen = 0 := by omega
      rw [storeWrite, if_neg hdone, hnone]
      exact performs_nil

/-- A message is performed, with the length that is read for it. -/
theorem performs_storeBody
    {pmsg : I2cMsg}
    {len : Nat}
    (hroom : (storeBody pmsg len).2 = true) :
    Performs (storeBody pmsg len).1 (messageEvents pmsg.storedLen pmsg) := by
  rw [storeBody] at hroom ⊢
  rw [messageEvents]
  cases hrd : pmsg.rd with
  | false =>
      rw [hrd] at hroom
      have hwrite := performs_storeWrite pmsg (len + 2) 0 hroom
      simp only [Nat.zero_add, Nat.sub_zero] at hwrite
      exact (performs_byte _).append hwrite
  | true =>
      rw [I2cMsg.storedLen]
      cases hrecv : pmsg.recvLen with
      | true =>
          have hread : Performs [issRead 16, issRead 16, 0x04, issRead 1] (readEvents 33) :=
            ((performs_read (by decide) (le_refl 16)).append
              (performs_read (by decide) (le_refl 16))).append performs_last
          exact (performs_byte _).append hread
      | false =>
          exact (performs_byte _).append (performs_storeRead (min pmsg.len.toNat 52))

theorem performs_storeRest
    {len : Nat}
    {msgs : List I2cMsg}
    (hroom : (storeRest len msgs).2 = true)
    (i : Nat) :
    Performs (storeRest len msgs).1 (restEvents (fun _ => I2cMsg.storedLen) i msgs) := by
  induction msgs generalizing len i with
  | nil =>
      exact performs_nil
  | cons pmsg msgs ih =>
      rw [storeRest] at hroom ⊢
      cases hbody : (storeBody pmsg (len + 1)).2 with
      | false =>
          rw [hbody] at hroom
          exact absurd hroom Bool.false_ne_true
      | true =>
          rw [hbody] at hroom
          have hfirst := performs_restart.append (performs_storeBody hbody)
          exact hfirst.append (ih hroom (i + 1))

theorem performs_storeMsgs
    {len : Nat}
    {msgs : List I2cMsg}
    (hroom : (storeMsgs len msgs).2 = true) :
    Performs (storeMsgs len msgs).1 (msgsEvents (fun _ => I2cMsg.storedLen) msgs) := by
  cases msgs with
  | nil =>
      exact performs_nil
  | cons m msgs =>
      rw [storeMsgs] at hroom ⊢
      cases hbody : (storeBody m len).2 with
      | false =>
          rw [hbody] at hroom
          exact absurd (hbody.symm.trans hroom) Bool.false_ne_true
      | true =>
          rw [hbody] at hroom
          exact (performs_storeBody hbody).append (performs_storeRest hroom 1)

theorem storeProgram_eq
    {msgs : List I2cMsg}
    (hsent : (storeProgram msgs).2 = true) :
    (storeProgram msgs).1 = [0x57, 0x01] ++ (storeMsgs 2 msgs).1 ++ [0x03] := by
  rw [storeProgram]
  exact congrArg (fun stop => [0x57, 0x01] ++ (storeMsgs 2 msgs).1 ++ stop) (if_pos hsent)

/-- A transfer is performed, with the lengths that are read. -/
theorem events_storeProgram
    {iss : UsbIss}
    (hiss : iss.Contract)
    {devices : BusDevices}
    {msgs : List I2cMsg}
    (hsent : (storeProgram msgs).2 = true)
    (hroom : (storeProgram msgs).1.length ≤ 60)
    (hacks : devices.acks (transferEvents (fun _ => I2cMsg.storedLen) msgs) = true) :
    iss.events devices (storeProgram msgs).1 =
      transferEvents (fun _ => I2cMsg.storedLen) msgs := by
  rw [storeProgram_eq hsent] at hroom ⊢
  exact hiss.events_eq (performs_storeMsgs hsent) hroom hacks

/-- What the devices have answered comes back. -/
theorem reply_storeProgram
    {iss : UsbIss}
    (hiss : iss.Contract)
    {devices : BusDevices}
    {msgs : List I2cMsg}
    (hsent : (storeProgram msgs).2 = true)
    (hroom : (storeProgram msgs).1.length ≤ 60)
    (hacks : devices.acks (transferEvents (fun _ => I2cMsg.storedLen) msgs) = true)
    {data : Bytes}
    (hdata : answers devices.answer 0 0 (transferEvents (fun _ => I2cMsg.storedLen) msgs) =
      data)
    (hshort : data.length ≤ 58) :
    iss.reply devices (storeProgram msgs).1 =
      .received (0xff :: UInt8.ofNat data.length :: data) := by
  rw [storeProgram_eq hsent] at hroom ⊢
  exact hiss.reply_eq (performs_storeMsgs hsent) hroom hacks hdata hshort

/-- A device has not acknowledged. -/
theorem refused_storeProgram
    {iss : UsbIss}
    (hiss : iss.Contract)
    {devices : BusDevices}
    {msgs : List I2cMsg}
    (hsent : (storeProgram msgs).2 = true)
    (hroom : (storeProgram msgs).1.length ≤ 60)
    (hacks : devices.acks (transferEvents (fun _ => I2cMsg.storedLen) msgs) = false) :
    iss.reply devices (storeProgram msgs).1 = .received [0x00, 0x01] := by
  rw [storeProgram_eq hsent] at hroom ⊢
  exact hiss.reply_refused (performs_storeMsgs hsent) hroom hacks

theorem takeWhile_readEvents
    (n : Nat)
    {rest : List BusEvent}
    (hrest : ∀ event ∈ rest.head?, event.isRead = false) :
    ((readEvents n ++ rest).takeWhile BusEvent.isRead).length = n := by
  have hreads : ∀ event ∈ readEvents n, event.isRead = true := by
    intro event hmem
    cases n with
    | zero =>
        exact absurd hmem List.not_mem_nil
    | succ n =>
        rcases List.mem_append.mp hmem with hmem | hmem
        · rw [(List.mem_replicate.mp hmem).2, BusEvent.isRead]
        · rw [List.mem_singleton.mp hmem, BusEvent.isRead]
  have hlength : (readEvents n).length = n := by
    cases n with
    | zero =>
        rfl
    | succ n =>
        rw [readEvents, List.length_append, List.length_replicate, List.length_singleton]
  have hnone : rest.takeWhile BusEvent.isRead = [] := by
    cases rest with
    | nil =>
        rfl
    | cons event rest =>
        exact List.takeWhile_cons_of_neg (by rw [hrest event rfl]; exact Bool.false_ne_true)
  rw [List.takeWhile_append_of_pos hreads, hnone, List.append_nil, hlength]

/-- Where a message ends is seen on the bus. -/
theorem messageEvents_inj
    {m : I2cMsg}
    {n n' : Nat}
    {rest rest' : List BusEvent}
    (hrest : ∀ event ∈ rest.head?, event.isRead = false)
    (hrest' : ∀ event ∈ rest'.head?, event.isRead = false)
    (heq : messageEvents n m ++ rest = messageEvents n' m ++ rest') :
    (m.rd = true → n = n') ∧ rest = rest' := by
  rw [messageEvents, messageEvents] at heq
  cases hrd : m.rd with
  | false =>
      rw [hrd] at heq
      exact ⟨fun h => absurd h Bool.false_ne_true, List.append_cancel_left heq⟩
  | true =>
      rw [hrd, if_pos rfl, if_pos rfl, List.cons_append, List.cons_append] at heq
      have hreads := (List.cons.inj heq).2
      have hcount := congrArg (fun events => (events.takeWhile BusEvent.isRead).length) hreads
      simp only [takeWhile_readEvents _ hrest, takeWhile_readEvents _ hrest'] at hcount
      subst hcount
      exact ⟨fun _ => rfl, List.append_cancel_left hreads⟩

theorem head_restEvents
    (lens : Nat → I2cMsg → Nat)
    (i : Nat)
    (msgs : List I2cMsg) :
    ∀ event ∈ (restEvents lens i msgs ++ [BusEvent.stop]).head?, event.isRead = false := by
  cases msgs with
  | nil =>
      rintro event ⟨⟩
      rfl
  | cons m msgs =>
      rintro event ⟨⟩
      rfl

theorem messageEvents_congr
    {m : I2cMsg}
    {n n' : Nat}
    (hlen : m.rd = true → n = n') :
    messageEvents n m = messageEvents n' m := by
  cases hrd : m.rd with
  | false =>
      rw [messageEvents, messageEvents, hrd]
      rfl
  | true =>
      rw [hlen hrd]

section Lens

variable {lens lens' : Nat → I2cMsg → Nat}

theorem restEvents_eq_iff
    (i : Nat)
    (msgs : List I2cMsg) :
    restEvents lens i msgs ++ [.stop] = restEvents lens' i msgs ++ [.stop] ↔
      ∀ j, ∀ m ∈ msgs[j]?, m.rd = true → lens (i + j) m = lens' (i + j) m := by
  induction msgs generalizing i with
  | nil =>
      refine iff_of_true rfl fun j m hm => ?_
      cases hm
  | cons m msgs ih =>
      have hnext : ∀ j, i + 1 + j = i + (j + 1) := by
        intro j
        omega
      rw [restEvents, restEvents, List.cons_append, List.cons_append, List.cons_append,
        List.cons_append, List.append_assoc, List.append_assoc, List.cons.injEq]
      constructor
      · rintro ⟨-, heq⟩ j m' hm'
        obtain ⟨hfirst, hrest⟩ := messageEvents_inj (head_restEvents _ _ _)
          (head_restEvents _ _ _) heq
        cases j with
        | zero =>
            rw [List.getElem?_cons_zero, Option.mem_some_iff] at hm'
            subst hm'
            exact hfirst
        | succ j =>
            rw [← hnext]
            exact (ih (i + 1)).mp hrest j m' hm'
      · intro hlens
        have hrest := (ih (i + 1)).mpr fun j m' hm' => by
          rw [hnext]
          exact hlens (j + 1) m' hm'
        have hfirst : messageEvents (lens i m) m = messageEvents (lens' i m) m :=
          messageEvents_congr (hlens 0 m rfl)
        rw [hfirst, hrest]
        exact ⟨rfl, rfl⟩

/-- A transfer with other lengths is the same one where these are not of reads. -/
theorem transferEvents_eq_iff
    (msgs : List I2cMsg) :
    transferEvents lens msgs = transferEvents lens' msgs ↔
      ∀ i, ∀ m ∈ msgs[i]?, m.rd = true → lens i m = lens' i m := by
  -- a transfer is its messages behind a restart, with the start in its place
  have hcons : transferEvents lens msgs = transferEvents lens' msgs ↔
      restEvents lens 0 msgs ++ [BusEvent.stop] =
        restEvents lens' 0 msgs ++ [BusEvent.stop] := by
    cases msgs with
    | nil =>
        exact iff_of_true rfl rfl
    | cons m msgs =>
        rw [transferEvents, transferEvents, restEvents, restEvents, List.cons.injEq,
          List.cons_append, List.cons_append, List.cons_append, List.cons_append, List.cons.injEq]
        exact and_congr (iff_of_true rfl rfl) Iff.rfl
  rw [hcons, restEvents_eq_iff]
  simp only [Nat.zero_add]

end Lens

theorem storedLen_eq_wholeLen_iff
    (m : I2cMsg) :
    (m.rd = true → m.storedLen = m.wholeLen) ↔ m.Exact := by
  rw [I2cMsg.Exact, plainRead_iff, and_imp]
  refine imp_congr_right fun _ => ?_
  rw [I2cMsg.storedLen, I2cMsg.wholeLen]
  cases m.recvLen with
  | true =>
      exact iff_of_true rfl fun h => absurd h.symm Bool.false_ne_true
  | false =>
      rw [if_neg Bool.false_ne_true, if_neg Bool.false_ne_true]
      constructor
      · intro hsame _
        omega
      · intro hrange
        have hrange' := hrange rfl
        omega

theorem storedLen_eq_askedLen_iff
    (first : Byte)
    (m : I2cMsg) :
    (m.rd = true → m.storedLen = m.askedLen first) ↔
      m.Exact ∧ (m.rd = true → m.recvLen = true → first = 32) := by
  rw [← storedLen_eq_wholeLen_iff, ← forall_and]
  refine forall_congr' fun _ => ?_
  rw [I2cMsg.storedLen, I2cMsg.wholeLen, I2cMsg.askedLen]
  cases m.recvLen with
  | true =>
      have hfirst : 33 = 1 + first.toNat ↔ first = 32 := by
        rw [← UInt8.toNat_inj]
        show 33 = 1 + first.toNat ↔ first.toNat = 32
        omega
      rw [if_pos rfl, if_pos rfl, if_pos rfl, hfirst]
      exact ⟨fun h => ⟨rfl, fun _ => h⟩, fun h => h.2 rfl⟩
  | false =>
      exact ⟨fun h => ⟨h, fun hrecv => absurd hrecv Bool.false_ne_true⟩, fun h => h.1⟩

end Translation

section Size

/-- A write that has data. -/
def I2cMsg.hasData (m : I2cMsg) : Bool :=
  !m.rd && m.len.toNat ≠ 0

/-- The bytes of a program for a message behind its start. -/
def I2cMsg.size (m : I2cMsg) : Nat :=
  if m.rd then
    if m.recvLen then 6 else (min m.len.toNat 52 + 14) / 16 + 4
  else m.len.toNat + (m.len.toNat + 15) / 16 + 2

/-- The bytes for messages behind the first one. -/
def restSize (msgs : List I2cMsg) : Nat :=
  (msgs.map fun m => m.size + 1).sum

/-- The bytes in front of the stop. -/
def storedSize : List I2cMsg → Nat
  | [] => 2
  | m :: msgs => 2 + m.size + restSize msgs

/-- Behind so many bytes there is no room for the start of a message or for the stop. -/
def Overflows (len : Nat) : List I2cMsg → Prop
  | [] => 60 < len + 1
  | m :: msgs =>
      60 < len + 3 ∨
        (m.hasData = true → len + 1 + m.size ≤ 59) ∧ Overflows (len + 1 + m.size) msgs

/-- What is stored behind so many bytes, with the stop. -/
def storedRest (len : Nat) (msgs : List I2cMsg) : Nat :=
  (storeRest len msgs).1.length + if (storeRest len msgs).2 then 1 else 0

theorem length_storeRead
    (rlen : Nat) :
    (storeRead rlen).length = (rlen + 14) / 16 + 2 := by
  induction rlen using storeRead.induct with
  | case1 rlen hmore ih =>
      rw [storeRead, if_pos hmore, List.length_cons, ih]
      omega
  | case2 rlen hmore =>
      rw [storeRead, if_neg hmore, List.length_append]
      split_ifs with hseveral
      · simp only [List.length_cons, List.length_nil]
        omega
      · simp only [List.length_cons, List.length_nil]
        omega

/-- A write is stored up to the end of the buffer. -/
theorem length_storeWrite
    (pmsg : I2cMsg)
    (len rlen : Nat) :
    let rest := pmsg.len.toNat - rlen
    ((storeWrite pmsg len rlen).2 = true ↔ rest ≠ 0 → len + (rest + (rest + 15) / 16) ≤ 59) ∧
      ((storeWrite pmsg len rlen).2 = true →
        (storeWrite pmsg len rlen).1.length = rest + (rest + 15) / 16) ∧
      ((storeWrite pmsg len rlen).2 = false → (storeWrite pmsg len rlen).1 ≠ [] →
        len + (storeWrite pmsg len rlen).1.length ≤ 59) := by
  induction len, rlen using storeWrite.induct pmsg with
  | case1 len rlen hmore clen hfull =>
      rw [storeWrite, if_pos hmore, if_pos hfull]
      refine ⟨iff_of_false Bool.false_ne_true fun hroom => ?_,
        fun h => absurd h Bool.false_ne_true, fun _ h => absurd rfl h⟩
      have hroom' := hroom (by omega)
      omega
  | case2 len rlen hmore clen hfits ih =>
      obtain ⟨hroom, hlength, hstopped⟩ := ih
      rw [storeWrite, if_pos hmore, if_neg hfits]
      refine ⟨hroom.trans ?_, fun hall => ?_, fun hpart _ => ?_⟩
      · constructor
        · intro h _
          by_cases hlast : pmsg.len.toNat - (rlen + 16) = 0
          · omega
          · have hroom' := h hlast
            omega
        · intro h hlast
          have hroom' := h (by omega)
          omega
      · rw [List.length_append, List.length_cons, List.length_map, List.length_range,
          hlength hall]
        omega
      · rw [List.length_append, List.length_cons, List.length_map, List.length_range]
        by_cases hempty : (storeWrite pmsg (len + 1 + clen) (rlen + 16)).1 = []
        · rw [hempty, List.length_nil]
          omega
        · have hend := hstopped hpart hempty
          show len + (clen + 1 + (storeWrite pmsg (len + 1 + clen) (rlen + 16)).1.length) ≤ 59
          omega
  | case3 len rlen hdone =>
      rw [storeWrite, if_neg hdone]
      refine ⟨iff_of_true rfl fun h => absurd (by omega) h, fun _ => ?_,
        fun h => absurd h.symm Bool.false_ne_true⟩
      show 0 = _
      omega

/-- A message is stored where its data ends in front of the last byte of the buffer. -/
theorem length_storeBody
    (pmsg : I2cMsg)
    (len : Nat) :
    ((storeBody pmsg len).2 = true ↔ (pmsg.hasData = true → len + pmsg.size ≤ 59)) ∧
      ((storeBody pmsg len).2 = true → (storeBody pmsg len).1.length = pmsg.size) ∧
      ((storeBody pmsg len).2 = false →
        len + (storeBody pmsg len).1.length ≤ max (len + 2) 59) ∧
      2 ≤ (storeBody pmsg len).1.length := by
  rw [storeBody, I2cMsg.hasData, I2cMsg.size]
  cases hrd : pmsg.rd with
  | true =>
      refine ⟨iff_of_true rfl fun h => absurd h Bool.false_ne_true, fun _ => ?_,
        fun h => absurd h.symm Bool.false_ne_true, ?_⟩
      · cases hrecv : pmsg.recvLen with
        | true =>
            rfl
        | false =>
            show (_ :: _ :: storeRead (min pmsg.len.toNat 52)).length = _
            rw [List.length_cons, List.length_cons, length_storeRead]
            rfl
      · exact Nat.le_add_left _ _
  | false =>
      obtain ⟨hroom, hlength, hstopped⟩ := length_storeWrite pmsg (len + 2) 0
      rw [Nat.sub_zero] at hroom hlength
      refine ⟨hroom.trans ?_, fun hall => ?_, fun hpart => ?_, ?_⟩
      · have hdata : (!false && decide (pmsg.len.toNat ≠ 0)) = true ↔ pmsg.len.toNat ≠ 0 := by
          rw [Bool.not_false, Bool.true_and, decide_eq_true_eq]
        rw [hdata]
        refine imp_congr_right fun _ => ?_
        show _ ↔ len + (pmsg.len.toNat + (pmsg.len.toNat + 15) / 16 + 2) ≤ 59
        omega
      · show (_ :: _ :: (storeWrite pmsg (len + 2) 0).1).length = _
        rw [List.length_cons, List.length_cons, hlength hall]
        rfl
      · show len + (_ :: _ :: (storeWrite pmsg (len + 2) 0).1).length ≤ _
        rw [List.length_cons, List.length_cons]
        by_cases hempty : (storeWrite pmsg (len + 2) 0).1 = []
        · rw [hempty, List.length_nil]
          omega
        · have hend := hstopped hpart hempty
          omega
      · exact Nat.le_add_left _ _

theorem two_le_size
    (m : I2cMsg) :
    2 ≤ m.size := by
  rw [I2cMsg.size]
  split_ifs <;> omega

theorem overflows_of_lt
    {len : Nat}
    (hlate : 60 ≤ len)
    (msgs : List I2cMsg) :
    Overflows len msgs := by
  cases msgs with
  | nil =>
      show 60 < len + 1
      omega
  | cons m msgs =>
      exact .inl (by omega)

/-- What is stored behind the first message. -/
theorem overflows_iff
    (len : Nat)
    (msgs : List I2cMsg) :
    60 < len + storedRest len msgs ↔ Overflows len msgs := by
  induction msgs generalizing len with
  | nil =>
      rfl
  | cons m msgs ih =>
      obtain ⟨hroom, hlength, hstopped, hstart⟩ := length_storeBody m (len + 1)
      rw [storedRest, storeRest, Overflows]
      cases hbody : (storeBody m (len + 1)).2 with
      | true =>
          have hsize := hlength hbody
          have hleast := two_le_size m
          have hstored : len + storedRest len (m :: msgs) =
              len + 1 + m.size + storedRest (len + 1 + m.size) msgs := by
            rw [storedRest, storeRest, hbody, storedRest, ← hsize, if_pos rfl, List.length_append,
              List.length_cons]
            simp only
            omega
          rw [storedRest, storeRest, hbody] at hstored
          rw [hstored, ih]
          constructor
          · intro hover
            exact .inr ⟨hroom.mp hbody, hover⟩
          · rintro (hfull | ⟨-, hover⟩)
            · exact overflows_of_lt (by omega) msgs
            · exact hover
      | false =>
          have hend := hstopped hbody
          have hnot : ¬ (m.hasData = true → len + 1 + m.size ≤ 59) :=
            fun h => Bool.false_ne_true (hbody.symm.trans (hroom.mpr h))
          show 60 < len + ((0x02 :: (storeBody m (len + 1)).1).length + 0) ↔ _
          rw [List.length_cons]
          constructor
          · intro hover
            exact .inl (by omega)
          · rintro (hfull | ⟨hfits, -⟩)
            · omega
            · exact absurd hfits hnot

theorem restSize_cons
    (m : I2cMsg)
    (msgs : List I2cMsg) :
    restSize (m :: msgs) = m.size + 1 + restSize msgs := by
  rw [restSize, List.map_cons, List.sum_cons, restSize]

theorem length_storeRest
    {len : Nat}
    {msgs : List I2cMsg}
    (hroom : (storeRest len msgs).2 = true) :
    (storeRest len msgs).1.length = restSize msgs := by
  induction msgs generalizing len with
  | nil =>
      rfl
  | cons m msgs ih =>
      rw [storeRest] at hroom ⊢
      cases hbody : (storeBody m (len + 1)).2 with
      | true =>
          rw [hbody] at hroom
          have hsize := (length_storeBody m (len + 1)).2.1 hbody
          rw [restSize_cons, if_pos rfl, List.length_append, List.length_cons, hsize]
          rw [if_pos rfl, hsize] at hroom
          rw [ih hroom]
      | false =>
          rw [hbody] at hroom
          exact absurd hroom Bool.false_ne_true

/-- Where all messages and the stop have room nothing is given up. -/
theorem storeRest_of_le
    {len : Nat}
    {msgs : List I2cMsg}
    (hsmall : len + restSize msgs ≤ 59) :
    (storeRest len msgs).2 = true := by
  induction msgs generalizing len with
  | nil =>
      rfl
  | cons m msgs ih =>
      rw [restSize_cons] at hsmall
      obtain ⟨hroom, hlength, -⟩ := length_storeBody m (len + 1)
      have hbody := hroom.mpr fun _ => by omega
      rw [storeRest, hbody, if_pos rfl]
      exact ih (by rw [hlength hbody]; omega)

/-- A message from which on there is no room, with room for the data in front of it. -/
theorem overflows_iff_exists
    (len : Nat)
    (msgs : List I2cMsg) :
    Overflows len msgs ↔
      ∃ k ≤ msgs.length,
        (∀ j < k, ∀ m ∈ msgs[j]?, m.hasData = true → len + restSize (msgs.take (j + 1)) ≤ 59) ∧
          60 < len + restSize (msgs.take k) + if k < msgs.length then 3 else 1 := by
  induction msgs generalizing len with
  | nil =>
      constructor
      · exact fun hover => ⟨0, le_refl 0, fun j hj => absurd hj (Nat.not_lt_zero j), hover⟩
      · rintro ⟨k, hk, -, hover⟩
        rw [Nat.le_zero.mp hk] at hover
        exact hover
  | cons m msgs ih =>
      have htake : ∀ k, len + restSize ((m :: msgs).take (k + 1)) =
          len + 1 + m.size + restSize (msgs.take k) := by
        intro k
        rw [List.take_succ_cons, restSize_cons]
        omega
      rw [Overflows, ih]
      constructor
      · rintro (hfull | ⟨hfirst, k, hk, hfits, hover⟩)
        · exact ⟨0, Nat.zero_le _, fun j hj => absurd hj (Nat.not_lt_zero j), hfull⟩
        · refine ⟨k + 1, Nat.succ_le_succ hk, fun j hj m' hm' hdata => ?_, ?_⟩
          · rw [htake]
            cases j with
            | zero =>
                rw [List.getElem?_cons_zero, Option.mem_some_iff] at hm'
                subst hm'
                exact hfirst hdata
            | succ j =>
                exact hfits j (Nat.lt_of_succ_lt_succ hj) m' hm' hdata
          · rw [htake, List.length_cons]
            simp only [Nat.succ_lt_succ_iff]
            exact hover
      · rintro ⟨k, hk, hfits, hover⟩
        cases k with
        | zero =>
            exact .inl hover
        | succ k =>
            refine .inr ⟨fun hdata => ?_, k, Nat.le_of_succ_le_succ hk,
              fun j hj m' hm' hdata => ?_, ?_⟩
            · have hfirst := hfits 0 (Nat.succ_pos k) m rfl hdata
              rw [htake] at hfirst
              exact hfirst
            · have hnext := hfits (j + 1) (Nat.succ_lt_succ hj) m' hm' hdata
              rw [htake] at hnext
              exact hnext
            · rw [htake, List.length_cons] at hover
              simp only [Nat.succ_lt_succ_iff] at hover
              exact hover

theorem length_storeProgram_cons
    {m : I2cMsg}
    {msgs : List I2cMsg}
    (hbody : (storeBody m 2).2 = true) :
    (storeProgram (m :: msgs)).1.length = 2 + m.size + storedRest (2 + m.size) msgs := by
  have hsize := (length_storeBody m 2).2.1 hbody
  rw [storeProgram, storeMsgs, hbody, if_pos rfl, hsize, storedRest, List.length_append,
    List.length_append, List.length_append, hsize, List.length_cons, List.length_singleton]
  split_ifs
  · rw [List.length_singleton]
    omega
  · rw [List.length_nil]
    omega

/-- The first message has no restart in front of it, which makes it one byte shorter. -/
theorem overruns_iff_overflows
    (m : I2cMsg)
    (msgs : List I2cMsg) :
    60 < (storeProgram (m :: msgs)).1.length ↔ Overflows 1 (m :: msgs) := by
  obtain ⟨hroom, hlength, hstopped, hstart⟩ := length_storeBody m 2
  rw [Overflows]
  cases hbody : (storeBody m 2).2 with
  | true =>
      rw [length_storeProgram_cons hbody, overflows_iff]
      constructor
      · exact fun hover => .inr ⟨hroom.mp hbody, hover⟩
      · rintro (hfull | ⟨-, hover⟩)
        · exact absurd hfull (by decide)
        · exact hover
  | false =>
      have hend := hstopped hbody
      have hlen : (storeProgram (m :: msgs)).1.length = 2 + (storeBody m 2).1.length := by
        rw [storeProgram, storeMsgs, hbody]
        simp only [Bool.false_eq_true, if_false, hbody, List.append_nil, List.length_append,
          List.length_cons, List.length_nil]
      rw [hlen]
      refine iff_of_false (by omega) ?_
      rintro (hfull | ⟨hfits, -⟩)
      · exact absurd hfull (by decide)
      · exact Bool.false_ne_true (hbody.symm.trans (hroom.mpr hfits))

theorem storedSize_take_succ
    (m : I2cMsg)
    (msgs : List I2cMsg)
    (k : Nat) :
    storedSize ((m :: msgs).take (k + 1)) = 1 + restSize ((m :: msgs).take (k + 1)) := by
  rw [List.take_succ_cons, storedSize, restSize_cons]
  omega

/--
The buffer is overrun if and only if there are messages in front of which all data has room, and
whose program leaves none for the start of the next message or for the stop.
-/
theorem overruns_iff
    (msgs : List I2cMsg) :
    60 < (storeProgram msgs).1.length ↔
      ∃ k ≤ msgs.length,
        (∀ j < k, ∀ m ∈ msgs[j]?, m.hasData = true →
          storedSize (msgs.take (j + 1)) ≤ 59) ∧
          60 < storedSize (msgs.take k) + if k < msgs.length then 3 else 1 := by
  cases msgs with
  | nil =>
      refine iff_of_false (by decide) ?_
      rintro ⟨k, hk, -, hover⟩
      rw [Nat.le_zero.mp hk] at hover
      exact absurd hover (by decide)
  | cons m msgs =>
      rw [overruns_iff_overflows, overflows_iff_exists]
      refine exists_congr fun k => and_congr_right fun _ => and_congr ?_ ?_
      · simp only [storedSize_take_succ]
      · cases k with
        | zero =>
            rw [List.take_zero, storedSize, restSize, List.map_nil, List.sum_nil]
            split_ifs
            · exact iff_of_false (by decide) (by decide)
            · exact iff_of_false (by decide) (by decide)
        | succ k =>
            rw [storedSize_take_succ]

/-- A program is stored and sent if and only if it has at most 60 bytes. -/
theorem sent_iff
    (msgs : List I2cMsg) :
    (storeProgram msgs).2 = true ∧ (storeProgram msgs).1.length ≤ 60 ↔
      storedSize msgs + 1 ≤ 60 := by
  cases msgs with
  | nil =>
      exact iff_of_true (by decide) (by decide)
  | cons m msgs =>
      obtain ⟨hroom, hlength, hstopped, hstart⟩ := length_storeBody m 2
      rw [storedSize]
      cases hbody : (storeBody m 2).2 with
      | true =>
          have hall : (storeProgram (m :: msgs)).2 = (storeRest (2 + m.size) msgs).2 := by
            rw [storeProgram, storeMsgs, hbody, if_pos rfl, hlength hbody]
          rw [length_storeProgram_cons hbody, hall]
          constructor
          · rintro ⟨hrest, hle⟩
            rw [storedRest, hrest, if_pos rfl, length_storeRest hrest] at hle
            omega
          · intro hle
            have hrest := @storeRest_of_le (2 + m.size) msgs (by omega)
            refine ⟨hrest, ?_⟩
            rw [storedRest, hrest, if_pos rfl, length_storeRest hrest]
            omega
      | false =>
          have hall : (storeProgram (m :: msgs)).2 = false := by
            rw [storeProgram, storeMsgs, hbody]
            exact hbody
          rw [hall]
          refine iff_of_false (fun h => Bool.false_ne_true h.1) fun hle => ?_
          exact Bool.false_ne_true (hbody.symm.trans (hroom.mpr fun _ => by omega))

end Size

/--
The program for a transfer does what its messages ask for, with the lengths that are read; these
are the ones that are asked for if and only if no plain read is of 0 or of more than 52 bytes and
each block has 32 bytes.
-/
theorem storeProgram_performs
    {iss : UsbIss}
    (hiss : iss.Contract)
    {devices : BusDevices}
    {msgs : List I2cMsg}
    (hsent : (storeProgram msgs).2 = true)
    (hroom : (storeProgram msgs).1.length ≤ 60)
    (hacks : devices.acks (transferEvents (fun _ => I2cMsg.storedLen) msgs) = true) :
    iss.events devices (storeProgram msgs).1 =
        transferEvents (fun _ => I2cMsg.storedLen) msgs ∧
      (iss.events devices (storeProgram msgs).1 =
          transferEvents (fun i => I2cMsg.askedLen (devices.answer i 0)) msgs ↔
        ∀ i, ∀ m ∈ msgs[i]?,
          m.Exact ∧ (m.rd = true → m.recvLen = true → devices.answer i 0 = 32)) := by
  have hperforms := events_storeProgram hiss hsent hroom hacks
  refine ⟨hperforms, ?_⟩
  rw [hperforms, transferEvents_eq_iff]
  simp only [storedLen_eq_askedLen_iff]

/-- The number of a register is written, and two bytes of it are read. -/
def sampleTransfer : List I2cMsg :=
  [{ addr := 0x48, flags := 0x0000, len := 1, buf := fun _ => 0x05 },
    { addr := 0x48, flags := 0x0001, len := 2, buf := fun _ => 0x00 }]

/-- Devices that acknowledge everything. -/
def sampleDevices : BusDevices where
  answer := fun _ j => UInt8.ofNat (7 + j)
  acks := fun _ => true

theorem storedSize_sample :
    storedSize sampleTransfer + 1 ≤ 60 := by
  decide

theorem exact_sample :
    ∀ m ∈ sampleTransfer, m.Exact := by
  decide

theorem recvLen_sample :
    ∀ m ∈ sampleTransfer, m.recvLen = false := by
  decide

theorem storeProgram_performs_sample :
    plainIss.events sampleDevices (storeProgram sampleTransfer).1 =
      transferEvents (fun i => I2cMsg.askedLen (sampleDevices.answer i 0)) sampleTransfer := by
  obtain ⟨hsent, hroom⟩ := (sent_iff sampleTransfer).mpr storedSize_sample
  refine (storeProgram_performs plainIss_contract hsent hroom rfl).2.mpr fun i m hm => ?_
  have hmem : m ∈ sampleTransfer := List.mem_of_getElem? hm
  refine ⟨exact_sample m hmem, fun _ hrecv => ?_⟩
  exact absurd (hrecv.symm.trans (recvLen_sample m hmem)) Bool.false_ne_true.symm

end Kmods
end BrBox
