import BrBox.Kmods.UsbIss

/-!
# Transfers through the USB-ISS

The adapter at a USB-ISS with devices on its bus.  A transfer is right if the bus sees its messages
and each message is given what its device has answered, or if a device that does not acknowledge is
reported.

* `answers_transferEvents`: what the devices answer to a transfer, message by message.
* `transferRight_iff`: the transfers that are right whatever devices there are.
-/

namespace BrBox
namespace Kmods

open CText

/-- A message that holds so many bytes of an answer. -/
def I2cMsg.holding (m : I2cMsg) (len : UInt16) (data : Nat → Byte) : I2cMsg :=
  { m with
    len := len
    buf := fun i => if i < len.toNat then data i else m.buf i }

/-- A message with what its device has answered; a block is as long as its first byte says. -/
def I2cMsg.answered (slave : Nat → Nat → Byte) (i : Nat) (m : I2cMsg) : I2cMsg :=
  if m.rd then
    m.holding (if m.recvLen then m.len + (slave i 0).toUInt16 else m.len) (slave i)
  else m

/-- The blocks that are read have a length. -/
def CountsValid (slave : Nat → Nat → Byte) (msgs : List I2cMsg) : Prop :=
  ∀ i, ∀ m ∈ msgs[i]?, m.rd = true → m.recvLen = true →
    1 ≤ (slave i 0).toNat ∧ (slave i 0).toNat ≤ 32

/-- The devices acknowledge the writes of a transfer, in which each block is read whole. -/
def BusDevices.Acknowledge (devices : BusDevices) (msgs : List I2cMsg) : Prop :=
  devices.acks (transferEvents (fun _ => I2cMsg.wholeLen) msgs) = true

/-- A transfer does on the bus and to its messages what these mean. -/
structure TransferRight (iss : UsbIss) (devices : BusDevices) (buffer : Bytes)
    (msgs : List I2cMsg) : Prop where
  bus : devices.Acknowledge msgs →
    iss.events devices (storeProgram msgs).1 =
      transferEvents (fun _ => I2cMsg.wholeLen) msgs
  served : devices.Acknowledge msgs → CountsValid devices.answer msgs →
    devantechUsbXfer (iss.reply devices) buffer msgs =
      some (0, msgs.mapIdx (I2cMsg.answered devices.answer))
  refused : devices.Acknowledge msgs → ¬ CountsValid devices.answer msgs →
    devantechUsbXfer (iss.reply devices) buffer msgs = some (-71, msgs)
  absent : ¬ devices.Acknowledge msgs →
    devantechUsbXfer (iss.reply devices) buffer msgs = some (-6, msgs)

/-- There is room, no read is too short or too long, and only the last message reads. -/
structure Servable (msgs : List I2cMsg) : Prop where
  some_message : msgs ≠ []
  room : storedSize msgs + 1 ≤ 60
  exact : ∀ m ∈ msgs, m.Exact
  writes : ∀ m ∈ msgs.dropLast, m.rd = false

section Devices

variable (slave : Nat → Nat → Byte)

/-- The bytes that are read for a message. -/
def readBytes (i n : Nat) (m : I2cMsg) : Bytes :=
  if m.rd then (List.range n).map (slave i) else []

theorem answers_readEvents
    (i n : Nat)
    (events : List BusEvent) :
    answers slave i 0 (readEvents n ++ events) =
      (List.range n).map (slave i) ++ answers slave i n events := by
  cases n with
  | zero =>
      rfl
  | succ n =>
      have hevents : readEvents (n + 1) ++ events =
          List.replicate n (.read false) ++ (.read true :: events) :=
        List.append_assoc _ _ _
      rw [hevents, answers_reads, answers, List.range_succ, List.map_append, List.append_assoc]
      simp only [Nat.zero_add]
      rfl

theorem answers_messageEvents
    (i n : Nat)
    (m : I2cMsg)
    (events : List BusEvent) :
    ∃ pos, answers slave i 0 (messageEvents n m ++ events) =
      readBytes slave i n m ++ answers slave i pos events := by
  rw [messageEvents, readBytes]
  cases m.rd with
  | false =>
      exact ⟨0, answers_writes slave i 0 m.data events⟩
  | true =>
      exact ⟨_, answers_readEvents slave i _ events⟩

variable (lens : Nat → I2cMsg → Nat)

theorem answers_restEvents
    (i pos : Nat)
    (msgs : List I2cMsg) :
    answers slave i pos (restEvents lens (i + 1) msgs ++ [.stop]) =
      (msgs.mapIdx fun j m => readBytes slave (i + 1 + j) (lens (i + 1 + j) m) m).flatten := by
  induction msgs generalizing i pos with
  | nil =>
      rfl
  | cons m msgs ih =>
      have hevents : restEvents lens (i + 1) (m :: msgs) ++ [BusEvent.stop] =
          .restart :: (messageEvents (lens (i + 1) m) m ++
            (restEvents lens (i + 1 + 1) msgs ++ [BusEvent.stop])) := by
        rw [restEvents, List.cons_append, List.cons_append, List.append_assoc]
      obtain ⟨pos', hmessage⟩ := answers_messageEvents slave (i + 1) (lens (i + 1) m) m
        (restEvents lens (i + 1 + 1) msgs ++ [BusEvent.stop])
      have hindex : ∀ j, i + 1 + 1 + j = i + 1 + (j + 1) := by
        intro j
        omega
      rw [hevents, answers, hmessage, ih, List.mapIdx_cons, List.flatten_cons]
      simp only [hindex, Nat.add_zero]

/-- What the devices answer to a transfer. -/
theorem answers_transferEvents
    (msgs : List I2cMsg) :
    answers slave 0 0 (transferEvents lens msgs) =
      (msgs.mapIdx fun i m => readBytes slave i (lens i m) m).flatten := by
  cases msgs with
  | nil =>
      rfl
  | cons m msgs =>
      obtain ⟨pos, hmessage⟩ := answers_messageEvents slave 0 (lens 0 m) m
        (restEvents lens 1 msgs ++ [BusEvent.stop])
      have hevents : answers slave 0 0 (transferEvents lens (m :: msgs)) =
          answers slave 0 0 (messageEvents (lens 0 m) m ++
            (restEvents lens 1 msgs ++ [BusEvent.stop])) := by
        rw [transferEvents, msgsEvents, List.append_assoc]
        rfl
      have hrest := answers_restEvents slave lens 0 pos msgs
      simp only [Nat.zero_add] at hrest
      rw [hevents, hmessage, hrest, List.mapIdx_cons, List.flatten_cons]
      simp only [Nat.add_comm 1]

end Devices

section Transfers

variable {slave : Nat → Nat → Byte}
variable {buffer : Bytes}

/-- Only the last message is answered. -/
theorem answers_init
    {init : List I2cMsg}
    (hwrites : ∀ m ∈ init, m.rd = false)
    (pmsg : I2cMsg) :
    answers slave 0 0 (transferEvents (fun _ => I2cMsg.wholeLen) (init ++ [pmsg])) =
      readBytes slave init.length pmsg.wholeLen pmsg := by
  have hnone : (init.mapIdx fun i m => readBytes slave i m.wholeLen m).flatten = [] := by
    rw [List.flatten_eq_nil_iff]
    intro data hmem
    obtain ⟨i, hi, rfl⟩ := List.exists_of_mem_mapIdx hmem
    rw [readBytes, hwrites _ (List.getElem_mem hi)]
    rfl
  rw [answers_transferEvents, List.mapIdx_concat, List.flatten_append, hnone, List.nil_append,
    List.flatten_singleton]

theorem mapIdx_answered_init
    {init : List I2cMsg}
    (hwrites : ∀ m ∈ init, m.rd = false)
    (pmsg : I2cMsg) :
    (init ++ [pmsg]).mapIdx (I2cMsg.answered slave) =
      init ++ [pmsg.answered slave init.length] := by
  have hinit : init.mapIdx (I2cMsg.answered slave) = init := by
    rw [List.mapIdx_eq_iff]
    intro i
    cases hget : init[i]? with
    | none =>
        rfl
    | some m =>
        rw [Option.map_some, I2cMsg.answered, hwrites m (List.mem_of_getElem? hget)]
        rfl
  rw [List.mapIdx_concat, hinit]

/-- What a reply with data comes to. -/
theorem devantechUsbXfer_received
    (buffer : Bytes)
    {usb : Bytes → UsbReply}
    {init : List I2cMsg}
    {pmsg : I2cMsg}
    {count : Byte}
    {data : Bytes}
    (hsent : (storeProgram (init ++ [pmsg])).2 = true)
    (hroom : (storeProgram (init ++ [pmsg])).1.length ≤ 60)
    (husb : usb (storeProgram (init ++ [pmsg])).1 = .received (0xff :: count :: data))
    (hshort : data.length ≤ 58) :
    ∃ rest : Bytes, ∀ copied,
      copyReceived (data.length + 2) (0xff :: count :: (data ++ rest)) pmsg = copied →
        devantechUsbXfer usb buffer (init ++ [pmsg]) =
          copied.elim (some (-71, init ++ [pmsg])) fun pmsg' => some (0, init ++ [pmsg']) := by
  have hlong : 2 ≤ (storeProgram (init ++ [pmsg])).1.length := by
    rw [storeProgram, List.length_append, List.length_append, List.length_cons,
      List.length_singleton]
    omega
  generalize hprogram : storeProgram (init ++ [pmsg]) = program at *
  refine ⟨(program.1 ++ buffer.drop program.1.length).drop (data.length + 2),
    fun copied hcopied => ?_⟩
  have htransfer : devantechUsbTransfer usb (program.1 ++ buffer.drop program.1.length)
      program.1.length =
        ((data.length : Int) + 2,
          0xff :: count ::
            (data ++ (program.1 ++ buffer.drop program.1.length).drop (data.length + 2))) := by
    have htake : (0xff :: count :: data : Bytes).take 60 = 0xff :: count :: data :=
      List.take_of_length_le (by rw [List.length_cons, List.length_cons]; omega)
    rw [devantechUsbTransfer, if_neg (by omega), List.take_left, husb]
    simp only [htake, List.length_cons, List.cons_append]
    rfl
  rw [devantechUsbXfer, hprogram]
  simp only [htransfer, hsent, List.getLast?_concat, List.dropLast_concat, hcopied]
  rw [if_neg (by omega), if_neg (by decide), if_neg (by omega), if_neg (by omega),
    if_neg (by exact (by decide : ¬ (0xff : Byte) = 0))]
  cases copied <;> rfl

theorem getD_reply
    (f : Nat → Byte)
    {n j : Nat}
    (hj : j < n)
    (status count : Byte)
    (rest : Bytes) :
    (status :: count :: ((List.range n).map f ++ rest)).getD (j + 2) 0 = f j := by
  have hlength : j < ((List.range n).map f).length := by
    rw [List.length_map, List.length_range]
    exact hj
  rw [List.getD_cons_succ, List.getD_cons_succ, List.getD_eq_getElem?_getD,
    List.getElem?_append_left hlength, List.getElem?_map, List.getElem?_range hj, Option.map_some,
    Option.getD_some]

theorem length_readBytes
    (slave : Nat → Nat → Byte)
    (i n : Nat)
    (m : I2cMsg) :
    (readBytes slave i n m).length = if m.rd then n else 0 := by
  rw [readBytes]
  cases m.rd with
  | false =>
      rfl
  | true =>
      rw [if_pos rfl, if_pos rfl, List.length_map, List.length_range]

/-- What a reply without an acknowledge comes to. -/
theorem devantechUsbXfer_absent
    (buffer : Bytes)
    {usb : Bytes → UsbReply}
    {msgs : List I2cMsg}
    (hsent : (storeProgram msgs).2 = true)
    (hroom : (storeProgram msgs).1.length ≤ 60)
    (husb : usb (storeProgram msgs).1 = .received [0x00, 0x01]) :
    devantechUsbXfer usb buffer msgs = some (-6, msgs) := by
  have hlong : 2 ≤ (storeProgram msgs).1.length := by
    rw [storeProgram, List.length_append, List.length_append, List.length_cons,
      List.length_singleton]
    omega
  have htransfer : devantechUsbTransfer usb
      ((storeProgram msgs).1 ++ buffer.drop (storeProgram msgs).1.length)
        (storeProgram msgs).1.length =
      (2, 0x00 :: 0x01 ::
        ((storeProgram msgs).1 ++ buffer.drop (storeProgram msgs).1.length).drop 2) := by
    rw [devantechUsbTransfer, if_neg (by omega), List.take_left, husb]
    rfl
  rw [devantechUsbXfer]
  simp only [htransfer, hsent]
  rw [if_neg (by omega), if_neg (by decide), if_neg (by decide), if_neg (by decide)]
  rfl

/-- A message is given what its device has answered. -/
theorem copyReceived_readBytes
    {m : I2cMsg}
    {i : Nat}
    (hblock : m.rd = true → m.recvLen = true → m.len = 1)
    (hvalid : m.rd = true → m.recvLen = true →
      1 ≤ (slave i 0).toNat ∧ (slave i 0).toNat ≤ 32)
    (status count : Byte)
    (rest : Bytes) :
    copyReceived ((readBytes slave i m.wholeLen m).length + 2)
        (status :: count :: (readBytes slave i m.wholeLen m ++ rest)) m =
      some (m.answered slave i) := by
  rw [length_readBytes, copyReceived, I2cMsg.answered, readBytes, I2cMsg.wholeLen]
  cases hrd : m.rd with
  | false =>
      rfl
  | true =>
      cases hrecv : m.recvLen with
      | false =>
          refine congrArg some ?_
          rw [I2cMsg.holding]
          refine congrArg (I2cMsg.mk m.addr m.flags m.len) (funext fun j => ?_)
          by_cases hj : j < m.len.toNat
          · have hbound : (j : Int) < (m.len.toNat : Int) + 2 - 2 := by omega
            exact (if_pos hbound).trans ((getD_reply _ hj _ _ _).trans (if_pos hj).symm)
          · have hbound : ¬ (j : Int) < (m.len.toNat : Int) + 2 - 2 := by omega
            exact (if_neg hbound).trans (if_neg hj).symm
      | true =>
          obtain ⟨hpos, hle⟩ := hvalid hrd hrecv
          have hcount : (status :: count :: ((List.range 33).map (slave i) ++ rest)).getD 2 0 =
              slave i 0 :=
            getD_reply (slave i) (by decide : 0 < 33) status count rest
          have hlen : (m.len + (slave i 0).toUInt16).toNat ≤ 33 := by
            rw [hblock hrd hrecv, UInt16.toNat_add, UInt8.toNat_toUInt16]
            show (1 + _) % _ ≤ 33
            omega
          simp only [if_true, hcount]
          rw [if_neg (by omega)]
          refine congrArg some ?_
          rw [I2cMsg.holding]
          refine congrArg (I2cMsg.mk m.addr m.flags _) (funext fun j => ?_)
          by_cases hj : j < (m.len + (slave i 0).toUInt16).toNat
          · rw [if_pos hj, if_pos hj]
            exact getD_reply (slave i) (by omega : j < 33) status count rest
          · rw [if_neg hj, if_neg hj]

/-- A block of a wrong length is refused. -/
theorem copyReceived_refused
    {m : I2cMsg}
    {i : Nat}
    (hrd : m.rd = true)
    (hrecv : m.recvLen = true)
    (hbad : ¬ (1 ≤ (slave i 0).toNat ∧ (slave i 0).toNat ≤ 32))
    (ret : Int)
    (status count : Byte)
    (rest : Bytes) :
    copyReceived ret (status :: count :: (readBytes slave i m.wholeLen m ++ rest)) m = none := by
  have hcount : (status :: count :: ((List.range 33).map (slave i) ++ rest)).getD 2 0 =
      slave i 0 :=
    getD_reply (slave i) (by decide : 0 < 33) status count rest
  rw [copyReceived, readBytes, I2cMsg.wholeLen, hrd, hrecv]
  simp only [if_true, hcount]
  exact if_pos (by omega)

theorem countsValid_init_iff
    {init : List I2cMsg}
    (hwrites : ∀ m ∈ init, m.rd = false)
    (pmsg : I2cMsg) :
    CountsValid slave (init ++ [pmsg]) ↔
      (pmsg.rd = true → pmsg.recvLen = true →
        1 ≤ (slave init.length 0).toNat ∧ (slave init.length 0).toNat ≤ 32) := by
  constructor
  · intro hvalid
    exact hvalid init.length pmsg (by rw [List.getElem?_concat_length]; rfl)
  · intro hlast i m hget hrd hrecv
    rcases Nat.lt_trichotomy i init.length with hi | rfl | hi
    · rw [List.getElem?_append_left hi] at hget
      have hwrite := hwrites m (List.mem_of_getElem? hget)
      exact absurd (hwrite.symm.trans hrd) Bool.false_ne_true
    · rw [List.getElem?_concat_length, Option.mem_some_iff] at hget
      subst hget
      exact hlast hrd hrecv
    · rw [List.getElem?_eq_none (by rw [List.length_append, List.length_singleton]; omega)]
        at hget
      cases hget

/-- Where plain reads have their length the program reads what it should. -/
theorem transferEvents_storedLen
    {msgs : List I2cMsg}
    (hexact : ∀ m ∈ msgs, m.Exact) :
    transferEvents (fun _ => I2cMsg.storedLen) msgs =
      transferEvents (fun _ => I2cMsg.wholeLen) msgs := by
  rw [transferEvents_eq_iff]
  exact fun i m hm => (storedLen_eq_wholeLen_iff m).mpr (hexact m (List.mem_of_getElem? hm))

/-- A transfer in which only the last message reads is right. -/
theorem transferRight_of_servable
    {iss : UsbIss}
    (hiss : iss.Contract)
    (devices : BusDevices)
    (buffer : Bytes)
    {msgs : List I2cMsg}
    (hblock : ∀ m ∈ msgs, m.rd = true → m.recvLen = true → m.len = 1)
    (hservable : Servable msgs) :
    TransferRight iss devices buffer msgs := by
  obtain ⟨hsome, hroom, hexact, hwrites⟩ := hservable
  obtain ⟨init, pmsg, rfl⟩ : ∃ init pmsg, msgs = init ++ [pmsg] :=
    ⟨msgs.dropLast, msgs.getLast hsome, (List.dropLast_concat_getLast hsome).symm⟩
  rw [List.dropLast_concat] at hwrites
  obtain ⟨hsent, hshort⟩ := (sent_iff _).mpr hroom
  have hlast : pmsg ∈ init ++ [pmsg] := List.mem_append_right _ List.mem_cons_self
  have hevents := transferEvents_storedLen hexact
  set data := readBytes devices.answer init.length pmsg.wholeLen pmsg with hdata
  have hdata_le : data.length ≤ 58 := by
    rw [hdata, length_readBytes, I2cMsg.wholeLen]
    split_ifs with hrd hrecv
    · decide
    · have hrange := hexact pmsg hlast ((plainRead_iff pmsg).mpr
        ⟨hrd, Bool.eq_false_iff.mpr hrecv⟩)
      omega
    · decide
  -- what the driver is told where everything is acknowledged
  have hreceived : devices.Acknowledge (init ++ [pmsg]) →
      iss.reply devices (storeProgram (init ++ [pmsg])).1 =
        .received (0xff :: UInt8.ofNat data.length :: data) := by
    intro hacks
    refine reply_storeProgram hiss hsent hshort (hevents.symm ▸ hacks) ?_ hdata_le
    rw [hevents]
    exact answers_init hwrites pmsg
  refine ⟨fun hacks => ?_, fun hacks hvalid => ?_, fun hacks hbad => ?_, fun habsent => ?_⟩
  · exact (events_storeProgram hiss hsent hshort (hevents.symm ▸ hacks)).trans hevents
  · obtain ⟨rest, hxfer⟩ :=
      devantechUsbXfer_received buffer hsent hshort (hreceived hacks) hdata_le
    rw [countsValid_init_iff hwrites] at hvalid
    rw [mapIdx_answered_init hwrites]
    exact hxfer _ (copyReceived_readBytes (hblock pmsg hlast) hvalid _ _ rest)
  · obtain ⟨rest, hxfer⟩ :=
      devantechUsbXfer_received buffer hsent hshort (hreceived hacks) hdata_le
    rw [countsValid_init_iff hwrites] at hbad
    have hrd : pmsg.rd = true := by
      by_contra hrd
      exact hbad fun h => absurd h hrd
    have hrecv : pmsg.recvLen = true := by
      by_contra hrecv
      exact hbad fun _ h => absurd h hrecv
    have hcount : ¬ (1 ≤ (devices.answer init.length 0).toNat ∧
        (devices.answer init.length 0).toNat ≤ 32) :=
      fun h => hbad fun _ _ => h
    exact hxfer _ (copyReceived_refused hrd hrecv hcount _ _ _ rest)
  · refine devantechUsbXfer_absent buffer hsent hshort ?_
    refine refused_storeProgram hiss hsent hshort ?_
    rw [hevents]
    exact Bool.eq_false_iff.mpr habsent

/-- A transfer that succeeds changes no message but the last one. -/
theorem devantechUsbXfer_zero
    {usb : Bytes → UsbReply}
    {msgs msgs' : List I2cMsg}
    (hzero : devantechUsbXfer usb buffer msgs = some (0, msgs')) :
    ((storeProgram msgs).2 = true ∧ (storeProgram msgs).1.length ≤ 60) ∧
      ∃ pmsg', msgs ≠ [] ∧ msgs' = msgs.dropLast ++ [pmsg'] := by
  rw [devantechUsbXfer] at hzero
  simp only at hzero
  split_ifs at hzero with hlong hgiven hfailed hshort hnack
  · have hret : (-22 : Int) = 0 := congrArg Prod.fst (Option.some.inj hzero)
    omega
  · have hret : (devantechUsbTransfer _ _ _).1 = 0 := congrArg Prod.fst (Option.some.inj hzero)
    omega
  · have hret : (-5 : Int) = 0 := congrArg Prod.fst (Option.some.inj hzero)
    omega
  · have hret : (-6 : Int) = 0 := congrArg Prod.fst (Option.some.inj hzero)
    omega
  · have hret : (-5 : Int) = 0 := congrArg Prod.fst (Option.some.inj hzero)
    omega
  · refine ⟨⟨(Bool.not_eq_false _).mp hgiven, le_of_not_gt hlong⟩, ?_⟩
    cases hlast : msgs.getLast? with
    | none =>
        rw [hlast] at hzero
        cases hzero
    | some pmsg =>
        simp only [hlast] at hzero
        split at hzero
        · have hret : (-71 : Int) = 0 := congrArg Prod.fst (Option.some.inj hzero)
          omega
        · rename_i pmsg' hcopied
          refine ⟨pmsg', ?_, (congrArg Prod.snd (Option.some.inj hzero)).symm⟩
          rintro rfl
          cases hlast

/-- A message that reads holds something else after an answer that differs. -/
theorem answered_ne
    {m : I2cMsg}
    (hrd : m.rd = true)
    (hblock : m.rd = true → m.recvLen = true → m.len = 1)
    (hexact : m.Exact)
    {c : Byte}
    (hc : c = 1 ∨ c = 2)
    (hother : c ≠ m.buf 0)
    (i : Nat) :
    m.answered (fun _ _ => c) i ≠ m := by
  intro heq
  rw [I2cMsg.answered, if_pos hrd] at heq
  cases hrecv : m.recvLen with
  | true =>
      have hlen := congrArg I2cMsg.len heq
      rw [hrecv, if_pos rfl] at hlen
      change m.len + c.toUInt16 = m.len at hlen
      rw [hblock hrd hrecv] at hlen
      rcases hc with rfl | rfl
      · exact absurd hlen (by decide)
      · exact absurd hlen (by decide)
  | false =>
      have hpos := (hexact ((plainRead_iff m).mpr ⟨hrd, hrecv⟩)).1
      have hbuf := congrFun (congrArg I2cMsg.buf heq) 0
      rw [hrecv, if_neg Bool.false_ne_true] at hbuf
      change (if 0 < m.len.toNat then c else m.buf 0) = m.buf 0 at hbuf
      rw [if_pos (Nat.lt_of_succ_le hpos)] at hbuf
      exact hother hbuf

/-- Devices that acknowledge everything and always answer with this byte. -/
def answering (c : Byte) : BusDevices where
  answer := fun _ _ => c
  acks := fun _ => true

/--
Whatever devices there are, a transfer is right if and only if its program has room, no plain read
is of 0 or of more than 52 bytes, and no message but the last one reads.
-/
theorem transferRight_iff
    {iss : UsbIss}
    (hiss : iss.Contract)
    (buffer : Bytes)
    {msgs : List I2cMsg}
    (hblock : ∀ m ∈ msgs, m.rd = true → m.recvLen = true → m.len = 1) :
    (∀ devices, TransferRight iss devices buffer msgs) ↔ Servable msgs := by
  constructor
  · intro hright
    have hserved : ∀ c : Byte, c = 1 ∨ c = 2 →
        devantechUsbXfer (iss.reply (answering c)) buffer msgs =
          some (0, msgs.mapIdx (I2cMsg.answered fun _ _ => c)) := by
      intro c hc
      refine (hright (answering c)).served rfl fun i m _ _ _ => ?_
      show 1 ≤ c.toNat ∧ c.toNat ≤ 32
      rcases hc with rfl | rfl
      · exact ⟨by decide, by decide⟩
      · exact ⟨by decide, by decide⟩
    obtain ⟨hsent, -, hsome, -⟩ := devantechUsbXfer_zero (hserved 1 (.inl rfl))
    have hbus := (hright (answering 1)).bus rfl
    rw [events_storeProgram hiss hsent.1 hsent.2 rfl, transferEvents_eq_iff] at hbus
    have hexact : ∀ m ∈ msgs, m.Exact := by
      intro m hmem
      obtain ⟨i, hget⟩ := List.mem_iff_getElem?.mp hmem
      exact (storedLen_eq_wholeLen_iff m).mp (hbus i m hget)
    refine ⟨hsome, (sent_iff msgs).mp hsent, hexact, fun m hmem => ?_⟩
    by_contra hrd
    rw [Bool.not_eq_false] at hrd
    -- an answer that the message does not hold yet
    obtain ⟨c, hc, hother⟩ : ∃ c : Byte, (c = 1 ∨ c = 2) ∧ c ≠ m.buf 0 := by
      by_cases hone : (1 : Byte) = m.buf 0
      · exact ⟨2, .inr rfl, fun h => absurd (hone.trans h.symm) (by decide)⟩
      · exact ⟨1, .inl rfl, hone⟩
    obtain ⟨-, pmsg', -, hkept⟩ := devantechUsbXfer_zero (hserved c hc)
    obtain ⟨j, hget⟩ := List.mem_iff_getElem?.mp hmem
    have hj : j < msgs.dropLast.length := (List.getElem?_eq_some_iff.mp hget).1
    have hmsg : msgs[j]? = some m := by
      rw [List.getElem?_dropLast] at hget
      split_ifs at hget
      exact hget
    have hsame := congrArg (fun l => l[j]?) hkept
    simp only [List.getElem?_mapIdx, hmsg, List.getElem?_append_left hj, hget, Option.map_some,
      Option.some.injEq] at hsame
    have hthere : m ∈ msgs := List.mem_of_getElem? hmsg
    exact answered_ne hrd (hblock m hthere) (hexact m hthere) hc hother j hsame
  · exact fun hservable devices =>
      transferRight_of_servable hiss devices buffer hblock hservable

theorem transferRight_iff_sample :
    TransferRight plainIss sampleDevices [] sampleTransfer :=
  (transferRight_iff plainIss_contract [] (by decide)).mpr
    ⟨by decide, storedSize_sample, exact_sample, by decide⟩ _

end Transfers

end Kmods
end BrBox
