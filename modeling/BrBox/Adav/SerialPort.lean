import BrBox.Lib.CText
import BrBox.Lib.LabelledRun

/-!
# The serial port

`ADSerial` sends scheduled messages from one thread, reads the line from a
second and hands what it read to its user from a third; the callbacks of the
three exclude each other.  Between any two of their calls the port may put
bytes on the wire and the line may bring new ones, so a run is a list of calls
of all of these in any order.

A message starts with a flush of both queues of the port.  `serialOk_run` says
that no byte is lost or reordered in a run whose flushes find both queues empty
and that sends nothing after a write has failed; without failed writes the
first condition is also needed.
-/

namespace BrBox
namespace Adav

open CText
open LabelledRun

/-- `MAX_RX_TX_CHUNK_SZ`. -/
def maxRxTxChunkSz : Nat := 4096

/-- The serial port with its history. -/
structure Serial where
  txChain : List Bytes
  rxChain : List Bytes
  /-- What `write_serial_data` has still to write; the tx thread has the lock. -/
  sending : Option Bytes
  /-- The queues of the port. -/
  outQueue : Bytes
  inQueue : Bytes
  /-- The messages accepted by `schedule_data_transmission`, in call order. -/
  scheduled : List Bytes
  /-- The bytes that went over the wire. -/
  wire : Bytes
  /-- The bytes that came in over the line. -/
  incoming : Bytes
  /-- The chunks the user has taken out of `rx_chain`. -/
  delivered : List Bytes
  /-- The bytes a flush has thrown away. -/
  lostOut : Bytes
  lostIn : Bytes
  /-- Some write has failed. -/
  writeFailed : Bool
deriving DecidableEq, Repr

/-- The port after `start`. -/
def Serial.start : Serial :=
  { txChain := []
    rxChain := []
    sending := none
    outQueue := []
    inQueue := []
    scheduled := []
    wire := []
    incoming := []
    delivered := []
    lostOut := []
    lostIn := []
    writeFailed := false }

/-- The bytes that were ever stored in `rx_chain`. -/
def Serial.stored (s : Serial) : Bytes :=
  s.delivered.flatten ++ s.rxChain.flatten

/-- What is left of the message that is being written. -/
def Serial.left (s : Serial) : Bytes :=
  s.sending.getD []

/-- The calls of the threads, and what the port and the line do. -/
inductive SerialCall where
  /-- `schedule_data_transmission`. -/
  | schedule (data : Bytes)
  /-- The tx thread takes a message and flushes the port. -/
  | transmit
  /-- One `write` of `write_serial_data`; none when it fails. -/
  | write (result : Option Nat)
  /-- The rx thread reads. -/
  | receive (count : Nat)
  /-- The user takes chunks out of `rx_chain`. -/
  | deliver (count : Nat)
  /-- The port puts bytes on the wire. -/
  | drain (count : Nat)
  /-- The line brings bytes. -/
  | arrive (data : Bytes)
deriving DecidableEq, Repr

/-- `push_data_into_chain`: big chunks are refused. -/
def pushDataIntoChain (chain : List Bytes) (data : Bytes) : Option (List Bytes) :=
  if maxRxTxChunkSz < data.length then none else some (chain ++ [data])

/-- One call; none when the call cannot happen now. -/
def serialStep (s : Serial) : SerialCall → Option Serial
  | .schedule data =>
      match pushDataIntoChain s.txChain data with
      | none => some s
      | some chain => some { s with txChain := chain, scheduled := s.scheduled ++ [data] }
  | .transmit =>
      if s.sending ≠ none then
        none
      else
        match s.txChain with
        | [] => some s
        | data :: chain =>
            -- `tcflush(fd, TCIOFLUSH)`; a message without bytes is not written at all.
            some
              { s with
                txChain := chain
                sending := if data = [] then none else some data
                lostOut := s.lostOut ++ s.outQueue
                lostIn := s.lostIn ++ s.inQueue
                outQueue := []
                inQueue := [] }
  | .write result =>
      match s.sending with
      | none => none
      | some left =>
          match result with
          | none => some { s with sending := none, writeFailed := true }
          | some count =>
              if left.length < count then
                none
              else
                some
                  { s with
                    outQueue := s.outQueue ++ left.take count
                    sending := if left.length = count then none else some (left.drop count) }
  | .receive count =>
      if s.sending ≠ none ∨ s.inQueue.length < count ∨ maxRxTxChunkSz - 1 < count then
        none
      else if count < 1 then
        some s
      else
        match pushDataIntoChain s.rxChain (s.inQueue.take count) with
        | none => some { s with inQueue := s.inQueue.drop count }
        | some chain => some { s with rxChain := chain, inQueue := s.inQueue.drop count }
  | .deliver count =>
      if s.sending ≠ none ∨ s.rxChain.length < count then
        none
      else
        some
          { s with
            rxChain := s.rxChain.drop count
            delivered := s.delivered ++ s.rxChain.take count }
  | .drain count =>
      if s.outQueue.length < count then
        none
      else
        some
          { s with
            outQueue := s.outQueue.drop count
            wire := s.wire ++ s.outQueue.take count }
  | .arrive data =>
      some { s with inQueue := s.inQueue ++ data, incoming := s.incoming ++ data }

/-- Nothing is lost or reordered, in either direction. -/
structure SerialOk (s : Serial) : Prop where
  wire : s.wire <+: s.scheduled.flatten
  accepted : s.writeFailed = false → s.lostOut = []
  stored : s.stored <+: s.incoming
  arrived : s.lostIn = []

/-- A message that is taken up finds both queues empty; after a failed write only
    a message without bytes is. -/
def FlushOk (s : Serial) : SerialCall → Prop
  | .transmit =>
      ∀ data chain, s.txChain = data :: chain →
        s.inQueue = [] ∧
        (s.writeFailed = false → s.outQueue = []) ∧
        (s.writeFailed = true → data = [])
  | _ => True

instance (s : Serial) : (call : SerialCall) → Decidable (FlushOk s call)
  | .transmit =>
      match hchain : s.txChain with
      | [] =>
          isTrue (by
            intro data chain hcons
            rw [hchain] at hcons
            cases hcons)
      | data :: chain =>
          decidable_of_iff
            (s.inQueue = [] ∧ (s.writeFailed = false → s.outQueue = []) ∧
              (s.writeFailed = true → data = []))
            (by simp [FlushOk, hchain])
  | .schedule _ | .write _ | .receive _ | .deliver _ | .drain _ | .arrive _ =>
      isTrue trivial

/-- Where the bytes of both directions are. -/
structure PortInv (s : Serial) : Prop where
  arrived : s.lostIn = []
  incoming : s.incoming = s.stored ++ s.inQueue
  accepted : s.writeFailed = false → s.lostOut = []
  scheduled :
    s.writeFailed = false →
      s.scheduled.flatten = s.wire ++ s.outQueue ++ s.left ++ s.txChain.flatten
  failed :
    s.writeFailed = true →
      s.sending = none ∧ s.wire ++ s.outQueue <+: s.scheduled.flatten

theorem PortInv.start :
    PortInv Serial.start :=
  { arrived := rfl
    incoming := rfl
    accepted := fun _ => rfl
    scheduled := fun _ => rfl
    failed := fun hfailed => absurd hfailed (by decide) }

/-- The bytes are where they have to be. -/
theorem PortInv.ok
    {s : Serial}
    (hinv : PortInv s) :
    SerialOk s where
  wire := by
    cases hfailed : s.writeFailed with
    | false =>
        rw [hinv.scheduled hfailed, List.append_assoc, List.append_assoc]
        exact List.prefix_append _ _
    | true => exact (List.prefix_append _ _).trans (hinv.failed hfailed).2
  accepted := hinv.accepted
  stored := by
    rw [hinv.incoming]
    exact List.prefix_append _ _
  arrived := hinv.arrived

section Steps

variable {s t : Serial}

/-- Only the messages and the history of the sender are touched. -/
theorem portInv_schedule
    (hinv : PortInv s)
    {data : Bytes}
    (hstep : serialStep s (.schedule data) = some t) :
    PortInv t := by
  by_cases hlong : maxRxTxChunkSz < data.length
  · simp only [serialStep, pushDataIntoChain, if_pos hlong] at hstep
    cases hstep
    exact hinv
  · simp only [serialStep, pushDataIntoChain, if_neg hlong] at hstep
    cases hstep
    exact
      { hinv with
        scheduled := by
          intro hfailed
          have hsched := hinv.scheduled hfailed
          simp only [Serial.left, List.flatten_append, List.flatten_singleton] at hsched ⊢
          rw [hsched]
          simp only [List.append_assoc]
        failed := by
          intro hfailed
          obtain ⟨hsending, hwire⟩ := hinv.failed hfailed
          refine ⟨hsending, hwire.trans ?_⟩
          rw [List.flatten_append]
          exact List.prefix_append _ _ }

/-- A flush of two empty queues throws nothing away. -/
theorem portInv_transmit
    (hinv : PortInv s)
    (hcond : FlushOk s .transmit)
    (hstep : serialStep s .transmit = some t) :
    PortInv t := by
  unfold serialStep at hstep
  by_cases hsending : s.sending ≠ none
  · rw [if_pos hsending] at hstep
    cases hstep
  rw [if_neg hsending] at hstep
  have hleft : s.left = [] := by simp_all [Serial.left]
  cases hchain : s.txChain with
  | nil =>
      rw [hchain] at hstep
      cases hstep
      exact hinv
  | cons data chain =>
      obtain ⟨hin, hout, hdata⟩ := hcond data chain hchain
      rw [hchain] at hstep
      cases hstep
      exact
        { arrived := by simp [hinv.arrived, hin]
          incoming := by
            have hincoming := hinv.incoming
            rw [hin] at hincoming
            exact hincoming
          accepted := by
            intro hfailed
            simp [hinv.accepted hfailed, hout hfailed]
          scheduled := by
            intro hfailed
            have hsched := hinv.scheduled hfailed
            rw [hout hfailed, hleft, hchain] at hsched
            simp only [Serial.left]
            rw [hsched]
            by_cases hempty : data = [] <;> simp [hempty]
          failed := by
            intro hfailed
            obtain ⟨-, hwire⟩ := hinv.failed hfailed
            refine ⟨by simp [hdata hfailed], ?_⟩
            rw [List.append_nil]
            exact (List.prefix_append _ _).trans hwire }

/-- A write moves bytes from the message to the queue; a failed one gives the
    rest of the message up. -/
theorem portInv_write
    (hinv : PortInv s)
    {result : Option Nat}
    (hstep : serialStep s (.write result) = some t) :
    PortInv t := by
  unfold serialStep at hstep
  cases hsending : s.sending with
  | none =>
      rw [hsending] at hstep
      cases hstep
  | some left =>
      have hok : s.writeFailed = false := by
        cases hfailed : s.writeFailed with
        | false => rfl
        | true => simp [(hinv.failed hfailed).1] at hsending
      have hsched := hinv.scheduled hok
      have hleft : s.left = left := by simp [Serial.left, hsending]
      rw [hleft] at hsched
      rw [hsending] at hstep
      cases result with
      | none =>
          cases hstep
          exact
            { hinv with
              accepted := fun hfailed => absurd hfailed (by simp)
              scheduled := fun hfailed => absurd hfailed (by simp)
              failed := by
                intro _
                refine ⟨rfl, ?_⟩
                rw [hsched, List.append_assoc]
                exact List.prefix_append _ _ }
      | some count =>
          simp only at hstep
          split_ifs at hstep with hlong hall
          · cases hstep
            exact
              { hinv with
                scheduled := by
                  intro _
                  simp [Serial.left, hsched, ← hall]
                failed := fun hfailed => absurd (hok.symm.trans hfailed) (by decide) }
          · cases hstep
            exact
              { hinv with
                scheduled := by
                  intro _
                  have hsplit := List.take_append_drop count left
                  simp only [Serial.left, Option.getD_some]
                  rw [hsched]
                  simp only [List.append_assoc]
                  rw [← List.append_assoc (left.take count), hsplit]
                failed := fun hfailed => absurd (hok.symm.trans hfailed) (by decide) }

/-- What is read goes to the end of what is stored. -/
theorem portInv_receive
    (hinv : PortInv s)
    {count : Nat}
    (hstep : serialStep s (.receive count) = some t) :
    PortInv t := by
  simp only [serialStep] at hstep
  split_ifs at hstep with hblocked hnone
  · cases hstep
    exact hinv
  · -- A read of at most 4095 bytes is never refused.
    have hpush :
        pushDataIntoChain s.rxChain (s.inQueue.take count) =
          some (s.rxChain ++ [s.inQueue.take count]) := by
      apply if_neg
      rw [List.length_take]
      simp only [not_or, not_lt] at hblocked
      unfold maxRxTxChunkSz at hblocked ⊢
      omega
    rw [hpush] at hstep
    cases hstep
    exact
      { hinv with
        incoming := by
          have hincoming := hinv.incoming
          simp only [Serial.stored] at hincoming ⊢
          rw [hincoming]
          simp }

/-- What the user takes stays stored. -/
theorem portInv_deliver
    (hinv : PortInv s)
    {count : Nat}
    (hstep : serialStep s (.deliver count) = some t) :
    PortInv t := by
  simp only [serialStep] at hstep
  split_ifs at hstep with hblocked
  cases hstep
  exact
    { hinv with
      incoming := by
        have hincoming := hinv.incoming
        have hsplit :
            (s.rxChain.take count).flatten ++ (s.rxChain.drop count).flatten =
              s.rxChain.flatten := by
          rw [← List.flatten_append, List.take_append_drop]
        simp only [Serial.stored, List.flatten_append, List.append_assoc] at hincoming ⊢
        rw [hincoming, ← List.append_assoc (s.rxChain.take count).flatten, hsplit] }

/-- The queue drains to the wire in order. -/
theorem portInv_drain
    (hinv : PortInv s)
    {count : Nat}
    (hstep : serialStep s (.drain count) = some t) :
    PortInv t := by
  simp only [serialStep] at hstep
  split_ifs at hstep with hshort
  cases hstep
  have hsplit :
      (s.wire ++ s.outQueue.take count) ++ s.outQueue.drop count = s.wire ++ s.outQueue := by
    rw [List.append_assoc, List.take_append_drop]
  exact
    { hinv with
      scheduled := by
        intro hfailed
        rw [hsplit]
        exact hinv.scheduled hfailed
      failed := by
        intro hfailed
        rw [hsplit]
        exact hinv.failed hfailed }

/-- New bytes go to the end of the queue. -/
theorem portInv_arrive
    (hinv : PortInv s)
    {data : Bytes}
    (hstep : serialStep s (.arrive data) = some t) :
    PortInv t := by
  cases hstep
  exact
    { hinv with
      incoming := by
        have hincoming := hinv.incoming
        simp only [Serial.stored] at hincoming ⊢
        rw [hincoming, List.append_assoc] }

/-- No call loses a byte when the flushes are harmless. -/
theorem portInv_step
    {call : SerialCall}
    (hinv : PortInv s)
    (hcond : FlushOk s call)
    (hstep : serialStep s call = some t) :
    PortInv t := by
  cases call with
  | schedule data => exact portInv_schedule hinv hstep
  | transmit => exact portInv_transmit hinv hcond hstep
  | write result => exact portInv_write hinv hstep
  | receive count => exact portInv_receive hinv hstep
  | deliver count => exact portInv_deliver hinv hstep
  | drain count => exact portInv_drain hinv hstep
  | arrive data => exact portInv_arrive hinv hstep

end Steps

/-- Without failed writes the sender has not failed. -/
theorem writeFailed_run
    {calls : List SerialCall} {t : Serial}
    (hwrites : ∀ call ∈ calls, call ≠ .write none)
    (hrun : run serialStep Serial.start calls = some t) :
    t.writeFailed = false := by
  have hmeets : Meets serialStep (fun _ call => call ≠ .write none) Serial.start calls :=
    meets_of_forall Serial.start hwrites
  refine run_invariant_of_meets (I := fun s => s.writeFailed = false) ?_ rfl hmeets hrun
  intro s call t hs hcall hstep
  cases call with
  | schedule data =>
      simp only [serialStep] at hstep
      split at hstep <;> cases hstep <;> exact hs
  | transmit =>
      simp only [serialStep] at hstep
      split_ifs at hstep
      split at hstep <;> cases hstep <;> exact hs
  | write result =>
      cases result with
      | none => exact absurd rfl hcall
      | some count =>
          simp only [serialStep] at hstep
          split at hstep
          · cases hstep
          · split_ifs at hstep <;> cases hstep <;> exact hs
  | receive count =>
      simp only [serialStep] at hstep
      split_ifs at hstep
      · cases hstep
        exact hs
      · split at hstep <;> cases hstep <;> exact hs
  | deliver count =>
      simp only [serialStep] at hstep
      split_ifs at hstep
      cases hstep
      exact hs
  | drain count =>
      simp only [serialStep] at hstep
      split_ifs at hstep
      cases hstep
      exact hs
  | arrive data =>
      cases hstep
      exact hs

/-- A flush that loses nothing has found both queues empty. -/
theorem flushOk_of_serialOk
    {s t : Serial} {call : SerialCall}
    (hwrites : s.writeFailed = false)
    (hstep : serialStep s call = some t)
    (hok : SerialOk t) :
    FlushOk s call := by
  cases call with
  | transmit =>
      intro data chain hchain
      simp only [serialStep, hchain] at hstep
      by_cases hsending : s.sending ≠ none
      · rw [if_pos hsending] at hstep
        cases hstep
      rw [if_neg hsending] at hstep
      cases hstep
      refine ⟨?_, ?_, fun hfailed => absurd (hwrites.symm.trans hfailed) (by decide)⟩
      · exact (List.append_eq_nil_iff.mp hok.arrived).2
      · intro _
        exact (List.append_eq_nil_iff.mp (hok.accepted hwrites)).2
  | _ => trivial

/-- A run whose flushes find both queues empty, and that sends nothing after a
    failed write, loses and reorders nothing; a run without failed writes that
    loses nothing has only such flushes. -/
theorem serialOk_run
    {calls : List SerialCall} {u : Serial}
    (hrun : run serialStep Serial.start calls = some u) :
    (Meets serialStep FlushOk Serial.start calls →
      ∀ pre t, pre <+: calls → run serialStep Serial.start pre = some t → SerialOk t) ∧
    ((∀ call ∈ calls, call ≠ .write none) →
      (∀ pre t, pre <+: calls → run serialStep Serial.start pre = some t → SerialOk t) →
      Meets serialStep FlushOk Serial.start calls) := by
  constructor
  · rintro hmeets pre t ⟨rest, rfl⟩ hpre
    have hinv : PortInv t :=
      run_invariant_of_meets (fun _ _ _ => portInv_step) PortInv.start
        (meets_append hmeets) hpre
    exact hinv.ok
  · intro hwrites hall
    apply meets_of_forall_prefix
    intro pre call s hpre hs
    obtain ⟨rest, rfl⟩ := hpre
    obtain ⟨t, ht, -⟩ := run_prefix hrun
    obtain ⟨s', hs', hstep⟩ := run_concat_success ht
    obtain rfl := Option.some.inj (hs.symm.trans hs')
    refine flushOk_of_serialOk ?_ hstep (hall _ t (List.prefix_append _ _) ht)
    exact writeFailed_run (fun c hc => hwrites c (by simp [hc])) hs

/-- A message is sent and answered before the next one is taken up. -/
def sampleCalls : List SerialCall :=
  [.schedule [104, 105], .schedule [111, 107], .transmit, .write (some 2), .drain 2,
    .arrive [111, 107], .receive 2, .transmit, .write (some 1), .write (some 1), .drain 2]

/-- Both messages go to the wire in order. -/
theorem serialOk_run_sampleCalls :
    ∃ u, run serialStep Serial.start sampleCalls = some u ∧
      u.wire = [104, 105, 111, 107] ∧ SerialOk u := by
  have hwire :
      (run serialStep Serial.start sampleCalls).map Serial.wire =
        some [104, 105, 111, 107] := by
    decide
  obtain ⟨u, hrun, hsent⟩ := Option.map_eq_some_iff.mp hwire
  exact ⟨u, hrun, hsent,
    (serialOk_run hrun).1 (by decide) _ _ (List.prefix_refl _) hrun⟩

/-- Two messages, the second taken up before the first has left the port. -/
def backToBack : List SerialCall :=
  [.schedule [104, 105], .schedule [111, 107], .transmit, .write (some 2), .transmit]

/-- The flush of the second message throws the first one away. -/
theorem not_serialOk_backToBack :
    ∃ u, run serialStep Serial.start backToBack = some u ∧ ¬ SerialOk u := by
  obtain ⟨u, hrun⟩ := Option.isSome_iff_exists.mp
    (show (run serialStep Serial.start backToBack).isSome = true from by decide)
  have hlost :
      (run serialStep Serial.start backToBack).map
        (fun t => (t.writeFailed, t.lostOut)) = some (false, [104, 105]) := by
    decide
  refine ⟨u, hrun, ?_⟩
  intro hok
  rw [hrun] at hlost
  simp only [Option.map_some, Option.some.injEq, Prod.mk.injEq] at hlost
  have hnone := hok.accepted hlost.1
  rw [hlost.2] at hnone
  cases hnone

end Adav
end BrBox
