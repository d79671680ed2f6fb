import BrBox.Bboxsms.SmsDeletion
import BrBox.Lib.CText

/-!
# Dialling an USSD code

`SmsMgr::DialUSSDCode` dials a code and reads from the device until its
callback has noted a reply or 300 reads are over.  The phone library answers
every call as it likes, and each call may run the callback any number of times.

* `waitLoop_firstReply`: where the counter stands when a reply has come.
* `dialReported_iff`: when the result says what has arrived.
* `modemTruthful_iff`: the same for all operations on the modem.
-/

namespace BrBox
namespace Bboxsms

open CText
open Adav (RpcSrvResult)

/-- The phone during one call of `DialUSSDCode`, with the replies of each call. -/
structure UssdEnv where
  /-- `GSM_AllocStateMachine` does not return NULL. -/
  allocated : Bool
  initConnection : GsmError
  /-- `GSM_SetIncomingUSSD(gsm, TRUE)` -/
  setIncoming : GsmError × List Bytes
  dialService : GsmError × List Bytes
  dialVoice : GsmError × List Bytes
  /-- The replies that come in each call of `GSM_ReadDevice`. -/
  readDevice : Nat → List Bytes
  /-- `GSM_SetIncomingUSSD(gsm, FALSE)` -/
  unsetIncoming : GsmError × List Bytes
  terminateConnection : GsmError

/-- `ussdCode` and `ussdCodeArrived`, with the replies that have come so far. -/
structure UssdState where
  ussdCode : Bytes
  ussdCodeArrived : Bool
  /-- Each reply, and whether it came in a device read; no function looks at it. -/
  replies : List (Bool × Bytes)
deriving DecidableEq, Repr

/-- `"no-ussd-code"` -/
def noUssdCode : Bytes :=
  [110, 111, 45, 117, 115, 115, 100, 45, 99, 111, 100, 101]

/-- `IncomingUSSD`. -/
def incomingUssd (inRead : Bool) (s : UssdState) (text : Bytes) : UssdState where
  ussdCode := text
  ussdCodeArrived := true
  replies := s.replies ++ [(inRead, text)]

/-- The callbacks of one call. -/
def deliver (inRead : Bool) (texts : List Bytes) (s : UssdState) : UssdState :=
  texts.foldl (incomingUssd inRead) s

/-- `while (timeout++ < 300)`: the counter and the state after the loop. -/
def waitLoop (env : UssdEnv) (timeout : Nat) (s : UssdState) : Nat × UssdState :=
  if timeout < 300 then
    if s.ussdCodeArrived then
      (timeout + 1, s)
    else
      waitLoop env (timeout + 1) (deliver true (env.readDevice timeout) s)
  else
    -- the test that ends the loop counts as well
    (timeout + 1, s)
termination_by 300 - timeout

/-- What `DialUSSDCode` returns and leaves in `return_str`. -/
structure DialRun where
  code : Int
  returnStr : Option Bytes
  state : UssdState
deriving DecidableEq, Repr

/-- The phone does not know the service call. -/
def fallsBack (error : GsmError) : Bool :=
  error = .notImplemented ∨ error = .notSupported

/-- `GSM_DialService` and the voice call instead of it. -/
def dial (env : UssdEnv) (s : UssdState) : GsmError × UssdState :=
  let s := deliver false env.dialService.2 s
  if fallsBack env.dialService.1 then
    (env.dialVoice.1, deliver false env.dialVoice.2 s)
  else
    (env.dialService.1, s)

/-- `DialUSSDCode` from the dialled call on. -/
def awaitReply (env : UssdEnv) (s : UssdState) : DialRun :=
  let (timeout, s) := waitLoop env 0 s
  let s := deliver false env.unsetIncoming.2 s
  if errorHandler env.unsetIncoming.1 ≠ 0 then
    { code := -1, returnStr := none, state := s }
  else if errorHandler env.terminateConnection ≠ 0 then
    { code := -1, returnStr := some s.ussdCode, state := s }
  else if 300 ≤ timeout then
    { code := -1, returnStr := some s.ussdCode, state := s }
  else
    { code := 0, returnStr := some s.ussdCode, state := s }

/-- `SmsMgr::DialUSSDCode`. -/
def dialUssdCode (env : UssdEnv) : DialRun :=
  let s : UssdState := { ussdCode := noUssdCode, ussdCodeArrived := false, replies := [] }
  if env.allocated = false then
    { code := -1, returnStr := none, state := s }
  else if errorHandler env.initConnection ≠ 0 then
    { code := -1, returnStr := none, state := s }
  else
    let s := deliver false env.setIncoming.2 s
    if errorHandler env.setIncoming.1 ≠ 0 then
      { code := -1, returnStr := none, state := s }
    else
      let (error, s) := dial env s
      if errorHandler error ≠ 0 then
        { code := -1, returnStr := none, state := s }
      else
        awaitReply env s

/-- The code is 0 and `return_str` is the first reply of the call. -/
def FirstReplyReturned (r : DialRun) : Prop :=
  r.code = 0 ∧ ∃ reply, r.state.replies.head? = some reply ∧ r.returnStr = some reply.2

/-- A reply has come in a device read. -/
def RepliedInRead (r : DialRun) : Prop :=
  ∃ reply ∈ r.state.replies, reply.1 = true

/-- Both calls that close the connection succeed. -/
def ClosingSucceeds (env : UssdEnv) : Prop :=
  env.unsetIncoming.1 = .none ∧ env.terminateConnection = .none

/-- The call returns the first reply exactly if one came in a device read. -/
def DialReported (env : UssdEnv) : Prop :=
  FirstReplyReturned (dialUssdCode env) ↔
    RepliedInRead (dialUssdCode env) ∧ ClosingSucceeds env

/-- The replies that come before the first device read. -/
def repliesBefore (env : UssdEnv) : List Bytes :=
  env.setIncoming.2 ++ env.dialService.2 ++
    (if fallsBack env.dialService.1 then env.dialVoice.2 else [])

/-- Some call before the first device read fails. -/
def SetupFails (env : UssdEnv) : Prop :=
  env.allocated = false ∨ env.initConnection ≠ .none ∨ env.setIncoming.1 ≠ .none ∨
    (if fallsBack env.dialService.1 then env.dialVoice.1 else env.dialService.1) ≠ .none

/-- Device read `j` is the first one with a reply. -/
def FirstReply (env : UssdEnv) (j : Nat) : Prop :=
  (∀ k < j, env.readDevice k = []) ∧ env.readDevice j ≠ []

/-- The last of these replies is the same text as the first. -/
def LastIsFirst (texts : List Bytes) : Prop :=
  texts.getLast? = texts.head?

/-- What a reply does when the connection has been set up and will be closed. -/
def ReplyKept (env : UssdEnv) : Prop :=
  (repliesBefore env ≠ [] ∧
      ¬ LastIsFirst (repliesBefore env ++ env.unsetIncoming.2)) ∨
    (repliesBefore env = [] ∧
      ((∀ k < 300, env.readDevice k = []) ∨
        ∃ j < 298, FirstReply env j ∧
          LastIsFirst (env.readDevice j ++ env.unsetIncoming.2)))

/-- The callbacks leave the last text and note all of them. -/
theorem deliver_eq
    (inRead : Bool) (texts : List Bytes) (s : UssdState) :
    deliver inRead texts s =
      { ussdCode := texts.getLast?.getD s.ussdCode
        ussdCodeArrived := s.ussdCodeArrived || !texts.isEmpty
        replies := s.replies ++ texts.map (fun text => (inRead, text)) } := by
  unfold deliver
  induction texts generalizing s with
  | nil =>
      simp
  | cons text texts ih =>
      rw [List.foldl_cons, ih]
      cases texts with
      | nil =>
          simp [incomingUssd]
      | cons text' texts =>
          simp [incomingUssd, List.getLast?_cons]

/-- A reply that is there ends the wait, one count further. -/
theorem waitLoop_arrived
    {env : UssdEnv} {timeout : Nat} {s : UssdState}
    (harrived : s.ussdCodeArrived = true) :
    waitLoop env timeout s = (timeout + 1, s) := by
  rw [waitLoop]
  by_cases hlimit : timeout < 300
  · rw [if_pos hlimit, harrived]
    rfl
  · rw [if_neg hlimit]

/-- Reads without a reply. -/
theorem waitLoop_silent
    {env : UssdEnv} {s : UssdState} {j : Nat}
    (harrived : s.ussdCodeArrived = false)
    (hj : j ≤ 300)
    (hsilent : ∀ k < j, env.readDevice k = []) :
    waitLoop env 0 s = waitLoop env j s := by
  induction j with
  | zero =>
      rfl
  | succ j ih =>
      have hread := hsilent j (Nat.lt_succ_self j)
      rw [ih (by omega) (fun k hk => hsilent k (by omega)), waitLoop,
        if_pos (by omega), harrived, hread]
      rfl

/-- The wait that sees no reply. -/
theorem waitLoop_noReply
    {env : UssdEnv} {s : UssdState}
    (harrived : s.ussdCodeArrived = false)
    (hsilent : ∀ k < 300, env.readDevice k = []) :
    waitLoop env 0 s = (301, s) := by
  rw [waitLoop_silent harrived (Nat.le_refl 300) hsilent, waitLoop]
  rfl

/-- Read `j` leaves the counter at `j + 1`, and the test for its reply at `j + 2`. -/
theorem waitLoop_firstReply
    {env : UssdEnv} {s : UssdState} {j : Nat}
    (harrived : s.ussdCodeArrived = false)
    (hj : j < 300)
    (hfirst : FirstReply env j) :
    waitLoop env 0 s = (j + 2, deliver true (env.readDevice j) s) := by
  rw [waitLoop_silent harrived (Nat.le_of_lt hj) hfirst.1, waitLoop, if_pos hj, harrived]
  refine waitLoop_arrived ?_
  rw [deliver_eq]
  cases hread : env.readDevice j with
  | nil =>
      exact absurd hread hfirst.2
  | cons text texts =>
      simp

theorem FirstReply.unique
    {env : UssdEnv} {i j : Nat}
    (hi : FirstReply env i)
    (hj : FirstReply env j) :
    i = j := by
  rcases Nat.lt_trichotomy i j with hlt | heq | hlt
  · exact absurd (hj.1 i hlt) hi.2
  · exact heq
  · exact absurd (hi.1 j hlt) hj.2

/-- Among the reads that are made, none has a reply or one is the first. -/
theorem silent_or_firstReply
    (env : UssdEnv) :
    (∀ k < 300, env.readDevice k = []) ∨ ∃ j < 300, FirstReply env j := by
  by_cases hsome : ∃ j, env.readDevice j ≠ []
  · by_cases hj : Nat.find hsome < 300
    · refine Or.inr ⟨Nat.find hsome, hj, ?_, Nat.find_spec hsome⟩
      intro k hk
      exact not_not.mp (Nat.find_min hsome hk)
    · refine Or.inl ?_
      intro k hk
      exact not_not.mp (Nat.find_min hsome (by omega))
  · rw [not_exists] at hsome
    exact Or.inl (fun k _ => not_not.mp (hsome k))

/-- The state after these replies, in whatever calls they came. -/
structure Told (texts : List Bytes) (s : UssdState) : Prop where
  ussdCode : s.ussdCode = texts.getLast?.getD noUssdCode
  arrived : s.ussdCodeArrived = !texts.isEmpty
  replies : s.replies.map Prod.snd = texts

/-- Further replies. -/
theorem Told.deliver
    {texts : List Bytes} {s : UssdState}
    (htold : Told texts s)
    (inRead : Bool) (more : List Bytes) :
    Told (texts ++ more) (deliver inRead more s) := by
  rw [deliver_eq]
  refine ⟨?_, ?_, ?_⟩
  · rw [htold.ussdCode, List.getLast?_append]
    cases more.getLast? with
    | none =>
        rfl
    | some text =>
        rfl
  · rw [htold.arrived]
    cases texts with
    | nil =>
        rfl
    | cons text texts =>
        rfl
  · rw [List.map_append, htold.replies, List.map_map]
    simp [Function.comp_def]

/-- What is returned is the first reply exactly if the last one is. -/
theorem Told.first_iff
    {texts : List Bytes} {s : UssdState}
    (htold : Told texts s)
    (hne : texts ≠ []) :
    (∃ reply, s.replies.head? = some reply ∧ some s.ussdCode = some reply.2) ↔
      LastIsFirst texts := by
  have hhead : s.replies.head?.map Prod.snd = texts.head? := by
    rw [← htold.replies, List.head?_map]
  have hcode : texts.getLast? = some s.ussdCode := by
    rw [htold.ussdCode, List.getLast?_eq_some_getLast hne, Option.getD_some]
  rw [LastIsFirst, hcode, ← hhead]
  cases s.replies.head? with
  | none =>
      simp
  | some reply =>
      simp

/-- What dialling answers and delivers. -/
theorem dial_eq
    (env : UssdEnv) (s : UssdState) :
    dial env s =
      (if fallsBack env.dialService.1 then env.dialVoice.1 else env.dialService.1,
        deliver false (if fallsBack env.dialService.1 then env.dialVoice.2 else [])
          (deliver false env.dialService.2 s)) := by
  unfold dial
  cases fallsBack env.dialService.1 with
  | true =>
      rfl
  | false =>
      rfl

/-- The state from which the wait starts. -/
def readyState (env : UssdEnv) : UssdState :=
  deliver false (if fallsBack env.dialService.1 then env.dialVoice.2 else [])
    (deliver false env.dialService.2
      (deliver false env.setIncoming.2
        { ussdCode := noUssdCode, ussdCodeArrived := false, replies := [] }))

/-- No reply has come in a device read before the wait. -/
theorem readyState_replies
    (env : UssdEnv) :
    ∀ reply ∈ (readyState env).replies, reply.1 = false := by
  simp only [readyState, deliver_eq, List.nil_append, List.mem_append, List.mem_map]
  rintro reply ((⟨text, -, rfl⟩ | ⟨text, -, rfl⟩) | ⟨text, -, rfl⟩)
  · rfl
  · rfl
  · rfl

theorem dialUssdCode_of_setup
    {env : UssdEnv}
    (hsetup : ¬ SetupFails env) :
    dialUssdCode env = awaitReply env (readyState env) := by
  simp only [SetupFails, not_or, not_not] at hsetup
  obtain ⟨halloc, hinit, hset, hdial⟩ := hsetup
  rw [← errorHandler_eq_zero_iff] at hinit hset hdial
  simp only [dialUssdCode, dial_eq, halloc, hinit, hset, hdial]
  rfl

/-- A call that cannot be set up returns -1 and has not read from the device. -/
theorem dialUssdCode_of_setupFails
    {env : UssdEnv}
    (hsetup : SetupFails env) :
    (dialUssdCode env).code = -1 ∧
      ∀ reply ∈ (dialUssdCode env).state.replies, reply.1 = false := by
  simp only [dialUssdCode, dial_eq]
  by_cases halloc : env.allocated = false
  · simp [halloc]
  · by_cases hinit : env.initConnection = .none
    · by_cases hset : env.setIncoming.1 = .none
      · have hdial := (hsetup.resolve_left halloc).resolve_left (not_not.mpr hinit)
        have hdial := hdial.resolve_left (not_not.mpr hset)
        rw [Ne, ← errorHandler_eq_zero_iff] at hdial
        rw [← errorHandler_eq_zero_iff] at hinit hset
        rw [if_neg halloc, if_neg (not_not.mpr hinit), if_neg (not_not.mpr hset),
          if_pos hdial]
        exact ⟨rfl, readyState_replies env⟩
      · simp [halloc, hinit, hset, errorHandler, deliver_eq]
    · simp [halloc, hinit, errorHandler]

theorem readyState_told
    (env : UssdEnv) :
    Told (repliesBefore env) (readyState env) := by
  have hinit :
      Told [] { ussdCode := noUssdCode, ussdCodeArrived := false, replies := [] } :=
    ⟨rfl, rfl, rfl⟩
  have h := ((hinit.deliver false env.setIncoming.2).deliver false env.dialService.2).deliver
    false (if fallsBack env.dialService.1 then env.dialVoice.2 else [])
  simpa only [repliesBefore, readyState, List.nil_append] using h

/-- The replies of the call that unsets the callback are noted whatever it answers. -/
theorem awaitReply_state
    {env : UssdEnv} {s t : UssdState} {timeout : Nat}
    (hwait : waitLoop env 0 s = (timeout, t)) :
    (awaitReply env s).state = deliver false env.unsetIncoming.2 t := by
  simp only [awaitReply, hwait]
  split
  · rfl
  · split
    · rfl
    · split
      · rfl
      · rfl

/-- The code says that the closing calls succeed and the counter is below 300. -/
theorem awaitReply_code
    {env : UssdEnv} {s t : UssdState} {timeout : Nat}
    (hwait : waitLoop env 0 s = (timeout, t)) :
    (awaitReply env s).code = 0 ↔ ClosingSucceeds env ∧ timeout < 300 := by
  simp only [awaitReply, hwait, ClosingSucceeds, ← errorHandler_eq_zero_iff]
  by_cases hunset : errorHandler env.unsetIncoming.1 = 0
  · by_cases hterminate : errorHandler env.terminateConnection = 0
    · by_cases hlimit : 300 ≤ timeout
      · simp [hunset, hterminate, hlimit]
      · simp [hunset, hterminate, hlimit, Nat.not_le.mp hlimit]
    · simp [hunset, hterminate]
  · simp [hunset]

/-- A successful call returns the text that the callback has left. -/
theorem awaitReply_returnStr
    {env : UssdEnv} {s t : UssdState} {timeout : Nat}
    (hwait : waitLoop env 0 s = (timeout, t))
    (hzero : (awaitReply env s).code = 0) :
    (awaitReply env s).returnStr =
      some (deliver false env.unsetIncoming.2 t).ussdCode := by
  obtain ⟨⟨hunset, hterminate⟩, hlimit⟩ := (awaitReply_code hwait).mp hzero
  rw [← errorHandler_eq_zero_iff] at hunset hterminate
  simp only [awaitReply, hwait]
  rw [if_neg (not_not.mpr hunset), if_neg (not_not.mpr hterminate),
    if_neg (Nat.not_le.mpr hlimit)]

/-- A reply has come in a device read if one had when the wait was over. -/
theorem repliedInRead_iff
    {env : UssdEnv} {s t : UssdState} {timeout : Nat}
    (hwait : waitLoop env 0 s = (timeout, t)) :
    RepliedInRead (awaitReply env s) ↔ ∃ reply ∈ t.replies, reply.1 = true := by
  rw [RepliedInRead, awaitReply_state hwait, deliver_eq]
  simp

/-- How the result follows from the counter and the replies of the wait. -/
theorem firstReplyReturned_iff
    {env : UssdEnv} {s t : UssdState} {timeout : Nat} {texts : List Bytes}
    (hwait : waitLoop env 0 s = (timeout, t))
    (htold : Told texts t)
    (hne : texts ++ env.unsetIncoming.2 ≠ []) :
    FirstReplyReturned (awaitReply env s) ↔
      ClosingSucceeds env ∧ timeout < 300 ∧
        LastIsFirst (texts ++ env.unsetIncoming.2) := by
  have hafter := htold.deliver false env.unsetIncoming.2
  rw [← hafter.first_iff hne, ← and_assoc, ← awaitReply_code hwait, FirstReplyReturned,
    awaitReply_state hwait]
  constructor
  · rintro ⟨hzero, reply, hhead, hreply⟩
    exact ⟨hzero, reply, hhead, by rw [← awaitReply_returnStr hwait hzero, hreply]⟩
  · rintro ⟨hzero, reply, hhead, hreply⟩
    exact ⟨hzero, reply, hhead, by rw [awaitReply_returnStr hwait hzero, hreply]⟩

/-- What a reply in the device reads needs. -/
theorem FirstReply.replyKept_iff
    {env : UssdEnv} {j : Nat}
    (hfirst : FirstReply env j)
    (hj : j < 300)
    (hbefore : repliesBefore env = []) :
    ReplyKept env ↔
      j + 2 < 300 ∧ LastIsFirst (env.readDevice j ++ env.unsetIncoming.2) := by
  constructor
  · rintro (⟨h, -⟩ | ⟨-, hsilent | ⟨i, hi, hfirst', hlast⟩⟩)
    · exact absurd hbefore h
    · exact absurd (hsilent j hj) hfirst.2
    · obtain rfl := hfirst.unique hfirst'
      exact ⟨by omega, hlast⟩
  · rintro ⟨hlimit, hlast⟩
    exact Or.inr ⟨hbefore, Or.inr ⟨j, by omega, hfirst, hlast⟩⟩

/-- No reply has come in a device read yet. -/
theorem readyState_quiet
    (env : UssdEnv) :
    ¬ ∃ reply ∈ (readyState env).replies, reply.1 = true := by
  rintro ⟨reply, hmem, hread⟩
  rw [readyState_replies env reply hmem] at hread
  cases hread

/-- A call that cannot be set up keeps its word: it returns no reply and has read none. -/
theorem dialReported_of_setupFails
    {env : UssdEnv}
    (hsetup : SetupFails env) :
    DialReported env := by
  obtain ⟨hcode, hquiet⟩ := dialUssdCode_of_setupFails hsetup
  constructor
  · rintro ⟨hzero, -⟩
    rw [hcode] at hzero
    exact absurd hzero (by decide)
  · rintro ⟨⟨reply, hmem, hread⟩, -⟩
    rw [hquiet reply hmem] at hread
    cases hread

/-- A reply before the wait stops it: nothing has come in a device read. -/
theorem dialReported_of_before
    {env : UssdEnv}
    (hsetup : ¬ SetupFails env)
    (hbefore : repliesBefore env ≠ []) :
    DialReported env ↔ ¬ ClosingSucceeds env ∨ ReplyKept env := by
  have htold := readyState_told env
  have harrived : (readyState env).ussdCodeArrived = true := by
    rw [htold.arrived]
    simpa using hbefore
  have hwait := @waitLoop_arrived env 0 (readyState env) harrived
  have hkept :
      ReplyKept env ↔ ¬ LastIsFirst (repliesBefore env ++ env.unsetIncoming.2) := by
    simp [ReplyKept, hbefore]
  rw [DialReported, dialUssdCode_of_setup hsetup, repliedInRead_iff hwait, hkept,
    firstReplyReturned_iff hwait htold (by simp [hbefore])]
  simp only [readyState_quiet, false_and, iff_false]
  tauto

/-- Without one, the wait goes on to the first reply of the device reads. -/
theorem dialReported_of_wait
    {env : UssdEnv}
    (hsetup : ¬ SetupFails env)
    (hbefore : repliesBefore env = []) :
    DialReported env ↔ ¬ ClosingSucceeds env ∨ ReplyKept env := by
  have htold := readyState_told env
  rw [hbefore] at htold
  have harrived : (readyState env).ussdCodeArrived = false := by
    rw [htold.arrived]
    rfl
  rw [DialReported, dialUssdCode_of_setup hsetup]
  rcases silent_or_firstReply env with hsilent | ⟨j, hj, hfirst⟩
  · have hwait := waitLoop_noReply harrived hsilent
    have hlate : ¬ FirstReplyReturned (awaitReply env (readyState env)) := by
      rintro ⟨hzero, -⟩
      exact absurd ((awaitReply_code hwait).mp hzero).2 (by decide)
    have hkept : ReplyKept env := Or.inr ⟨hbefore, Or.inl hsilent⟩
    rw [repliedInRead_iff hwait]
    simp only [hlate, readyState_quiet, hkept, false_and, or_true]
  · have hwait := waitLoop_firstReply harrived hj hfirst
    have hreplied :
        ∃ reply ∈ (deliver true (env.readDevice j) (readyState env)).replies,
          reply.1 = true := by
      obtain ⟨text, htext⟩ := List.exists_mem_of_ne_nil _ hfirst.2
      refine ⟨(true, text), ?_, rfl⟩
      rw [deliver_eq]
      exact List.mem_append_right _ (List.mem_map_of_mem htext)
    rw [repliedInRead_iff hwait, hfirst.replyKept_iff hj hbefore,
      firstReplyReturned_iff hwait (htold.deliver true (env.readDevice j))
        (by simp [hfirst.2])]
    simp only [hreplied, true_and, List.nil_append]
    tauto

/--
A call keeps its word exactly if it fails outside the wait, or its first reply
is also the last and neither comes before the wait nor in its last two reads.
-/
theorem dialReported_iff
    (env : UssdEnv) :
    DialReported env ↔
      SetupFails env ∨ ¬ ClosingSucceeds env ∨ ReplyKept env := by
  by_cases hsetup : SetupFails env
  · simp only [hsetup, true_or, iff_true]
    exact dialReported_of_setupFails hsetup
  · simp only [hsetup, false_or]
    by_cases hbefore : repliesBefore env = []
    · exact dialReported_of_wait hsetup hbefore
    · exact dialReported_of_before hsetup hbefore

/-- When the result of each operation on the modem says what has happened. -/
theorem modemTruthful_iff
    (env : GsmEnv) (foldernum : Int) (emulation : Bool)
    (envs : Int → GsmEnv) (ussd : UssdEnv) :
    (DeletionReported env foldernum ↔
      Ends env foldernum ∧
        (ReportsFailure env foldernum ∨ CleanWalk env foldernum)) ∧
    (AsyncReported emulation envs ↔
      emulation = true ∨ AsyncTrusted envs True [1, 2, 3, 4]) ∧
    (DialReported ussd ↔
      SetupFails ussd ∨ ¬ ClosingSucceeds ussd ∨ ReplyKept ussd) :=
  ⟨deletionReported_iff env foldernum, asyncReported_iff emulation envs,
    dialReported_iff ussd⟩

/-- A phone with one message, in folder 1, that reads as corrupted. -/
def stuckPhone : GsmEnv where
  allocated := true
  initConnection := .none
  getSmsFolders := (.none, 4)
  store := [1]
  reads := fun _ => .corrupted
  deletions := fun _ => .none
  terminateConnection := .none

/-- A phone with one message, in folder 1, that it refuses to delete. -/
def refusingPhone : GsmEnv :=
  { stuckPhone with
    reads := fun _ => .message
    deletions := fun _ => .other 1 }

/-- A phone that replies in its read 298 only. -/
def lateReply : UssdEnv where
  allocated := true
  initConnection := .none
  setIncoming := (.none, [])
  dialService := (.none, [])
  dialVoice := (.none, [])
  readDevice := fun k => if k = 298 then [[66]] else []
  unsetIncoming := (.none, [])
  terminateConnection := .none

/--
The first phone keeps the walk going for ever, the second one's refusal is
reported as success by both operations, and the late reply as a timeout.
-/
theorem not_modemTruthful :
    ¬ DeletionReported stuckPhone 1 ∧
    ¬ DeletionReported refusingPhone 1 ∧
    ¬ AsyncReported false (fun _ => refusingPhone) ∧
    ¬ DialReported lateReply := by
  have hrefused : ¬ CleanWalk refusingPhone 1 := by
    rintro ⟨-, m, -, hclean⟩
    simp [WalkClean, refusingPhone, stuckPhone] at hclean
  have hreports :
      ∀ foldernum : Int, foldernum ≤ 4 → ¬ ReportsFailure refusingPhone foldernum := by
    rintro foldernum hle ((h | h | h) | h)
    · cases h
    · exact h rfl
    · have : (4 : Int) < foldernum := h
      omega
    · exact h rfl
  refine ⟨?_, ?_, ?_, ?_⟩
  · rw [deletionReported_iff]
    rintro ⟨(h | h | h) | h | ⟨m, -, h | h⟩, -⟩
    · cases h
    · exact h rfl
    · exact absurd h (by decide)
    · exact h rfl
    · cases h
    · exact h rfl
  · rw [deletionReported_iff]
    rintro ⟨-, h | h⟩
    · exact hreports 1 (by decide) h
    · exact hrefused h
  · rw [asyncReported_iff]
    rintro (h | h)
    · cases h
    · simp [AsyncTrusted, hreports, hrefused] at h
  · rw [dialReported_iff]
    rintro ((h | h | h | h) | h | (⟨h, -⟩ | ⟨-, h | ⟨j, hj, ⟨-, h⟩, -⟩⟩))
    · cases h
    · exact h rfl
    · exact h rfl
    · exact h rfl
    · exact h ⟨rfl, rfl⟩
    · exact h rfl
    · exact absurd (h 298 (by decide)) (by simp [lateReply])
    · have hne : j ≠ 298 := by omega
      exact h (if_neg hne)

end Bboxsms
end BrBox
