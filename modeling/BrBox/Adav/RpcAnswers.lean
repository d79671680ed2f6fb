import BrBox.Lib.Slots
import BrBox.Adav.RpcInvariant
import Mathlib.Data.List.Nodup

/-!
# Every request is answered once

What the invariants of the pipeline mean for the clients: in every reachable
state each entry has at most one answer, a server at rest has answered every
entry as it deserves, and the results leave in the order in which their
requests were accepted.

The decoder copies four texts into arrays without a check and reads the id with
`atoi`.  `answeredOnce_run` therefore asks of the requests that these texts are
short and that the ids are numbers; the id `"abc"` is answered with 0.
-/

namespace BrBox
namespace Adav

open CText
open CopyTrace
open LabelledRun

universe u

section AnsweredOnce

variable {J : Type u}
variable (cfg : RpcConfig J)

/-- The answers scheduled for an entry. -/
def answersTo (s : PipeState J) (obj : NetDataObj) : List (Answer J) :=
  s.scheduled.filter fun answer => decide (answer.origin = obj.origin)

/-- All threads wait and no wake-up is outstanding. -/
def Quiescent (s : PipeState J) : Prop :=
  s.listen = .idle ∧ s.mapper = .waiting ∧ s.resp = .waiting ∧
    s.socket = .waiting ∧ s.reqSema = 0 ∧ s.respSema = 0 ∧
    s.responseSema = 0

instance (s : PipeState J) : Decidable (Quiescent s) :=
  inferInstanceAs (Decidable (_ ∧ _ ∧ _ ∧ _ ∧ _ ∧ _ ∧ _))

/-- What the clients may rely on. -/
structure AnsweredOnce (idNumber : J → Option Int) (s : PipeState J) : Prop where
  /-- No request is written past the end of an array. -/
  intact :
    ∀ obj ∈ s.processed,
      (jsonProcessRequest cfg.lib cfg.rpcCallList obj.text).Fits
  /-- No entry gets lost on its way to `json_process_request`. -/
  numbered :
    (arrived s).map (fun obj => obj.origin.seq) = List.range s.net.received
  /-- No entry is answered twice. -/
  atMostOnce :
    ∀ obj ∈ arrived s, (answersTo s obj).length ≤ 1
  /-- Nothing is answered that was not asked. -/
  asked :
    ∀ answer ∈ s.scheduled, ∃ obj ∈ arrived s, answer.origin = obj.origin
  /-- A server at rest has answered every entry as it deserves. -/
  exactlyOnce :
    Quiescent s → ∀ obj ∈ arrived s, ∃ answer,
      answersTo s obj = [answer] ∧
      AnswersRequest cfg.lib idNumber cfg.rpcCallList obj.text answer.message
  /-- A server at rest has handed every answer to the socket. -/
  handled :
    Quiescent s → s.handled = s.scheduled.map (responseObj cfg)
  /-- Accepted entries are answered in the order of their acceptance. -/
  ordered :
    (resultAnswers s.scheduled).map Answer.origin <+:
      (s.processed.filter (accepted cfg)).map NetDataObj.origin

/-- The requests that have arrived are short, and their ids are numbers. -/
def RequestsMeet (idNumber : J → Option Int) (s : PipeState J) : Prop :=
  ∀ obj ∈ arrived s,
    RequestFits cfg.lib cfg.rpcCallList obj.text ∧
      IdIsInt cfg.lib idNumber cfg.rpcCallList obj.text

variable {cfg}

/-- The answered entries are entries that were looked at. -/
theorem AnswerInv.origins
    {s : PipeState J} (hinv : AnswerInv cfg s) :
    ∃ open_ : List Origin,
      (s.scheduled.map Answer.origin ++ open_).Perm
        (s.processed.map NetDataObj.origin) ∧
      (resultAnswers s.scheduled).map Answer.origin ++ open_ =
        (s.processed.filter (accepted cfg)).map NetDataObj.origin := by
  have herrors :
      (errorAnswers s.scheduled).map Answer.origin =
        (s.processed.filter fun obj => !accepted cfg obj).map
          NetDataObj.origin := by
    rw [hinv.errors, List.map_map]
    refine List.map_congr_left fun obj _ => ?_
    simp only [Function.comp_apply, errorOf]
    split <;> rfl
  have hkeys :
      (resultAnswers s.scheduled).map answerKey =
        ((s.processed.filter (accepted cfg)).map (entryKey cfg)).take
          (resultAnswers s.scheduled).length := by
    rw [← hinv.tasks]
    exact hinv.results
  have hresults :
      (resultAnswers s.scheduled).map Answer.origin =
        ((s.processed.filter (accepted cfg)).map NetDataObj.origin).take
          (resultAnswers s.scheduled).length := by
    have h := congrArg (List.map Prod.fst) hkeys
    simpa [List.map_take, Function.comp_def, answerKey, entryKey] using h
  refine
    ⟨((s.processed.filter (accepted cfg)).map NetDataObj.origin).drop
      (resultAnswers s.scheduled).length, ?_, ?_⟩
  · have hsplit :
        (errorAnswers s.scheduled ++ resultAnswers s.scheduled).Perm
          s.scheduled := by
      refine List.perm_append_comm.trans ?_
      exact List.filter_append_perm _ _
    have hentries :
        ((s.processed.filter fun obj => !accepted cfg obj) ++
          s.processed.filter (accepted cfg)).Perm s.processed := by
      refine List.perm_append_comm.trans ?_
      exact List.filter_append_perm _ _
    refine ((hsplit.map Answer.origin).symm.append_right _).trans ?_
    rw [List.map_append, herrors, hresults, List.append_assoc]
    simp only [List.take_append_drop]
    rw [← List.map_append]
    exact hentries.map _
  · rw [hresults]
    simp

/-- The origins of the entries looked at are distinct. -/
theorem PipeInv.processed_nodup
    {s : PipeState J} (hinv : PipeInv cfg s) :
    (s.processed.map NetDataObj.origin).Nodup := by
  have hnum := hinv.number.numbered
  have hseq : ((arrived s).map fun obj => obj.origin.seq).Nodup := by
    rw [hnum]
    exact List.nodup_range
  simp only [arrived, List.map_append] at hseq
  have hprocessed := (hseq.of_append_left).of_append_left
  refine List.Nodup.of_map Origin.seq ?_
  rw [List.map_map]
  exact hprocessed

/-- No two answers have the same origin. -/
theorem PipeInv.scheduled_nodup
    {s : PipeState J} (hinv : PipeInv cfg s) :
    (s.scheduled.map Answer.origin).Nodup := by
  obtain ⟨open_, hperm, -⟩ := hinv.answer.origins
  exact (hperm.nodup_iff.mpr hinv.processed_nodup).of_append_left

/-- At rest nothing is left in the chains. -/
theorem PipeInv.at_rest
    {s : PipeState J} (hinv : PipeInv cfg s) (hrest : Quiescent s) :
    arrived s = s.processed ∧
      (resultAnswers s.scheduled).length = s.tasks.length ∧
      s.responseChain.elems = [] := by
  obtain ⟨hlisten, hmapper, hresp, hsocket, hsema₁, hsema₂, hsema₃⟩ := hrest
  have hreq : s.reqChain.elems = [] := by
    have h := hinv.sema.reqChain
    simpa [hlisten, hmapper, hsema₁] using h
  have hrespChain : s.respChain.elems = [] := by
    have h := hinv.sema.respChain
    simpa [hresp, hmapper, hsema₂] using h
  have hresponse : s.responseChain.elems = [] := by
    have h := hinv.sema.responseChain
    simpa [hlisten, hresp, hsocket, hsema₃] using h
  have hreqResp : s.reqRespChain.elems = [] := by
    obtain ⟨finished, hchain, hidents⟩ := hinv.pending
    simp only [hresp, hrespChain, RespPc.identHand, List.append_nil,
      List.map_nil, List.map_eq_nil_iff] at hidents
    simpa [hidents, hmapper, hreq, hlisten] using hchain
  refine ⟨?_, ?_, hresponse⟩
  · simp [arrived, hlisten, hinv.number.drained hlisten]
  · have hqueued := congrArg List.length hinv.answer.queued
    simpa [hresp, hreqResp, hlisten] using hqueued

/-- A rejected entry is answered with an error object. -/
theorem answersRequest_errorOf
    (idNumber : J → Option Int)
    {obj : NetDataObj} (hacc : accepted cfg obj = false) :
    AnswersRequest cfg.lib idNumber cfg.rpcCallList obj.text
      (errorOf cfg obj).message := by
  cases hverdict : verdict cfg obj with
  | reject err id =>
      have hdecode := hverdict
      simp only [verdict] at hdecode
      simp only [AnswersRequest, hdecode, errorOf, hverdict, errorAnswer]
      cases err <;> exact ⟨_, _, _, rfl⟩
  | accept reqId command access =>
      simp [accepted, acceptedId, hverdict] at hacc

/-- The number that is copied into the task is the id of the request. -/
theorem idNumber_of_accept
    {idNumber : J → Option Int}
    (hprint : PrintsNumbers cfg.lib idNumber)
    {obj : NetDataObj}
    (hid : IdIsInt cfg.lib idNumber cfg.rpcCallList obj.text)
    {reqId : Int} {command : RpcCommand} {access : CmdTaskAcc}
    (hverdict : verdict cfg obj = .accept reqId command access) :
    ∃ request,
      requestObject cfg.lib obj.text = some request ∧
      idNumber request = some reqId := by
  obtain ⟨request, idText, hrequest, htext, hatoi, hmethod⟩ := accept_inv _ _ hverdict
  obtain ⟨n, hnumber, hlow, hhigh⟩ :=
    hid request hrequest (by simp [htext]) (by simp [hmethod])
  have hprinted : idText = decimalText n := by
    rw [hprint request n hnumber] at htext
    exact (Option.some.inj htext).symm
  refine ⟨request, hrequest, ?_⟩
  rw [hnumber, hatoi, hprinted, atoi_decimalText hlow hhigh]

/-- A result under the key of an accepted entry answers it. -/
theorem answersRequest_of_key
    {idNumber : J → Option Int}
    (hprint : PrintsNumbers cfg.lib idNumber)
    {obj : NetDataObj} {answer : Answer J}
    (hid : IdIsInt cfg.lib idNumber cfg.rpcCallList obj.text)
    (hacc : accepted cfg obj = true)
    (hkey : answerKey answer = entryKey cfg obj) :
    AnswersRequest cfg.lib idNumber cfg.rpcCallList obj.text answer.message := by
  cases hverdict : verdict cfg obj with
  | reject err id =>
      simp [accepted, acceptedId, hverdict] at hacc
  | accept reqId command access =>
      obtain ⟨request, hrequest, hnumber⟩ := idNumber_of_accept hprint hid hverdict
      have hdecode := hverdict
      simp only [verdict] at hdecode
      simp only [AnswersRequest, hdecode]
      have hresult : answer.message.resultId = some reqId := by
        have h := congrArg Prod.snd hkey
        simpa [answerKey, entryKey, acceptedId, hverdict] using h
      cases hmsg : answer.message with
      | error code message id =>
          simp [hmsg, RpcMessage.resultId] at hresult
      | result body id =>
          simp only [hmsg, RpcMessage.resultId, Option.some.injEq] at hresult
          exact ⟨request, reqId, body, hrequest, hnumber, by rw [hresult]⟩

/-- At rest every entry has the answer it deserves. -/
theorem PipeInv.answered
    {idNumber : J → Option Int}
    (hprint : PrintsNumbers cfg.lib idNumber)
    {s : PipeState J} (hinv : PipeInv cfg s) (hrest : Quiescent s)
    {obj : NetDataObj} (hobj : obj ∈ s.processed)
    (hid : IdIsInt cfg.lib idNumber cfg.rpcCallList obj.text) :
    ∃ answer ∈ s.scheduled,
      answer.origin = obj.origin ∧
      AnswersRequest cfg.lib idNumber cfg.rpcCallList obj.text answer.message := by
  obtain ⟨-, hall, -⟩ := hinv.at_rest hrest
  cases hacc : accepted cfg obj with
  | false =>
      have hmem : errorOf cfg obj ∈ errorAnswers s.scheduled := by
        rw [hinv.answer.errors]
        exact List.mem_map_of_mem (by simp [hobj, hacc])
      refine ⟨errorOf cfg obj, (List.mem_filter.mp hmem).1, ?_,
        answersRequest_errorOf idNumber hacc⟩
      simp only [errorOf]
      split <;> rfl
  | true =>
      have hmem :
          entryKey cfg obj ∈
            (resultAnswers s.scheduled).map answerKey := by
        rw [hinv.answer.results, hall, List.take_of_length_le (by simp),
          hinv.answer.tasks]
        exact List.mem_map_of_mem (by simp [hobj, hacc])
      obtain ⟨answer, hanswer, hkey⟩ := List.mem_map.mp hmem
      exact ⟨answer, (List.mem_filter.mp hanswer).1,
        congrArg Prod.fst hkey, answersRequest_of_key hprint hid hacc hkey⟩

/-- In every reachable state of the server the clients are answered once, as long
as the requests are short and their ids are numbers. -/
theorem answeredOnce_run
    (cfg : RpcConfig J)
    {idNumber : J → Option Int}
    (hprint : PrintsNumbers cfg.lib idNumber)
    {listenSd : Nat} {ls : List (PipeLabel J)} {s : PipeState J}
    (hrun : run (pipeStep cfg) (startServer listenSd) ls = some s)
    (hmeets : RequestsMeet cfg idNumber s) :
    AnsweredOnce cfg idNumber s := by
  have hinv := pipeInv_run hrun
  have hseen : ∀ obj ∈ s.processed, obj ∈ arrived s := by
    intro obj hobj
    simp [arrived, hobj]
  refine ⟨?_, hinv.number.numbered, ?_, ?_, ?_, ?_, ?_⟩
  · intro obj hobj
    exact (jsonProcessRequest_fits _ _ _).mpr (hmeets obj (hseen obj hobj)).1
  · intro obj _
    exact Slots.length_filter_image_le_one hinv.scheduled_nodup obj.origin
  · intro answer hanswer
    obtain ⟨open_, hperm, -⟩ := hinv.answer.origins
    have hmem : answer.origin ∈ s.processed.map NetDataObj.origin :=
      hperm.subset
        (List.mem_append_left _ (List.mem_map_of_mem hanswer))
    obtain ⟨obj, hobj, horigin⟩ := List.mem_map.mp hmem
    exact ⟨obj, hseen obj hobj, horigin.symm⟩
  · intro hrest obj hobj
    have hid := (hmeets obj hobj).2
    rw [(hinv.at_rest hrest).1] at hobj
    obtain ⟨answer, hanswer, horigin, hsuited⟩ := hinv.answered hprint hrest hobj hid
    refine ⟨answer, ?_, hsuited⟩
    rw [answersTo, ← horigin]
    exact Slots.filter_image_eq_singleton hinv.scheduled_nodup hanswer
  · intro hrest
    have h := hinv.handled
    simpa [HandledInv, (hinv.at_rest hrest).2.2] using h
  · obtain ⟨open_, -, happend⟩ := hinv.answer.origins
    exact ⟨open_, happend⟩

end AnsweredOnce

/-- A client connects, asks for the method `a` and then sends `{}`. -/
def sampleRun : List (PipeLabel FlatJson) :=
  [.listenEvent (.accept 4 none),
    .listenEvent (.recvData 4 (sendData sampleText)),
    .listenThread, .listenThread, .listenThread, .listenThread, .listenThread,
    .listenThread,
    .listenEvent (.recvData 4 (sendData [openBrace, closeBrace])),
    .mapperThread, .mapperThread,
    .mapperWork
      { mapperResult := .success, jsonRespObj := none, customResultString := "" },
    .listenThread, .listenThread, .listenThread, .listenThread,
    .mapperThread, .mapperThread,
    .respThread, .respThread, .respThread, .respThread, .respThread,
    .socketThread, .socketThread, .socketCheck true, .socketThread,
    .socketThread, .socketThread, .socketCheck true, .socketThread]

/-- The numbers of flat objects are printed with `%d`. -/
theorem printsNumbers_flat
    {lib : JsonLib FlatJson}
    (hlib : ∀ obj key, lib.getString obj key =
      (obj.find? fun member => member.1 = key).map Prod.snd) :
    PrintsNumbers lib flatIdNumber := by
  intro obj n hnumber
  rw [hlib]
  unfold flatIdNumber at hnumber
  cases hfind : (obj.find? fun member => member.1 = keyId).map Prod.snd with
  | none =>
      rw [hfind] at hnumber
      cases hnumber
  | some value =>
      simp only [hfind] at hnumber
      split at hnumber
      · next hprinted =>
          cases hnumber
          rw [hprinted]
      · cases hnumber

/-- The request for the method `a` is short, and its id is 7. -/
theorem sampleText_meets :
    RequestFits sampleConfig.lib sampleConfig.rpcCallList sampleText ∧
      IdIsInt sampleConfig.lib flatIdNumber sampleConfig.rpcCallList sampleText := by
  have hobj :
      requestObject sampleConfig.lib sampleText =
        some [(keyId, [55]), (keyMethod, [97])] := by
    decide
  refine ⟨(jsonProcessRequest_fits _ _ _).mp (by decide), ?_⟩
  intro obj hrequest _ _
  rw [hobj] at hrequest
  cases hrequest
  exact ⟨7, by decide, by decide, by decide⟩

/-- The request `{}` has no texts. -/
theorem emptyObject_meets :
    RequestFits sampleConfig.lib sampleConfig.rpcCallList [openBrace, closeBrace] ∧
      IdIsInt sampleConfig.lib flatIdNumber sampleConfig.rpcCallList
        [openBrace, closeBrace] := by
  have hobj : requestObject sampleConfig.lib [openBrace, closeBrace] = some [] := by
    decide
  refine ⟨(jsonProcessRequest_fits _ _ _).mp (by decide), ?_⟩
  intro obj hrequest hid _
  rw [hobj] at hrequest
  cases hrequest
  exact absurd rfl hid

/-- The sample run reaches a state at rest with two answers. -/
theorem answeredOnce_sampleRun :
    ∃ s,
      run (pipeStep sampleConfig) (startServer 3) sampleRun = some s ∧
      Quiescent s ∧ s.scheduled.length = 2 ∧
      AnsweredOnce sampleConfig flatIdNumber s := by
  obtain ⟨s, hrun, hrest, hlen, harrived⟩ :
      ∃ s,
        run (pipeStep sampleConfig) (startServer 3) sampleRun = some s ∧
        Quiescent s ∧ s.scheduled.length = 2 ∧
        (arrived s).map NetDataObj.text = [sampleText, [openBrace, closeBrace]] :=
    ⟨_, rfl, ⟨rfl, rfl, rfl, rfl, rfl, rfl, rfl⟩, rfl, rfl⟩
  refine ⟨s, hrun, hrest, hlen,
    answeredOnce_run sampleConfig (printsNumbers_flat fun _ _ => rfl) hrun ?_⟩
  intro obj hobj
  have htext : obj.text = sampleText ∨ obj.text = [openBrace, closeBrace] := by
    have hmem := List.mem_map_of_mem (f := NetDataObj.text) hobj
    rw [harrived] at hmem
    simpa using hmem
  rcases htext with htext | htext
  · rw [htext]
    exact sampleText_meets
  · rw [htext]
    exact emptyObject_meets

/-- The text `{"id":"abc","method":"a"}`. -/
def letterText : Bytes :=
  [123, 34, 105, 100, 34, 58, 34, 97, 98, 99, 34, 44, 34, 109, 101, 116, 104, 111,
    100, 34, 58, 34, 97, 34, 125]

/-- The sample server, whose library parses that text. -/
def letterConfig : RpcConfig FlatJson where
  lib :=
    { checker := fun t => t = letterText
      tokenerParse := fun t =>
        if t = letterText then
          some [(keyId, [97, 98, 99]), (keyMethod, [97])]
        else
          none
      getString := fun obj key =>
        (obj.find? fun member => member.1 = key).map Prod.snd }
  toJsonString := fun _ => [openBrace, closeBrace]
  rpcCallList := [{ method := [97], methodIndex := 0 }]

/-- A client asks for the method `a` under the id `"abc"`. -/
def letterRun : List (PipeLabel FlatJson) :=
  [.listenEvent (.accept 4 none),
    .listenEvent (.recvData 4 (sendData letterText)),
    .listenThread, .listenThread, .listenThread, .listenThread, .listenThread,
    .listenThread,
    .mapperThread, .mapperThread,
    .mapperWork
      { mapperResult := .success, jsonRespObj := none, customResultString := "" },
    .mapperThread, .mapperThread,
    .respThread, .respThread, .respThread, .respThread, .respThread,
    .socketThread, .socketThread, .socketCheck true, .socketThread]

/-- The request with the id `"abc"` gets a result with the id 0. -/
theorem not_answeredOnce_letterRun :
    ∃ s,
      run (pipeStep letterConfig) (startServer 3) letterRun = some s ∧
      Quiescent s ∧
      s.scheduled.map (fun answer => answer.message.resultId) = [some 0] ∧
      ¬ AnsweredOnce letterConfig flatIdNumber s := by
  have hends :
      (run (pipeStep letterConfig) (startServer 3) letterRun).any (fun s =>
        decide (Quiescent s ∧
          s.scheduled.map (fun answer => answer.message.resultId) = [some 0] ∧
          (arrived s).map NetDataObj.text = [letterText])) = true := by
    decide +kernel
  obtain ⟨s, hrun, hs⟩ := (Option.any_eq_true _ _).mp hends
  obtain ⟨hrest, hids, harrived⟩ := of_decide_eq_true hs
  refine ⟨s, hrun, hrest, hids, ?_⟩
  intro hanswered
  obtain ⟨obj, harrivedObj, htext⟩ : ∃ obj ∈ arrived s, obj.text = letterText := by
    have hmem : letterText ∈ (arrived s).map NetDataObj.text := by
      rw [harrived]
      exact List.mem_singleton_self _
    exact List.mem_map.mp hmem
  obtain ⟨answer, -, hsuited⟩ := hanswered.exactlyOnce hrest obj harrivedObj
  have hverdict :
      (jsonProcessRequest letterConfig.lib letterConfig.rpcCallList letterText).value =
        .accept 0 { method := [97], methodIndex := 0 } .sync := by
    decide
  rw [htext] at hsuited
  simp only [AnswersRequest, hverdict] at hsuited
  obtain ⟨request, n, -, hrequest, hnumber, -⟩ := hsuited
  have hobj :
      requestObject letterConfig.lib letterText =
        some [(keyId, [97, 98, 99]), (keyMethod, [97])] := by
    decide
  rw [hobj] at hrequest
  cases hrequest
  -- no number is printed as `abc`
  have hnone : flatIdNumber [(keyId, [97, 98, 99]), (keyMethod, [97])] = none := by
    decide
  rw [hnone] at hnumber
  cases hnumber

end Adav
end BrBox
