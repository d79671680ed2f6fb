import BrBox.Adav.RpcPipeline
import Mathlib.Data.List.Range

/-!
# Invariants of the request pipeline

Each invariant follows the entries through one part of the server.

* `NumberInv`: the entries that were looked at, the one in the listen thread's
  hand and those still on the request chain are all entries, in order.
* `AnswerInv`: rejected entries have their error, accepted entries have a
  task, and the tasks are answered in the order of their addresses.
* `PendingInv`: the tasks on `ReqRespChain` are first those whose ident is on
  its way back and then those the mapper has not finished.  The ident that the
  response thread looks for is therefore always that of the first task, so
  nothing depends on the idents being distinct.
* `SemaInv`: every chain holds as many elements as wake-ups are outstanding.
* `HandledInv`: the socket thread takes the answers in the order in which they
  were scheduled.
-/

namespace BrBox
namespace Adav

open CText
open LabelledRun

universe u

/-- The entry in the listen thread's hand. -/
@[simp] def ListenPc.entryHand : ListenPc → List NetDataObj
  | .process obj => [obj]
  | _ => []

/-- The task that is not on `ReqRespChain` yet. -/
@[simp] def ListenPc.taskHand : ListenPc → List Nat
  | .putTask addr => [addr]
  | _ => []

/-- The task that is on `ReqRespChain` but not on `ReqChain` yet. -/
@[simp] def ListenPc.notifyHand : ListenPc → List Nat
  | .notify addr => [addr]
  | _ => []

/-- The mapper's wake-up is still to be posted. -/
@[simp] def ListenPc.owesMapper : ListenPc → Nat
  | .wakeMapper => 1
  | _ => 0

/-- The socket thread's wake-up is still to be posted. -/
@[simp] def ListenPc.owesSocket : ListenPc → Nat
  | .wakeSocket => 1
  | _ => 0

/-- The task the mapper works on. -/
@[simp] def MapperPc.hand : MapperPc → List Nat
  | .work addr => [addr]
  | .putResp addr => [addr]
  | _ => []

/-- The mapper has used up a wake-up and not looked at its chain yet. -/
@[simp] def MapperPc.awakeCount : MapperPc → Nat
  | .awake => 1
  | _ => 0

/-- The wake-up of the response thread is still to be posted. -/
@[simp] def MapperPc.owesResp : MapperPc → Nat
  | .wakeResp => 1
  | _ => 0

/-- The ident the response thread looks for. -/
@[simp] def RespPc.identHand : RespPc → List Int
  | .gotId ident => [ident]
  | _ => []

/-- The task the response thread answers. -/
@[simp] def RespPc.taskHand : RespPc → List Nat
  | .respond addr => [addr]
  | _ => []

/-- The response thread has not looked at its chain yet. -/
@[simp] def RespPc.awakeCount : RespPc → Nat
  | .awake => 1
  | _ => 0

/-- The socket thread's wake-up is still to be posted. -/
@[simp] def RespPc.owesSocket : RespPc → Nat
  | .wakeSocket => 1
  | _ => 0

/-- The socket thread has not looked at its chain yet. -/
@[simp] def SocketPc.awakeCount : SocketPc → Nat
  | .awake => 1
  | _ => 0

section Keys

variable {J : Type u}
variable (cfg : RpcConfig J)

/-- The request id of a result. -/
def RpcMessage.resultId : RpcMessage J → Option Int
  | .error _ _ _ => none
  | .result _ id => some id

/-- The request id with which an entry is accepted. -/
def acceptedId (obj : NetDataObj) : Option Int :=
  match verdict cfg obj with
  | .reject _ _ => none
  | .accept reqId _ _ => some reqId

/-- The entry passes every check of `json_process_request`. -/
def accepted (obj : NetDataObj) : Bool :=
  (acceptedId cfg obj).isSome

/-- The origin and the request id of an entry. -/
def entryKey (obj : NetDataObj) : Origin × Option Int :=
  (obj.origin, acceptedId cfg obj)

/-- The origin and the request id of a task. -/
def taskKey (task : ApiTaskObj J) : Origin × Option Int :=
  (task.pNetData.origin, some task.reqId)

/-- The origin and the request id of an answer. -/
def answerKey (answer : Answer J) : Origin × Option Int :=
  (answer.origin, answer.message.resultId)

/-- The error that a rejected entry is answered with. -/
def errorOf (obj : NetDataObj) : Answer J :=
  match verdict cfg obj with
  | .reject err id => errorAnswer obj err id
  | .accept reqId _ _ => errorAnswer obj .internalError reqId

/-- Answers to accepted entries. -/
def resultAnswers (answers : List (Answer J)) : List (Answer J) :=
  answers.filter fun answer => answer.message.isResult

/-- Answers to rejected entries. -/
def errorAnswers (answers : List (Answer J)) : List (Answer J) :=
  answers.filter fun answer => !answer.message.isResult

end Keys

section Invariants

variable {J : Type u}
variable (cfg : RpcConfig J)

/-- All entries received so far, in the order of their numbers. -/
def arrived (s : PipeState J) : List NetDataObj :=
  s.processed ++ s.listen.entryHand ++ s.net.requestChain.elems

/-- The entries are numbered and none is left behind in the select loop. -/
structure NumberInv (s : PipeState J) : Prop where
  numbered :
    (arrived s).map (fun obj => obj.origin.seq) = List.range s.net.received
  drained : s.listen = .idle → s.net.requestChain.elems = []

/-- Every chain holds one element per outstanding wake-up. -/
structure SemaInv (s : PipeState J) : Prop where
  reqChain :
    s.reqChain.elems.length =
      s.reqSema + s.mapper.awakeCount + s.listen.owesMapper
  respChain :
    s.respChain.elems.length =
      s.respSema + s.resp.awakeCount + s.mapper.owesResp
  responseChain :
    s.responseChain.elems.length =
      s.responseSema + s.socket.awakeCount +
        s.listen.owesSocket + s.resp.owesSocket

/-- Entries, tasks and answers correspond. -/
structure AnswerInv (s : PipeState J) : Prop where
  errors :
    errorAnswers s.scheduled =
      (s.processed.filter fun obj => !accepted cfg obj).map (errorOf cfg)
  tasks :
    s.tasks.map taskKey =
      (s.processed.filter (accepted cfg)).map (entryKey cfg)
  results :
    (resultAnswers s.scheduled).map answerKey =
      (s.tasks.map taskKey).take (resultAnswers s.scheduled).length
  queued :
    List.range (resultAnswers s.scheduled).length ++ s.resp.taskHand ++
        s.reqRespChain.elems ++ s.listen.taskHand =
      List.range s.tasks.length

/-- The tasks on `ReqRespChain`: finished by the mapper, then unfinished. -/
def PendingInv (s : PipeState J) : Prop :=
  ∃ finished,
    s.reqRespChain.elems =
      finished ++ (s.mapper.hand ++ s.reqChain.elems ++ s.listen.notifyHand) ∧
    finished.map (identAt s.tasks) =
      (s.resp.identHand ++ s.respChain.elems).map some

/-- The socket thread has taken a first part of the answers. -/
def HandledInv (s : PipeState J) : Prop :=
  s.handled ++ s.responseChain.elems = s.scheduled.map (responseObj cfg)

/-- The invariant of the pipeline. -/
structure PipeInv (s : PipeState J) : Prop where
  number : NumberInv s
  sema : SemaInv s
  answer : AnswerInv cfg s
  pending : PendingInv s
  handled : HandledInv cfg s

/-- The invariant holds when the server starts. -/
theorem pipeInv_start (listenSd : Nat) :
    PipeInv cfg (startServer listenSd : PipeState J) where
  number := ⟨rfl, fun _ => rfl⟩
  sema := ⟨rfl, rfl, rfl⟩
  answer := ⟨rfl, rfl, rfl, rfl⟩
  pending := ⟨[], rfl, rfl⟩
  handled := rfl

variable {cfg}

/-- What the select loop does to the request chain. -/
theorem listenStep_entries
    {s t : ListenState} {ev : ListenEvent}
    (hempty : s.requestChain.elems = [])
    (hstep : listenStep s ev = some t) :
    t.requestChain.elems.map (fun obj => obj.origin.seq) =
        List.range' s.received (t.received - s.received) ∧
      s.received ≤ t.received ∧
      (ev.nextPc = .idle → t.requestChain.elems = []) := by
  obtain ⟨-, hcases⟩ := listenStep_cases hstep
  rcases hcases with
    ⟨sd, info, rfl, -, -, rfl⟩ | ⟨rfl, rfl⟩ |
    ⟨sd, received, conn, rfl, -, -, hrecv⟩ | ⟨sd, rfl, rfl⟩ |
    ⟨sd, rfl, -, rfl⟩ | ⟨sd, rfl, -, rfl⟩
  · cases info with
    | none => simp [acceptConn, printClientInfo, hempty]
    | some hostPort =>
        simp [acceptConn, printClientInfo, registerClientInfo, hempty]
  · simp [hempty]
  · obtain ⟨objs, chain, hsome, helems, -, hseq, -⟩ :=
      jsonReceive_spec s sd conn received
    rw [hsome, Option.some.injEq] at hrecv
    subst hrecv
    refine ⟨?_, ?_, ?_⟩
    · simp [helems, hempty, hseq]
    · simp
    · intro hidle
      simp [ListenEvent.nextPc] at hidle
  · simp [hempty]
  · simp [closeConn, deregisterClientInfo, hempty]
  · simp [closeConn, hempty]

/-- An event leaves the entries already looked at alone. -/
theorem nextPc_entryHand (ev : ListenEvent) :
    ev.nextPc.entryHand = [] := by
  cases ev <;> rfl

theorem numberInv_move
    {s t : PipeState J} {l : PipeLabel J}
    (hinv : NumberInv s)
    (hmove : PipeMove cfg s l t) :
    NumberInv t := by
  obtain ⟨hnum, hdrained⟩ := hinv
  cases hmove with
  | event ev net hpc hnet =>
      obtain ⟨hseq, hle, hidle⟩ := listenStep_entries (hdrained hpc) hnet
      refine ⟨?_, hidle⟩
      simp only [arrived, hpc, hdrained hpc, ListenPc.entryHand,
        List.append_nil] at hnum
      simp only [arrived, nextPc_entryHand, List.append_nil, List.map_append,
        hnum, hseq]
      have happend :
          List.range' 0 s.net.received ++
              List.range' (0 + 1 * s.net.received)
                (net.received - s.net.received) =
            List.range' 0 (s.net.received + (net.received - s.net.received)) :=
        List.range'_append
      rw [List.range_eq_range', List.range_eq_range']
      simpa [Nat.add_sub_cancel' hle] using happend
  | _ =>
      refine ⟨?_, ?_⟩ <;>
        simp_all [arrived, scheduleResponse]

theorem semaInv_move
    {s t : PipeState J} {l : PipeLabel J}
    (hinv : SemaInv s)
    (hmove : PipeMove cfg s l t) :
    SemaInv t := by
  obtain ⟨hreq, hresp, hresponse⟩ := hinv
  cases hmove with
  | event ev net hpc hnet =>
      refine ⟨?_, hresp, ?_⟩
      · cases ev <;> simpa [hpc, ListenEvent.nextPc] using hreq
      · cases ev <;> simpa [hpc, ListenEvent.nextPc] using hresponse
  | removeTask ident hpc =>
      refine ⟨hreq, ?_, ?_⟩
      · simp only [hpc, RespPc.awakeCount] at hresp
        split <;> simpa using hresp
      · simp only [hpc, RespPc.owesSocket] at hresponse
        split <;> simpa using hresponse
  | drained hpc _ | takeEntry _ _ hpc _ | accept _ _ _ _ hpc _
  | putTask _ hpc =>
      exact ⟨by simpa [hpc] using hreq, hresp,
        by simpa [hpc] using hresponse⟩
  | reject _ _ _ hpc _ | errorWake hpc =>
      refine ⟨by simpa [scheduleResponse, hpc] using hreq, hresp, ?_⟩
      simp [scheduleResponse, hpc] at hresponse ⊢
      omega
  | notify _ hpc | mapperWake hpc =>
      refine ⟨?_, hresp, by simpa [hpc] using hresponse⟩
      simp [hpc] at hreq ⊢
      omega
  | mapperStart hpc hsema =>
      refine ⟨?_, by simpa [hpc] using hresp, hresponse⟩
      simp [hpc] at hreq ⊢
      omega
  | mapperNothing hpc hchain | mapperTake _ _ hpc hchain =>
      refine ⟨?_, by simpa [hpc] using hresp, hresponse⟩
      simp [hpc, hchain] at hreq ⊢
      omega
  | mapperWork _ _ hpc =>
      exact ⟨by simpa [hpc] using hreq, by simpa [hpc] using hresp, hresponse⟩
  | putResp _ _ hpc _ | respWake hpc =>
      refine ⟨by simpa [hpc] using hreq, ?_, hresponse⟩
      simp [hpc] at hresp ⊢
      omega
  | respStart hpc hsema =>
      refine ⟨hreq, ?_, by simpa [hpc] using hresponse⟩
      simp [hpc] at hresp ⊢
      omega
  | respNothing hpc hchain | respTake _ _ hpc hchain =>
      refine ⟨hreq, ?_, by simpa [hpc] using hresponse⟩
      simp [hpc, hchain] at hresp ⊢
      omega
  | respond _ _ hpc _ | resultWake hpc =>
      refine ⟨hreq, by simpa [scheduleResponse, hpc] using hresp, ?_⟩
      simp [scheduleResponse, hpc] at hresponse ⊢
      omega
  | socketStart hpc hsema =>
      refine ⟨hreq, hresp, ?_⟩
      simp [hpc] at hresponse ⊢
      omega
  | socketNothing hpc hchain | socketTake _ _ hpc hchain =>
      refine ⟨hreq, hresp, ?_⟩
      simp [hpc, hchain] at hresponse ⊢
      omega
  | dropped _ hpc | checked _ hpc | sendFailed _ hpc _ | sent _ _ hpc _ =>
      exact ⟨hreq, hresp, by simpa [hpc] using hresponse⟩

theorem handledInv_move
    {s t : PipeState J} {l : PipeLabel J}
    (hinv : HandledInv cfg s)
    (hmove : PipeMove cfg s l t) :
    HandledInv cfg t := by
  unfold HandledInv at hinv ⊢
  cases hmove with
  | reject obj err id hpc hverdict =>
      simp only [scheduleResponse, GenericChain.chainPut_elems,
        List.map_append, ← hinv, List.append_assoc, List.map_cons,
        List.map_nil]
  | respond addr task hpc htask =>
      simp only [scheduleResponse, GenericChain.chainPut_elems,
        List.map_append, ← hinv, List.append_assoc, List.map_cons,
        List.map_nil]
  | socketTake obj rest hpc hchain =>
      simp only [hchain] at hinv
      simpa using hinv
  | _ =>
      exact hinv

/-- The mapper's work changes neither the key nor the ident of a task. -/
theorem map_modify_putOutcome
    {β : Type*} {g : ApiTaskObj J → β}
    (hg : ∀ outcome task, g (putOutcome outcome task) = g task)
    (tasks : List (ApiTaskObj J)) (addr : Nat) (outcome : MapperOutcome J) :
    (tasks.modify addr (putOutcome outcome)).map g = tasks.map g := by
  refine List.ext_getElem? fun i => ?_
  simp only [List.getElem?_map, List.getElem?_modify]
  cases tasks[i]? with
  | none => rfl
  | some task =>
      by_cases haddr : addr = i
      · simp [haddr, hg]
      · simp [haddr]

theorem identAt_modify
    (tasks : List (ApiTaskObj J)) (addr : Nat) (outcome : MapperOutcome J) :
    identAt (tasks.modify addr (putOutcome outcome)) = identAt tasks := by
  funext i
  have hmap :=
    map_modify_putOutcome (g := ApiTaskObj.ident) (fun _ _ => rfl)
      tasks addr outcome
  simp only [identAt, ← List.getElem?_map, hmap]

/-- A new task leaves the idents of the others alone. -/
theorem identAt_append
    {tasks : List (ApiTaskObj J)} {addr : Nat}
    (hlt : addr < tasks.length) (more : List (ApiTaskObj J)) :
    identAt (tasks ++ more) addr = identAt tasks addr := by
  simp only [identAt, List.getElem?_append_left hlt]

/-- The response thread finds the first task under the ident it looks for. -/
theorem pendingInv_head
    {s : PipeState J} {ident : Int}
    (hinv : PendingInv s)
    (hpc : s.resp = .gotId ident) :
    ∃ addr rest,
      s.reqRespChain.elems = addr :: rest ∧
      identAt s.tasks addr = some ident := by
  obtain ⟨finished, hchain, hidents⟩ := hinv
  simp only [hpc, RespPc.identHand, List.singleton_append,
    List.map_cons] at hidents
  obtain ⟨addr, finished', rfl, hident, -⟩ := List.map_eq_cons_iff.mp hidents
  exact ⟨addr, _, hchain, hident⟩

theorem pendingInv_move
    {s t : PipeState J} {l : PipeLabel J}
    (hqueued : ∀ addr ∈ s.reqRespChain.elems, addr < s.tasks.length)
    (hinv : PendingInv s)
    (hmove : PipeMove cfg s l t) :
    PendingInv t := by
  obtain ⟨finished, hchain, hidents⟩ := id hinv
  cases hmove with
  | event ev net hpc hnet =>
      refine ⟨finished, ?_, hidents⟩
      cases ev <;> simpa [hpc, ListenEvent.nextPc] using hchain
  | accept obj reqId command access hpc hverdict =>
      refine ⟨finished, by simpa [hpc] using hchain, ?_⟩
      rw [← hidents]
      refine List.map_congr_left fun addr haddr => ?_
      exact identAt_append
        (hqueued addr (by rw [hchain]; exact List.mem_append_left _ haddr)) _
  | putTask addr hpc =>
      refine ⟨finished, ?_, hidents⟩
      simp only [hpc, ListenPc.notifyHand, List.append_nil] at hchain
      simp [hchain]
  | notify addr hpc =>
      refine ⟨finished, ?_, hidents⟩
      simpa [hpc] using hchain
  | mapperTake addr rest hpc hreq =>
      refine ⟨finished, ?_, hidents⟩
      simpa [hpc, hreq] using hchain
  | mapperWork addr outcome hpc =>
      refine ⟨finished, by simpa [hpc] using hchain, ?_⟩
      rw [identAt_modify]
      exact hidents
  | putResp addr ident hpc hident =>
      -- The task moves from the mapper's hand to the finished ones.
      refine ⟨finished ++ [addr], by simpa [hpc] using hchain, ?_⟩
      simp [hidents, hident]
  | respTake ident rest hpc hresp =>
      refine ⟨finished, hchain, ?_⟩
      simpa [hpc, hresp] using hidents
  | removeTask ident hpc =>
      obtain ⟨addr, rest, hhead, hident⟩ := pendingInv_head hinv hpc
      simp only [hpc, RespPc.identHand, List.singleton_append,
        List.map_cons] at hidents
      obtain ⟨addr', finished', rfl, -, hrest⟩ :=
        List.map_eq_cons_iff.mp hidents
      rw [hhead, List.cons_append, List.cons.injEq] at hchain
      refine ⟨finished', ?_, ?_⟩
      · simpa [hhead, hident] using hchain.2
      · simpa [hhead, hident] using hrest
  | drained hpc _ | takeEntry _ _ hpc _ | reject _ _ _ hpc _
  | errorWake hpc | mapperWake hpc | mapperStart hpc _
  | mapperNothing hpc _ | respWake hpc =>
      exact ⟨finished, by simpa [scheduleResponse, hpc] using hchain, hidents⟩
  | respStart hpc _ | respNothing hpc _ | respond _ _ hpc _
  | resultWake hpc =>
      exact ⟨finished, hchain, by simpa [scheduleResponse, hpc] using hidents⟩
  | socketStart _ _ | socketNothing _ _ | socketTake _ _ _ _ | dropped _ _
  | checked _ _ | sendFailed _ _ _ | sent _ _ _ _ =>
      exact ⟨finished, hchain, hidents⟩

/-- An accepted entry has the key of its task. -/
theorem entryKey_of_accept
    {obj : NetDataObj} {reqId : Int}
    {command : RpcCommand} {access : CmdTaskAcc}
    (hverdict : verdict cfg obj = .accept reqId command access)
    (ident : Int) :
    accepted cfg obj = true ∧
      entryKey cfg obj =
        taskKey (newTask ident reqId obj command access : ApiTaskObj J) := by
  have hid : acceptedId cfg obj = some reqId := by
    simp only [acceptedId, hverdict]
  exact ⟨by simp [accepted, hid], by simp [entryKey, taskKey, newTask, hid]⟩

/-- A rejected entry has the error it is answered with. -/
theorem errorOf_of_reject
    {obj : NetDataObj} {err : JsonRpcErrType} {id : Int}
    (hverdict : verdict cfg obj = .reject err id) :
    accepted cfg obj = false ∧ errorOf cfg obj = errorAnswer obj err id := by
  have hid : acceptedId cfg obj = none := by
    simp only [acceptedId, hverdict]
  exact ⟨by simp [accepted, hid], by simp [errorOf, hverdict]⟩

/-- A result carries the key of its task. -/
theorem answerKey_resultAnswer (task : ApiTaskObj J) :
    answerKey (resultAnswer task) = taskKey task := by
  simp only [answerKey, resultAnswer, taskKey, jsonSendNewResult]
  cases task.jsonRespObj <;> rfl

/-- Every task on `ReqRespChain` exists. -/
theorem AnswerInv.bounds
    {s : PipeState J} (hinv : AnswerInv cfg s) :
    (resultAnswers s.scheduled).length ≤ s.tasks.length ∧
      ∀ addr ∈ s.reqRespChain.elems, addr < s.tasks.length := by
  constructor
  · have hlen := congrArg List.length hinv.queued
    simp only [List.length_append, List.length_range] at hlen
    omega
  · intro addr haddr
    have hmem : addr ∈ List.range s.tasks.length := by
      rw [← hinv.queued]
      simp [haddr]
    exact List.mem_range.mp hmem

/-- The task in the response thread's hand is the next one to be answered. -/
theorem AnswerInv.next
    {s : PipeState J} {addr : Nat}
    (hinv : AnswerInv cfg s)
    (hpc : s.resp = .respond addr) :
    addr = (resultAnswers s.scheduled).length := by
  have hget := congrArg
    (fun l => l[(resultAnswers s.scheduled).length]?) hinv.queued
  simp only [hpc, RespPc.taskHand, List.append_assoc] at hget
  rw [List.getElem?_append_right (by simp)] at hget
  simp only [List.length_range, Nat.sub_self, List.singleton_append,
    List.getElem?_cons_zero] at hget
  have hrange := List.getElem?_eq_some_iff.mp hget.symm
  obtain ⟨hlt, hval⟩ := hrange
  simpa using hval.symm

theorem answerInv_move
    {s t : PipeState J} {l : PipeLabel J}
    (hpending : PendingInv s)
    (hinv : AnswerInv cfg s)
    (hmove : PipeMove cfg s l t) :
    AnswerInv cfg t := by
  obtain ⟨hle, -⟩ := hinv.bounds
  obtain ⟨herrors, htasks, hresults, hqueued⟩ := id hinv
  cases hmove with
  | event ev net hpc hnet =>
      refine ⟨herrors, htasks, hresults, ?_⟩
      cases ev <;> simpa [hpc, ListenEvent.nextPc] using hqueued
  | reject obj err id hpc hverdict =>
      obtain ⟨hacc, herr⟩ := errorOf_of_reject hverdict
      refine ⟨?_, ?_, ?_, ?_⟩
      · simp only [errorAnswers] at herrors ⊢
        simp [scheduleResponse, herrors, hacc, herr, errorAnswer]
      · simpa [scheduleResponse, hacc] using htasks
      · simpa [scheduleResponse, resultAnswers, errorAnswer] using hresults
      · simpa [scheduleResponse, resultAnswers, errorAnswer, hpc]
          using hqueued
  | accept obj reqId command access hpc hverdict =>
      obtain ⟨hacc, hkey⟩ :=
        entryKey_of_accept hverdict s.reqRespChain.chainGenerateIdent.1
      refine ⟨?_, ?_, ?_, ?_⟩
      · simpa [hacc] using herrors
      · simp [hacc, htasks, hkey]
      · simp only [List.map_append]
        rw [List.take_append_of_le_length (by simpa using hle)]
        exact hresults
      · simp only [hpc, ListenPc.taskHand, List.append_nil] at hqueued
        simp only [ListenPc.taskHand, GenericChain.chainGenerateIdent_elems,
          hqueued, List.length_append, List.length_singleton,
          List.range_succ]
  | putTask addr hpc =>
      refine ⟨herrors, htasks, hresults, ?_⟩
      simpa [hpc] using hqueued
  | mapperWork addr outcome hpc =>
      have hkeys :=
        map_modify_putOutcome (g := taskKey) (fun _ _ => rfl)
          s.tasks addr outcome
      refine ⟨herrors, ?_, ?_, ?_⟩
      · rw [hkeys]
        exact htasks
      · rw [hkeys]
        exact hresults
      · simpa using hqueued
  | removeTask ident hpc =>
      obtain ⟨addr, rest, hhead, hident⟩ := pendingInv_head hpending hpc
      refine ⟨herrors, htasks, hresults, ?_⟩
      simpa [hpc, hhead, hident] using hqueued
  | respond addr task hpc htask =>
      have haddr := hinv.next hpc
      have hlt : addr < s.tasks.length :=
        (List.getElem?_eq_some_iff.mp htask).1
      have hlast :
          resultAnswers (s.scheduled ++ [resultAnswer task]) =
            resultAnswers s.scheduled ++ [resultAnswer task] := by
        simp [resultAnswers, resultAnswer]
      refine ⟨?_, htasks, ?_, ?_⟩
      · simpa [scheduleResponse, errorAnswers, resultAnswer] using herrors
      · simp only [scheduleResponse, hlast, List.map_append, hresults,
          List.length_append, List.length_singleton, List.map_singleton,
          answerKey_resultAnswer]
        rw [List.take_add_one, ← haddr]
        simp [htask]
      · simp only [hpc, RespPc.taskHand] at hqueued
        simp only [scheduleResponse, hlast, List.length_append,
          List.length_singleton, List.range_succ, RespPc.taskHand,
          List.append_nil]
        rw [← haddr] at hqueued ⊢
        exact hqueued
  | drained hpc _ | takeEntry _ _ hpc _ | errorWake hpc | notify _ hpc
  | mapperWake hpc | respStart hpc _ | respNothing hpc _ | respTake _ _ hpc _
  | resultWake hpc =>
      exact ⟨herrors, htasks, hresults, by simpa [hpc] using hqueued⟩
  | mapperStart _ _ | mapperNothing _ _ | mapperTake _ _ _ _
  | putResp _ _ _ _ | respWake _ | socketStart _ _ | socketNothing _ _
  | socketTake _ _ _ _ | dropped _ _ | checked _ _ | sendFailed _ _ _
  | sent _ _ _ _ =>
      exact ⟨herrors, htasks, hresults, hqueued⟩

/-- Every move keeps the invariant. -/
theorem pipeInv_move
    {s t : PipeState J} {l : PipeLabel J}
    (hinv : PipeInv cfg s)
    (hmove : PipeMove cfg s l t) :
    PipeInv cfg t where
  number := numberInv_move hinv.number hmove
  sema := semaInv_move hinv.sema hmove
  answer := answerInv_move hinv.pending hinv.answer hmove
  pending := pendingInv_move hinv.answer.bounds.2 hinv.pending hmove
  handled := handledInv_move hinv.handled hmove

/-- The invariant holds in every reachable state. -/
theorem pipeInv_run
    {listenSd : Nat} {ls : List (PipeLabel J)} {s : PipeState J}
    (hrun : run (pipeStep cfg) (startServer listenSd) ls = some s) :
    PipeInv cfg s := by
  refine run_invariant ?_ (pipeInv_start cfg listenSd) hrun
  intro s l t hinv hstep
  exact pipeInv_move hinv (pipeStep_move hstep)

end Invariants

end Adav
end BrBox
