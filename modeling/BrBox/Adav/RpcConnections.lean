import BrBox.Adav.RpcInvariant

/-!
# Answers and connections

A response carries the number of a descriptor, not the connection the request
came from.  Between the request and the `send` the peer may close its
connection and the number may be given to another client, whose connection is
then alive for `IsConnectionAlive`.

An answer reaches its requester as long as `accept` returns no number that a
request or a response on its way through the server still carries.
-/

namespace BrBox
namespace Adav

open CText
open LabelledRun

universe u

/-- The response in the socket thread's hand. -/
@[simp] def SocketPc.hand : SocketPc → List NetDataObj
  | .check obj => [obj]
  | .send obj => [obj]
  | _ => []

section Connections

variable {J : Type u}

/-- The descriptor number of an entry and the connection it came from. -/
def route (obj : NetDataObj) : Nat × Nat :=
  (obj.sockDescriptor, obj.origin.conn)

/-- The tasks between `json_process_request` and `schedule_response`. -/
def openTasks (s : PipeState J) : List Nat :=
  s.listen.taskHand ++ s.reqRespChain.elems ++ s.resp.taskHand

/-- The entry a task was made from. -/
def taskEntry (tasks : List (ApiTaskObj J)) (addr : Nat) :
    Option NetDataObj :=
  (tasks[addr]?).map ApiTaskObj.pNetData

/-- Requests and responses on their way through the server. -/
def inFlight (s : PipeState J) : List NetDataObj :=
  s.net.requestChain.elems ++ s.listen.entryHand ++
    (openTasks s).filterMap (taskEntry s.tasks) ++
    s.responseChain.elems ++ s.socket.hand

/-- No request or response on its way carries the accepted number. -/
def FreshNumber (s : PipeState J) : PipeLabel J → Prop
  | .listenEvent (.accept sd _) => ∀ obj ∈ inFlight s, obj.sockDescriptor ≠ sd
  | _ => True

instance decidableFreshNumber (s : PipeState J) :
    ∀ l, Decidable (FreshNumber s l)
  | .listenEvent (.accept sd _) =>
      inferInstanceAs
        (Decidable (∀ obj ∈ inFlight s, obj.sockDescriptor ≠ sd))
  | .listenEvent .acceptFail => isTrue trivial
  | .listenEvent (.recvData _ _) => isTrue trivial
  | .listenEvent (.recvWouldBlock _) => isTrue trivial
  | .listenEvent (.recvClosed _) => isTrue trivial
  | .listenEvent (.recvFail _) => isTrue trivial
  | .listenThread => isTrue trivial
  | .mapperThread => isTrue trivial
  | .mapperWork _ => isTrue trivial
  | .respThread => isTrue trivial
  | .socketThread => isTrue trivial
  | .socketCheck _ => isTrue trivial

/-- Every response went to the connection its request came from. -/
def SentToRequester (s : PipeState J) : Prop :=
  ∀ response ∈ s.sent, response.1.origin.conn = response.2

/-- A number on its way is closed or still means the same connection. -/
structure ConnInv (s : PipeState J) : Prop where
  routes :
    ∀ obj ∈ inFlight s, ∀ conn,
      s.net.fds obj.sockDescriptor = some conn → obj.origin.conn = conn
  sent : SentToRequester s

variable {cfg : RpcConfig J}

/-- Every open task exists. -/
theorem AnswerInv.open_lt
    {s : PipeState J} (hinv : AnswerInv cfg s) :
    (∀ addr ∈ s.reqRespChain.elems, addr < s.tasks.length) ∧
      ∀ addr ∈ s.resp.taskHand, addr < s.tasks.length := by
  refine ⟨hinv.bounds.2, ?_⟩
  intro addr haddr
  have hmem : addr ∈ List.range s.tasks.length := by
    rw [← hinv.queued]
    simp only [List.mem_append]
    tauto
  exact List.mem_range.mp hmem

/-- A new task brings in nothing but its own entry. -/
theorem taskEntries_append
    {tasks : List (ApiTaskObj J)} {task : ApiTaskObj J} {addrs : List Nat}
    (hlt : ∀ addr ∈ addrs, addr < tasks.length) :
    addrs.filterMap (taskEntry (tasks ++ [task])) =
      addrs.filterMap (taskEntry tasks) := by
  refine List.filterMap_congr fun addr haddr => ?_
  simp only [taskEntry, List.getElem?_append_left (hlt addr haddr)]

/-- The mapper's work leaves the entries of the tasks alone. -/
theorem taskEntry_modify
    (tasks : List (ApiTaskObj J)) (addr : Nat) (outcome : MapperOutcome J) :
    taskEntry (tasks.modify addr (putOutcome outcome)) = taskEntry tasks := by
  funext i
  have hmap :=
    map_modify_putOutcome (g := ApiTaskObj.pNetData) (fun _ _ => rfl)
      tasks addr outcome
  simp only [taskEntry, ← List.getElem?_map, hmap]

/-- Moves of the threads bring no new route into the server. -/
theorem inFlight_move
    {s t : PipeState J} {l : PipeLabel J}
    (hinv : PipeInv cfg s)
    (hmove : PipeMove cfg s l t)
    (hevent : ∀ ev, l ≠ .listenEvent ev) :
    t.net.fds = s.net.fds ∧
      ∀ obj ∈ inFlight t, ∃ obj' ∈ inFlight s, route obj' = route obj := by
  cases hmove with
  | event ev net hpc hnet =>
      exact absurd rfl (hevent ev)
  | reject obj err id hpc hverdict =>
      refine ⟨rfl, fun response hresponse => ?_⟩
      simp only [inFlight, openTasks, scheduleResponse, hpc,
        ListenPc.entryHand, ListenPc.taskHand, List.mem_append,
        List.filterMap_append, GenericChain.chainPut_elems,
        List.mem_singleton] at hresponse ⊢
      by_cases hnew : response = responseObj cfg (errorAnswer obj err id)
      · exact ⟨obj, by tauto, by rw [hnew]; rfl⟩
      · exact ⟨response, by tauto, rfl⟩
  | accept obj reqId command access hpc hverdict =>
      refine ⟨rfl, fun entry hentry => ⟨entry, ?_, rfl⟩⟩
      obtain ⟨hchain, hhand⟩ := hinv.answer.open_lt
      simp only [inFlight, openTasks, hpc, ListenPc.entryHand,
        ListenPc.taskHand, List.filterMap_append,
        GenericChain.chainGenerateIdent_elems, taskEntries_append hchain,
        taskEntries_append hhand, List.mem_append, List.mem_singleton]
        at hentry ⊢
      have hnew :
          ∀ task : ApiTaskObj J,
            [s.tasks.length].filterMap (taskEntry (s.tasks ++ [task])) =
              [task.pNetData] := by
        intro task
        simp [taskEntry]
      simp only [hnew, newTask, List.mem_singleton] at hentry
      tauto
  | respond addr task hpc htask =>
      refine ⟨rfl, fun response hresponse => ?_⟩
      have hentry :
          [addr].filterMap (taskEntry s.tasks) = [task.pNetData] := by
        simp [taskEntry, htask]
      simp only [inFlight, openTasks, scheduleResponse, hpc, hentry,
        RespPc.taskHand, List.mem_append, List.filterMap_append,
        List.filterMap_nil, GenericChain.chainPut_elems,
        List.mem_singleton] at hresponse ⊢
      by_cases hnew : response = responseObj cfg (resultAnswer task)
      · exact ⟨task.pNetData, by tauto, by rw [hnew]; rfl⟩
      · exact ⟨response, by tauto, rfl⟩
  | mapperWork addr outcome hpc =>
      refine ⟨rfl, fun obj hobj => ⟨obj, ?_, rfl⟩⟩
      simpa only [inFlight, openTasks, taskEntry_modify] using hobj
  | removeTask ident hpc =>
      obtain ⟨addr, rest, hhead, hident⟩ := pendingInv_head hinv.pending hpc
      refine ⟨rfl, fun obj hobj => ⟨obj, ?_, rfl⟩⟩
      simp only [inFlight, openTasks, hpc, hhead, hident, RespPc.taskHand,
        decide_true, List.find?_cons_of_pos, List.eraseP_cons_of_pos,
        List.filterMap_append, List.mem_append] at hobj ⊢
      rw [← List.singleton_append, List.filterMap_append, List.mem_append]
      tauto
  | takeEntry obj rest hpc hchain =>
      refine ⟨rfl, fun entry hentry => ⟨entry, ?_, rfl⟩⟩
      simp only [inFlight, openTasks, hpc, hchain, ListenPc.entryHand,
        ListenPc.taskHand, List.mem_append, List.mem_cons] at hentry ⊢
      tauto
  | putTask addr hpc =>
      refine ⟨rfl, fun entry hentry => ⟨entry, ?_, rfl⟩⟩
      simp only [inFlight, openTasks, hpc, ListenPc.entryHand,
        ListenPc.taskHand, GenericChain.chainPut_elems,
        List.filterMap_append, List.mem_append] at hentry ⊢
      tauto
  | socketTake obj rest hpc hchain =>
      refine ⟨rfl, fun response hresponse => ⟨response, ?_, rfl⟩⟩
      simp only [inFlight, openTasks, hpc, hchain, SocketPc.hand,
        List.mem_append, List.mem_cons] at hresponse ⊢
      tauto
  | drained hpc _ | errorWake hpc | notify _ hpc | mapperWake hpc =>
      refine ⟨rfl, fun obj hobj => ⟨obj, ?_, rfl⟩⟩
      simpa only [inFlight, openTasks, hpc, ListenPc.entryHand,
        ListenPc.taskHand] using hobj
  | respStart hpc _ | respNothing hpc _ | respTake _ _ hpc _
  | resultWake hpc =>
      refine ⟨rfl, fun obj hobj => ⟨obj, ?_, rfl⟩⟩
      simpa only [inFlight, openTasks, hpc, RespPc.taskHand] using hobj
  | socketStart hpc _ | socketNothing hpc _ | dropped _ hpc | checked _ hpc
  | sendFailed _ hpc _ | sent _ _ hpc _ =>
      refine ⟨rfl, fun obj hobj => ⟨obj, ?_, rfl⟩⟩
      simp only [inFlight, openTasks, hpc, SocketPc.hand, List.append_nil,
        List.mem_append] at hobj ⊢
      tauto
  | mapperStart _ _ | mapperNothing _ _ | mapperTake _ _ _ _
  | putResp _ _ _ _ | respWake _ =>
      exact ⟨rfl, fun obj hobj => ⟨obj, hobj, rfl⟩⟩

/-- What an event of the select loop does to the routes. -/
theorem listenStep_routes
    {s t : ListenState} {ev : ListenEvent}
    (hstep : listenStep s ev = some t) :
    (∃ sd info,
      ev = .accept sd info ∧
      t.requestChain = s.requestChain ∧
      ∀ sd', sd' ≠ sd → t.fds sd' = s.fds sd') ∨
    (∀ sd conn, t.fds sd = some conn → s.fds sd = some conn) ∧
      ∀ obj ∈ t.requestChain.elems,
        obj ∈ s.requestChain.elems ∨
          t.fds obj.sockDescriptor = some obj.origin.conn := by
  obtain ⟨-, hcases⟩ := listenStep_cases hstep
  have hclosed :
      ∀ sd sd' conn,
        Function.update s.fds sd none sd' = some conn →
          s.fds sd' = some conn := by
    intro sd sd' conn hfd
    by_cases hsd : sd' = sd
    · simp [hsd] at hfd
    · simpa [hsd] using hfd
  rcases hcases with
    ⟨sd, info, rfl, -, -, rfl⟩ | ⟨rfl, rfl⟩ |
    ⟨sd, received, conn, rfl, -, hfd, hrecv⟩ | ⟨sd, rfl, rfl⟩ |
    ⟨sd, rfl, -, rfl⟩ | ⟨sd, rfl, -, rfl⟩
  · refine Or.inl ⟨sd, info, rfl, ?_, ?_⟩
    · cases info <;> rfl
    · intro sd' hsd
      simp [acceptConn, hsd]
  · exact Or.inr ⟨fun _ _ hfd => hfd, fun obj hobj => Or.inl hobj⟩
  · obtain ⟨objs, chain, hsome, helems, -, -, hobjs⟩ :=
      jsonReceive_spec s sd conn received
    rw [hsome, Option.some.injEq] at hrecv
    subst hrecv
    refine Or.inr ⟨fun _ _ hfd => hfd, fun obj hobj => ?_⟩
    rw [helems, List.mem_append] at hobj
    rcases hobj with hobj | hobj
    · exact Or.inl hobj
    · obtain ⟨hsd, hconn, -⟩ := hobjs obj hobj
      right
      rw [hsd, hconn]
      exact hfd
  · exact Or.inr ⟨fun _ _ hfd => hfd, fun obj hobj => Or.inl hobj⟩
  · exact Or.inr ⟨hclosed sd, fun obj hobj => Or.inl hobj⟩
  · exact Or.inr ⟨hclosed sd, fun obj hobj => Or.inl hobj⟩

/-- An event on fresh numbers keeps the routes. -/
theorem connInv_event
    {s : PipeState J} {ev : ListenEvent} {net : ListenState}
    (hinv : ConnInv s)
    (hfresh : FreshNumber s (.listenEvent ev))
    (hpc : s.listen = .idle)
    (hnet : listenStep s.net ev = some net) :
    ConnInv { s with net := net, listen := ev.nextPc } := by
  have hold :
      ∀ obj ∈ inFlight { s with net := net, listen := ev.nextPc },
        obj ∈ net.requestChain.elems ∨
          ∀ chain, obj ∈ inFlight
            { s with net := { s.net with requestChain := chain } } := by
    intro obj hobj
    have hhand : ev.nextPc.taskHand = [] := by
      cases ev <;> rfl
    simp only [inFlight, openTasks, nextPc_entryHand, hhand,
      List.mem_append] at hobj
    simp only [inFlight, openTasks, hpc, ListenPc.entryHand,
      ListenPc.taskHand, List.mem_append]
    tauto
  refine ⟨fun obj hobj conn hfd => ?_, hinv.sent⟩
  rcases listenStep_routes hnet with
    ⟨sd, info, rfl, hchain, hfds⟩ | ⟨hfds, hchain⟩
  · -- An accepted number is not carried by anything on its way.
    have hmem : obj ∈ inFlight s := by
      rcases hold obj hobj with hreq | hrest
      · rw [hchain] at hreq
        simp [inFlight, hreq]
      · exact hrest s.net.requestChain
    have hne : obj.sockDescriptor ≠ sd := hfresh obj hmem
    exact hinv.routes obj hmem conn (by rw [← hfds _ hne]; exact hfd)
  · rcases hold obj hobj with hreq | hrest
    · rcases hchain obj hreq with hreq | hnew
      · exact hinv.routes obj (by simp [inFlight, hreq]) conn (hfds _ _ hfd)
      · simp only [hnew, Option.some.injEq] at hfd
        exact hfd
    · exact hinv.routes obj (hrest s.net.requestChain) conn (hfds _ _ hfd)

/-- Every move on fresh numbers keeps the routes. -/
theorem connInv_move
    {s t : PipeState J} {l : PipeLabel J}
    (hpipe : PipeInv cfg s)
    (hinv : ConnInv s)
    (hfresh : FreshNumber s l)
    (hmove : PipeMove cfg s l t) :
    ConnInv t := by
  by_cases hevent : ∃ ev, l = .listenEvent ev
  · obtain ⟨ev, rfl⟩ := hevent
    cases hmove with
    | event ev net hpc hnet =>
        exact connInv_event hinv hfresh hpc hnet
  · have hroutes :=
      inFlight_move hpipe hmove fun ev hl => hevent ⟨ev, hl⟩
    obtain ⟨hfds, hold⟩ := hroutes
    refine ⟨fun obj hobj conn hfd => ?_, ?_⟩
    · obtain ⟨obj', hobj', hroute⟩ := hold obj hobj
      obtain ⟨hsd, hconn⟩ := Prod.mk.inj hroute
      rw [← hconn]
      exact hinv.routes obj' hobj' conn (by rw [hsd, ← hfds]; exact hfd)
    · cases hmove with
      | event ev net hpc hnet =>
          exact hinv.sent
      | sent obj conn hpc hfd =>
          intro response hresponse
          rw [List.mem_append, List.mem_singleton] at hresponse
          rcases hresponse with hresponse | rfl
          · exact hinv.sent response hresponse
          · exact hinv.routes obj (by simp [inFlight, hpc]) conn hfd
      | _ =>
          exact hinv.sent

/--
In every run that accepts no number still on its way through the server, each
response is sent on the connection that its request came from.
-/
theorem sentToRequester_run
    (cfg : RpcConfig J)
    {listenSd : Nat} {ls : List (PipeLabel J)} {s : PipeState J}
    (hmeets : Meets (pipeStep cfg) FreshNumber (startServer listenSd) ls)
    (hrun : run (pipeStep cfg) (startServer listenSd) ls = some s) :
    SentToRequester s := by
  have hinit :
      PipeInv cfg (startServer listenSd) ∧
        ConnInv (startServer listenSd : PipeState J) := by
    refine ⟨pipeInv_start cfg listenSd, ?_, ?_⟩
    · intro obj hobj
      simp [inFlight, openTasks, startServer, startListening] at hobj
    · intro response hresponse
      simp [startServer] at hresponse
  have hpres :
      ∀ s l t, PipeInv cfg s ∧ ConnInv s → FreshNumber s l →
        pipeStep cfg s l = some t → PipeInv cfg t ∧ ConnInv t := by
    intro s l t hinv hfresh hstep
    have hmove := pipeStep_move hstep
    exact ⟨pipeInv_move hinv.1 hmove,
      connInv_move hinv.1 hinv.2 hfresh hmove⟩
  exact (run_invariant_of_meets hpres hinit hmeets hrun).2.sent

end Connections

/-- A client sends `{}`, is answered, and its number is used again. -/
def reconnectRun : List (PipeLabel FlatJson) :=
  [.listenEvent (.accept 4 none),
    .listenEvent (.recvData 4 (sendData [openBrace, closeBrace])),
    .listenThread, .listenThread, .listenThread, .listenThread,
    .socketThread, .socketThread, .socketCheck true, .socketThread,
    .listenEvent (.recvClosed 4),
    .listenEvent (.accept 4 none)]

/-- The number is free again once the answer has been sent. -/
theorem sentToRequester_reconnectRun :
    ∃ s,
      run (pipeStep sampleConfig) (startServer 3) reconnectRun = some s ∧
      s.sent.length = 1 ∧ SentToRequester s := by
  obtain ⟨s, hrun, hlen⟩ :
      ∃ s,
        run (pipeStep sampleConfig) (startServer 3) reconnectRun = some s ∧
        s.sent.length = 1 :=
    ⟨_, rfl, rfl⟩
  exact ⟨s, hrun, hlen, sentToRequester_run sampleConfig (by decide) hrun⟩

/-- As before, but the number is used again before the answer is sent. -/
def staleAnswerRun : List (PipeLabel FlatJson) :=
  [.listenEvent (.accept 4 none),
    .listenEvent (.recvData 4 (sendData [openBrace, closeBrace])),
    .listenThread, .listenThread, .listenThread, .listenThread,
    .listenEvent (.recvClosed 4),
    .listenEvent (.accept 4 none),
    .socketThread, .socketThread, .socketCheck true, .socketThread]

/-- The answer for the first client is sent to the second. -/
theorem not_sentToRequester_staleAnswerRun :
    ∃ s,
      run (pipeStep sampleConfig) (startServer 3) staleAnswerRun = some s ∧
      ¬ SentToRequester s := by
  refine ⟨_, rfl, ?_⟩
  intro hsent
  have hconn := hsent _ (List.mem_singleton.mpr rfl)
  exact absurd hconn (by decide)

end Adav
end BrBox
