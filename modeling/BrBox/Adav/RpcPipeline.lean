import BrBox.Adav.JsonRpcProxy

/-!
# The request pipeline of the JSON-RPC server

Four threads carry a request from the socket to its answer.

* The listen thread receives data, lets `on_data_arrival` drain the request
  chain and either schedules an error or puts a task object on `ReqRespChain`
  and on the mapper's `ReqChain`.
* The mapper's request thread works on the tasks and puts their idents on
  `RespChain`.
* The proxy's response thread removes the task of that ident from
  `ReqRespChain` and schedules its result.
* The socket's response thread takes the scheduled responses and sends them.

A step of the model is one chain operation, one semaphore operation or one
stretch of thread-local work.  A task object is shared by reference, so the
chains hold its address, an index into `tasks`; freed objects stay there and
are never looked at again.  The copies made in `json_process_request` are kept
apart: a step goes on with the texts that were copied.

The ghost fields record which entries have been looked at by
`json_process_request`, which answers have been scheduled, which responses the
socket thread has taken and on which connection each response was sent.
-/

namespace BrBox
namespace Adav

open CText
open LabelledRun

universe u

/-- What is fixed while the server runs. -/
structure RpcConfig (J : Type u) where
  lib : JsonLib J
  /-- The printed form of an answer. -/
  toJsonString : RpcMessage J → Bytes
  rpcCallList : List RpcCommand

/-- Where the listen thread is. -/
inductive ListenPc where
  /-- In the select loop. -/
  | idle
  /-- In `on_data_arrival`, about to take the next entry. -/
  | dispatch
  /-- In `json_process_request` with this entry. -/
  | process (obj : NetDataObj)
  /-- An error is on the response chain, its wake-up is not posted yet. -/
  | wakeSocket
  /-- The task object is filled in. -/
  | putTask (addr : Nat)
  /-- The task is on `ReqRespChain`. -/
  | notify (addr : Nat)
  /-- The task is on `ReqChain`, the mapper's wake-up is not posted yet. -/
  | wakeMapper
deriving DecidableEq, Repr

/-- Where the mapper's request thread is. -/
inductive MapperPc where
  | waiting
  | awake
  | work (addr : Nat)
  | putResp (addr : Nat)
  | wakeResp
deriving DecidableEq, Repr

/-- Where the proxy's response thread is. -/
inductive RespPc where
  | waiting
  | awake
  | gotId (ident : Int)
  | respond (addr : Nat)
  | wakeSocket
deriving DecidableEq, Repr

/-- Where the socket's response thread is. -/
inductive SocketPc where
  | waiting
  | awake
  | check (obj : NetDataObj)
  | send (obj : NetDataObj)
deriving DecidableEq, Repr

/-- A scheduled answer, with the ghost origin of its request. -/
structure Answer (J : Type u) where
  origin : Origin
  sockDescriptor : Nat
  message : RpcMessage J

/-- The whole server. -/
structure PipeState (J : Type u) where
  net : ListenState
  listen : ListenPc
  tasks : List (ApiTaskObj J)
  reqRespChain : GenericChain Nat
  reqChain : GenericChain Nat
  reqSema : Nat
  mapper : MapperPc
  respChain : GenericChain Int
  respSema : Nat
  resp : RespPc
  responseChain : GenericChain NetDataObj
  responseSema : Nat
  socket : SocketPc
  processed : List NetDataObj
  scheduled : List (Answer J)
  handled : List NetDataObj
  sent : List (NetDataObj × Nat)

/-- All threads started, nothing received. -/
def startServer {J : Type u} (listenSd : Nat) : PipeState J where
  net := startListening listenSd
  listen := .idle
  tasks := []
  reqRespChain := GenericChain.new
  reqChain := GenericChain.new
  reqSema := 0
  mapper := .waiting
  respChain := GenericChain.new
  respSema := 0
  resp := .waiting
  responseChain := GenericChain.new
  responseSema := 0
  socket := .waiting
  processed := []
  scheduled := []
  handled := []
  sent := []

/-- What the mapper leaves in a task, on either of its two ways out. -/
structure MapperOutcome (J : Type u) where
  mapperResult : CmdTaskResult
  jsonRespObj : Option J
  customResultString : String

/-- A step of one thread, with the choices made by its environment. -/
inductive PipeLabel (J : Type u) where
  /-- `accept` or `recv` returns. -/
  | listenEvent (ev : ListenEvent)
  /-- The listen thread goes on inside `on_data_arrival`. -/
  | listenThread
  /-- The mapper's thread goes on. -/
  | mapperThread
  /-- `process_json_to_binary` and `process_work` return. -/
  | mapperWork (outcome : MapperOutcome J)
  /-- The proxy's response thread goes on. -/
  | respThread
  /-- The socket's response thread goes on. -/
  | socketThread
  /-- `getpeername` returns. -/
  | socketCheck (alive : Bool)

section Steps

variable {J : Type u}
variable (cfg : RpcConfig J)

/-- The text that `json_process_request` reads. -/
def NetDataObj.text (obj : NetDataObj) : Bytes :=
  cString obj.dataBuffer

/-- The verdict on an entry. -/
def verdict (obj : NetDataObj) : RequestVerdict :=
  (jsonProcessRequest cfg.lib cfg.rpcCallList obj.text).value

/-- The object that `schedule_response` puts on the response chain. -/
def responseObj (answer : Answer J) : NetDataObj where
  ident := 0
  sockDescriptor := answer.sockDescriptor
  port := 0
  ip := []
  cltid := 0
  dataBufferLen := (cString (cfg.toJsonString answer.message)).length
  dataBuffer := cString (cfg.toJsonString answer.message)
  origin := answer.origin

/-- The answer to a rejected entry. -/
def errorAnswer
    (obj : NetDataObj) (err : JsonRpcErrType) (id : Int) : Answer J where
  origin := obj.origin
  sockDescriptor := obj.sockDescriptor
  message := jsonSendErrorResponse id err

/-- The answer to a task. -/
def resultAnswer (task : ApiTaskObj J) : Answer J where
  origin := task.pNetData.origin
  sockDescriptor := task.pNetData.sockDescriptor
  message := jsonSendNewResult task

/-- The task object as `json_process_request` fills it in. -/
def newTask
    (ident reqId : Int) (obj : NetDataObj)
    (command : RpcCommand) (access : CmdTaskAcc) : ApiTaskObj J where
  ident := ident
  reqId := reqId
  pNetData := obj
  pRpcMethod := command
  access := access
  taskResult := .notStarted
  jsonRespObj := none
  customResultString := ""

/-- The mapper's result goes back into the task object. -/
def putOutcome
    (outcome : MapperOutcome J) (task : ApiTaskObj J) : ApiTaskObj J :=
  { task with
    taskResult := outcome.mapperResult
    jsonRespObj := outcome.jsonRespObj
    customResultString := outcome.customResultString }

/-- The ident stored at an address. -/
def identAt (tasks : List (ApiTaskObj J)) (addr : Nat) : Option Int :=
  (tasks[addr]?).map ApiTaskObj.ident

/-- `schedule_response` up to the wake-up. -/
def scheduleResponse (s : PipeState J) (answer : Answer J) : PipeState J :=
  { s with
    responseChain := s.responseChain.chainPut (responseObj cfg answer)
    scheduled := s.scheduled ++ [answer] }

/-- `json_process_request` up to its first chain operation on a task. -/
def processEntry (s : PipeState J) (obj : NetDataObj) : PipeState J :=
  match verdict cfg obj with
  | .reject err id =>
      { scheduleResponse cfg s (errorAnswer obj err id) with
        listen := .wakeSocket
        processed := s.processed ++ [obj] }
  | .accept reqId command access =>
      { s with
        listen := .putTask s.tasks.length
        tasks := s.tasks ++
          [newTask s.reqRespChain.chainGenerateIdent.1 reqId obj
            command access]
        reqRespChain := s.reqRespChain.chainGenerateIdent.2
        processed := s.processed ++ [obj] }

/-- The listen thread inside `on_data_arrival`. -/
def listenThreadStep (s : PipeState J) : Option (PipeState J) :=
  match s.listen with
  | .idle => none
  | .dispatch =>
      match s.net.requestChain.chainGet with
      | (none, _) => some { s with listen := .idle }
      | (some obj, chain) =>
          some
            { s with
              net := { s.net with requestChain := chain }
              listen := .process obj }
  | .process obj => some (processEntry cfg s obj)
  | .wakeSocket =>
      some
        { s with
          responseSema := s.responseSema + 1
          listen := .dispatch }
  | .putTask addr =>
      some
        { s with
          reqRespChain := s.reqRespChain.chainPut addr
          listen := .notify addr }
  | .notify addr =>
      some
        { s with
          reqChain := s.reqChain.chainPut addr
          listen := .wakeMapper }
  | .wakeMapper =>
      some { s with reqSema := s.reqSema + 1, listen := .dispatch }

/-- The mapper's request thread outside its work. -/
def mapperThreadStep (s : PipeState J) : Option (PipeState J) :=
  match s.mapper with
  | .waiting =>
      if 0 < s.reqSema then
        some { s with reqSema := s.reqSema - 1, mapper := .awake }
      else
        none
  | .awake =>
      match s.reqChain.chainGet with
      | (none, _) => some { s with mapper := .waiting }
      | (some addr, chain) =>
          some { s with reqChain := chain, mapper := .work addr }
  | .work _ => none
  | .putResp addr =>
      match identAt s.tasks addr with
      | none => none
      | some ident =>
          some
            { s with
              respChain := s.respChain.chainPut ident
              mapper := .wakeResp }
  | .wakeResp =>
      some { s with respSema := s.respSema + 1, mapper := .waiting }

/-- The mapper's work on a task. -/
def mapperWorkStep
    (s : PipeState J) (outcome : MapperOutcome J) : Option (PipeState J) :=
  match s.mapper with
  | .work addr =>
      some
        { s with
          tasks := s.tasks.modify addr (putOutcome outcome)
          mapper := .putResp addr }
  | _ => none

/-- `json_process_rsponse` in the proxy's response thread. -/
def respThreadStep (s : PipeState J) : Option (PipeState J) :=
  match s.resp with
  | .waiting =>
      if 0 < s.respSema then
        some { s with respSema := s.respSema - 1, resp := .awake }
      else
        none
  | .awake =>
      match s.respChain.chainGet with
      | (none, _) => some { s with resp := .waiting }
      | (some ident, chain) =>
          some { s with respChain := chain, resp := .gotId ident }
  | .gotId ident =>
      match s.reqRespChain.chainRemoveByIdent
          (fun addr => decide (identAt s.tasks addr = some ident)) with
      | (none, _) => some { s with resp := .waiting }
      | (some addr, chain) =>
          some { s with reqRespChain := chain, resp := .respond addr }
  | .respond addr =>
      match s.tasks[addr]? with
      | none => none
      | some task =>
          some
            { scheduleResponse cfg s (resultAnswer task) with
              resp := .wakeSocket }
  | .wakeSocket =>
      some
        { s with
          responseSema := s.responseSema + 1
          resp := .waiting }

/-- The socket's response thread outside `IsConnectionAlive`. -/
def socketThreadStep (s : PipeState J) : Option (PipeState J) :=
  match s.socket with
  | .waiting =>
      if 0 < s.responseSema then
        some { s with responseSema := s.responseSema - 1, socket := .awake }
      else
        none
  | .awake =>
      match s.responseChain.chainGet with
      | (none, _) => some { s with socket := .waiting }
      | (some obj, chain) =>
          some
            { s with
              responseChain := chain
              socket := .check obj
              handled := s.handled ++ [obj] }
  | .check _ => none
  | .send obj =>
      match s.net.fds obj.sockDescriptor with
      | none => some { s with socket := .waiting }
      | some conn =>
          some { s with socket := .waiting, sent := s.sent ++ [(obj, conn)] }

/-- `IsConnectionAlive`: a descriptor that is not open is never alive. -/
def socketCheckStep (s : PipeState J) (alive : Bool) : Option (PipeState J) :=
  match s.socket with
  | .check obj =>
      if alive = false then
        some { s with socket := .waiting }
      else if s.net.fds obj.sockDescriptor = none then
        none
      else
        some { s with socket := .send obj }
  | _ => none

/-- The event hands the received entries to `on_data_arrival`. -/
def ListenEvent.nextPc : ListenEvent → ListenPc
  | .recvData _ _ => .dispatch
  | _ => .idle

/-- The select loop, while `on_data_arrival` is not running. -/
def listenEventStep
    (s : PipeState J) (ev : ListenEvent) : Option (PipeState J) :=
  match s.listen with
  | .idle =>
      match listenStep s.net ev with
      | none => none
      | some net => some { s with net := net, listen := ev.nextPc }
  | _ => none

/-- One step of the server. -/
def pipeStep (s : PipeState J) : PipeLabel J → Option (PipeState J)
  | .listenEvent ev => listenEventStep s ev
  | .listenThread => listenThreadStep cfg s
  | .mapperThread => mapperThreadStep s
  | .mapperWork outcome => mapperWorkStep s outcome
  | .respThread => respThreadStep cfg s
  | .socketThread => socketThreadStep s
  | .socketCheck alive => socketCheckStep s alive

/-- Everything that one step of the server can do. -/
inductive PipeMove (s : PipeState J) : PipeLabel J → PipeState J → Prop
  | event
      (ev : ListenEvent) (net : ListenState)
      (hpc : s.listen = .idle)
      (hnet : listenStep s.net ev = some net) :
      PipeMove s (.listenEvent ev) { s with net := net, listen := ev.nextPc }
  | drained
      (hpc : s.listen = .dispatch)
      (hchain : s.net.requestChain.elems = []) :
      PipeMove s .listenThread { s with listen := .idle }
  | takeEntry
      (obj : NetDataObj) (rest : List NetDataObj)
      (hpc : s.listen = .dispatch)
      (hchain : s.net.requestChain.elems = obj :: rest) :
      PipeMove s .listenThread
        { s with
          net :=
            { s.net with
              requestChain := { s.net.requestChain with elems := rest } }
          listen := .process obj }
  | reject
      (obj : NetDataObj) (err : JsonRpcErrType) (id : Int)
      (hpc : s.listen = .process obj)
      (hverdict : verdict cfg obj = .reject err id) :
      PipeMove s .listenThread
        { scheduleResponse cfg s (errorAnswer obj err id) with
          listen := .wakeSocket
          processed := s.processed ++ [obj] }
  | accept
      (obj : NetDataObj) (reqId : Int)
      (command : RpcCommand) (access : CmdTaskAcc)
      (hpc : s.listen = .process obj)
      (hverdict : verdict cfg obj = .accept reqId command access) :
      PipeMove s .listenThread
        { s with
          listen := .putTask s.tasks.length
          tasks := s.tasks ++
            [newTask s.reqRespChain.chainGenerateIdent.1 reqId obj
              command access]
          reqRespChain := s.reqRespChain.chainGenerateIdent.2
          processed := s.processed ++ [obj] }
  | errorWake
      (hpc : s.listen = .wakeSocket) :
      PipeMove s .listenThread
        { s with responseSema := s.responseSema + 1, listen := .dispatch }
  | putTask
      (addr : Nat)
      (hpc : s.listen = .putTask addr) :
      PipeMove s .listenThread
        { s with
          reqRespChain := s.reqRespChain.chainPut addr
          listen := .notify addr }
  | notify
      (addr : Nat)
      (hpc : s.listen = .notify addr) :
      PipeMove s .listenThread
        { s with
          reqChain := s.reqChain.chainPut addr
          listen := .wakeMapper }
  | mapperWake
      (hpc : s.listen = .wakeMapper) :
      PipeMove s .listenThread
        { s with reqSema := s.reqSema + 1, listen := .dispatch }
  | mapperStart
      (hpc : s.mapper = .waiting)
      (hsema : 0 < s.reqSema) :
      PipeMove s .mapperThread
        { s with reqSema := s.reqSema - 1, mapper := .awake }
  | mapperNothing
      (hpc : s.mapper = .awake)
      (hchain : s.reqChain.elems = []) :
      PipeMove s .mapperThread { s with mapper := .waiting }
  | mapperTake
      (addr : Nat) (rest : List Nat)
      (hpc : s.mapper = .awake)
      (hchain : s.reqChain.elems = addr :: rest) :
      PipeMove s .mapperThread
        { s with
          reqChain := { s.reqChain with elems := rest }
          mapper := .work addr }
  | mapperWork
      (addr : Nat) (outcome : MapperOutcome J)
      (hpc : s.mapper = .work addr) :
      PipeMove s (.mapperWork outcome)
        { s with
          tasks := s.tasks.modify addr (putOutcome outcome)
          mapper := .putResp addr }
  | putResp
      (addr : Nat) (ident : Int)
      (hpc : s.mapper = .putResp addr)
      (hident : identAt s.tasks addr = some ident) :
      PipeMove s .mapperThread
        { s with
          respChain := s.respChain.chainPut ident
          mapper := .wakeResp }
  | respWake
      (hpc : s.mapper = .wakeResp) :
      PipeMove s .mapperThread
        { s with respSema := s.respSema + 1, mapper := .waiting }
  | respStart
      (hpc : s.resp = .waiting)
      (hsema : 0 < s.respSema) :
      PipeMove s .respThread
        { s with respSema := s.respSema - 1, resp := .awake }
  | respNothing
      (hpc : s.resp = .awake)
      (hchain : s.respChain.elems = []) :
      PipeMove s .respThread { s with resp := .waiting }
  | respTake
      (ident : Int) (rest : List Int)
      (hpc : s.resp = .awake)
      (hchain : s.respChain.elems = ident :: rest) :
      PipeMove s .respThread
        { s with
          respChain := { s.respChain with elems := rest }
          resp := .gotId ident }
  | removeTask
      (ident : Int)
      (hpc : s.resp = .gotId ident) :
      PipeMove s .respThread
        { s with
          reqRespChain :=
            { s.reqRespChain with
              elems := s.reqRespChain.elems.eraseP
                fun addr => decide (identAt s.tasks addr = some ident) }
          resp :=
            match s.reqRespChain.elems.find?
                fun addr => decide (identAt s.tasks addr = some ident) with
            | none => .waiting
            | some addr => .respond addr }
  | respond
      (addr : Nat) (task : ApiTaskObj J)
      (hpc : s.resp = .respond addr)
      (htask : s.tasks[addr]? = some task) :
      PipeMove s .respThread
        { scheduleResponse cfg s (resultAnswer task) with
          resp := .wakeSocket }
  | resultWake
      (hpc : s.resp = .wakeSocket) :
      PipeMove s .respThread
        { s with responseSema := s.responseSema + 1, resp := .waiting }
  | socketStart
      (hpc : s.socket = .waiting)
      (hsema : 0 < s.responseSema) :
      PipeMove s .socketThread
        { s with responseSema := s.responseSema - 1, socket := .awake }
  | socketNothing
      (hpc : s.socket = .awake)
      (hchain : s.responseChain.elems = []) :
      PipeMove s .socketThread { s with socket := .waiting }
  | socketTake
      (obj : NetDataObj) (rest : List NetDataObj)
      (hpc : s.socket = .awake)
      (hchain : s.responseChain.elems = obj :: rest) :
      PipeMove s .socketThread
        { s with
          responseChain := { s.responseChain with elems := rest }
          socket := .check obj
          handled := s.handled ++ [obj] }
  | dropped
      (obj : NetDataObj)
      (hpc : s.socket = .check obj) :
      PipeMove s (.socketCheck false) { s with socket := .waiting }
  | checked
      (obj : NetDataObj)
      (hpc : s.socket = .check obj) :
      PipeMove s (.socketCheck true) { s with socket := .send obj }
  | sendFailed
      (obj : NetDataObj)
      (hpc : s.socket = .send obj)
      (hfd : s.net.fds obj.sockDescriptor = none) :
      PipeMove s .socketThread { s with socket := .waiting }
  | sent
      (obj : NetDataObj) (conn : Nat)
      (hpc : s.socket = .send obj)
      (hfd : s.net.fds obj.sockDescriptor = some conn) :
      PipeMove s .socketThread
        { s with socket := .waiting, sent := s.sent ++ [(obj, conn)] }

variable {cfg}

/-- Steps of the select loop are moves. -/
theorem listenEventStep_move
    {s t : PipeState J} {ev : ListenEvent}
    (hstep : listenEventStep s ev = some t) :
    PipeMove cfg s (.listenEvent ev) t := by
  simp only [listenEventStep] at hstep
  split at hstep
  · rename_i hpc
    split at hstep
    · cases hstep
    · rename_i net hnet
      cases hstep
      exact .event ev net hpc hnet
  · cases hstep

/-- Steps inside `on_data_arrival` are moves. -/
theorem listenThreadStep_move
    {s t : PipeState J}
    (hstep : listenThreadStep cfg s = some t) :
    PipeMove cfg s .listenThread t := by
  simp only [listenThreadStep] at hstep
  split at hstep
  · cases hstep
  · rename_i hpc
    rcases s.net.requestChain.chainGet_cases with
      ⟨hchain, hget⟩ | ⟨obj, rest, hchain, hget⟩
    · simp only [hget] at hstep
      cases hstep
      exact .drained hpc hchain
    · simp only [hget] at hstep
      cases hstep
      exact .takeEntry obj rest hpc hchain
  · rename_i obj hpc
    simp only [processEntry] at hstep
    split at hstep
    · rename_i err id hverdict
      cases hstep
      exact .reject obj err id hpc hverdict
    · rename_i reqId command access hverdict
      cases hstep
      exact .accept obj reqId command access hpc hverdict
  · rename_i hpc
    cases hstep
    exact .errorWake hpc
  · rename_i addr hpc
    cases hstep
    exact .putTask addr hpc
  · rename_i addr hpc
    cases hstep
    exact .notify addr hpc
  · rename_i hpc
    cases hstep
    exact .mapperWake hpc

/-- Steps of the mapper's thread are moves. -/
theorem mapperThreadStep_move
    {s t : PipeState J}
    (hstep : mapperThreadStep s = some t) :
    PipeMove cfg s .mapperThread t := by
  simp only [mapperThreadStep] at hstep
  split at hstep
  · rename_i hpc
    split at hstep
    · rename_i hsema
      cases hstep
      exact .mapperStart hpc hsema
    · cases hstep
  · rename_i hpc
    rcases s.reqChain.chainGet_cases with
      ⟨hchain, hget⟩ | ⟨addr, rest, hchain, hget⟩
    · simp only [hget] at hstep
      cases hstep
      exact .mapperNothing hpc hchain
    · simp only [hget] at hstep
      cases hstep
      exact .mapperTake addr rest hpc hchain
  · cases hstep
  · rename_i addr hpc
    split at hstep
    · cases hstep
    · rename_i ident hident
      cases hstep
      exact .putResp addr ident hpc hident
  · rename_i hpc
    cases hstep
    exact .respWake hpc

/-- The mapper's work is a move. -/
theorem mapperWorkStep_move
    {s t : PipeState J} {outcome : MapperOutcome J}
    (hstep : mapperWorkStep s outcome = some t) :
    PipeMove cfg s (.mapperWork outcome) t := by
  simp only [mapperWorkStep] at hstep
  split at hstep
  · rename_i addr hpc
    cases hstep
    exact .mapperWork addr outcome hpc
  · cases hstep

/-- Steps of the proxy's response thread are moves. -/
theorem respThreadStep_move
    {s t : PipeState J}
    (hstep : respThreadStep cfg s = some t) :
    PipeMove cfg s .respThread t := by
  simp only [respThreadStep] at hstep
  split at hstep
  · rename_i hpc
    split at hstep
    · rename_i hsema
      cases hstep
      exact .respStart hpc hsema
    · cases hstep
  · rename_i hpc
    rcases s.respChain.chainGet_cases with
      ⟨hchain, hget⟩ | ⟨ident, rest, hchain, hget⟩
    · simp only [hget] at hstep
      cases hstep
      exact .respNothing hpc hchain
    · simp only [hget] at hstep
      cases hstep
      exact .respTake ident rest hpc hchain
  · rename_i ident hpc
    have hmove : PipeMove cfg s .respThread _ := .removeTask ident hpc
    simp only [GenericChain.chainRemoveByIdent] at hstep
    split at hstep
    · rename_i hfind
      obtain ⟨hnone, -⟩ := Prod.mk.inj hfind
      rw [hnone] at hmove
      cases hstep
      rw [List.eraseP_of_forall_not
        (by simpa [List.find?_eq_none] using hnone)] at hmove
      exact hmove
    · rename_i addr chain hfind
      obtain ⟨hsome, hchain⟩ := Prod.mk.inj hfind
      rw [hsome] at hmove
      subst hchain
      cases hstep
      exact hmove
  · rename_i addr hpc
    split at hstep
    · cases hstep
    · rename_i task htask
      cases hstep
      exact .respond addr task hpc htask
  · rename_i hpc
    cases hstep
    exact .resultWake hpc

/-- Steps of the socket's response thread are moves. -/
theorem socketThreadStep_move
    {s t : PipeState J}
    (hstep : socketThreadStep s = some t) :
    PipeMove cfg s .socketThread t := by
  simp only [socketThreadStep] at hstep
  split at hstep
  · rename_i hpc
    split at hstep
    · rename_i hsema
      cases hstep
      exact .socketStart hpc hsema
    · cases hstep
  · rename_i hpc
    rcases s.responseChain.chainGet_cases with
      ⟨hchain, hget⟩ | ⟨obj, rest, hchain, hget⟩
    · simp only [hget] at hstep
      cases hstep
      exact .socketNothing hpc hchain
    · simp only [hget] at hstep
      cases hstep
      exact .socketTake obj rest hpc hchain
  · cases hstep
  · rename_i obj hpc
    split at hstep
    · rename_i hfd
      cases hstep
      exact .sendFailed obj hpc hfd
    · rename_i conn hfd
      cases hstep
      exact .sent obj conn hpc hfd

/-- The check of a connection is a move. -/
theorem socketCheckStep_move
    {s t : PipeState J} {alive : Bool}
    (hstep : socketCheckStep s alive = some t) :
    PipeMove cfg s (.socketCheck alive) t := by
  simp only [socketCheckStep] at hstep
  split at hstep
  · rename_i obj hpc
    cases alive with
    | false =>
        simp only [if_pos] at hstep
        cases hstep
        exact .dropped obj hpc
    | true =>
        simp only [Bool.true_eq_false, if_false] at hstep
        split at hstep
        · cases hstep
        · cases hstep
          exact .checked obj hpc
  · cases hstep

/-- Every step of the server is a move. -/
theorem pipeStep_move
    {s t : PipeState J} {l : PipeLabel J}
    (hstep : pipeStep cfg s l = some t) :
    PipeMove cfg s l t := by
  cases l with
  | listenEvent ev =>
      exact listenEventStep_move hstep
  | listenThread =>
      exact listenThreadStep_move hstep
  | mapperThread =>
      exact mapperThreadStep_move hstep
  | mapperWork outcome =>
      exact mapperWorkStep_move hstep
  | respThread =>
      exact respThreadStep_move hstep
  | socketThread =>
      exact socketThreadStep_move hstep
  | socketCheck alive =>
      exact socketCheckStep_move hstep

end Steps

/-- A server with one method `a`. -/
def sampleConfig : RpcConfig FlatJson where
  lib := sampleLib
  toJsonString := fun _ => [openBrace, closeBrace]
  rpcCallList := [{ method := [97], methodIndex := 0 }]

end Adav
end BrBox
