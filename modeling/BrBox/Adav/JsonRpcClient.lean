import BrBox.Adav.TaskWorker
import BrBox.Lib.CxxText
import BrBox.Lib.DecimalText
import BrBox.Lib.LabelledRun

/-!
# The RPC client

`ADJsonRpcClient` sends a request and reads the answer with one successful
`recv`.  A call ignores whether the sending or the receiving failed, keeps the
bytes of the last successful `recv` in `recv_buffer` and does not look at the
id of an answer.

The server answers every request that reaches it once and in order; its bytes
wait in the connection until they are read.  How many of them a `recv` returns
is part of the label of a call.

* `ownResponse_run`: every call that reports a result reports that of its own
  answer, as long as no call reads while an older answer is unread or gives up
  with an older answer in the buffer.
* `not_ownResponse_timeout`: a call that gives up reports the answer of the
  call before it.
-/

namespace BrBox
namespace Adav

open CText
open CxxText
open LabelledRun

universe u

/-! ## JSON -/

/-- The functions of the JSON library that client and server call.  A missing
field and a `null` are NULL, for which `objectGet` returns none. -/
structure ClientJson (J : Type u) where
  /-- `json_object_new_object`, with `json_object_object_add` in this order. -/
  newObject : List (Bytes × J) → J
  /-- `json_object_new_string`. -/
  newString : Bytes → J
  /-- `json_object_new_int`. -/
  newInt : Int → J
  /-- `json_object_to_json_string`. -/
  toJsonString : J → Bytes
  /-- `json_tokener_parse`. -/
  tokenerParse : Bytes → Option J
  /-- `json_object_object_get`. -/
  objectGet : J → Bytes → Option J
  /-- `json_object_get_string`. -/
  getString : J → Bytes

/-- `STR_RPC_SRV_RESULT_STRING_TABLE`. -/
def rpcSrvResultString : RpcSrvResult → String
  | .success => "Success"
  | .fail => "Fail"
  | .inProg => "InProgress"
  | .busy => "Busy"
  | .notStarted => "NotStarted"
  | .timeout => "Timeout"
  | .argError => "ArgError"
  | .memError => "MemError"
  | .busError => "BusError"
  | .actionNotAllowed => "ActionBlocked"
  | .devNotAccessible => "DeviceError"
  | .fileNotFound => "FileNotFound"
  | .featureNotAvailable => "FeatureNotAvailable"
  | .featureUnsupported => "UnsupportedFeature"
  | .taskIdNotFound => "taskIDNotFound"
  | .valueOutOfRange => "valueOutOfRange"
  | .fileOpenErr => "FileOpenErr"
  | .fileReadErr => "FileReadErr"
  | .fileWriteErr => "FileWriteErr"
  | .fileSame => "FileSame"
  | .fileDifferent => "FileNotSame"
  | .hostNotReachableErr => "HostUnreachable"
  | .resend => "resend"
  | .csExposureErr => "csExposureError"
  | .csI2cErr => "csI2CErr"
  | .itemNotFound => "ItemNotFound"
  | .fileError => "FileError"
  | .devinfoError => "DevInfoErr"
  | .fileEmpty => "FileEmpty"
  | .itemDuplicateFound => "DuplicateItem"
  | .unknownCommand => "UnknownCmd"
  | .devnodeAccerr => "DevNodeAccErr"
  | .devnodeOpenerr => "DevNodeOpenErr"
  | .offlineNode => "OfflineNode"
  | .unknown => "Unknown"
  | .none => "none"

/-- The results in the order of the table, up to the last one that is sent. -/
def rpcSrvResults : List RpcSrvResult :=
  [.success, .fail, .inProg, .busy, .notStarted, .timeout, .argError, .memError,
    .busError, .actionNotAllowed, .devNotAccessible, .fileNotFound,
    .featureNotAvailable, .featureUnsupported, .taskIdNotFound, .valueOutOfRange,
    .fileOpenErr, .fileReadErr, .fileWriteErr, .fileSame, .fileDifferent,
    .hostNotReachableErr, .resend, .csExposureErr, .csI2cErr, .itemNotFound,
    .fileError, .devinfoError, .fileEmpty, .itemDuplicateFound, .unknownCommand,
    .devnodeAccerr, .devnodeOpenerr, .offlineNode, .unknown]

/-- `convert_string_to_server_result`. -/
def convertStringToServerResult (s : Bytes) : RpcSrvResult :=
  (rpcSrvResults.find? fun r => text (rpcSrvResultString r) = s).getD .unknown

/-! ## Calls -/

/-- A parameter of a request. -/
inductive RpcArg where
  | str (value : Bytes)
  | int (value : Int)
deriving DecidableEq, Repr

/-- What one call sends, and the parameter of the answer that it returns with
the text it returns if the answer has none. -/
structure ClientCall where
  method : Bytes
  params : List (Bytes × RpcArg)
  returned : Option (Bytes × Bytes)
deriving DecidableEq, Repr

namespace ClientCall

/-- `set_integer_type`. -/
def setIntegerType (method name : Bytes) (value : Int) : ClientCall :=
  ⟨method, [(name, .int value)], none⟩

/-- `set_integer_type` with the value as a text. -/
def setIntegerTypeText (method name value : Bytes) : ClientCall :=
  ⟨method, [(name, .str value)], none⟩

/-- `get_integer_type`. -/
def getIntegerType (method paramName : Bytes) : ClientCall :=
  ⟨method, [], some (paramName, text "NotFound")⟩

/-- `set_integer_type_with_addr_para`. -/
def setIntegerTypeWithAddrPara
    (method addrName : Bytes) (addr : Int) (name : Bytes) (value : Int) : ClientCall :=
  ⟨method, [(addrName, .int addr), (name, .int value)], none⟩

/-- `get_integer_type_with_addr_para`. -/
def getIntegerTypeWithAddrPara
    (method addrName : Bytes) (addr : Int) (respName : Bytes) : ClientCall :=
  ⟨method, [(addrName, .int addr)], some (respName, text "unknown")⟩

/-- `set_enum_type_with_addr_para`. -/
def setEnumTypeWithAddrPara
    (method addrName : Bytes) (addr : Int) (name value : Bytes) : ClientCall :=
  ⟨method, [(addrName, .int addr), (name, .str value)], none⟩

/-- `get_enum_type_with_addr_para`. -/
def getEnumTypeWithAddrPara
    (method addrName : Bytes) (addr : Int) (respName : Bytes) : ClientCall :=
  ⟨method, [(addrName, .int addr)], some (respName, text "unknown")⟩

/-- `get_string_type_with_string_para_with_addr_para`. -/
def getStringTypeWithStringParaWithAddrPara
    (method addrName : Bytes) (addr : Int) (value name : Bytes)
    (respName : Option Bytes) : ClientCall :=
  ⟨method, [(addrName, .int addr), (name, .str value)],
    some (respName.getD name, text "unknown")⟩

/-- `set_single_string_type`. -/
def setSingleStringType (method name value : Bytes) : ClientCall :=
  ⟨method, [(name, .str value)], none⟩

/-- `set_single_string_get_single_string_type_with_addr_para`; the buffer of the
caller is not initialised. -/
def setSingleStringGetSingleStringTypeWithAddrPara
    (method addrName : Bytes) (addr : Int) (name value respName retVal : Bytes) :
    ClientCall :=
  ⟨method, [(addrName, .int addr), (name, .str value)], some (respName, retVal)⟩

/-- `get_string_type`. -/
def getStringType (method paramName : Bytes) : ClientCall :=
  ⟨method, [], some (paramName, text "NotFound")⟩

end ClientCall

/-- What a call returns: the result and the text of the returned parameter. -/
abbrev CallOutcome := RpcSrvResult × Option Bytes

namespace ClientJson

variable {J : Type u}

/-- A parameter as JSON. -/
def ofArg (lib : ClientJson J) : RpcArg → J
  | .str value => lib.newString value
  | .int value => lib.newInt value

/-- `prepare_json_request`. -/
def prepareJsonRequest (lib : ClientJson J) (call : ClientCall) (id : Int) : Bytes :=
  lib.toJsonString (lib.newObject
    ([(text "jsonrpc", lib.newString (text "2.0")),
        (text "method", lib.newString call.method)] ++
      (if call.params = [] then []
        else
          [(text "params",
            lib.newObject (call.params.map fun p => (p.1, lib.ofArg p.2)))]) ++
      [(text "id", lib.newInt id)]))

/-- The server's answer with a result object. -/
def responseText (lib : ClientJson J) (id : Int) (result : J) : Bytes :=
  lib.toJsonString (lib.newObject
    [(text "jsonrpc", lib.newString (text "2.0")), (text "result", result),
      (text "id", lib.newInt id)])

/-- The result object of an answer, if the text is one. -/
def resultObject (lib : ClientJson J) (s : Bytes) : Option J :=
  (lib.tokenerParse s).bind fun o => lib.objectGet o (text "result")

/-- `find_json_result`. -/
def findJsonResult (lib : ClientJson J) (s name : Bytes) : Option Bytes :=
  (lib.resultObject s).bind fun r => (lib.objectGet r name).map lib.getString

/-- `find_json_result_and_single_string_param`: the parameter keeps its value if
the answer does not have it. -/
def findJsonResultAndSingleStringParam
    (lib : ClientJson J) (s name paramName paramValue : Bytes) :
    Option (Bytes × Bytes) :=
  (lib.resultObject s).bind fun r =>
    (lib.objectGet r name).map fun v =>
      (lib.getString v,
        match lib.objectGet r paramName with
        | some p => lib.getString p
        | none => paramValue)

/-- What a call makes of the text in `recv_buffer`. -/
def outcome (lib : ClientJson J) (call : ClientCall) (s : Bytes) : CallOutcome :=
  match call.returned with
  | none =>
      match lib.findJsonResult s (text "return") with
      | some r => (convertStringToServerResult r, none)
      | none => (.unknown, none)
  | some (name, initial) =>
      match lib.findJsonResultAndSingleStringParam s (text "return") name initial with
      | some (r, value) => (convertStringToServerResult r, some value)
      | none => (.unknown, some initial)

end ClientJson

/-! ## The connection -/

/-- `MAX_RECV_BUFFER_SIZE`. -/
def maxRecvBufferSize : Nat := 1400

/-- What one `recv` returns. -/
inductive RecvResult where
  | error
  | closed
  | bytes (n : Nat)
deriving DecidableEq, Repr

/-- The loop of `receive_data_blocking`: the first `recv` that does not fail, if
there is one within the timeout. -/
def receiveDataBlocking : Nat → List RecvResult → RecvResult
  | _, [] => .error
  | 0, r :: _ => r
  | timeoutMs + 1, .error :: rs => receiveDataBlocking timeoutMs rs
  | _ + 1, r :: _ => r

/-- A call that was made: the result object that the server answered it with, if
the request reached the server, and what the call returned. -/
structure CallRecord (J : Type u) where
  call : ClientCall
  answer : Option J
  outcome : CallOutcome

/-- A client and the bytes of the answers that it has not read. -/
structure ClientConn (J : Type u) where
  reqId : Int
  sendBuffer : Bytes
  recvBuffer : Bytes
  unread : Bytes
  calls : List (CallRecord J)

/-- One call: whether the request is sent, the result object of its answer, and
what each `recv` returns. -/
structure CallLabel (J : Type u) where
  call : ClientCall
  sent : Bool
  result : J
  recvs : List RecvResult

namespace ClientConn

variable {J : Type u}

/-- A client that has just connected. -/
def initial : ClientConn J :=
  { reqId := 0
    sendBuffer := []
    recvBuffer := []
    unread := []
    calls := [] }

/-- The request is prepared and sent; the server answers it. -/
def sendData (lib : ClientJson J) (s : ClientConn J) (l : CallLabel J) : ClientConn J :=
  { s with
    reqId := wrapInt32 (s.reqId + 1)
    sendBuffer := lib.prepareJsonRequest l.call s.reqId
    unread := if l.sent then s.unread ++ lib.responseText s.reqId l.result else s.unread }

/-- The bytes that `recv` returned replace the contents of the buffer; a failed
one leaves them. -/
def receiveData (s : ClientConn J) : RecvResult → Option (ClientConn J)
  | .error => some s
  | .closed => some { s with recvBuffer := [] }
  | .bytes n =>
      if 0 < n ∧ n ≤ maxRecvBufferSize ∧ n ≤ s.unread.length then
        some { s with recvBuffer := s.unread.take n, unread := s.unread.drop n }
      else
        none

/-- The record of a call that found these bytes in the buffer. -/
def record (lib : ClientJson J) (l : CallLabel J) (buffer : Bytes) : CallRecord J :=
  { call := l.call
    answer := if l.sent then some l.result else none
    outcome := lib.outcome l.call (cString buffer) }

/-- The call looks at the buffer. -/
def finish (lib : ClientJson J) (s : ClientConn J) (l : CallLabel J) : ClientConn J :=
  { s with calls := s.calls ++ [record lib l s.recvBuffer] }

/-- One call. -/
def step (lib : ClientJson J) (s : ClientConn J) (l : CallLabel J) :
    Option (ClientConn J) :=
  ((s.sendData lib l).receiveData (receiveDataBlocking 4000 l.recvs)).map
    fun t => t.finish lib l

end ClientConn

/-! ## What is promised -/

section OwnResponse

variable {J : Type u}

/-- A call returns what a result object contains. -/
structure Reports
    (lib : ClientJson J) (call : ClientCall) (result : J) (o : CallOutcome) : Prop where
  code : ∃ r, lib.objectGet result (text "return") = some r ∧
    o.1 = convertStringToServerResult (lib.getString r)
  param : o.2 = call.returned.map fun p =>
    ((lib.objectGet result p.1).map lib.getString).getD p.2

/-- A call reports no result or that of its own answer. -/
def OwnResponse (lib : ClientJson J) (r : CallRecord J) : Prop :=
  r.outcome.1 = .unknown ∨
    ∃ result, r.answer = some result ∧ Reports lib r.call result r.outcome

/-- Every call so far reports no result or that of its own answer. -/
def OwnResponses (lib : ClientJson J) (s : ClientConn J) : Prop :=
  ∀ r ∈ s.calls, OwnResponse lib r

/-- The JSON library prints an answer without NUL, reads it back, and does not
take a part of it for a value. -/
structure PrintsAndParses (lib : ClientJson J) (id : Int) (result : J) : Prop where
  nonempty : lib.responseText id result ≠ []
  noNul : (0 : Byte) ∉ lib.responseText id result
  whole : lib.resultObject (lib.responseText id result) = some result
  part : ∀ n < (lib.responseText id result).length,
    lib.tokenerParse ((lib.responseText id result).take n) = none

instance [DecidableEq J] (lib : ClientJson J) (id : Int) (result : J) :
    Decidable (PrintsAndParses lib id result) :=
  decidable_of_iff
    (lib.responseText id result ≠ [] ∧ (0 : Byte) ∉ lib.responseText id result ∧
      lib.resultObject (lib.responseText id result) = some result ∧
      ∀ n < (lib.responseText id result).length,
        lib.tokenerParse ((lib.responseText id result).take n) = none)
    ⟨fun h => ⟨h.1, h.2.1, h.2.2.1, h.2.2.2⟩,
      fun h => ⟨h.nonempty, h.noNul, h.whole, h.part⟩⟩

/-- A call reads only when no older answer is unread, and gives up only when the
buffer holds no older answer. -/
def InStep (lib : ClientJson J) (s : ClientConn J) (l : CallLabel J) : Prop :=
  match receiveDataBlocking 4000 l.recvs with
  | .error => lib.findJsonResult (cString s.recvBuffer) (text "return") = none
  | .closed => True
  | .bytes _ => s.unread = []

instance (lib : ClientJson J) (s : ClientConn J) (l : CallLabel J) :
    Decidable (InStep lib s l) :=
  match hrecv : receiveDataBlocking 4000 l.recvs with
  | .error =>
      decidable_of_iff
        (lib.findJsonResult (cString s.recvBuffer) (text "return") = none)
        (by simp [InStep, hrecv])
  | .closed => isTrue (by simp [InStep, hrecv])
  | .bytes _ => decidable_of_iff (s.unread = []) (by simp [InStep, hrecv])

/-- Without a result object there is no result. -/
theorem ClientJson.outcome_of_findJsonResult_eq_none
    (lib : ClientJson J) (call : ClientCall) {s : Bytes}
    (hnone : lib.findJsonResult s (text "return") = none) :
    (lib.outcome call s).1 = .unknown := by
  unfold ClientJson.outcome
  cases call.returned with
  | none =>
      simp [hnone]
  | some p =>
      have hparam : lib.findJsonResultAndSingleStringParam s (text "return") p.1 p.2 =
          none := by
        unfold ClientJson.findJsonResult at hnone
        unfold ClientJson.findJsonResultAndSingleStringParam
        cases hobj : lib.resultObject s with
        | none =>
            rfl
        | some r =>
            simpa [hobj] using hnone
      simp [hparam]

/-- A call reports the result object of the text in the buffer, if it reports
anything. -/
theorem ClientJson.outcome_reports
    (lib : ClientJson J) (call : ClientCall) {s : Bytes} {result : J}
    (hobj : lib.resultObject s = some result) :
    (lib.outcome call s).1 = .unknown ∨ Reports lib call result (lib.outcome call s) := by
  cases hreturn : lib.objectGet result (text "return") with
  | none =>
      left
      apply lib.outcome_of_findJsonResult_eq_none
      simp [ClientJson.findJsonResult, hobj, hreturn]
  | some r =>
      right
      unfold ClientJson.outcome
      cases hret : call.returned with
      | none =>
          simp only [ClientJson.findJsonResult, hobj, hreturn, Option.bind_some,
            Option.map_some]
          exact ⟨⟨r, hreturn, rfl⟩, by simp [hret]⟩
      | some p =>
          simp only [ClientJson.findJsonResultAndSingleStringParam, hobj, hreturn,
            Option.bind_some, Option.map_some]
          refine ⟨⟨r, hreturn, rfl⟩, ?_⟩
          cases hparam : lib.objectGet result p.1 with
          | none =>
              simp [hret, hparam]
          | some v =>
              simp [hret, hparam]

/-- What a call does, by what its `recv` returned. -/
theorem ClientConn.step_cases
    {lib : ClientJson J} {s t : ClientConn J} {l : CallLabel J}
    (hstep : s.step lib l = some t) :
    t.calls = s.calls ++ [ClientConn.record lib l t.recvBuffer] ∧
      match receiveDataBlocking 4000 l.recvs with
      | .error => t.recvBuffer = s.recvBuffer
      | .closed => t.recvBuffer = []
      | .bytes n => 0 < n ∧ n ≤ (s.sendData lib l).unread.length ∧
          t.recvBuffer = (s.sendData lib l).unread.take n := by
  unfold ClientConn.step at hstep
  cases hrecv : receiveDataBlocking 4000 l.recvs with
  | error =>
      simp only [hrecv, ClientConn.receiveData, Option.map_some, Option.some.injEq] at hstep
      subst hstep
      exact ⟨rfl, rfl⟩
  | closed =>
      simp only [hrecv, ClientConn.receiveData, Option.map_some, Option.some.injEq] at hstep
      subst hstep
      exact ⟨rfl, rfl⟩
  | bytes n =>
      simp only [hrecv, ClientConn.receiveData] at hstep
      split at hstep
      next hn =>
        simp only [Option.map_some, Option.some.injEq] at hstep
        subst hstep
        exact ⟨rfl, hn.1, hn.2.2, rfl⟩
      next => cases hstep

/-- A text that is no JSON value holds no result. -/
theorem ClientJson.findJsonResult_of_tokenerParse_eq_none
    (lib : ClientJson J) {s : Bytes} (hparse : lib.tokenerParse s = none)
    (name : Bytes) :
    lib.findJsonResult s name = none := by
  simp [ClientJson.findJsonResult, ClientJson.resultObject, hparse]

/-- The first bytes of an answer are the answer or no JSON value. -/
theorem PrintsAndParses.take
    {lib : ClientJson J} {id : Int} {result : J} (hjson : PrintsAndParses lib id result)
    (n : Nat) :
    cString ((lib.responseText id result).take n) = lib.responseText id result ∨
      lib.tokenerParse (cString ((lib.responseText id result).take n)) = none := by
  have hnul : (0 : Byte) ∉ (lib.responseText id result).take n := by
    intro h
    exact hjson.noNul (List.mem_of_mem_take h)
  rw [cString_of_zero_not_mem hnul]
  by_cases hn : n < (lib.responseText id result).length
  · exact Or.inr (hjson.part n hn)
  · left
    apply List.take_of_length_le
    omega

/-- A call in step reports its own answer. -/
theorem ClientConn.ownResponse_record
    {lib : ClientJson J} {s t : ClientConn J} {l : CallLabel J}
    (hjson : PrintsAndParses lib s.reqId l.result)
    (hcond : InStep lib s l)
    (hstep : s.step lib l = some t) :
    OwnResponse lib (ClientConn.record lib l t.recvBuffer) := by
  obtain ⟨-, hbuffer⟩ := ClientConn.step_cases hstep
  unfold InStep at hcond
  cases hrecv : receiveDataBlocking 4000 l.recvs with
  | error =>
      simp only [hrecv] at hbuffer hcond
      left
      rw [hbuffer]
      exact lib.outcome_of_findJsonResult_eq_none l.call hcond
  | closed =>
      simp only [hrecv] at hbuffer
      have hempty : lib.tokenerParse [] = none := by
        exact hjson.part 0 (List.length_pos_iff.mpr hjson.nonempty)
      left
      rw [hbuffer]
      apply lib.outcome_of_findJsonResult_eq_none l.call
      exact lib.findJsonResult_of_tokenerParse_eq_none hempty _
  | bytes n =>
      simp only [hrecv] at hbuffer hcond
      obtain ⟨hpos, hle, hbuffer⟩ := hbuffer
      cases hsent : l.sent with
      | false =>
          simp [ClientConn.sendData, hsent, hcond] at hle
          omega
      | true =>
          simp only [ClientConn.sendData, hsent, hcond, if_true, List.nil_append]
            at hbuffer
          rw [hbuffer]
          rcases hjson.take n with hwhole | hpart
          · have hobj : lib.resultObject
                (cString ((lib.responseText s.reqId l.result).take n)) =
                  some l.result := by
              rw [hwhole]
              exact hjson.whole
            rcases lib.outcome_reports l.call hobj with hunknown | hreports
            · exact Or.inl hunknown
            · exact Or.inr ⟨l.result, by simp [ClientConn.record, hsent], hreports⟩
          · left
            apply lib.outcome_of_findJsonResult_eq_none l.call
            exact lib.findJsonResult_of_tokenerParse_eq_none hpart _

/-- Every call of a run that stays in step reports its own answer. -/
theorem ownResponse_run
    (lib : ClientJson J) {ls : List (CallLabel J)} {s : ClientConn J}
    (hjson : Meets (ClientConn.step lib)
      (fun s l => PrintsAndParses lib s.reqId l.result) ClientConn.initial ls)
    (hmeets : Meets (ClientConn.step lib) (InStep lib) ClientConn.initial ls)
    (hrun : run (ClientConn.step lib) ClientConn.initial ls = some s) :
    OwnResponses lib s := by
  have hinitial : OwnResponses lib ClientConn.initial := by
    simp [OwnResponses, ClientConn.initial]
  refine run_invariant_of_meets ?_ hinitial (meets_and hjson hmeets) hrun
  rintro s l t hinv ⟨hjson, hcond⟩ hstep r hr
  rw [(ClientConn.step_cases hstep).1] at hr
  rcases List.mem_append.mp hr with hr | hr
  · exact hinv r hr
  · obtain rfl := List.mem_singleton.mp hr
    exact ClientConn.ownResponse_record hjson hcond hstep

end OwnResponse

/-! ## A small JSON library -/

/-- Integers, strings and objects. -/
inductive PlainJson where
  | int (n : Int)
  | str (s : Bytes)
  | empty
  | field (name : Bytes) (value rest : PlainJson)
deriving DecidableEq, Repr

namespace PlainJson

/-- A text in double quotes. -/
def quoted (s : Bytes) : Bytes :=
  [34] ++ s ++ [34]

/-- A value, or the rest of the fields of an object. -/
def print : Bool → PlainJson → Bytes
  | _, .int n => decimalText n
  | _, .str s => quoted s
  | false, .empty => text "\x7b \x7d"
  | true, .empty => text " \x7d"
  | inside, .field name value rest =>
      (if inside then text ", " else text "\x7b ") ++ quoted name ++ text ": " ++
        print false value ++ print true rest

/-- A text up to its closing quote. -/
def unquote (s : Bytes) : Option (Bytes × Bytes) :=
  match s.dropWhile (fun c => c ≠ 34) with
  | [] => none
  | _ :: rest => some (s.takeWhile (fun c => c ≠ 34), rest)

/-- A value, or the fields of an object up to its closing brace. -/
def parse : Nat → Bool → Bytes → Option (PlainJson × Bytes)
  | 0, _, _ => none
  | fuel + 1, false, s =>
      match s.dropWhile isSpace with
      | [] => none
      | c :: rest =>
          if c = 123 then
            parse fuel true rest
          else if c = 34 then
            (unquote rest).map fun p => (.str p.1, p.2)
          else if c = 45 ∨ isDigit c then
            some (.int (decimalValue (c :: rest)), rest.dropWhile isDigit)
          else
            none
  | fuel + 1, true, s =>
      match s.dropWhile (fun c => isSpace c || c == 44) with
      | [] => none
      | c :: rest =>
          if c = 125 then
            some (.empty, rest)
          else if c = 34 then
            (unquote rest).bind fun name =>
              (parse fuel false (name.2.dropWhile fun c => isSpace c || c == 58)).bind
                fun value =>
                  (parse fuel true value.2).map fun fields =>
                    (.field name.1 value.1 fields.1, fields.2)
          else
            none

/-- `json_object_object_get`. -/
def get : PlainJson → Bytes → Option PlainJson
  | .field n value rest, name => if n = name then some value else rest.get name
  | _, _ => none

/-- The library. -/
def lib : ClientJson PlainJson :=
  { newObject := fun fields => fields.foldr (fun f rest => .field f.1 f.2 rest) .empty
    newString := .str
    newInt := .int
    toJsonString := print false
    tokenerParse := fun s => (parse (s.length + 1) false s).map fun p => p.1
    objectGet := get
    getString := fun j =>
      match j with
      | .str s => s
      | j => print false j }

end PlainJson

/-- The brightness is read, set, and read again; the second answer is cut and the
server closes the connection before the third. -/
def brightnessCalls : List (CallLabel PlainJson) :=
  [ { call := ClientCall.getIntegerType (text "get_brightness") (text "value")
      sent := true
      result := .field (text "return") (.str (text "Success"))
        (.field (text "value") (.int 50) .empty)
      recvs := [.error, .bytes 77] },
    { call := ClientCall.setIntegerType (text "set_brightness") (text "value") 70
      sent := true
      result := .field (text "return") (.str (text "Fail")) .empty
      recvs := [.bytes 20] },
    { call := ClientCall.getIntegerType (text "get_brightness") (text "value")
      sent := true
      result := .field (text "return") (.str (text "Success"))
        (.field (text "value") (.int 50) .empty)
      recvs := [.closed] } ]

theorem ownResponse_brightnessCalls :
    Meets (ClientConn.step PlainJson.lib)
      (fun s l => PrintsAndParses PlainJson.lib s.reqId l.result)
      ClientConn.initial brightnessCalls ∧
    Meets (ClientConn.step PlainJson.lib) (InStep PlainJson.lib)
      ClientConn.initial brightnessCalls ∧
    ∃ s, run (ClientConn.step PlainJson.lib) ClientConn.initial brightnessCalls =
        some s ∧
      s.calls.map (fun r => r.outcome) =
        [(.success, some (text "50")), (.unknown, none),
          (.unknown, some (text "NotFound"))] ∧
      OwnResponses PlainJson.lib s := by
  have hjson : Meets (ClientConn.step PlainJson.lib)
      (fun s l => PrintsAndParses PlainJson.lib s.reqId l.result)
      ClientConn.initial brightnessCalls := by
    decide +kernel
  have hmeets : Meets (ClientConn.step PlainJson.lib) (InStep PlainJson.lib)
      ClientConn.initial brightnessCalls := by
    decide +kernel
  have hlast : (run (ClientConn.step PlainJson.lib) ClientConn.initial
      brightnessCalls).map (fun s => s.calls.map fun r => r.outcome) =
        some [(.success, some (text "50")), (.unknown, none),
          (.unknown, some (text "NotFound"))] := by
    decide +kernel
  obtain ⟨s, hrun, hs⟩ := Option.map_eq_some_iff.mp hlast
  exact ⟨hjson, hmeets, s, hrun, hs, ownResponse_run PlainJson.lib hjson hmeets hrun⟩

/-- The brightness is read; then it is set, but no `recv` succeeds in time. -/
def timeoutCalls : List (CallLabel PlainJson) :=
  [ { call := ClientCall.getIntegerType (text "get_brightness") (text "value")
      sent := true
      result := .field (text "return") (.str (text "Success"))
        (.field (text "value") (.int 50) .empty)
      recvs := [.bytes 77] },
    { call := ClientCall.setIntegerType (text "set_brightness") (text "value") 70
      sent := true
      result := .field (text "return") (.str (text "Fail")) .empty
      recvs := [] } ]

theorem not_ownResponse_timeout :
    Meets (ClientConn.step PlainJson.lib)
      (fun s l => PrintsAndParses PlainJson.lib s.reqId l.result)
      ClientConn.initial timeoutCalls ∧
    ∃ s, run (ClientConn.step PlainJson.lib) ClientConn.initial timeoutCalls = some s ∧
      ¬ OwnResponses PlainJson.lib s := by
  have hjson : Meets (ClientConn.step PlainJson.lib)
      (fun s l => PrintsAndParses PlainJson.lib s.reqId l.result)
      ClientConn.initial timeoutCalls := by
    decide +kernel
  have hlast : (run (ClientConn.step PlainJson.lib) ClientConn.initial
      timeoutCalls).map (fun s => s.calls[1]?.map fun r => (r.answer, r.outcome)) =
        some (some
          (some (.field (text "return") (.str (text "Fail")) .empty),
            (.success, none))) := by
    decide +kernel
  obtain ⟨s, hrun, hs⟩ := Option.map_eq_some_iff.mp hlast
  obtain ⟨r, hr, heq⟩ := Option.map_eq_some_iff.mp hs
  obtain ⟨hanswer, houtcome⟩ := Prod.mk.inj heq
  refine ⟨hjson, s, hrun, ?_⟩
  intro hown
  rcases hown r (List.mem_of_getElem? hr) with hunknown | ⟨result, hresult, hreports⟩
  · rw [houtcome] at hunknown
    cases hunknown
  · rw [hanswer] at hresult
    obtain rfl := Option.some.inj hresult
    obtain ⟨v, hv, hcode⟩ := hreports.code
    rw [houtcome] at hcode
    obtain rfl : PlainJson.str (text "Fail") = v := by
      simpa [PlainJson.lib, PlainJson.get] using hv
    revert hcode
    decide

end Adav
end BrBox
