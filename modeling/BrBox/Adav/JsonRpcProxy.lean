import BrBox.Adav.NetServer
import BrBox.Lib.CopyTrace
import BrBox.Lib.CxxText
import BrBox.Lib.DecimalText

/-!
# Decoding requests and building answers

The part of `ADJsonRpcProxy` that looks at one request or builds one answer.
`jsonProcessRequest` is the chain of early returns of `json_process_request`
up to the creation of the task object; the answers are the objects built by
`json_send_error_response_string` and `json_send_new_result`.

The JSON syntax checker and the JSON library are parameters: all that is used
of them is one verdict, one parse, the text of a field and the printed form of
an answer.  A field that is missing, or looked up in a value that is not an
object, has no text.  Each of the four texts taken out of a request goes through
a `tmp_arr` without a check, so the decoder is a program with copies, and
`jsonProcessRequest_fits` says when they stay inside their arrays.
-/

namespace BrBox
namespace Adav

open CText
open CxxText
open CopyTrace

universe u

/-- The JSON functions the proxy calls; `J` is the type of JSON values. -/
structure JsonLib (J : Type u) where
  /-- `json_checker_function` returned 0. -/
  checker : Bytes → Bool
  /-- `json_tokener_parse`. -/
  tokenerParse : Bytes → Option J
  /-- `json_object_get_string` of `json_object_object_get`. -/
  getString : J → Bytes → Option Bytes

/-- `JSON_RPC_ERR_TYPE`. -/
inductive JsonRpcErrType where
  | parseError
  | invalidReq
  | methodNotFound
  | invalidParams
  | internalError
  | unknownError
deriving DecidableEq, Repr

/-- The error code that is sent. -/
def JsonRpcErrType.code : JsonRpcErrType → Int
  | .parseError => -32700
  | .invalidReq => -32600
  | .methodNotFound => -32601
  | .invalidParams => -32602
  | .internalError => -32603
  | .unknownError => -33000

/-- The error text that is sent. -/
def JsonRpcErrType.message : JsonRpcErrType → String
  | .parseError => "Parse error."
  | .invalidReq => "Invalid Request."
  | .methodNotFound => "Method not found."
  | .invalidParams => "Invalid params."
  | .internalError => "Internal error."
  | .unknownError => "Internal error."

/-- `CMD_TASK_ACC`. -/
inductive CmdTaskAcc where
  | sync
  | async
deriving DecidableEq, Repr

/-- `CMD_TASK_RESULT`. -/
inductive CmdTaskResult where
  | fail
  | success
  | invalidParam
  | devTimeout
  | devErr
  | memFail
  | inProgress
  | notStarted
  | actualValue
  | unknown
deriving DecidableEq, Repr

/-- `ADJsonRpcCommand`: a method of the mapper attached to the proxy. -/
structure RpcCommand where
  method : Bytes
  methodIndex : Int
deriving DecidableEq, Repr

/-- `attach_rpc_method`: names of 256 characters and more are refused. -/
def attachRpcMethod
    (rpcCallList : List RpcCommand) (methodName : Bytes) (methodIndex : Int) :
    List RpcCommand :=
  if 256 ≤ methodName.length then
    rpcCallList
  else
    rpcCallList ++ [{ method := methodName, methodIndex := methodIndex }]

/-- `is_this_method_registered`: the first command of that name. -/
def isThisMethodRegistered
    (rpcCallList : List RpcCommand) (rpcMethod : Bytes) : Option RpcCommand :=
  rpcCallList.find? fun command => decide (command.method = rpcMethod)

/-- The texts of the JSON keys and values that are looked for. -/
def keyMethod : Bytes := [109, 101, 116, 104, 111, 100]

def keyId : Bytes := [105, 100]

def keyAccess : Bytes := [97, 99, 99, 101, 115, 115]

def keyJsonrpc : Bytes := text "jsonrpc"

def textAsync : Bytes := [97, 115, 121, 110, 99]

/-- `tmp_arr` of `check_jsonrpc_2_0`. -/
def jsonrpcArr : CharArray := { name := "jsonrpc", capacity := 256 }

/-- `tmp_arr` of `get_jsonrpc_method`. -/
def methodArr : CharArray := { name := "method", capacity := 256 }

/-- `tmp_arr` of `get_jsonrpc_acc`. -/
def accessArr : CharArray := { name := "access", capacity := 256 }

/-- `tmp_arr` of `get_jsonrpc_id`. -/
def idArr : CharArray := { name := "id", capacity := 256 }

/-- The byte `[`. -/
def openBracket : Byte := 91

section Decode

variable {J : Type u}
variable (lib : JsonLib J)
variable (rpcCallList : List RpcCommand)

/-- `check_jsonrpc_2_0`. -/
def checkJsonrpc20 (obj : J) : Traced Bool :=
  match lib.getString obj keyJsonrpc with
  | none => pure false
  | some value => do
      let tmpArr ← Traced.copy jsonrpcArr value
      pure (tmpArr = text "2.0")

/-- `get_jsonrpc_id`. -/
def getJsonrpcId (obj : J) : Traced (Option Int) :=
  match lib.getString obj keyId with
  | none => pure none
  | some value => do
      let tmpArr ← Traced.copy idArr value
      pure (some (atoi tmpArr))

/-- `get_jsonrpc_method`. -/
def getJsonrpcMethod (obj : J) : Traced (Option RpcCommand) :=
  match lib.getString obj keyMethod with
  | none => pure none
  | some value => do
      let tmpArr ← Traced.copy methodArr value
      pure (isThisMethodRegistered rpcCallList tmpArr)

/-- `get_jsonrpc_acc`. -/
def getJsonrpcAcc (obj : J) : Traced CmdTaskAcc :=
  match lib.getString obj keyAccess with
  | none => pure .sync
  | some value => do
      let tmpArr ← Traced.copy accessArr value
      pure (if tmpArr = textAsync then .async else .sync)

/-- How `json_process_request` goes on with a request. -/
inductive RequestVerdict where
  /-- An error is sent and the request is dropped. -/
  | reject (err : JsonRpcErrType) (id : Int)
  /-- A task object is created for the request. -/
  | accept (reqId : Int) (command : RpcCommand) (access : CmdTaskAcc)
deriving DecidableEq, Repr

/-- The part of `json_process_request` that looks at the parsed object. -/
def processObject (obj : J) : Traced RequestVerdict := do
  -- The answer of the version check is not used.
  let _ ← checkJsonrpc20 lib obj
  match ← getJsonrpcId lib obj with
  | none => pure (.reject .invalidReq 0)
  | some reqId =>
      match ← getJsonrpcMethod lib rpcCallList obj with
      | none => pure (.reject .methodNotFound reqId)
      | some command => do
          let access ← getJsonrpcAcc lib obj
          pure (.accept reqId command access)

/-- `json_process_request`, up to the call of the mapper. -/
def jsonProcessRequest (jsonString : Bytes) : Traced RequestVerdict :=
  if jsonString.head? = some openBracket then
    pure (.reject .invalidReq 0)
  else if lib.checker jsonString = false then
    pure (.reject .parseError 0)
  else
    match lib.tokenerParse jsonString with
    | none => pure (.reject .parseError 0)
    | some obj => processObject lib rpcCallList obj

/-- The JSON object of a request that passes the checker. -/
def requestObject (jsonString : Bytes) : Option J :=
  if jsonString.head? = some openBracket then
    none
  else if lib.checker jsonString = false then
    none
  else
    lib.tokenerParse jsonString

@[simp] theorem getJsonrpcId_value
    (obj : J) :
    (getJsonrpcId lib obj).value = (lib.getString obj keyId).map atoi := by
  unfold getJsonrpcId
  cases lib.getString obj keyId <;> simp

theorem getJsonrpcMethod_value
    (obj : J) :
    (getJsonrpcMethod lib rpcCallList obj).value =
      (lib.getString obj keyMethod).bind (isThisMethodRegistered rpcCallList) := by
  unfold getJsonrpcMethod
  cases lib.getString obj keyMethod <;> simp

/-- Everything but `async` is synchronous. -/
theorem getJsonrpcAcc_value
    (obj : J) :
    (getJsonrpcAcc lib obj).value =
      if lib.getString obj keyAccess = some textAsync then .async else .sync := by
  unfold getJsonrpcAcc
  cases lib.getString obj keyAccess <;> simp

/-- A text without an object is rejected at once. -/
theorem jsonProcessRequest_of_none
    {jsonString : Bytes}
    (hobj : requestObject lib jsonString = none) :
    ∃ err, jsonProcessRequest lib rpcCallList jsonString = pure (.reject err 0) := by
  unfold requestObject at hobj
  unfold jsonProcessRequest
  by_cases hbracket : jsonString.head? = some openBracket
  · exact ⟨.invalidReq, if_pos hbracket⟩
  by_cases hchecker : lib.checker jsonString = false
  · exact ⟨.parseError, by rw [if_neg hbracket, if_pos hchecker]⟩
  rw [if_neg hbracket, if_neg hchecker] at hobj
  exact ⟨.parseError, by rw [if_neg hbracket, if_neg hchecker, hobj]⟩

/-- Otherwise the object decides. -/
theorem jsonProcessRequest_of_some
    {jsonString : Bytes} {obj : J}
    (hobj : requestObject lib jsonString = some obj) :
    jsonProcessRequest lib rpcCallList jsonString = processObject lib rpcCallList obj := by
  unfold requestObject at hobj
  unfold jsonProcessRequest
  by_cases hbracket : jsonString.head? = some openBracket
  · rw [if_pos hbracket] at hobj
    cases hobj
  by_cases hchecker : lib.checker jsonString = false
  · rw [if_neg hbracket, if_pos hchecker] at hobj
    cases hobj
  rw [if_neg hbracket, if_neg hchecker] at hobj
  rw [if_neg hbracket, if_neg hchecker, hobj]

/-- The member is missing, or its text and the terminator fit the array. -/
def MemberFits (obj : J) (key : Bytes) (dest : CharArray) : Prop :=
  ∀ value, lib.getString obj key = some value → value.length + 1 ≤ dest.capacity

theorem checkJsonrpc20_fits
    (obj : J) :
    (checkJsonrpc20 lib obj).Fits ↔ MemberFits lib obj keyJsonrpc jsonrpcArr := by
  unfold checkJsonrpc20 MemberFits
  cases lib.getString obj keyJsonrpc <;> simp

theorem getJsonrpcId_fits
    (obj : J) :
    (getJsonrpcId lib obj).Fits ↔ MemberFits lib obj keyId idArr := by
  unfold getJsonrpcId MemberFits
  cases lib.getString obj keyId <;> simp

theorem getJsonrpcMethod_fits
    (obj : J) :
    (getJsonrpcMethod lib rpcCallList obj).Fits ↔ MemberFits lib obj keyMethod methodArr := by
  unfold getJsonrpcMethod MemberFits
  cases lib.getString obj keyMethod <;> simp

theorem getJsonrpcAcc_fits
    (obj : J) :
    (getJsonrpcAcc lib obj).Fits ↔ MemberFits lib obj keyAccess accessArr := by
  unfold getJsonrpcAcc MemberFits
  cases lib.getString obj keyAccess <;> simp

/-- The texts that are looked at in the request fit their arrays: the method
counts when there is an id, the access when moreover the method is registered. -/
def RequestFits (jsonString : Bytes) : Prop :=
  ∀ obj, requestObject lib jsonString = some obj →
    MemberFits lib obj keyJsonrpc jsonrpcArr ∧
    MemberFits lib obj keyId idArr ∧
    (lib.getString obj keyId ≠ none →
      MemberFits lib obj keyMethod methodArr ∧
      ((getJsonrpcMethod lib rpcCallList obj).value ≠ none →
        MemberFits lib obj keyAccess accessArr))

theorem processObject_fits
    (obj : J) :
    (processObject lib rpcCallList obj).Fits ↔
      MemberFits lib obj keyJsonrpc jsonrpcArr ∧
      MemberFits lib obj keyId idArr ∧
      (lib.getString obj keyId ≠ none →
        MemberFits lib obj keyMethod methodArr ∧
        ((getJsonrpcMethod lib rpcCallList obj).value ≠ none →
          MemberFits lib obj keyAccess accessArr)) := by
  unfold processObject
  simp only [Traced.fits_bind, checkJsonrpc20_fits, getJsonrpcId_fits, getJsonrpcId_value]
  refine and_congr_right fun _ => and_congr_right fun _ => ?_
  cases lib.getString obj keyId with
  | none => simp
  | some idText =>
      simp only [Option.map_some, Traced.fits_bind, getJsonrpcMethod_fits, ne_eq,
        reduceCtorEq, not_false_eq_true, forall_const]
      refine and_congr_right fun _ => ?_
      cases (getJsonrpcMethod lib rpcCallList obj).value with
      | none => simp
      | some command => simp [getJsonrpcAcc_fits]

/-- The decoder stays inside its arrays exactly when the texts are short enough. -/
theorem jsonProcessRequest_fits
    (jsonString : Bytes) :
    (jsonProcessRequest lib rpcCallList jsonString).Fits ↔
      RequestFits lib rpcCallList jsonString := by
  unfold RequestFits
  cases hobj : requestObject lib jsonString with
  | none =>
      obtain ⟨err, hreject⟩ := jsonProcessRequest_of_none lib rpcCallList hobj
      simp [hreject]
  | some obj =>
      simp [jsonProcessRequest_of_some lib rpcCallList hobj, processObject_fits]

/-- An accepted request has an object with an id and a registered method. -/
theorem accept_inv
    {jsonString : Bytes} {reqId : Int} {command : RpcCommand} {access : CmdTaskAcc}
    (haccept :
      (jsonProcessRequest lib rpcCallList jsonString).value = .accept reqId command access) :
    ∃ obj idText,
      requestObject lib jsonString = some obj ∧
      lib.getString obj keyId = some idText ∧
      reqId = atoi idText ∧
      (getJsonrpcMethod lib rpcCallList obj).value = some command := by
  cases hobj : requestObject lib jsonString with
  | none =>
      obtain ⟨err, hreject⟩ := jsonProcessRequest_of_none lib rpcCallList hobj
      rw [hreject] at haccept
      cases haccept
  | some obj =>
      rw [jsonProcessRequest_of_some lib rpcCallList hobj, processObject] at haccept
      simp only [Traced.value_bind, getJsonrpcId_value] at haccept
      cases hid : lib.getString obj keyId with
      | none =>
          rw [hid] at haccept
          cases haccept
      | some idText =>
          simp only [hid, Option.map_some, Traced.value_bind] at haccept
          cases hmethod : (getJsonrpcMethod lib rpcCallList obj).value with
          | none =>
              rw [hmethod] at haccept
              cases haccept
          | some found =>
              rw [hmethod] at haccept
              cases haccept
              exact ⟨obj, idText, rfl, hid, rfl, hmethod⟩

end Decode

/-- `api_task_obj`, as far as an answer depends on it. -/
structure ApiTaskObj (J : Type u) where
  ident : Int
  reqId : Int
  pNetData : NetDataObj
  pRpcMethod : RpcCommand
  access : CmdTaskAcc
  taskResult : CmdTaskResult
  jsonRespObj : Option J
  customResultString : String

/-- The `result` member of an answer. -/
inductive ResultBody (J : Type u) where
  /-- The object the mapper has prepared. -/
  | object (respObj : J)
  /-- `{"return":"fail","errorType":...}`. -/
  | failed (errorType : String)

/-- An answer: an error object or a result object. -/
inductive RpcMessage (J : Type u) where
  | error (code : Int) (message : String) (id : Option Int)
  | result (body : ResultBody J) (id : Int)

/-- Result objects answer accepted requests. -/
def RpcMessage.isResult {J : Type u} : RpcMessage J → Bool
  | .error _ _ _ => false
  | .result _ _ => true

/-- `json_send_error_response_string`: the id is sent for two error types. -/
def jsonSendErrorResponse
    {J : Type u} (id : Int) (err : JsonRpcErrType) : RpcMessage J :=
  match err with
  | .methodNotFound => .error err.code err.message (some id)
  | .invalidParams => .error err.code err.message (some id)
  | _ => .error err.code err.message none

/-- The result text chosen by `json_send_new_result`. -/
def resultString {J : Type u} (task : ApiTaskObj J) : String :=
  match task.taskResult with
  | .fail => "Fail"
  | .success => "Success"
  | .invalidParam => "ParamError"
  | .devTimeout => "Timeout"
  | .devErr => "DevError"
  | .memFail => "MemError"
  | .inProgress => "InProgress"
  | .actualValue => task.customResultString
  | .notStarted => "Unknown"
  | .unknown => "Unknown"

/-- `json_send_new_result` and `json_send_result_response_string`. -/
def jsonSendNewResult {J : Type u} (task : ApiTaskObj J) : RpcMessage J :=
  match task.jsonRespObj with
  | some respObj => .result (.object respObj) task.reqId
  | none => .result (.failed (resultString task)) task.reqId

@[simp] theorem jsonSendErrorResponse_isResult
    {J : Type u} (id : Int) (err : JsonRpcErrType) :
    (jsonSendErrorResponse id err : RpcMessage J).isResult = false := by
  cases err <;> rfl

@[simp] theorem jsonSendNewResult_isResult
    {J : Type u} (task : ApiTaskObj J) :
    (jsonSendNewResult task).isResult = true := by
  unfold jsonSendNewResult
  cases task.jsonRespObj <;> rfl

/-- What the library prints for the member `id` when it is the number `idNumber`. -/
def PrintsNumbers
    {J : Type u} (lib : JsonLib J) (idNumber : J → Option Int) : Prop :=
  ∀ obj n, idNumber obj = some n → lib.getString obj keyId = some (decimalText n)

/-- The message is what the request deserves: an error object when it is
rejected, else a result object with the number that is its id. -/
def AnswersRequest
    {J : Type u} (lib : JsonLib J) (idNumber : J → Option Int)
    (rpcCallList : List RpcCommand)
    (jsonString : Bytes) (message : RpcMessage J) : Prop :=
  match (jsonProcessRequest lib rpcCallList jsonString).value with
  | .reject _ _ => ∃ code errorText id, message = .error code errorText id
  | .accept _ _ _ =>
      ∃ obj n body,
        requestObject lib jsonString = some obj ∧ idNumber obj = some n ∧
        message = .result body n

/-- An accepted request has a number of the range of an `int` as its id. -/
def IdIsInt
    {J : Type u} (lib : JsonLib J) (idNumber : J → Option Int)
    (rpcCallList : List RpcCommand) (jsonString : Bytes) : Prop :=
  ∀ obj, requestObject lib jsonString = some obj →
    lib.getString obj keyId ≠ none →
    (getJsonrpcMethod lib rpcCallList obj).value ≠ none →
    ∃ n, idNumber obj = some n ∧ -2 ^ 31 ≤ n ∧ n < 2 ^ 31

/-- The members of a flat JSON object. -/
abbrev FlatJson : Type := List (Bytes × Bytes)

/-- The text `{"id":7,"method":"a"}`. -/
def sampleText : Bytes :=
  [123, 34, 105, 100, 34, 58, 55, 44, 34, 109, 101, 116, 104, 111, 100, 34, 58,
    34, 97, 34, 125]

/-- The JSON functions on the sample text and on `{}`. -/
def sampleLib : JsonLib FlatJson where
  checker := fun text => text = sampleText || text = [openBrace, closeBrace]
  tokenerParse := fun text =>
    if text = sampleText then
      some [(keyId, [55]), (keyMethod, [97])]
    else if text = [openBrace, closeBrace] then
      some []
    else
      none
  getString := fun obj key =>
    (obj.find? fun member => member.1 = key).map Prod.snd

/-- The number in the member `id` of a flat object. -/
def flatIdNumber (obj : FlatJson) : Option Int :=
  match (obj.find? fun member => member.1 = keyId).map Prod.snd with
  | none => none
  | some value =>
      if decimalText (atoi value) = value then
        some (atoi value)
      else
        none

end Adav
end BrBox
