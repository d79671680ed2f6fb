import BrBox.Adav.JsonRoundTrip
import BrBox.Adav.JsonRpcProxy

/-!
# Requests and answers

How a server takes a request apart and puts an answer together, and what a client
finds in it.  Over a faithful JSON library nothing is lost in either direction:

* `jsonProcessRequest_request`: a request of a registered method is accepted;
* `findSingleParam_request`, `jsonStringToUlong_request`: its parameters are found;
* `outcome_set`, `outcome_get`: the client reports the result and the data of the
  answer.
-/

namespace BrBox
namespace Adav

open CText
open CxxText

universe u

/-! ## The texts of the server -/

section Server

variable {J : Type u}
variable (lib : ClientJson J)

/-- `find_single_param`. -/
def findSingleParam (s name : Bytes) : Option Bytes :=
  (lib.tokenerParse s).bind fun o =>
    (lib.objectGet o (text "params")).bind fun params =>
      (lib.objectGet params name).map lib.getString

/-- `JSON_STRING_TO_ULONG`: a text without a number leaves the variable. -/
def jsonStringToUlong (bits : Nat) (s name : Bytes) (old : Nat) : Option Nat :=
  (findSingleParam lib s name).map fun value => (scanUlong bits value).getD old

/-- `prepare_result_string`. -/
def prepareResultString (result : RpcSrvResult) (params : List (Bytes × J)) : J :=
  lib.newObject
    ((text "return", lib.newString (text (rpcSrvResultString
      (if result = .none then .unknown else result)))) :: params)

/-- The JSON functions of the proxy. -/
def proxyLib (checker : Bytes → Bool) : JsonLib J :=
  { checker := checker
    tokenerParse := lib.tokenerParse
    getString := fun o key => (lib.objectGet o key).map lib.getString }

/-- The text of an answer.  An id that is `null` is left out: no client looks at
it. -/
def messageText : RpcMessage J → Bytes
  | .result (.object obj) id => lib.responseText id obj
  | .result (.failed errorType) id =>
      lib.responseText id (lib.newObject
        [(text "return", lib.newString (text "fail")),
          (text "errorType", lib.newString (text errorType))])
  | .error code message id =>
      lib.toJsonString (lib.newObject
        ([(text "jsonrpc", lib.newString (text "2.0")),
            (text "error", lib.newObject
              [(text "code", lib.newInt code),
                (text "message", lib.newString (text message))])] ++
          id.toList.map fun id => (text "id", lib.newInt id)))

end Server

/-! ## Numbers on their way -/

/-- An `unsigned long` has the low bits of the `int` that was printed. -/
theorem ulong_mod
    {bits : Nat} (hbits : bits = 32 ∨ bits = 64) (n : Nat) :
    (wrapInt32 n % 2 ^ bits).toNat % 2 ^ 32 = n % 2 ^ 32 := by
  have hmod := wrapInt32_emod n
  rcases hbits with rfl | rfl
  all_goals
    omega

/-- A number that was sent is scanned. -/
theorem scanUlong_sent
    {bits : Nat} (hbits : bits = 32 ∨ bits = 64) (n : Nat) :
    scanUlong bits (decimalText (wrapInt32 n)) =
      some (wrapInt32 n % 2 ^ bits).toNat := by
  obtain ⟨hlow, hhigh⟩ := wrapInt32_range n
  apply scanUlong_decimalText
  rcases hbits with rfl | rfl
  all_goals
    omega

/-! ## Requests and answers -/

/-- The text that the server finds for a parameter. -/
def argText : RpcArg → Bytes
  | .str value => value
  | .int value => decimalText value

/-- A parameter that arrives as it was sent. -/
def SendableArg : RpcArg → Prop
  | .str value => PlainText value
  | .int value => -2 ^ 31 ≤ value ∧ value < 2 ^ 31

/-- A call with parameters that arrives as it was sent. -/
structure Sendable (call : ClientCall) : Prop where
  method : PlainText call.method
  nonempty : call.params ≠ []
  names : (call.params.map fun p => p.1).Nodup
  plain : ∀ p ∈ call.params, PlainText p.1
  args : ∀ p ∈ call.params, SendableArg p.2

section Messages

variable {J : Type u} {lib : ClientJson J} {checker : Bytes → Bool}

theorem built_ofArg
    {arg : RpcArg} (harg : SendableArg arg) :
    Built lib 0 (lib.ofArg arg) := by
  cases arg with
  | str value =>
      exact .string value harg
  | int value =>
      exact .int value harg.1 harg.2

theorem getString_ofArg
    (hjson : FaithfulJson lib checker) {arg : RpcArg} (harg : SendableArg arg) :
    lib.getString (lib.ofArg arg) = argText arg := by
  cases arg with
  | str value =>
      exact hjson.getString_newString value harg
  | int value =>
      exact hjson.getString_newInt value harg.1 harg.2

/-- The parameters of a request. -/
def paramFields (lib : ClientJson J) (call : ClientCall) : List (Bytes × J) :=
  call.params.map fun p => (p.1, lib.ofArg p.2)

/-- The members of a request. -/
def requestFields (lib : ClientJson J) (call : ClientCall) (id : Int) :
    List (Bytes × J) :=
  [(text "jsonrpc", lib.newString (text "2.0")),
    (text "method", lib.newString call.method),
    (text "params", lib.newObject (paramFields lib call)),
    (text "id", lib.newInt id)]

theorem prepareJsonRequest_eq
    {call : ClientCall} (hcall : Sendable call) (id : Int) :
    lib.prepareJsonRequest call id =
      lib.toJsonString (lib.newObject (requestFields lib call id)) := by
  simp [ClientJson.prepareJsonRequest, hcall.nonempty, requestFields, paramFields]

/-- The names of the members of a request. -/
theorem requestFields_names
    (call : ClientCall) (id : Int) :
    (requestFields lib call id).map (fun f => f.1) =
      [text "jsonrpc", text "method", text "params", text "id"] := by
  rfl

theorem nodup_paramFields
    {call : ClientCall} (hcall : Sendable call) :
    ((paramFields lib call).map fun f => f.1).Nodup := by
  simpa [paramFields, Function.comp_def] using hcall.names

/-- The parameters are a value of a message. -/
theorem built_paramFields
    {call : ClientCall} (hcall : Sendable call) :
    Built lib 1 (lib.newObject (paramFields lib call)) := by
  apply Built.object _ (nodup_paramFields hcall)
  all_goals
    intro f hf
    obtain ⟨p, hp, rfl⟩ := List.mem_map.mp hf
  · exact hcall.plain p hp
  · exact built_ofArg (hcall.args p hp)

theorem nodup_requestFields
    (call : ClientCall) (id : Int) :
    ((requestFields lib call id).map fun f => f.1).Nodup := by
  rw [requestFields_names]
  decide

/-- A request is a value of a message. -/
theorem built_requestFields
    {call : ClientCall} (hcall : Sendable call)
    {id : Int} (hlow : -2 ^ 31 ≤ id) (hhigh : id < 2 ^ 31) :
    Built lib messageLevels (lib.newObject (requestFields lib call id)) := by
  apply Built.object _ (nodup_requestFields call id)
  · intro f hf
    have hname := List.mem_map_of_mem (f := fun f : Bytes × J => f.1) hf
    rw [requestFields_names] at hname
    have hplain : ∀ name ∈ [text "jsonrpc", text "method", text "params", text "id"],
        PlainText name := by
      decide
    exact hplain f.1 hname
  · intro f hf
    simp only [requestFields, List.mem_cons, List.not_mem_nil, or_false] at hf
    rcases hf with rfl | rfl | rfl | rfl
    · exact .string _ (by decide)
    · exact .string _ hcall.method
    · exact built_paramFields hcall
    · exact .int id hlow hhigh

/-- The data of an answer, if it has any. -/
def dataField (lib : ClientJson J) : Option Int → List (Bytes × J)
  | none => []
  | some value => [(text "data", lib.newInt value)]

/-- Results that are sent are plain texts, and are recognised. -/
theorem rpcSrvResultString_sent
    {result : RpcSrvResult} (hresult : result ≠ .none) :
    PlainText (text (rpcSrvResultString result)) ∧
      convertStringToServerResult (text (rpcSrvResultString result)) = result := by
  have hall : ∀ r ∈ rpcSrvResults, PlainText (text (rpcSrvResultString r)) ∧
      convertStringToServerResult (text (rpcSrvResultString r)) = r := by
    decide +kernel
  apply hall
  cases result
  all_goals first
    | exact absurd rfl hresult
    | decide

/-- The members of the result object. -/
def resultFields
    (lib : ClientJson J) (result : RpcSrvResult) (data : Option Int) : List (Bytes × J) :=
  (text "return", lib.newString (text (rpcSrvResultString result))) :: dataField lib data

theorem prepareResultString_eq
    {result : RpcSrvResult} (hresult : result ≠ .none) (data : Option Int) :
    prepareResultString lib result (dataField lib data) =
      lib.newObject (resultFields lib result data) := by
  simp [prepareResultString, hresult, resultFields]

theorem nodup_resultFields
    (result : RpcSrvResult) (data : Option Int) :
    ((resultFields lib result data).map fun f => f.1).Nodup := by
  have hne : text "return" ≠ text "data" := by
    decide
  cases data with
  | none =>
      simp [resultFields, dataField]
  | some value =>
      simp [resultFields, dataField, hne]

/-- A result object is a value of a message. -/
theorem built_resultFields
    {result : RpcSrvResult} (hresult : result ≠ .none) {data : Option Int}
    (hdata : ∀ value ∈ data, -2 ^ 31 ≤ value ∧ value < 2 ^ 31) :
    Built lib 1 (lib.newObject (resultFields lib result data)) := by
  apply Built.object _ (nodup_resultFields result data)
  · intro f hf
    rcases List.mem_cons.mp hf with rfl | hf
    · exact (by decide : PlainText (text "return"))
    · cases data with
      | none =>
          cases hf
      | some value =>
          obtain rfl := List.mem_singleton.mp hf
          exact (by decide : PlainText (text "data"))
  · intro f hf
    rcases List.mem_cons.mp hf with rfl | hf
    · exact .string _ (rpcSrvResultString_sent hresult).1
    · cases data with
      | none =>
          cases hf
      | some value =>
          obtain rfl := List.mem_singleton.mp hf
          exact .int value (hdata value rfl).1 (hdata value rfl).2

section Faithful

variable (hjson : FaithfulJson lib checker)
include hjson

/-- A member of a request. -/
theorem objectGet_request
    (call : ClientCall) (id : Int) (name : Bytes) :
    lib.objectGet (lib.newObject (requestFields lib call id)) name =
      if text "jsonrpc" = name then some (lib.newString (text "2.0"))
      else if text "method" = name then some (lib.newString call.method)
      else if text "params" = name then some (lib.newObject (paramFields lib call))
      else if text "id" = name then some (lib.newInt id)
      else none := by
  rw [hjson.objectGet_newObject _ name (nodup_requestFields call id)]
  simp only [requestFields, List.find?_cons, List.find?_nil]
  by_cases h1 : text "jsonrpc" = name
  · simp [h1]
  by_cases h2 : text "method" = name
  · simp [h1, h2]
  by_cases h3 : text "params" = name
  · simp [h1, h2, h3]
  by_cases h4 : text "id" = name
  · simp [h1, h2, h3, h4]
  simp [h1, h2, h3, h4]

/-- The server parses the request that was sent. -/
theorem tokenerParse_request
    {call : ClientCall} (hcall : Sendable call)
    {id : Int} (hlow : -2 ^ 31 ≤ id) (hhigh : id < 2 ^ 31) :
    lib.tokenerParse (lib.prepareJsonRequest call id) =
      some (lib.newObject (requestFields lib call id)) := by
  rw [prepareJsonRequest_eq hcall]
  exact hjson.parse_print _ (built_requestFields hcall hlow hhigh)

/-- The server finds the parameters that were sent. -/
theorem findSingleParam_request
    {call : ClientCall} (hcall : Sendable call)
    {id : Int} (hlow : -2 ^ 31 ≤ id) (hhigh : id < 2 ^ 31) (name : Bytes) :
    findSingleParam lib (lib.prepareJsonRequest call id) name =
      (call.params.find? fun p => p.1 = name).map fun p => argText p.2 := by
  have hget : lib.objectGet (lib.newObject (requestFields lib call id)) (text "params") =
      some (lib.newObject (paramFields lib call)) := by
    rw [objectGet_request hjson, if_neg (by decide), if_neg (by decide), if_pos rfl]
  rw [findSingleParam, tokenerParse_request hjson hcall hlow hhigh, Option.bind_some,
    hget, Option.bind_some, hjson.objectGet_newObject _ name (nodup_paramFields hcall),
    paramFields, List.find?_map]
  simp only [Option.map_map, Function.comp_def]
  cases hfind : call.params.find? fun p => p.1 = name with
  | none =>
      rfl
  | some p =>
      simp [getString_ofArg hjson (hcall.args p (List.mem_of_find?_eq_some hfind))]

/-- A number is found in the request and scanned. -/
theorem jsonStringToUlong_request
    {bits : Nat} (hbits : bits = 32 ∨ bits = 64)
    {call : ClientCall} (hcall : Sendable call)
    {id : Int} (hlow : -2 ^ 31 ≤ id) (hhigh : id < 2 ^ 31)
    {name : Bytes} {n : Nat}
    (hparam : (call.params.find? fun p => p.1 = name) = some (name, .int (wrapInt32 n)))
    (old : Nat) :
    jsonStringToUlong lib bits (lib.prepareJsonRequest call id) name old =
      some (wrapInt32 n % 2 ^ bits).toNat := by
  rw [jsonStringToUlong, findSingleParam_request hjson hcall hlow hhigh, hparam,
    Option.map_some, Option.map_some]
  simp only [argText]
  rw [scanUlong_sent hbits, Option.getD_some]

/-- The server accepts a request of a registered method. -/
theorem jsonProcessRequest_request
    {call : ClientCall} (hcall : Sendable call)
    {id : Int} (hlow : -2 ^ 31 ≤ id) (hhigh : id < 2 ^ 31)
    {rpcCallList : List RpcCommand} {command : RpcCommand}
    (hcommand : isThisMethodRegistered rpcCallList call.method = some command) :
    (jsonProcessRequest (proxyLib lib checker) rpcCallList
      (lib.prepareJsonRequest call id)).value = .accept id command .sync := by
  have hbuilt : Built lib messageLevels (lib.newObject (requestFields lib call id)) :=
    built_requestFields hcall hlow hhigh
  have hhead : (lib.prepareJsonRequest call id).head? ≠ some openBracket := by
    rw [prepareJsonRequest_eq hcall, hjson.head_print _ hbuilt]
    decide
  have hchecker : checker (lib.prepareJsonRequest call id) = true := by
    rw [prepareJsonRequest_eq hcall]
    exact hjson.checker_print _ hbuilt
  have hid : (proxyLib lib checker).getString
      (lib.newObject (requestFields lib call id)) keyId = some (decimalText id) := by
    simp only [proxyLib]
    rw [show keyId = text "id" by decide, objectGet_request hjson, if_neg (by decide),
      if_neg (by decide), if_neg (by decide), if_pos rfl, Option.map_some,
      hjson.getString_newInt id hlow hhigh]
  have hmethod : (proxyLib lib checker).getString
      (lib.newObject (requestFields lib call id)) keyMethod = some call.method := by
    simp only [proxyLib]
    rw [show keyMethod = text "method" by decide, objectGet_request hjson,
      if_neg (by decide), if_pos rfl, Option.map_some,
      hjson.getString_newString _ hcall.method]
  have haccess : (proxyLib lib checker).getString
      (lib.newObject (requestFields lib call id)) keyAccess = none := by
    simp only [proxyLib]
    rw [objectGet_request hjson, if_neg (by decide), if_neg (by decide),
      if_neg (by decide), if_neg (by decide), Option.map_none]
  simp only [jsonProcessRequest, hhead, if_false, proxyLib, hchecker,
    tokenerParse_request hjson hcall hlow hhigh]
  simp only [proxyLib] at hid hmethod haccess
  simp [processObject, getJsonrpcMethod_value, getJsonrpcAcc_value, hid, hmethod, haccess,
    hcommand, atoi_decimalText hlow hhigh]

/-- The client finds the result object in the answer. -/
theorem resultObject_responseText
    {id : Int} (hlow : -2 ^ 31 ≤ id) (hhigh : id < 2 ^ 31)
    {obj : J} (hobj : Built lib 1 obj) :
    lib.resultObject (lib.responseText id obj) = some obj := by
  have hnodup : ([(text "jsonrpc", lib.newString (text "2.0")), (text "result", obj),
      (text "id", lib.newInt id)].map fun f => f.1).Nodup := by
    simp only [List.map_cons, List.map_nil]
    decide
  have hbuilt : Built lib messageLevels (lib.newObject
      [(text "jsonrpc", lib.newString (text "2.0")), (text "result", obj),
        (text "id", lib.newInt id)]) := by
    apply Built.object _ hnodup
    all_goals
      intro f hf
      simp only [List.mem_cons, List.not_mem_nil, or_false] at hf
      rcases hf with rfl | rfl | rfl
    · exact (by decide : PlainText (text "jsonrpc"))
    · exact (by decide : PlainText (text "result"))
    · exact (by decide : PlainText (text "id"))
    · exact .string _ (by decide)
    · exact hobj
    · exact .int id hlow hhigh
  rw [ClientJson.resultObject, ClientJson.responseText, hjson.parse_print _ hbuilt,
    Option.bind_some, hjson.objectGet_newObject _ _ hnodup,
    List.find?_cons_of_neg (by simp only [decide_eq_true_eq]; decide),
    List.find?_cons_of_pos (by simp)]
  rfl

/-- The client finds the result. -/
theorem objectGet_return
    {result : RpcSrvResult} (hresult : result ≠ .none) (data : Option Int) :
    (lib.objectGet (lib.newObject (resultFields lib result data)) (text "return")).map
      lib.getString = some (text (rpcSrvResultString result)) := by
  rw [hjson.objectGet_newObject _ _ (nodup_resultFields result data), resultFields,
    List.find?_cons_of_pos (by simp)]
  simp [hjson.getString_newString _ (rpcSrvResultString_sent hresult).1]

/-- The client finds the data, if there is any. -/
theorem objectGet_data
    (result : RpcSrvResult) {data : Option Int}
    (hdata : ∀ value ∈ data, -2 ^ 31 ≤ value ∧ value < 2 ^ 31) :
    (lib.objectGet (lib.newObject (resultFields lib result data)) (text "data")).map
      lib.getString = data.map decimalText := by
  rw [hjson.objectGet_newObject _ _ (nodup_resultFields result data), resultFields,
    List.find?_cons_of_neg (by simp only [decide_eq_true_eq]; decide)]
  cases data with
  | none =>
      rfl
  | some value =>
      simp [dataField, hjson.getString_newInt value (hdata value rfl).1 (hdata value rfl).2]

/-- A setter reports the result that was sent. -/
theorem outcome_set
    {call : ClientCall} (hreturned : call.returned = none)
    {id : Int} (hlow : -2 ^ 31 ≤ id) (hhigh : id < 2 ^ 31)
    {result : RpcSrvResult} (hresult : result ≠ .none) :
    lib.outcome call (lib.responseText id (prepareResultString lib result [])) =
      (result, none) := by
  have hbuilt : Built lib 1 (lib.newObject (resultFields lib result none)) :=
    built_resultFields hresult (by simp)
  have heq : prepareResultString lib result [] =
      lib.newObject (resultFields lib result none) :=
    prepareResultString_eq hresult none
  have hfind : lib.findJsonResult (lib.responseText id
      (lib.newObject (resultFields lib result none))) (text "return") =
        some (text (rpcSrvResultString result)) := by
    rw [ClientJson.findJsonResult, resultObject_responseText hjson hlow hhigh hbuilt]
    exact objectGet_return hjson hresult none
  simp [ClientJson.outcome, hreturned, heq, hfind, (rpcSrvResultString_sent hresult).2]

/-- A getter reports the result and the data that were sent. -/
theorem outcome_get
    {call : ClientCall} {initial : Bytes}
    (hreturned : call.returned = some (text "data", initial))
    {id : Int} (hlow : -2 ^ 31 ≤ id) (hhigh : id < 2 ^ 31)
    {result : RpcSrvResult} (hresult : result ≠ .none) {data : Option Int}
    (hdata : ∀ value ∈ data, -2 ^ 31 ≤ value ∧ value < 2 ^ 31) :
    lib.outcome call (lib.responseText id
      (prepareResultString lib result (dataField lib data))) =
        (result, some ((data.map decimalText).getD initial)) := by
  have hbuilt : Built lib 1 (lib.newObject (resultFields lib result data)) :=
    built_resultFields hresult hdata
  obtain ⟨r, hr, hrtext⟩ := Option.map_eq_some_iff.mp (objectGet_return hjson hresult data)
  have hvalue := objectGet_data hjson result hdata
  have hfind : lib.findJsonResultAndSingleStringParam (lib.responseText id
      (lib.newObject (resultFields lib result data))) (text "return") (text "data") initial =
        some (text (rpcSrvResultString result), (data.map decimalText).getD initial) := by
    rw [ClientJson.findJsonResultAndSingleStringParam,
      resultObject_responseText hjson hlow hhigh hbuilt, Option.bind_some, hr,
      Option.map_some, hrtext, ← hvalue]
    cases lib.objectGet (lib.newObject (resultFields lib result data)) (text "data") with
    | none =>
        rfl
    | some p =>
        rfl
  simp [ClientJson.outcome, hreturned, prepareResultString_eq hresult, hfind,
    (rpcSrvResultString_sent hresult).2]

end Faithful

end Messages

end Adav
end BrBox
