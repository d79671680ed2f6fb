import BrBox.Lib.InputStream
import BrBox.Xmproxy.CmdQueue

/-!
# Aliases of whole commands

`monoshot_callback_function` looks the lower-case message up in the alias list, splits
what it finds at semicolons, looks every piece up once more, and splits the values of
those that are aliases.  Two loops over string streams fill a queue, a third one empties
it; every command is answered.  All this is done by the command thread.

* `expandsOnce`: the commands that are executed and their replies, for every alias list.
* `onXmppMessage_processCmd`: the messages that `onXmppMessage` leaves to that thread.
* `aliasUsable_iff`: when an alias that has just been defined can be used.
-/

namespace BrBox
namespace Xmproxy

open CText
open CxxText
open Adav
open InputStream

section Loops

/-- A command that was executed. -/
structure Executed where
  cmd : Bytes
  res : RpcSrvResult
  returnval : Bytes
deriving DecidableEq, Repr

/-- What the callback did so far. -/
structure Callback where
  proxy : Proxy
  executed : List Executed
  replies : List (Bytes × Bytes)

/-- The two loops over the string streams, which fill `result`. -/
def fillResult (aliasList : AliasMap) (cmdMsg : Bytes) : List Bytes :=
  foldLines 59
    (fun result substr =>
      match aliasList[substr]? with
      | some value =>
          foldLines 59 (fun result subsubstr => result ++ [subsubstr])
            (Stream.ofText value) result
      | none => result ++ [substr])
    (Stream.ofText cmdMsg) []

/-- The loop that empties `result`. -/
def emptyResult (ctx : Context) : List Bytes → Callback → Callback
  | [], s => s
  | cmd :: result, s =>
      let outcome := runCmd ctx cmd s.proxy
      emptyResult ctx result
        { proxy := outcome.2.2
          executed := s.executed ++ [⟨cmd, outcome.1, outcome.2.1⟩]
          replies := s.replies ++ [(responseText outcome.1 outcome.2.1, ctx.sender)] }

/-- The body of the loop of `monoshot_callback_function` for a message that is no alias
definition. -/
def executeMsg (env : Environment) (s : XmppMgr) (msg sender : Bytes) : Callback :=
  let lower := toLower msg
  let cmdMsg :=
    match s.aliases.aliasList[lower]? with
    | some value => value
    | none => lower
  emptyResult (s.context env sender) (fillResult s.aliases.aliasList cmdMsg)
    { proxy := s.proxy, executed := [], replies := [] }

end Loops

section Expansion

/-- A field, replaced by the fields of its alias value if it is an alias name. -/
def fieldCmds (aliasList : AliasMap) (field : Bytes) : List Bytes :=
  match aliasList[field]? with
  | some value => value.splitOn 59
  | none => [field]

/-- The fields of a text, each replaced so. -/
def aliasFields (aliasList : AliasMap) (t : Bytes) : List Bytes :=
  (t.splitOn 59).flatMap (fieldCmds aliasList)

/-- A text, replaced by its alias value if it is an alias name. -/
def wholeAlias (aliasList : AliasMap) (t : Bytes) : Bytes :=
  (aliasList[t]?).getD t

/-- Commands that were executed in turn, each by its handler. -/
def RanInTurn (ctx : Context) : List Executed → Proxy → Proxy → Prop
  | [], p, q => q = p
  | e :: executed, p, q =>
      e.res = (runCmd ctx e.cmd p).1 ∧ e.returnval = (runCmd ctx e.cmd p).2.1 ∧
        RanInTurn ctx executed (runCmd ctx e.cmd p).2.2 q

/-- What a message that is no alias definition must do. -/
structure ExpandsOnce (env : Environment) (s : XmppMgr) (msg sender : Bytes) : Prop where
  commands : (executeMsg env s msg sender).executed.map Executed.cmd =
    aliasFields s.aliases.aliasList (wholeAlias s.aliases.aliasList (toLower msg))
  inTurn : RanInTurn (s.context env sender) (executeMsg env s msg sender).executed
    s.proxy (executeMsg env s msg sender).proxy
  replies : (executeMsg env s msg sender).replies =
    (executeMsg env s msg sender).executed.map fun e =>
      (text "return=" ++ text (rpcSrvResultString e.res) ++ text " : " ++
        text "result=" ++ e.returnval, sender)
  effects : s.processMsg env msg sender =
    ((executeMsg env s msg sender).replies.map Prod.fst,
      { s with proxy := (executeMsg env s msg sender).proxy })

/-- The body of the outer loop appends what a field stands for. -/
theorem fillResult_step
    (aliasList : AliasMap)
    (result : List Bytes)
    (substr : Bytes) :
    (match aliasList[substr]? with
      | some value =>
          foldLines 59 (fun result subsubstr => result ++ [subsubstr])
            (Stream.ofText value) result
      | none => result ++ [substr]) =
    result ++ fieldCmds aliasList substr := by
  unfold fieldCmds
  cases aliasList[substr]? with
  | none =>
      rfl
  | some value =>
      exact foldLines_push 59 value result

theorem foldl_fieldCmds
    (aliasList : AliasMap)
    (fs result : List Bytes) :
    fs.foldl (fun result substr => result ++ fieldCmds aliasList substr) result =
      result ++ fs.flatMap (fieldCmds aliasList) := by
  induction fs generalizing result with
  | nil =>
      simp
  | cons f fs ih =>
      rw [List.foldl_cons, ih, List.flatMap_cons, List.append_assoc]

/-- The loops make the fields. -/
theorem fillResult_eq
    (aliasList : AliasMap)
    (cmdMsg : Bytes) :
    fillResult aliasList cmdMsg = aliasFields aliasList cmdMsg := by
  have hbody : fillResult aliasList cmdMsg =
      foldLines 59 (fun result substr => result ++ fieldCmds aliasList substr)
        (Stream.ofText cmdMsg) [] := by
    unfold fillResult
    congr 1
    funext result substr
    exact fillResult_step aliasList result substr
  rw [hbody, foldLines_eq_foldl_splitOn, foldl_fieldCmds]
  rfl

/-- The splitting loop and the splitting of the specification agree. -/
theorem fields_eq_splitOn
    (delim : Byte)
    (t : Bytes) :
    fields delim t = t.splitOn delim := by
  induction t with
  | nil =>
      rfl
  | cons c t ih =>
      rw [fields, List.splitOn_cons_eq_if_modifyHead, ih]
      by_cases hc : c = delim
      · simp [hc]
      · rw [if_neg hc, if_neg (by simpa using hc)]
        cases hsplit : t.splitOn delim with
        | nil =>
            exact absurd hsplit (List.splitOn_ne_nil delim t)
        | cons f fs =>
            rfl

theorem expandCmds_eq
    (aliasList : AliasMap)
    (t : Bytes) :
    expandCmds aliasList t = aliasFields aliasList t := by
  unfold expandCmds aliasFields
  simp only [fields_eq_splitOn]
  rfl

/-- Emptying the queue executes all of it and keeps what was done before. -/
theorem emptyResult_executed
    (ctx : Context)
    (result : List Bytes)
    (s : Callback) :
    ∃ executed, (emptyResult ctx result s).executed = s.executed ++ executed ∧
      executed.map Executed.cmd = result ∧
      RanInTurn ctx executed s.proxy (emptyResult ctx result s).proxy ∧
      (emptyResult ctx result s).replies =
        s.replies ++ executed.map fun e => (responseText e.res e.returnval, ctx.sender) := by
  induction result generalizing s with
  | nil =>
      exact ⟨[], by simp [emptyResult], rfl, rfl, by simp [emptyResult]⟩
  | cons cmd result ih =>
      obtain ⟨executed, hexecuted, hcmds, hran, hreplies⟩ := ih
        { proxy := (runCmd ctx cmd s.proxy).2.2
          executed := s.executed ++
            [⟨cmd, (runCmd ctx cmd s.proxy).1, (runCmd ctx cmd s.proxy).2.1⟩]
          replies := s.replies ++
            [(responseText (runCmd ctx cmd s.proxy).1 (runCmd ctx cmd s.proxy).2.1,
              ctx.sender)] }
      refine ⟨⟨cmd, (runCmd ctx cmd s.proxy).1, (runCmd ctx cmd s.proxy).2.1⟩ :: executed,
        ?_, ?_, ⟨rfl, rfl, hran⟩, ?_⟩
      · rw [emptyResult, hexecuted, List.append_assoc]
        rfl
      · rw [List.map_cons, hcmds]
      · rw [emptyResult, hreplies, List.append_assoc]
        rfl

/-- It has the replies and the effects of the commands one after the other. -/
theorem runCmds_eq_emptyResult
    (ctx : Context)
    (result : List Bytes)
    (s : Callback) :
    (emptyResult ctx result s).replies.map Prod.fst =
        s.replies.map Prod.fst ++ (runCmds ctx result s.proxy).1 ∧
      (emptyResult ctx result s).proxy = (runCmds ctx result s.proxy).2 := by
  induction result generalizing s with
  | nil =>
      simp [emptyResult, runCmds]
  | cons cmd result ih =>
      obtain ⟨hreplies, hproxy⟩ := ih
        { proxy := (runCmd ctx cmd s.proxy).2.2
          executed := s.executed ++
            [⟨cmd, (runCmd ctx cmd s.proxy).1, (runCmd ctx cmd s.proxy).2.1⟩]
          replies := s.replies ++
            [(responseText (runCmd ctx cmd s.proxy).1 (runCmd ctx cmd s.proxy).2.1,
              ctx.sender)] }
      constructor
      · rw [emptyResult, hreplies, runCmds]
        simp
      · rw [emptyResult, hproxy, runCmds]

/-- The queue that a message fills. -/
theorem executeMsg_eq
    (env : Environment)
    (s : XmppMgr)
    (msg sender : Bytes) :
    executeMsg env s msg sender =
      emptyResult (s.context env sender)
        (aliasFields s.aliases.aliasList (wholeAlias s.aliases.aliasList (toLower msg)))
        { proxy := s.proxy, executed := [], replies := [] } := by
  rw [executeMsg, fillResult_eq, wholeAlias]
  cases s.aliases.aliasList[toLower msg]? with
  | none | some value =>
      rfl

/-- The commands of a message are those of the loops. -/
theorem commandsOf_eq
    {aliasList : AliasMap}
    {msg : Bytes}
    (hmsg : isAliasMsg msg = false) :
    commandsOf aliasList msg =
      aliasFields aliasList (wholeAlias aliasList (toLower msg)) := by
  rw [commandsOf, if_neg (by simp [hmsg]), expandCmds_eq, wholeAlias]

/-- Whatever the aliases are, also if they name themselves or each other: the commands
are expanded at two levels, executed in turn and answered once each. -/
theorem expandsOnce
    (env : Environment)
    (s : XmppMgr)
    {msg : Bytes}
    (sender : Bytes)
    (hmsg : isAliasMsg msg = false) :
    ExpandsOnce env s msg sender := by
  obtain ⟨executed, hexecuted, hcmds, hran, hreplies⟩ :=
    emptyResult_executed (s.context env sender)
      (aliasFields s.aliases.aliasList (wholeAlias s.aliases.aliasList (toLower msg)))
      { proxy := s.proxy, executed := [], replies := [] }
  obtain ⟨htexts, hproxy⟩ :=
    runCmds_eq_emptyResult (s.context env sender)
      (aliasFields s.aliases.aliasList (wholeAlias s.aliases.aliasList (toLower msg)))
      { proxy := s.proxy, executed := [], replies := [] }
  rw [← executeMsg_eq] at hexecuted hran hreplies htexts hproxy
  rw [List.nil_append] at hexecuted hreplies
  constructor
  · rw [hexecuted, hcmds]
  · rw [hexecuted]
    exact hran
  · rw [hreplies, hexecuted]
    rfl
  · rw [XmppMgr.processMsg, if_neg (by simp [hmsg]), commandsOf_eq hmsg, hproxy, htexts]
    rfl

/-- An alias that names itself. -/
def selfAliasMgr : XmppMgr :=
  { sampleMgr with
    aliases :=
      { aliasList := (∅ : AliasMap).insert (text "up") (text "uptime;up;")
        aliasFile := [] } }

/-- It is expanded twice and no more. -/
theorem expandsOnce_selfAlias :
    aliasFields selfAliasMgr.aliases.aliasList
        (wholeAlias selfAliasMgr.aliases.aliasList (toLower (text "UP"))) =
      [text "uptime", text "uptime", text "up", [], []] ∧
    ExpandsOnce sampleEnvironment selfAliasMgr (text "UP") (text "a@x") :=
  ⟨by decide +kernel, expandsOnce _ _ _ (by decide)⟩

end Expansion

section Definition

/-- Messages that `onXmppMessage` leaves to the command thread if there is no agent. -/
def isCommandMsg (msg : Bytes) : Bool :=
  ¬ (msg = text "Echo" ∨ msg = text "echo") ∧ ¬ (msg = text "Help" ∨ msg = text "help") ∧
    ¬ text "return=" <:+: msg

/-- The proxy after a message was received and, if it was queued, processed. -/
def afterMsg (env : Environment) (s : XmppMgr) (msg sender : Bytes) : XmppMgr :=
  if isCommandMsg msg then
    (s.processMsg env msg sender).2
  else
    s

/-- The commands that a received message executes. -/
def executedFor (env : Environment) (s : XmppMgr) (msg sender : Bytes) : List Bytes :=
  if isCommandMsg msg ∧ isAliasMsg msg = false then
    (executeMsg env s msg sender).executed.map Executed.cmd
  else
    []

/-- The message that defines an alias. -/
def aliasMsg (key value : Bytes) : Bytes :=
  text "alias " ++ key ++ 61 :: value

/-- Keys and values of which an alias can be expected to work. -/
structure AliasDef (key value : Bytes) : Prop where
  keyNonempty : key ≠ []
  keyEq : (61 : Byte) ∉ key
  keySemicolon : (59 : Byte) ∉ key
  keyNewline : (10 : Byte) ∉ key
  keyLeading : ∀ c ∈ key.head?, isSpace c = false
  keyTrailing : ∀ c ∈ key.getLast?, isSpace c = false
  keyWord : isAliasMsg key = false
  keyCommand : isCommandMsg key = true
  valueNonempty : value ≠ []
  valueEq : (61 : Byte) ∉ value
  valueNewline : (10 : Byte) ∉ value

/-- A message with the key of an alias executes the fields of its value. -/
def AliasUsable (env : Environment) (s : XmppMgr) (key value definer sender : Bytes) :
    Prop :=
  executedFor env (afterMsg env s (aliasMsg key value) definer) key sender =
    aliasFields (afterMsg env s (aliasMsg key value) definer).aliases.aliasList value

/-- The alias list after the message that defines an alias; one that holds `return=` is
taken for an answer. -/
def aliasesAfter (aliasList : AliasMap) (key value : Bytes) : AliasMap :=
  if text "return" <:+ key then
    aliasList
  else
    aliasList.insert key value

/-- What `onXmppMessage` does with the queue. -/
theorem onXmppMessage_processCmd
    {ai : AiAgent}
    (hai : ai.aiAgentUrl = [])
    (s : CmdQueue)
    (msg sender : Bytes) :
    (s.onXmppMessage ai msg sender).processCmd =
      if isCommandMsg msg then
        s.processCmd ++ [⟨msg, sender⟩]
      else
        s.processCmd := by
  unfold CmdQueue.onXmppMessage isCommandMsg
  by_cases hecho : msg = text "Echo" ∨ msg = text "echo"
  · simp [hecho]
  · rw [if_neg hecho]
    by_cases hhelp : msg = text "Help" ∨ msg = text "help"
    · simp [hhelp]
    · rw [if_neg hhelp]
      by_cases hreturn : text "return=" <:+: msg
      · simp [hreturn]
      · simp [hecho, hhelp, hreturn, hai]

variable {key value : Bytes}

/-- A word without a byte ends behind the last one. -/
theorem suffix_of_append_cons
    {w front rest : Bytes}
    {c : Byte}
    (hc : c ∉ w)
    (hsuffix : w <:+ front ++ c :: rest) :
    w <:+ rest := by
  rcases List.suffix_or_suffix_of_suffix hsuffix (List.suffix_append front (c :: rest)) with
    hw | hw
  · rcases List.suffix_cons_iff.mp hw with rfl | hw
    · exact absurd List.mem_cons_self hc
    · exact hw
  · exact absurd (hw.subset List.mem_cons_self) hc

/-- A definition holds `return=` if its key ends in `return`. -/
theorem return_infix_aliasMsg_iff
    (hdef : AliasDef key value) :
    text "return=" <:+: aliasMsg key value ↔ text "return" <:+ key := by
  have hfront : (61 : Byte) ∉ text "alias " ++ key := by
    rw [List.mem_append, not_or]
    exact ⟨by decide, hdef.keyEq⟩
  have hreturn : text "return=" = text "return" ++ [61] := by decide
  constructor
  · rintro ⟨pre, post, hmsg⟩
    have hsplit : (pre ++ text "return") ++ 61 :: post =
        (text "alias " ++ key) ++ 61 :: value := by
      rw [← aliasMsg, ← hmsg, hreturn]
      simp
    -- there is one `=` in the message
    have hcount := congrArg (List.count 61) hsplit
    have halias : List.count 61 (text "alias ") = 0 := by decide
    simp only [List.count_append, List.count_cons_self, halias,
      List.count_eq_zero.mpr hdef.keyEq, List.count_eq_zero.mpr hdef.valueEq] at hcount
    have hpre : (61 : Byte) ∉ pre ++ text "return" := by
      rw [← List.count_eq_zero, List.count_append]
      omega
    have hline := congrArg (fun msg => (getLine 61 msg).1) hsplit
    simp only [getLine_append_delim hpre, getLine_append_delim hfront] at hline
    have hsuffix : text "return" <:+ text "alias" ++ 32 :: key := by
      have hblank : text "alias" ++ 32 :: key = text "alias " ++ key := rfl
      rw [hblank, ← hline]
      exact List.suffix_append pre (text "return")
    exact suffix_of_append_cons (by decide) hsuffix
  · rintro ⟨t, rfl⟩
    refine ⟨text "alias " ++ t, value, ?_⟩
    rw [hreturn, aliasMsg]
    simp

theorem isCommandMsg_aliasMsg_iff
    (hdef : AliasDef key value) :
    isCommandMsg (aliasMsg key value) = true ↔ ¬ text "return" <:+ key := by
  have hne : ∀ t : Bytes, (61 : Byte) ∉ t → aliasMsg key value ≠ t := by
    rintro t ht rfl
    apply ht
    simp [aliasMsg]
  have hecho := hne (text "Echo") (by decide)
  have hecho' := hne (text "echo") (by decide)
  have hhelp := hne (text "Help") (by decide)
  have hhelp' := hne (text "help") (by decide)
  simp [isCommandMsg, hecho, hecho', hhelp, hhelp', return_infix_aliasMsg_iff hdef]

/-- The parts of a definition. -/
theorem aliasMsg_parts
    (hdef : AliasDef key value) :
    isAliasMsg (aliasMsg key value) = true ∧
      AliasStore.aliasKey (aliasMsg key value) = key ∧
      AliasStore.aliasValue (aliasMsg key value) = value := by
  have hword : ∀ c ∈ text "alias", isSpace c = false := by decide
  have hblank : text "alias " = text "alias" ++ [32] := by decide
  have hmsg : aliasMsg key value = text "alias" ++ 32 :: (key ++ 61 :: value) := by
    rw [aliasMsg, hblank]
    simp
  have hfront : (61 : Byte) ∉ text "alias" ++ 32 :: key := by
    rw [List.mem_append, List.mem_cons, not_or, not_or]
    exact ⟨by decide, by decide, hdef.keyEq⟩
  have hline : getLine 61 (aliasMsg key value) = (text "alias" ++ 32 :: key, value) := by
    rw [hmsg, ← List.cons_append, ← List.append_assoc]
    exact getLine_append_delim hfront value
  have hnewline : (10 : Byte) ∉ (32 : Byte) :: key := by
    rw [List.mem_cons, not_or]
    exact ⟨by decide, hdef.keyNewline⟩
  refine ⟨?_, ?_, ?_⟩
  · rw [isAliasMsg, hmsg, readWord_append_blank (by decide) hword]
    exact decide_eq_true (Or.inr rfl)
  · rw [AliasStore.aliasKey, hline, readWord_append_blank (by decide) hword,
      getLine_of_not_mem hnewline]
    obtain ⟨c, key', rfl⟩ := List.exists_cons_of_ne_nil hdef.keyNonempty
    have hc := hdef.keyLeading c rfl
    rw [List.dropWhile_cons_of_pos (by decide), List.dropWhile_cons_of_neg (by simp [hc])]
  · rw [AliasStore.aliasValue, hline, getLine_of_not_mem hdef.valueEq]

/-- A definition that is processed is entered. -/
theorem procCmdAlias_aliasMsg
    (hdef : AliasDef key value)
    (path : Bytes)
    (store : AliasStore) :
    (AliasStore.procCmdAlias path (aliasMsg key value) store).2.2.aliasList =
      store.aliasList.insert key value := by
  obtain ⟨-, hkey, hvalue⟩ := aliasMsg_parts hdef
  have hprint : ¬ (aliasMsg key value = text "Alias" ∨ aliasMsg key value = text "alias") := by
    have hmem : (61 : Byte) ∈ aliasMsg key value := by simp [aliasMsg]
    rintro (h | h)
    · rw [h] at hmem
      exact absurd hmem (by decide)
    · rw [h] at hmem
      exact absurd hmem (by decide)
  unfold AliasStore.procCmdAlias
  simp only [if_neg hprint, hkey, hvalue, if_neg hdef.valueNonempty]
  cases store.aliasList[key]? with
  | none =>
      rfl
  | some old =>
      apply Std.ExtTreeMap.ext_getElem?
      intro k
      simp only [Std.ExtTreeMap.getElem?_insert, Std.ExtTreeMap.getElem?_erase]
      split
      · rfl
      · rfl

theorem aliasList_afterMsg
    (hdef : AliasDef key value)
    (env : Environment)
    (s : XmppMgr)
    (definer : Bytes) :
    (afterMsg env s (aliasMsg key value) definer).aliases.aliasList =
      aliasesAfter s.aliases.aliasList key value := by
  unfold afterMsg aliasesAfter
  by_cases hreturn : text "return" <:+ key
  · rw [if_pos hreturn, if_neg]
    rw [isCommandMsg_aliasMsg_iff hdef]
    exact not_not_intro hreturn
  · rw [if_neg hreturn, if_pos ((isCommandMsg_aliasMsg_iff hdef).mpr hreturn),
      XmppMgr.processMsg, if_pos (aliasMsg_parts hdef).1]
    exact procCmdAlias_aliasMsg hdef _ _

/-- The key executes what its lower-case letters stand for. -/
theorem executedFor_key
    (hdef : AliasDef key value)
    (env : Environment)
    (s : XmppMgr)
    (sender : Bytes) :
    executedFor env s key sender =
      aliasFields s.aliases.aliasList (wholeAlias s.aliases.aliasList (toLower key)) := by
  rw [executedFor, if_pos ⟨hdef.keyCommand, hdef.keyWord⟩]
  exact (expandsOnce env s sender hdef.keyWord).commands

/-- The new alias is found if the key has no capital letter; otherwise the key stands for
what it stood for before. -/
theorem wholeAlias_aliasesAfter
    (aliasList : AliasMap)
    (key value : Bytes) :
    wholeAlias (aliasesAfter aliasList key value) (toLower key) =
      if toLower key = key ∧ ¬ text "return" <:+ key then
        value
      else
        wholeAlias aliasList (toLower key) := by
  unfold aliasesAfter wholeAlias
  by_cases hreturn : text "return" <:+ key
  · simp [hreturn]
  · rw [if_neg hreturn, Std.ExtTreeMap.getElem?_insert]
    by_cases hlower : toLower key = key
    · simp [hlower, hreturn]
    · have hcmp : ¬ compare key (toLower key) = .eq := by
        rw [Std.LawfulEqCmp.compare_eq_iff_eq]
        exact Ne.symm hlower
      rw [if_neg hcmp, if_neg (fun h => hlower h.1)]

/-- An alias can be used if its key has no capital letter and does not end in `return`.
Any other key works only by chance: if what its lower-case letters stood for before has
the fields of the value. -/
theorem aliasUsable_iff
    (hdef : AliasDef key value)
    (env : Environment)
    (s : XmppMgr)
    (definer sender : Bytes) :
    AliasUsable env s key value definer sender ↔
      (toLower key = key ∧ ¬ text "return" <:+ key) ∨
        aliasFields (aliasesAfter s.aliases.aliasList key value)
            (wholeAlias s.aliases.aliasList (toLower key)) =
          aliasFields (aliasesAfter s.aliases.aliasList key value) value := by
  rw [AliasUsable, executedFor_key hdef, aliasList_afterMsg hdef, wholeAlias_aliasesAfter]
  by_cases hplain : toLower key = key ∧ ¬ text "return" <:+ key
  · rw [if_pos hplain]
    exact ⟨fun _ => Or.inl hplain, fun _ => rfl⟩
  · rw [if_neg hplain]
    exact ⟨Or.inr, fun h => h.resolve_left hplain⟩

theorem aliasDef_lightOn :
    AliasDef (text "light on") (text "gpio 2 0;uptime") := by
  constructor <;> decide

theorem aliasUsable_lightOn :
    AliasUsable sampleEnvironment sampleMgr (text "light on") (text "gpio 2 0;uptime")
      (text "a@x") (text "b@x") :=
  (aliasUsable_iff aliasDef_lightOn sampleEnvironment sampleMgr (text "a@x")
    (text "b@x")).mpr (Or.inl (by decide))

/-- A key with a capital letter is never found. -/
theorem not_aliasUsable_lightOn :
    AliasDef (text "Light on") (text "gpio 2 0") ∧
      ¬ AliasUsable sampleEnvironment sampleMgr (text "Light on") (text "gpio 2 0")
        (text "a@x") (text "b@x") := by
  have hdef : AliasDef (text "Light on") (text "gpio 2 0") := by
    constructor <;> decide
  refine ⟨hdef, ?_⟩
  unfold AliasUsable
  decide +kernel

end Definition

end Xmproxy
end BrBox
