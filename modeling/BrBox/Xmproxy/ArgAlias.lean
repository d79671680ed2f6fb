import BrBox.Xmproxy.CmdDispatch

/-!
# Aliases of arguments

An argument that starts with a dollar sign names an alias, and `xpandarg` puts the value
in its place.  Each handler parses its own command: some read the argument with `>>`, some
take the rest of the line with the blank before it, and `xpandarg` looks at the first byte
only.

* `Arg.use`: what a handler does with the value of one of its arguments.
* `handsValue_iff`: the arguments for which it gets the value of the alias.
-/

namespace BrBox
namespace Xmproxy

open CText
open CxxText
open Adav

section Words

/-- Something without blanks. -/
def IsWord (w : Bytes) : Prop :=
  w ≠ [] ∧ ∀ c ∈ w, isSpace c = false

/-- Words with a blank before each. -/
def blanks (ws : List Bytes) : Bytes :=
  ws.flatMap fun w => 32 :: w

theorem readWord_append_blanks
    {w : Bytes}
    (hw : IsWord w)
    (ws : List Bytes) :
    readWord (w ++ blanks ws) = (w, blanks ws) := by
  cases ws with
  | nil =>
      simpa [blanks] using readWord_word hw.2
  | cons w' ws =>
      exact readWord_append_blank hw.1 hw.2 _

theorem readWord_blanks_cons
    {w : Bytes}
    (hw : IsWord w)
    (ws : List Bytes) :
    readWord (blanks (w :: ws)) = (w, blanks ws) := by
  have hcons : blanks (w :: ws) = 32 :: (w ++ blanks ws) := rfl
  rw [hcons, readWord_blank_cons, readWord_append_blanks hw]

/-- The next word, if there is one. -/
theorem readWord_blanks
    {ws : List Bytes}
    (hws : ∀ w ∈ ws, IsWord w) :
    (readWord (blanks ws)).1 = ws.headD [] := by
  cases ws with
  | nil =>
      rfl
  | cons w ws =>
      rw [readWord_blanks_cons (hws w List.mem_cons_self)]
      rfl

/-- Words stand on one line. -/
theorem getLine_blanks
    {ws : List Bytes}
    (hws : ∀ w ∈ ws, IsWord w) :
    getLine 10 (blanks ws) = (blanks ws, []) := by
  apply getLine_of_not_mem
  intro hmem
  obtain ⟨w, hw, hc⟩ := List.mem_flatMap.mp hmem
  rcases List.mem_cons.mp hc with hc | hc
  · exact absurd hc (by decide)
  · exact absurd ((hws w hw).2 10 hc) (by decide)

theorem blanks_eq_nil_iff
    {ws : List Bytes} :
    blanks ws = [] ↔ ws = [] := by
  cases ws with
  | nil =>
      simp [blanks]
  | cons w ws =>
      simp [blanks]

theorem headD_eq_nil_iff
    {ws : List Bytes}
    (hws : ∀ w ∈ ws, IsWord w) :
    ws.headD [] = [] ↔ ws = [] := by
  cases ws with
  | nil =>
      simp
  | cons w ws =>
      simpa using (hws w List.mem_cons_self).1

end Words

section Arguments

/-- The arguments that some handler expands. -/
inductive Arg
  | hostname
  | gpioNum
  | gpioSts
  | dialvoice
  | eventgpioNum
  | eventgpioSts
  | sleep
  | sonoffHost
  | sonoffSts
  | displayLine
  | displayMsg
  | dispbklt
  | botname
  | acceptbuddy
  | rejectbuddy
  | subscribe
  | unsubscribe
  | relaymsgAddr
  | relaymsgMsg
deriving DecidableEq, Repr

/-- A command as it is typed: its name and the words before and behind the argument. -/
structure Typed where
  cmd : Bytes
  before : List Bytes
  after : List Bytes

/-- The command with the argument `$n`. -/
def Typed.msg (t : Typed) (n : Bytes) : Bytes :=
  t.cmd ++ blanks (t.before ++ (36 :: n) :: t.after)

/-- What `proc_cmd_sleep` gives to `usleep`, in seconds. -/
def sleepSec (ctx : Context) (msg : Bytes) : Option Int :=
  let (cmd, cmdArg, _) := threeWords msg
  if cmd = [] then
    none
  else if cmdArg = [] then
    none
  else
    some (atoi (xpandarg ctx.aliasList cmdArg))

/-- The state of a relay is read. -/
def sonoffRead (ctx : Context) (p : Proxy) (ip : Bytes) : CmdOutcome :=
  withSonoff ctx p ip .getState fun result state p' =>
    (result,
      match state with
      | .on => text "on"
      | .off => text "off"
      | .unknown => text "unknown", p')

/-- A relay is switched. -/
def sonoffWrite (ctx : Context) (p : Proxy) (ip sts : Bytes) : CmdOutcome :=
  if sts = text "on" then
    withSonoff ctx p ip .on fun result _ p' => (result, [], p')
  else if sts = text "off" then
    withSonoff ctx p ip .off fun result _ p' => (result, [], p')
  else if sts = text "toggle" then
    withSonoff ctx p ip .toggle fun result _ p' => (result, [], p')
  else
    (.argError, [], p)

/-- What the admin may do. -/
def asAdmin (ctx : Context) (p : Proxy) (outcome : CmdOutcome) : CmdOutcome :=
  if isAdminUser ctx.cfg ctx.sender = false then
    (.actionNotAllowed, [], p)
  else
    outcome

namespace Arg

/-- The command of an argument. -/
def cmdType : Arg → CmdType
  | hostname => .fmwHostname
  | gpioNum => .gpio
  | gpioSts => .gpio
  | dialvoice => .dialVoice
  | eventgpioNum => .gpioEventNotify
  | eventgpioSts => .gpioEventNotify
  | sleep => .sleep
  | sonoffHost => .sonoff
  | sonoffSts => .sonoff
  | displayLine => .dispprint
  | displayMsg => .dispprint
  | dispbklt => .dispbklt
  | botname => .botname
  | acceptbuddy => .buddyAdd
  | rejectbuddy => .buddyRemove
  | subscribe => .buddySubscribe
  | unsubscribe => .buddyUnsubscribe
  | relaymsgAddr => .relayMessage
  | relaymsgMsg => .relayMessage

/-- How many arguments stand before it. -/
def position : Arg → Nat
  | gpioSts => 1
  | eventgpioSts => 1
  | sonoffSts => 1
  | displayMsg => 1
  | relaymsgMsg => 1
  | _ => 0

/-- The argument is the rest of the line. -/
def takesRest : Arg → Bool
  | displayMsg => true
  | botname => true
  | acceptbuddy => true
  | rejectbuddy => true
  | subscribe => true
  | unsubscribe => true
  | relaymsgMsg => true
  | _ => false

/-- What the handler does if the value of the argument is `v`. -/
def use (a : Arg) (ctx : Context) (t : Typed) (v : Bytes) (p : Proxy) : CmdOutcome :=
  let first := xpandarg ctx.aliasList (t.before.headD [])
  let next := xpandarg ctx.aliasList (t.after.headD [])
  match a with
  | hostname => setRpc ctx p portSysmgr "set_hostname" [(text "hostname", .str v)]
  | gpioNum =>
      if t.after = [] then
        getRpc ctx p portGpioctl "gpio_get" [(text "addr", .int (atoi v))]
      else
        setRpc ctx p portGpioctl "gpio_set"
          [(text "addr", .int (atoi v)), (text "data", .int (atoi next))]
  | gpioSts =>
      setRpc ctx p portGpioctl "gpio_set"
        [(text "addr", .int (atoi first)), (text "data", .int (atoi v))]
  | dialvoice =>
      asyncRpc ctx p portBboxsms "dial_voice" [(text "destination", .str v)]
  | eventgpioNum =>
      if t.after = [] then
        (.success, p.readStatus ctx.sender .gpio (atoi v), p)
      else
        (.success, [],
          p.writeStatus ctx.cfg.eventSubscrListFile ctx.sender .gpio (atoi v)
            (next = text "1"))
  | eventgpioSts =>
      (.success, [],
        p.writeStatus ctx.cfg.eventSubscrListFile ctx.sender .gpio (atoi first)
          (v = text "1"))
  | sleep => (.success, [], p)
  | sonoffHost =>
      match ctx.env.hostnameToIp p.outgoing v with
      | none => (.fail, [], p)
      | some ip => if t.after = [] then sonoffRead ctx p ip else sonoffWrite ctx p ip next
  | sonoffSts =>
      match ctx.env.hostnameToIp p.outgoing first with
      | none => (.fail, [], p)
      | some ip => sonoffWrite ctx p ip v
  | displayLine =>
      if t.after = [] then
        getRpc ctx p portSysmgr "display_print" [(text "line", .int (atoi v))]
      else
        setRpc ctx p portSysmgr "display_print"
          [(text "line", .str v),
            (text "msg", .str (xpandarg ctx.aliasList (blanks t.after)))]
  | displayMsg =>
      setRpc ctx p portSysmgr "display_print"
        [(text "line", .str first), (text "msg", .str v)]
  | dispbklt => setRpc ctx p portSysmgr "display_backlight_set" [(text "status", .str v)]
  | botname =>
      (.success, [],
        { p with
          xmppBotName := v
          botNameFile :=
            if ctx.cfg.botNameFilePath = [] then p.botNameFile else endLine v })
  | acceptbuddy => asAdmin ctx p (.success, [], acceptBuddy p v)
  | rejectbuddy =>
      asAdmin ctx p
        (if (removeBuddy p v).1 = 0 then
          (.success, [], (removeBuddy p v).2)
        else
          (.itemNotFound, [], (removeBuddy p v).2))
  | subscribe =>
      asAdmin ctx p (.success, [], { p with outgoing := p.outgoing ++ [.subscribe v] })
  | unsubscribe =>
      asAdmin ctx p (.success, [], { p with outgoing := p.outgoing ++ [.unsubscribe v] })
  | relaymsgAddr =>
      asAdmin ctx p
        (if t.after = [] then
          (.argError, [], p)
        else
          procCmdSendMessage ctx.env p v (xpandarg ctx.aliasList (blanks t.after)))
  | relaymsgMsg => asAdmin ctx p (procCmdSendMessage ctx.env p first v)

/-- The handlers that get the value: all that read the argument as a word and pass on
what they expanded. -/
def expanded : Arg → Bool
  | hostname => false
  | displayMsg => false
  | botname => false
  | acceptbuddy => false
  | rejectbuddy => false
  | subscribe => false
  | unsubscribe => false
  | relaymsgMsg => false
  | _ => true

/-- What the other handlers pass on. -/
def leftText (a : Arg) (n : Bytes) : Bytes :=
  match a with
  | displayMsg => 32 :: 36 :: n
  | botname => 32 :: 36 :: n
  | relaymsgMsg => 32 :: 36 :: n
  | _ => 36 :: n

end Arg

/-- The command is typed with single blanks and the argument is where it belongs. -/
structure Typed.Fits (t : Typed) (a : Arg) : Prop where
  cmd : IsWord t.cmd
  before : ∀ w ∈ t.before, IsWord w
  after : ∀ w ∈ t.after, IsWord w
  position : t.before.length = a.position
  rest : a.takesRest = true → t.after = []

/-- A name without capital letters and blanks. -/
structure AliasName (n : Bytes) : Prop where
  lower : toLower n = n
  blank : ∀ c ∈ n, isSpace c = false

/-- Whoever sends the command to whatever proxy: with `$n` for the argument it does what
it does with the value. -/
def HandsValue (a : Arg) (n v : Bytes) : Prop :=
  ∀ ctx p t, Typed.Fits t a → ctx.cfg.cmdTable.resolveCmdStr (t.msg n) = a.cmdType →
    ctx.aliasList[n]? = some v →
    runCmd ctx (t.msg n) p = a.use ctx t v p ∧
      (a = .sleep → sleepSec ctx (t.msg n) = some (atoi v))

end Arguments

section Parsing

variable {a : Arg} {n v : Bytes} {t : Typed}

theorem AliasName.isWord
    (hn : AliasName n) :
    IsWord (36 :: n) := by
  refine ⟨List.cons_ne_nil _ _, ?_⟩
  intro c hc
  rcases List.mem_cons.mp hc with rfl | hc
  · decide
  · exact hn.blank c hc

theorem xpandarg_name
    {aliasList : AliasMap}
    (hn : AliasName n)
    (halias : aliasList[n]? = some v) :
    xpandarg aliasList (36 :: n) = v := by
  rw [xpandarg, if_pos rfl, hn.lower, halias]
  rfl

/-- A blank hides the dollar sign. -/
theorem xpandarg_blank
    (aliasList : AliasMap)
    (s : Bytes) :
    xpandarg aliasList (32 :: s) = 32 :: s := by
  rw [xpandarg, if_neg (by decide)]

/-- The words of a command whose first argument is typed as `$n`. -/
theorem threeWords_first
    (hn : AliasName n)
    (hfits : t.Fits a)
    (hposition : a.position = 0) :
    threeWords (t.msg n) = (t.cmd, 36 :: n, t.after.headD []) ∧
      (getLine 10 (readWord (readWord (t.msg n)).2).2).1 = blanks t.after := by
  have hbefore : t.before = [] :=
    List.eq_nil_of_length_eq_zero (hfits.position.trans hposition)
  have hmsg : t.msg n = t.cmd ++ blanks ((36 :: n) :: t.after) := by
    rw [Typed.msg, hbefore, List.nil_append]
  rw [threeWords, hmsg, readWord_append_blanks hfits.cmd, readWord_blanks_cons hn.isWord]
  refine ⟨?_, ?_⟩
  · rw [readWord_blanks hfits.after]
  · rw [getLine_blanks hfits.after]

/-- The words of a command whose second argument is typed so. -/
theorem threeWords_second
    (hn : AliasName n)
    (hfits : t.Fits a)
    (hposition : a.position = 1) :
    threeWords (t.msg n) = (t.cmd, t.before.headD [], 36 :: n) ∧
      t.before.headD [] ≠ [] ∧
      (getLine 10 (readWord (readWord (t.msg n)).2).2).1 = blanks ((36 :: n) :: t.after) := by
  obtain ⟨w, hbefore⟩ := List.length_eq_one_iff.mp (hfits.position.trans hposition)
  have hw : IsWord w := hfits.before w (by rw [hbefore]; exact List.mem_singleton_self w)
  have hmsg : t.msg n = t.cmd ++ blanks (w :: (36 :: n) :: t.after) := by
    rw [Typed.msg, hbefore]
    rfl
  rw [threeWords, hmsg, readWord_append_blanks hfits.cmd, readWord_blanks_cons hw,
    readWord_blanks_cons hn.isWord, hbefore]
  refine ⟨rfl, hw.1, ?_⟩
  rw [getLine_blanks]
  intro u hu
  rcases List.mem_cons.mp hu with rfl | hu
  · exact hn.isWord
  · exact hfits.after u hu

/-- The rest of the line starts with a blank. -/
theorem wordAndRest_first
    (hn : AliasName n)
    (hfits : t.Fits a)
    (hposition : a.position = 0)
    (hrest : a.takesRest = true) :
    wordAndRest (t.msg n) = (t.cmd, 32 :: 36 :: n) := by
  have hbefore : t.before = [] :=
    List.eq_nil_of_length_eq_zero (hfits.position.trans hposition)
  have hmsg : t.msg n = t.cmd ++ blanks [36 :: n] := by
    rw [Typed.msg, hbefore, hfits.rest hrest, List.nil_append]
  rw [wordAndRest, hmsg, readWord_append_blanks hfits.cmd, getLine_blanks]
  · simp [blanks]
  · intro u hu
    rw [List.mem_singleton.mp hu]
    exact hn.isWord

end Parsing

section Handlers

variable {a : Arg} {n v : Bytes} {t : Typed} {ctx : Context}

/-- A handler that reads a word and expands it gets the value. -/
theorem use_of_expanded
    (hn : AliasName n)
    (hfits : t.Fits a)
    (hcmd : ctx.cfg.cmdTable.resolveCmdStr (t.msg n) = a.cmdType)
    (halias : ctx.aliasList[n]? = some v)
    (hexpanded : a.expanded = true)
    (p : Proxy) :
    runCmd ctx (t.msg n) p = a.use ctx t v p := by
  have hvalue : xpandarg ctx.aliasList (36 :: n) = v := xpandarg_name hn halias
  have hname : t.cmd ≠ [] := hfits.cmd.1
  have hafter : t.after.headD [] = [] ↔ t.after = [] := headD_eq_nil_iff hfits.after
  rw [runCmd, hcmd]
  cases a with
  | gpioNum =>
      obtain ⟨hwords, -⟩ := threeWords_first hn hfits rfl
      simp only [Arg.cmdType, handlerOf, procCmdGpio, hwords, if_neg hname, hvalue, hafter,
        List.cons_ne_nil, if_false, Arg.use]
  | gpioSts =>
      obtain ⟨hwords, hfirst, -⟩ := threeWords_second hn hfits rfl
      simp only [Arg.cmdType, handlerOf, procCmdGpio, hwords, if_neg hname, if_neg hfirst,
        hvalue, List.cons_ne_nil, if_false, Arg.use]
  | dialvoice =>
      obtain ⟨hwords, -⟩ := threeWords_first hn hfits rfl
      simp only [Arg.cmdType, handlerOf, procCmdDialVoice, hwords, if_neg hname, hvalue,
        List.cons_ne_nil, if_false, Arg.use]
  | eventgpioNum =>
      obtain ⟨hwords, -⟩ := threeWords_first hn hfits rfl
      simp only [Arg.cmdType, handlerOf, procCmdEventGpio, hwords, if_neg hname, hvalue,
        hafter, List.cons_ne_nil, if_false, Arg.use]
  | eventgpioSts =>
      obtain ⟨hwords, hfirst, -⟩ := threeWords_second hn hfits rfl
      simp only [Arg.cmdType, handlerOf, procCmdEventGpio, hwords, if_neg hname,
        if_neg hfirst, hvalue, List.cons_ne_nil, if_false, Arg.use]
  | sleep =>
      obtain ⟨hwords, -⟩ := threeWords_first hn hfits rfl
      simp only [Arg.cmdType, handlerOf, procCmdSleep, hwords, if_neg hname,
        List.cons_ne_nil, if_false, Arg.use]
  | sonoffHost =>
      obtain ⟨hwords, -⟩ := threeWords_first hn hfits rfl
      conv_lhs =>
        simp only [Arg.cmdType, handlerOf, procCmdSonoff, hwords, if_neg hname, hvalue, hafter,
          List.cons_ne_nil, if_false]
      rw [Arg.use]
      cases ctx.env.hostnameToIp p.outgoing v with
      | none | some ip =>
          rfl
  | sonoffSts =>
      obtain ⟨hwords, hfirst, -⟩ := threeWords_second hn hfits rfl
      conv_lhs =>
        simp only [Arg.cmdType, handlerOf, procCmdSonoff, hwords, if_neg hname, if_neg hfirst,
          hvalue, List.cons_ne_nil, if_false]
      rw [Arg.use]
      cases ctx.env.hostnameToIp p.outgoing (xpandarg ctx.aliasList (t.before.headD [])) with
      | none | some ip =>
          rfl
  | displayLine =>
      obtain ⟨hwords, hline⟩ := threeWords_first hn hfits rfl
      simp only [Arg.cmdType, handlerOf, procCmdDispPrint, hwords, hline, if_neg hname,
        hvalue, blanks_eq_nil_iff, List.cons_ne_nil, if_false, Arg.use]
  | dispbklt =>
      obtain ⟨hwords, -⟩ := threeWords_first hn hfits rfl
      simp only [Arg.cmdType, handlerOf, procCmdDispBacklight, procCmdSetDisplayBacklight,
        hwords, if_neg hname, hvalue, List.cons_ne_nil, if_false, Arg.use]
  | relaymsgAddr =>
      obtain ⟨hwords, hline⟩ := threeWords_first hn hfits rfl
      simp only [Arg.cmdType, handlerOf, procCmdRelayMessage, hwords, hline, if_neg hname,
        hvalue, blanks_eq_nil_iff, List.cons_ne_nil, if_false, Arg.use, asAdmin]
  | hostname | displayMsg | botname | acceptbuddy | rejectbuddy | subscribe | unsubscribe |
      relaymsgMsg =>
      simp [Arg.expanded] at hexpanded

/-- The buddy commands take the blank off and keep the dollar sign. -/
theorem buddyCmd_eq
    {action : Proxy → Bytes → RpcSrvResult × Proxy}
    (hn : AliasName n)
    (hfits : t.Fits a)
    (hposition : a.position = 0)
    (hrest : a.takesRest = true)
    (p : Proxy) :
    buddyCmd action ctx (t.msg n) p =
      asAdmin ctx p ((action p (36 :: n)).1, [], (action p (36 :: n)).2) := by
  have hword := wordAndRest_first hn hfits hposition hrest
  have hfilter : ((32 : Byte) :: 36 :: n).filter (fun c => c ≠ 32) = 36 :: n := by
    rw [List.filter_cons_of_neg (by decide), List.filter_eq_self]
    intro c hc
    have hspace := hn.isWord.2 c hc
    rw [decide_eq_true_eq]
    rintro rfl
    exact absurd hspace (by decide)
  simp only [buddyCmd, hword, if_neg hfits.cmd.1, xpandarg_blank, hfilter, asAdmin,
    List.cons_ne_nil, if_false]

/-- The other handlers pass on what was typed; without a value, `hostname` asks for the
name. -/
theorem use_of_not_expanded
    (hn : AliasName n)
    (hfits : t.Fits a)
    (hcmd : ctx.cfg.cmdTable.resolveCmdStr (t.msg n) = a.cmdType)
    (halias : ctx.aliasList[n]? = some v)
    (hexpanded : a.expanded = false)
    (p : Proxy) :
    runCmd ctx (t.msg n) p =
      if a = .hostname ∧ v = [] then
        getRpc ctx p portSysmgr "get_hostname" []
      else
        a.use ctx t (a.leftText n) p := by
  have hname : t.cmd ≠ [] := hfits.cmd.1
  rw [runCmd, hcmd]
  cases a with
  | hostname =>
      have hvalue : xpandarg ctx.aliasList (36 :: n) = v := xpandarg_name hn halias
      obtain ⟨hwords, -⟩ := threeWords_first hn hfits rfl
      simp only [Arg.cmdType, handlerOf, procCmdFmwHostname, procCmdFmwGetHostname,
        procCmdFmwSetHostname, hwords, if_neg hname, hvalue, List.cons_ne_nil, if_false,
        Arg.use, Arg.leftText, true_and]
  | displayMsg =>
      obtain ⟨hwords, hfirst, hline⟩ := threeWords_second hn hfits rfl
      rw [hfits.rest rfl] at hline
      have hblank : blanks [36 :: n] = 32 :: 36 :: n := by simp [blanks]
      simp only [Arg.cmdType, handlerOf, procCmdDispPrint, hwords, hline, hblank,
        if_neg hname, if_neg hfirst, xpandarg_blank, reduceCtorEq, false_and,
        List.cons_ne_nil, if_false, Arg.use, Arg.leftText]
  | botname =>
      have hword := wordAndRest_first hn hfits rfl rfl
      simp [Arg.cmdType, handlerOf, procCmdBotName, hword, hname, xpandarg_blank, Arg.use,
        Arg.leftText]
  | acceptbuddy =>
      exact buddyCmd_eq hn hfits rfl rfl p
  | rejectbuddy =>
      simp only [Arg.cmdType, handlerOf, procCmdBuddyRemove]
      rw [buddyCmd_eq hn hfits rfl rfl p]
      simp only [reduceCtorEq, false_and, if_false, Arg.use, Arg.leftText]
      by_cases hremoved : (removeBuddy p (36 :: n)).1 = 0
      · simp [hremoved]
      · simp [hremoved]
  | subscribe =>
      exact buddyCmd_eq hn hfits rfl rfl p
  | unsubscribe =>
      exact buddyCmd_eq hn hfits rfl rfl p
  | relaymsgMsg =>
      obtain ⟨hwords, hfirst, hline⟩ := threeWords_second hn hfits rfl
      rw [hfits.rest rfl] at hline
      have hblank : blanks [36 :: n] = 32 :: 36 :: n := by simp [blanks]
      simp only [Arg.cmdType, handlerOf, procCmdRelayMessage, hwords, hline, hblank,
        if_neg hname, if_neg hfirst, xpandarg_blank, reduceCtorEq, false_and,
        List.cons_ne_nil, if_false, Arg.use, Arg.leftText, asAdmin]
  | gpioNum | gpioSts | dialvoice | eventgpioNum | eventgpioSts | sleep | sonoffHost |
      sonoffSts | displayLine | dispbklt | relaymsgAddr =>
      simp [Arg.expanded] at hexpanded

end Handlers

section Values

variable {n v : Bytes}

/-- A command with a word before the argument where there must be one. -/
def Arg.typed (a : Arg) (cmd : Bytes) : Typed :=
  { cmd := cmd
    before := List.replicate a.position (text "w")
    after := [] }

theorem Arg.typed_fits
    (a : Arg)
    {cmd : Bytes}
    (hcmd : IsWord cmd) :
    (a.typed cmd).Fits a := by
  refine ⟨hcmd, ?_, ?_, List.length_replicate, fun _ => rfl⟩
  · intro w hw
    rw [List.eq_of_mem_replicate hw]
    exact ⟨by decide, by decide⟩
  · intro w hw
    simp [Arg.typed] at hw

/-- A buddy that is online. -/
def buddyEnvironment : Environment :=
  { sampleEnvironment with
    roster := fun _ => [text "w"]
    online := fun _ _ => true }

/-- The admin asks, and there is one alias. -/
def aliasContext (n v : Bytes) : Context :=
  { env := buddyEnvironment
    cfg := sampleConfig
    aliasList := (∅ : AliasMap).insert n v
    sender := text "admin@x" }

theorem aliasContext_alias
    (n v : Bytes) :
    (aliasContext n v).aliasList[n]? = some v := by
  simp [aliasContext]

/-- The name of the command of an argument that is not expanded. -/
def Arg.cmdName : Arg → Bytes
  | .hostname => text "hostname"
  | .displayMsg => text "display"
  | .botname => text "botname"
  | .acceptbuddy => text "acceptbuddy"
  | .rejectbuddy => text "rejectbuddy"
  | .subscribe => text "subscribe"
  | .unsubscribe => text "unsubscribe"
  | .relaymsgMsg => text "relaymsg"
  | _ => text "w"

theorem Arg.cmdName_isWord
    (a : Arg) :
    IsWord a.cmdName := by
  unfold IsWord
  cases a <;> decide

theorem Arg.search_cmdName
    {a : Arg}
    (hexpanded : a.expanded = false) :
    CmdTable.search (toLower a.cmdName) sampleConfig.cmdTable.rows = a.cmdType := by
  revert hexpanded
  cases a <;> decide +kernel

theorem Arg.resolve_cmdName
    {a : Arg}
    (n : Bytes)
    (hexpanded : a.expanded = false) :
    sampleConfig.cmdTable.resolveCmdStr ((a.typed a.cmdName).msg n) = a.cmdType := by
  rw [CmdTable.resolveCmdStr, Typed.msg, Arg.typed, readWord_append_blanks a.cmdName_isWord]
  exact a.search_cmdName hexpanded

/-- Different values make a difference. -/
theorem Arg.exists_use_ne
    {a : Arg}
    (hexpanded : a.expanded = false)
    (m v cmd : Bytes)
    {x y : Bytes}
    (hne : x ≠ y) :
    ∃ p, a.use (aliasContext m v) (a.typed cmd) x p ≠
      a.use (aliasContext m v) (a.typed cmd) y p := by
  have hadmin : isAdminUser sampleConfig (text "admin@x") = true := by decide
  cases a with
  | hostname | displayMsg =>
      refine ⟨Proxy.initial, fun h => hne ?_⟩
      have houtgoing := congrArg (fun outcome => outcome.2.2.outgoing) h
      simpa [Arg.use, setRpc, withRpc, Proxy.callRpc, aliasContext, buddyEnvironment,
        sampleEnvironment] using houtgoing
  | botname =>
      refine ⟨Proxy.initial, fun h => hne ?_⟩
      exact congrArg (fun outcome => outcome.2.2.xmppBotName) h
  | acceptbuddy =>
      refine ⟨Proxy.initial, fun h => hne ?_⟩
      have hlist := congrArg (fun outcome => outcome.2.2.acceptBuddyList) h
      simpa [Arg.use, asAdmin, aliasContext, hadmin, acceptBuddy, Proxy.initial] using hlist
  | rejectbuddy =>
      refine ⟨{ Proxy.initial with acceptBuddyList := [x] }, fun h => hne ?_⟩
      have hresult := congrArg Prod.fst h
      by_contra hxy
      simp [Arg.use, asAdmin, aliasContext, hadmin, removeBuddy, Ne.symm hxy] at hresult
  | subscribe | unsubscribe =>
      refine ⟨Proxy.initial, fun h => hne ?_⟩
      have houtgoing := congrArg (fun outcome => outcome.2.2.outgoing) h
      simpa [Arg.use, asAdmin, aliasContext, hadmin] using houtgoing
  | relaymsgMsg =>
      refine ⟨Proxy.initial, fun h => hne ?_⟩
      have houtgoing := congrArg (fun outcome => outcome.2.2.outgoing) h
      have hword : ∀ aliasList : AliasMap, xpandarg aliasList (text "w") = text "w" :=
        fun _ => rfl
      simpa [Arg.use, asAdmin, aliasContext, hadmin, Arg.typed, Arg.position, hword,
        procCmdSendMessage, sendMessageToBuddy, buddyEnvironment, sampleEnvironment]
        using houtgoing
  | gpioNum | gpioSts | dialvoice | eventgpioNum | eventgpioSts | sleep | sonoffHost |
      sonoffSts | displayLine | dispbklt | relaymsgAddr =>
      simp [Arg.expanded] at hexpanded

/-- `hostname` sets no name if the value is empty. -/
theorem getHostname_ne_use
    (m v cmd : Bytes) :
    getRpc (aliasContext m v) Proxy.initial portSysmgr "get_hostname" [] ≠
      Arg.hostname.use (aliasContext m v) (Arg.hostname.typed cmd) [] Proxy.initial := by
  intro h
  have houtgoing := congrArg (fun outcome => outcome.2.2.outgoing) h
  simp [Arg.use, getRpc, setRpc, withRpc, Proxy.callRpc, aliasContext, buddyEnvironment,
    sampleEnvironment] at houtgoing

theorem sleepSec_name
    {t : Typed} {ctx : Context}
    (hn : AliasName n)
    (hfits : t.Fits .sleep)
    (halias : ctx.aliasList[n]? = some v) :
    sleepSec ctx (t.msg n) = some (atoi v) := by
  obtain ⟨hwords, -⟩ := threeWords_first hn hfits rfl
  simp only [sleepSec, hwords, if_neg hfits.cmd.1, List.cons_ne_nil, if_false,
    xpandarg_name hn halias]

/-- The value gets through exactly where the argument is read as a word and what was
expanded is passed on; elsewhere it is the value only if the alias stands for the text
that is passed on instead. -/
theorem handsValue_iff
    (a : Arg)
    (hn : AliasName n) :
    HandsValue a n v ↔ a.expanded = true ∨ v = a.leftText n := by
  constructor
  · intro hhands
    by_contra hnot
    rw [not_or, Bool.not_eq_true] at hnot
    obtain ⟨hexpanded, hne⟩ := hnot
    have hfits := a.typed_fits a.cmdName_isWord
    have hcmd : (aliasContext n v).cfg.cmdTable.resolveCmdStr
        ((a.typed a.cmdName).msg n) = a.cmdType := a.resolve_cmdName n hexpanded
    have halias := aliasContext_alias n v
    by_cases hget : a = .hostname ∧ v = []
    · have hrun := (hhands _ Proxy.initial _ hfits hcmd halias).1
      rw [use_of_not_expanded hn hfits hcmd halias hexpanded, if_pos hget] at hrun
      obtain ⟨rfl, rfl⟩ := hget
      exact getHostname_ne_use _ _ _ hrun
    · obtain ⟨p, hp⟩ := a.exists_use_ne hexpanded n v a.cmdName (Ne.symm hne)
      have hrun := (hhands _ p _ hfits hcmd halias).1
      rw [use_of_not_expanded hn hfits hcmd halias hexpanded, if_neg hget] at hrun
      exact hp hrun
  · rintro hcase ctx p t hfits hcmd halias
    refine ⟨?_, ?_⟩
    · cases hexpanded : a.expanded with
      | true =>
          exact use_of_expanded hn hfits hcmd halias hexpanded p
      | false =>
          have hv : v = a.leftText n := hcase.resolve_left (by simp [hexpanded])
          have hget : ¬ (a = .hostname ∧ v = []) := by
            rintro ⟨rfl, hempty⟩
            rw [hv] at hempty
            exact List.cons_ne_nil _ _ hempty
          rw [use_of_not_expanded hn hfits hcmd halias hexpanded, if_neg hget, ← hv]
    · rintro rfl
      exact sleepSec_name hn hfits halias

theorem aliasName_h :
    AliasName (text "h") := by
  constructor <;> decide

theorem handsValue_dispbklt :
    HandsValue .dispbklt (text "h") (text "on") :=
  (handsValue_iff .dispbklt aliasName_h).mpr (Or.inl rfl)

/-- The name of the host is set to the name of the alias. -/
theorem not_handsValue_hostname :
    ¬ HandsValue .hostname (text "h") (text "box") := by
  intro hhands
  have hrun := (hhands (aliasContext (text "h") (text "box")) Proxy.initial
    (Arg.hostname.typed (text "hostname")) (Arg.hostname.typed_fits
      (Arg.cmdName_isWord .hostname)) (by decide +kernel)
    (aliasContext_alias _ _)).1
  have hlast := congrArg (fun outcome => outcome.2.2.outgoing.getLast?) hrun
  revert hlast
  decide +kernel

end Values

end Xmproxy
end BrBox
