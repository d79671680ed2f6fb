import BrBox.Xmproxy.AliasList
import BrBox.Xmproxy.EventSubscr

/-!
# Commands of a chat message

The handlers that change the roster, the switch that picks the handler of a
command, and what `monoshot_callback_function` does with one message: alias
definition, case folding, splitting at semicolons and two levels of aliases.
-/

namespace BrBox
namespace Xmproxy

open CText
open CxxText
open Adav

/-! ## Handlers: buddies -/

/-- `proc_cmd_buddy_list`. -/
def procCmdBuddyList : Handler := fun ctx _ p =>
  (.success,
    10 :: (ctx.env.roster p.outgoing).flatMap fun buddy => buddy ++ [10], p)

/-- `proc_cmd_accept_buddy_list`. -/
def procCmdAcceptBuddyList : Handler := fun _ _ p =>
  (.success, 10 :: p.acceptBuddyList.flatMap fun buddy => buddy ++ [10], p)

/-- `is_admin_user`. -/
def isAdminUser (cfg : Config) (user : Bytes) : Bool :=
  user = cfg.adminBuddy ∨ user = cfg.bkupAdminBuddy

/-- `accept_buddy`. -/
def acceptBuddy (p : Proxy) (buddy : Bytes) : Proxy :=
  if buddy ∈ p.acceptBuddyList then
    p
  else
    { p with acceptBuddyList := p.acceptBuddyList ++ [buddy] }

/-- `remove_buddy`. -/
def removeBuddy (p : Proxy) (buddy : Bytes) : Int × Proxy :=
  if buddy ∈ p.acceptBuddyList then
    (0, { p with acceptBuddyList := p.acceptBuddyList.erase buddy })
  else
    (-1, p)

/-- The four buddy commands: the admin check, the argument and the action. -/
def buddyCmd (action : Proxy → Bytes → RpcSrvResult × Proxy) : Handler :=
  fun ctx msg p =>
    if isAdminUser ctx.cfg ctx.sender = false then
      (.actionNotAllowed, [], p)
    else
      let (cmd, cmdArg) := wordAndRest msg
      if cmd = [] then
        (.unknownCommand, [], p)
      else if cmdArg = [] then
        (.argError, [], p)
      else
        let buddy := (xpandarg ctx.aliasList cmdArg).filter fun c => c ≠ 32
        ((action p buddy).1, [], (action p buddy).2)

/-- `proc_cmd_buddy_add`. -/
def procCmdBuddyAdd : Handler :=
  buddyCmd fun p buddy => (.success, acceptBuddy p buddy)

/-- `proc_cmd_buddy_remove`. -/
def procCmdBuddyRemove : Handler :=
  buddyCmd fun p buddy =>
    if (removeBuddy p buddy).1 = 0 then
      (.success, (removeBuddy p buddy).2)
    else
      (.itemNotFound, (removeBuddy p buddy).2)

/-- `proc_cmd_buddy_subscribe`. -/
def procCmdBuddySubscribe : Handler :=
  buddyCmd fun p buddy =>
    (.success, { p with outgoing := p.outgoing ++ [.subscribe buddy] })

/-- `proc_cmd_buddy_unsubscribe`. -/
def procCmdBuddyUnsubscribe : Handler :=
  buddyCmd fun p buddy =>
    (.success, { p with outgoing := p.outgoing ++ [.unsubscribe buddy] })

/-- `proc_cmd_send_message`. -/
def procCmdSendMessage
    (env : Environment) (p : Proxy) (address message : Bytes) : CmdOutcome :=
  if ¬ (env.iConnect p.outgoing = true ∧ address ∈ env.roster p.outgoing) then
    (.actionNotAllowed, [], p)
  else if env.online p.outgoing address = false then
    (.offlineNode, [], p)
  else
    let sent := sendMessageToBuddy env p address message (text "message")
    (if sent.1 then .success else .fail, [], sent.2)

/-- `proc_cmd_relay_message`. -/
def procCmdRelayMessage : Handler := fun ctx msg p =>
  if isAdminUser ctx.cfg ctx.sender = false then
    (.actionNotAllowed, [], p)
  else
    let (cmd, cmdArg, _) := threeWords msg
    let cmdArg2 := (getLine 10 (readWord (readWord msg).2).2).1
    if cmd = [] then
      (.unknownCommand, [], p)
    else if cmdArg = [] then
      (.argError, [], p)
    else if cmdArg2 = [] then
      (.argError, [], p)
    else
      procCmdSendMessage ctx.env p (xpandarg ctx.aliasList cmdArg)
        (xpandarg ctx.aliasList cmdArg2)

/-! ## The switch -/

/-- The handler of each command; `alias` has none here. -/
def handlerOf : CmdType → Option Handler
  | .smsDeleteAll => some procCmdSmsDeleteall
  | .smsDelete => some procCmdSmsDelete
  | .smsGet => some procCmdSmsGet
  | .smsSend => some procCmdSmsSend
  | .smsListUpdate => some procCmdSmsListUpdate
  | .smsGetTotal => some procCmdSmsGetTotal
  | .fmwGetVersion => some procCmdFmwGetVersion
  | .fmwUpdate => some procCmdFmwUpdate
  | .fmwUpdateSts => some procCmdFmwUpdateSts
  | .fmwUpdateRes => some procCmdFmwUpdateRes
  | .fmwReboot => some procCmdFmwReboot
  | .fmwPoweroff => some procCmdFmwPoweroff
  | .fmwUptime => some procCmdFmwUptime
  | .fmwHostname => some procCmdFmwHostname
  | .fmwGetMyip => some procCmdFmwGetMyip
  | .fmwResetHostname => some procCmdFmwSetDefaultHostname
  | .dialVoice => some (procCmdDialVoice "dial_voice")
  | .dialUssd => some (procCmdDialVoice "dial_ussd")
  | .getUssd => some procCmdGetUssd
  | .debugLogSts => some procCmdLogsts
  | .gsmModemIdent => some procCmdGsmModemIdentify
  | .logUpdate => some procCmdLogListUpdate
  | .logCount => some procCmdLogGetCount
  | .logMsg => some procCmdLogGetLine
  | .fmwGetLocalip => some procCmdFmwGetLocalip
  | .gpio => some procCmdGpio
  | .gsmEventNotify => some procCmdEventGsm
  | .gpioEventNotify => some procCmdEventGpio
  | .sleep => some procCmdSleep
  | .account => some procCmdAccountName
  | .botname => some procCmdBotName
  | .buddyList => some procCmdBuddyList
  | .shellcmd => some (procCmdShellcmd "run_shellcmd")
  | .shellcmdResp => some procCmdShellcmdresp
  | .shellcmdTrig => some (procCmdShellcmd "run_shellcmdtrig")
  | .devident => some procCmdDevident
  | .shutdown => some procCmdXmpshutdown
  | .sonoff => some procCmdSonoff
  | .dispclear => some procCmdDispClear
  | .dispprint => some procCmdDispPrint
  | .dispbklt => some procCmdDispBacklight
  | .buddyAdd => some procCmdBuddyAdd
  | .buddyRemove => some procCmdBuddyRemove
  | .buddySubscribe => some procCmdBuddySubscribe
  | .buddyUnsubscribe => some procCmdBuddyUnsubscribe
  | .acceptBuddyList => some procCmdAcceptBuddyList
  | .relayMessage => some procCmdRelayMessage
  | .alias => none
  | .unknown => none
  | .none => none

/-- One command of a message. -/
def runCmd (ctx : Context) (cmd : Bytes) (p : Proxy) : CmdOutcome :=
  match handlerOf (ctx.cfg.cmdTable.resolveCmdStr cmd) with
  | some handler => handler ctx cmd p
  | none => (.unknownCommand, [], p)

/-- The commands of a message in turn: the replies and the proxy after them. -/
def runCmds (ctx : Context) : List Bytes → Proxy → List Bytes × Proxy
  | [], p => ([], p)
  | cmd :: cmds, p =>
      let outcome := runCmd ctx cmd p
      let rest := runCmds ctx cmds outcome.2.2
      (responseText outcome.1 outcome.2.1 :: rest.1, rest.2)

/-! ## One message -/

/-- Split at semicolons; a part that is an alias is split once more. -/
def expandCmds (aliasList : AliasMap) (msg : Bytes) : List Bytes :=
  (fields 59 msg).flatMap fun substr =>
    match aliasList[substr]? with
    | some value => fields 59 value
    | none => [substr]

/-- The message is an alias definition. -/
def isAliasMsg (msg : Bytes) : Bool :=
  (readWord msg).1 = text "Alias" ∨ (readWord msg).1 = text "alias"

/-- The commands a message stands for; an alias definition has none. -/
def commandsOf (aliasList : AliasMap) (msg : Bytes) : List Bytes :=
  if isAliasMsg msg then
    []
  else
    let lower := toLower msg
    expandCmds aliasList ((aliasList[lower]?).getD lower)

/-- `XmppMgr`: what is configured, the aliases and the rest. -/
structure XmppMgr where
  cfg : Config
  aliases : AliasStore
  proxy : Proxy

namespace XmppMgr

/-- What the handlers see for a message of a sender. -/
def context (s : XmppMgr) (env : Environment) (sender : Bytes) : Context :=
  { env := env
    cfg := s.cfg
    aliasList := s.aliases.aliasList
    sender := sender }

/-- The body of the loop of `monoshot_callback_function` for one message. -/
def processMsg
    (env : Environment) (s : XmppMgr) (msg sender : Bytes) :
    List Bytes × XmppMgr :=
  if isAliasMsg msg then
    let outcome := AliasStore.procCmdAlias s.cfg.aliasListFile msg s.aliases
    ([responseText outcome.1 outcome.2.1], { s with aliases := outcome.2.2 })
  else
    let ran := runCmds (s.context env sender)
      (commandsOf s.aliases.aliasList msg) s.proxy
    (ran.1, { s with proxy := ran.2 })

end XmppMgr

/-- A proxy without aliases and with every service in reach. -/
def sampleMgr : XmppMgr :=
  { cfg := sampleConfig, aliases := AliasStore.empty, proxy := Proxy.initial }

end Xmproxy
end BrBox
