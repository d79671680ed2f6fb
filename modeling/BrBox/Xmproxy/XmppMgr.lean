import BrBox.Adav.JsonRpcClient
import BrBox.Lib.DecimalText
import BrBox.Xmproxy.CmdTable

/-!
# The chat proxy

`XmppMgr` turns chat messages of its buddies into RPC calls of the other
services.  A message is an alias definition or a list of commands separated by
semicolons; aliases are expanded at two levels, each command is looked up in
the command table and handed to its handler, and every command is answered
with a chat message.

What a handler reads during one message and cannot change is its `Context`:
the environment, the configuration, the alias map and the sender.  What it can
change is the `Proxy`.  Everything that leaves the proxy except the replies is
recorded in `Proxy.outgoing`; what comes back from outside is a function of
that record, so the environment may keep any state it likes.
-/

namespace BrBox
namespace Xmproxy

open CText
open CxxText
open Adav

/-- `std::map<std::string, std::string>`, in the order of its keys. -/
abbrev AliasMap := Std.ExtTreeMap Bytes Bytes

/-- A parameter of an RPC call. -/
inductive RpcParam where
  | str (value : Bytes)
  | int (value : Int)
deriving DecidableEq, Repr

/-- What is asked of a sonoff relay. -/
inductive SonoffRequest where
  | getState
  | on
  | off
  | toggle
deriving DecidableEq, Repr

/-- `SONOFF_STATE`. -/
inductive SonoffState where
  | off
  | on
  | unknown
deriving DecidableEq, Repr

/-- What leaves the proxy, except for its replies. -/
inductive Outgoing where
  | rpc (port : Int) (method : Bytes) (params : List (Bytes × RpcParam))
  | sonoff (ip : Bytes) (request : SonoffRequest)
  | subscribe (buddy : Bytes)
  | unsubscribe (buddy : Bytes)
  | message (address body subject : Bytes)
deriving DecidableEq, Repr

/-- The services, the files and the chat server, after what was sent so far. -/
structure Environment where
  connect : List Outgoing → Int → Bool
  answer : List Outgoing → Int → Bytes → List (Bytes × RpcParam) →
    RpcSrvResult × List Bytes
  readFile : List Outgoing → Bytes → Option Bytes
  hostnameToIp : List Outgoing → Bytes → Option Bytes
  sonoffConnect : List Outgoing → Bytes → Bool
  sonoffAnswer : List Outgoing → Bytes → SonoffRequest →
    RpcSrvResult × SonoffState
  iConnect : List Outgoing → Bool
  roster : List Outgoing → List Bytes
  online : List Outgoing → Bytes → Bool

/-- What is set at start: the table, the account and the file paths. -/
structure Config where
  cmdTable : CmdTable
  xmppUserName : Bytes
  adminBuddy : Bytes
  bkupAdminBuddy : Bytes
  netInterface : Bytes
  updateUrlFile : Bytes
  aliasListFile : Bytes
  eventSubscrListFile : Bytes
  botNameFilePath : Bytes

/-- `AyncEventEntry`. -/
structure AyncEventEntry where
  taskID : Int
  srvPort : Int
  xmppTID : Int
  replyTo : Bytes
deriving DecidableEq, Repr

/-- `EXMPP_EVNT_TYPES`. -/
inductive EvntType where
  | gsm
  | gpio
  | unknown
  | none
deriving DecidableEq, Repr

/-- `EventSubscrEntry`. -/
structure EventSubscrEntry where
  subscriber : Bytes
  evntType : EvntType
  evntArg : Int
  status : Bool
deriving DecidableEq, Repr

/-- What the handlers can change, with the contents of the list files. -/
structure Proxy where
  xmppTaskIDCounter : Int
  asyncTaskList : List AyncEventEntry
  lastFmwUpdateTaskID : Int
  myEventList : List EventSubscrEntry
  eventSubscrFile : Bytes
  xmppBotName : Bytes
  botNameFile : Bytes
  acceptBuddyList : List Bytes
  outgoing : List Outgoing
deriving DecidableEq, Repr

/-- A proxy that has just been started, with empty files. -/
def Proxy.initial : Proxy :=
  { xmppTaskIDCounter := 0
    asyncTaskList := []
    lastFmwUpdateTaskID := 0
    myEventList := []
    eventSubscrFile := []
    xmppBotName := []
    botNameFile := []
    acceptBuddyList := []
    outgoing := [] }

/-- All commands enabled, an admin and all list files. -/
def sampleConfig : Config :=
  { cmdTable := CmdTable.initial
    xmppUserName := text "bot@x"
    adminBuddy := text "admin@x"
    bkupAdminBuddy := text "backup@x"
    netInterface := []
    updateUrlFile := []
    aliasListFile := text "/etc/alias.txt"
    eventSubscrListFile := text "/etc/events.txt"
    botNameFilePath := [] }

/-- Every service can be reached and queues every call as task 1. -/
def sampleEnvironment : Environment :=
  { connect := fun _ _ => true
    answer := fun _ _ _ _ => (.inProg, [text "1"])
    readFile := fun _ _ => none
    hostnameToIp := fun _ _ => none
    sonoffConnect := fun _ _ => false
    sonoffAnswer := fun _ _ _ => (.fail, .unknown)
    iConnect := fun _ => true
    roster := fun _ => []
    online := fun _ _ => false }

/-- What a handler reads and cannot change. -/
structure Context where
  env : Environment
  cfg : Config
  aliasList : AliasMap
  sender : Bytes

/-- The result of a command, its return value and the proxy after it. -/
abbrev CmdOutcome := RpcSrvResult × Bytes × Proxy

/-- A handler: the command's text in, its outcome out. -/
abbrev Handler := Context → Bytes → Proxy → CmdOutcome

/-- `ADCMN_PORT_SYSMGR`. -/
def portSysmgr : Int := 40001

/-- `ADCMN_PORT_GPIOCTL`. -/
def portGpioctl : Int := 40003

/-- `ADCMN_PORT_BBOXSMS`. -/
def portBboxsms : Int := 40004

/-- `ADCMN_PORT_XMPROXY`. -/
def portXmproxy : Int := 40005

/-- The chat message that answers a command. -/
def responseText (res : RpcSrvResult) (returnval : Bytes) : Bytes :=
  text "return=" ++ text (rpcSrvResultString res) ++ text " : " ++
    text "result=" ++ returnval

/-! ## Arguments -/

/-- `xpandarg`: an argument that starts with a dollar sign names an alias. -/
def xpandarg (aliasList : AliasMap) : Bytes → Bytes
  | [] => []
  | c :: arg =>
      if c = 36 then
        (aliasList[toLower arg]?).getD (toLower arg)
      else
        c :: arg

/-- The loop `while (stream >> word)`. -/
def words : Bytes → List Bytes
  | [] => []
  | c :: s =>
      if isSpace c then
        words s
      else
        match s with
        | [] => [[c]]
        | d :: _ =>
            if isSpace d then
              [c] :: words s
            else
              match words s with
              | [] => [[c]]
              | w :: ws => (c :: w) :: ws

/-- `xpandargs`: expand every word and merge them with blanks. -/
def xpandargs (aliasList : AliasMap) (arg : Bytes) : Bytes :=
  (words arg).flatMap fun w => xpandarg aliasList w ++ [32]

/-- The command word, its first argument and the second one. -/
def threeWords (msg : Bytes) : Bytes × Bytes × Bytes :=
  ((readWord msg).1, (readWord (readWord msg).2).1,
    (readWord (readWord (readWord msg).2).2).1)

/-- The command word and the rest of its line. -/
def wordAndRest (msg : Bytes) : Bytes × Bytes :=
  ((readWord msg).1, (getLine 10 (readWord msg).2).1)

/-! ## RPC calls -/

namespace Proxy

/-- One call on an open connection. -/
def callRpc
    (env : Environment) (p : Proxy)
    (port : Int) (method : Bytes) (params : List (Bytes × RpcParam)) :
    (RpcSrvResult × List Bytes) × Proxy :=
  (env.answer p.outgoing port method params,
    { p with outgoing := p.outgoing ++ [.rpc port method params] })

/-- `AccessAsyncTaskList` with the insert flag. -/
def insertAsyncTask
    (p : Proxy) (tid port : Int) (sender : Bytes) : Int × Proxy :=
  (wrapInt32 (p.xmppTaskIDCounter + 1),
    { p with
      xmppTaskIDCounter := wrapInt32 (p.xmppTaskIDCounter + 1)
      asyncTaskList := p.asyncTaskList ++
        [{ taskID := tid
           srvPort := port
           xmppTID := wrapInt32 (p.xmppTaskIDCounter + 1)
           replyTo := sender }] })

/-- `AccessAsyncTaskList` without it: look an entry up and erase it. -/
def takeAsyncTask
    (p : Proxy) (tid port : Int) : Option (Int × Bytes) × Proxy :=
  match p.asyncTaskList.find? fun e => e.taskID = tid ∧ e.srvPort = port with
  | none => (none, p)
  | some e =>
      (some (e.xmppTID, e.replyTo),
        { p with asyncTaskList :=
            p.asyncTaskList.filter fun e => ¬ (e.taskID = tid ∧ e.srvPort = port) })

end Proxy

/-- Connect to a service, make one call and look at its outcome. -/
def withRpc
    (ctx : Context) (p : Proxy)
    (port : Int) (method : String) (params : List (Bytes × RpcParam))
    (k : RpcSrvResult → List Bytes → Proxy → CmdOutcome) : CmdOutcome :=
  if ctx.env.connect p.outgoing port then
    let called := p.callRpc ctx.env port (text method) params
    k called.1.1 called.1.2 called.2
  else
    (.hostNotReachableErr, [], p)

/-- A call whose result string is the return value. -/
def getRpc
    (ctx : Context) (p : Proxy)
    (port : Int) (method : String) (params : List (Bytes × RpcParam)) :
    CmdOutcome :=
  withRpc ctx p port method params fun result values p' =>
    (result, values.headD [], p')

/-- A call without a return value. -/
def setRpc
    (ctx : Context) (p : Proxy)
    (port : Int) (method : String) (params : List (Bytes × RpcParam)) :
    CmdOutcome :=
  withRpc ctx p port method params fun result _ p' => (result, [], p')

/-- The end of every in-progress command: remember the task, return its id. -/
def finishAsync
    (ctx : Context) (port : Int)
    (result : RpcSrvResult) (tID : Bytes) (p : Proxy) : CmdOutcome :=
  if result = .inProg then
    let inserted := p.insertAsyncTask (atoi tID) port ctx.sender
    (result, text "taskID=" ++ decimalText inserted.1, inserted.2)
  else
    (result, text "taskID=" ++ decimalText (-1), p)

/-- Remembering a task sends nothing. -/
theorem finishAsync_outgoing
    (ctx : Context) (port : Int)
    (result : RpcSrvResult) (tID : Bytes) (p : Proxy) :
    (finishAsync ctx port result tID p).2.2.outgoing = p.outgoing := by
  by_cases hresult : result = .inProg
  · simp [finishAsync, hresult, Proxy.insertAsyncTask]
  · simp [finishAsync, hresult]

/-- A call that starts a task of the service. -/
def asyncRpc
    (ctx : Context) (p : Proxy)
    (port : Int) (method : String) (params : List (Bytes × RpcParam)) :
    CmdOutcome :=
  withRpc ctx p port method params fun result values p' =>
    finishAsync ctx port result (values.headD []) p'

/-! ## Handlers: messages and calls -/

/-- `proc_cmd_sms_deleteall`. -/
def procCmdSmsDeleteall : Handler := fun ctx _ p =>
  asyncRpc ctx p portBboxsms "delete_all_sms" []

/-- `proc_cmd_sms_delete`. -/
def procCmdSmsDelete : Handler := fun _ _ p =>
  (.featureNotAvailable, [], p)

/-- `proc_cmd_sms_get`. -/
def procCmdSmsGet : Handler := fun ctx msg p =>
  let (cmd, cmdArg, _) := threeWords msg
  if cmd = [] then
    (.unknownCommand, [], p)
  else if cmdArg = [] then
    (.argError, [], p)
  else
    getRpc ctx p portBboxsms "get_sms"
      [(text "index", .int (atoi (xpandarg ctx.aliasList cmdArg)))]

/-- `proc_cmd_sms_send`. -/
def procCmdSmsSend : Handler := fun ctx msg p =>
  let (cmd, destArg, _) := threeWords msg
  let msgArg := (getLine 10 (readWord (readWord msg).2).2).1
  if cmd = [] then
    (.unknownCommand, [], p)
  else if destArg = [] then
    (.argError, [], p)
  else if msgArg = [] then
    (.argError, [], p)
  else
    asyncRpc ctx p portBboxsms "send_sms"
      [(text "destination", .str (xpandarg ctx.aliasList destArg)),
        (text "message", .str (xpandargs ctx.aliasList msgArg))]

/-- `proc_cmd_sms_list_update`. -/
def procCmdSmsListUpdate : Handler := fun ctx _ p =>
  asyncRpc ctx p portBboxsms "update_sms_list" []

/-- `proc_cmd_sms_get_total`. -/
def procCmdSmsGetTotal : Handler := fun ctx _ p =>
  getRpc ctx p portBboxsms "get_total_sms" []

/-- `proc_cmd_dial_voice`, also for USSD codes. -/
def procCmdDialVoice (rpcCmd : String) : Handler := fun ctx msg p =>
  let (cmd, destArg, _) := threeWords msg
  if cmd = [] then
    (.unknownCommand, [], p)
  else if destArg = [] then
    (.argError, [], p)
  else
    asyncRpc ctx p portBboxsms rpcCmd
      [(text "destination", .str (xpandarg ctx.aliasList destArg))]

/-- `proc_cmd_get_ussd`. -/
def procCmdGetUssd : Handler := fun ctx _ p =>
  getRpc ctx p portBboxsms "get_ussd" []

/-- `proc_cmd_gsm_modem_identify`. -/
def procCmdGsmModemIdentify : Handler := fun ctx _ p =>
  asyncRpc ctx p portBboxsms "identify_dev" []

/-! ## Handlers: the system -/

/-- `proc_cmd_fmw_get_version`. -/
def procCmdFmwGetVersion : Handler := fun ctx _ p =>
  getRpc ctx p portSysmgr "get_fmw_version" [(text "module", .str (text "current"))]

/-- `GITHUB_FMW_DOWNLOAD_FOLDER`. -/
def githubFmwDownloadFolder : Bytes :=
  text "http://github.com/hackboxguy/downloads/raw/master/"

/-- The first line of a file, empty if it cannot be read. -/
def firstLine (ctx : Context) (p : Proxy) (path : Bytes) : Bytes :=
  (getLine 10 ((ctx.env.readFile p.outgoing path).getD [])).1

/-- `proc_cmd_fmw_update`: download, then update on the same connection. -/
def procCmdFmwUpdate : Handler := fun ctx msg p =>
  if (readWord msg).1 = [] then
    (.unknownCommand, [], p)
  else
    let line := firstLine ctx p (text "/etc/sysconfig.txt")
    if line = [] then
      (.fail, [], p)
    else
      let default := githubFmwDownloadFolder ++ line ++ text ".uimg"
      let urlPath :=
        if ctx.cfg.updateUrlFile = [] then
          default
        else
          let customurl := firstLine ctx p ctx.cfg.updateUrlFile
          if customurl = [] then default else customurl
      withRpc ctx p portSysmgr "download_ftp_file"
        [(text "srcaddr", .str urlPath),
          (text "targetpath", .str (text "/tmp/uBrBoxRoot.uimg"))]
        fun result _ p₁ =>
          if result = .inProg then
            let called := p₁.callRpc ctx.env portSysmgr (text "firmware_update")
              [(text "module", .str (text "project")),
                (text "filepath", .str (text "/tmp/uBrBoxRoot.uimg"))]
            let tID := called.1.2.headD []
            finishAsync ctx portSysmgr called.1.1 tID
              { called.2 with lastFmwUpdateTaskID := atoi tID }
          else
            (result, [], p₁)

/-- `proc_cmd_fmw_update_sts`. -/
def procCmdFmwUpdateSts : Handler := fun ctx _ p =>
  withRpc ctx p portSysmgr "get_async_task" [] fun result values p' =>
    let task := values.headD []
    if result ≠ .success then
      (result, task, p')
    else
      (result, if task = text "none" then text "Idle" else text "Busy", p')

/-- `proc_cmd_fmw_update_res`. -/
def procCmdFmwUpdateRes : Handler := fun ctx _ p =>
  getRpc ctx p portSysmgr "get_rpc_req_status"
    [(text "taskId", .str (decimalText p.lastFmwUpdateTaskID))]

/-- `proc_cmd_fmw_reboot`. -/
def procCmdFmwReboot : Handler := fun ctx _ p =>
  asyncRpc ctx p portSysmgr "set_device_operation"
    [(text "operation", .str (text "reboot"))]

/-- `proc_cmd_fmw_poweroff`. -/
def procCmdFmwPoweroff : Handler := fun ctx _ p =>
  asyncRpc ctx p portSysmgr "set_device_operation"
    [(text "operation", .str (text "standby"))]

/-- `proc_cmd_fmw_uptime`: the third value, in hours. -/
def procCmdFmwUptime : Handler := fun ctx _ p =>
  withRpc ctx p portSysmgr "get_load_info" [] fun result values p' =>
    (result,
      decimalText ((atoi (values.getD 2 [])).tdiv 3600) ++ text " Hours", p')

/-- `proc_cmd_fmw_get_hostname`. -/
def procCmdFmwGetHostname : Handler := fun ctx _ p =>
  getRpc ctx p portSysmgr "get_hostname" []

/-- `proc_cmd_fmw_set_hostname`. -/
def procCmdFmwSetHostname : Handler := fun ctx msg p =>
  let (cmd, cmdArg, _) := threeWords msg
  if cmd = [] then
    (.unknownCommand, [], p)
  else if cmdArg = [] then
    (.argError, [], p)
  else
    setRpc ctx p portSysmgr "set_hostname" [(text "hostname", .str cmdArg)]

/-- `proc_cmd_fmw_hostname`: the expanded argument only decides the branch. -/
def procCmdFmwHostname : Handler := fun ctx msg p =>
  let (cmd, cmdArg, _) := threeWords msg
  if cmd = [] then
    (.unknownCommand, [], p)
  else if xpandarg ctx.aliasList cmdArg = [] then
    procCmdFmwGetHostname ctx msg p
  else
    procCmdFmwSetHostname ctx msg p

/-- `proc_cmd_fmw_get_myip`. -/
def procCmdFmwGetMyip : Handler := fun ctx _ p =>
  getRpc ctx p portSysmgr "get_my_public_ip" []

/-- One try of `proc_cmd_fmw_get_localip`. -/
def getIpAddr (ctx : Context) (p : Proxy) (iface : Bytes) :
    (RpcSrvResult × List Bytes) × Proxy :=
  p.callRpc ctx.env portSysmgr (text "get_ip_addr") [(text "iface", .str iface)]

/-- `proc_cmd_fmw_get_localip`: three interfaces are tried unless one is set. -/
def procCmdFmwGetLocalip : Handler := fun ctx _ p =>
  if ctx.env.connect p.outgoing portSysmgr then
    let last :=
      if ctx.cfg.netInterface = [] then
        let eth0 := getIpAddr ctx p (text "eth0")
        if eth0.1.1 ≠ .success then
          let eth1 := getIpAddr ctx eth0.2 (text "eth1")
          if eth1.1.1 ≠ .success then
            getIpAddr ctx eth1.2 (text "ppp0")
          else
            eth1
        else
          eth0
      else
        getIpAddr ctx p ctx.cfg.netInterface
    (last.1.1, last.1.2.headD [], last.2)
  else
    (.hostNotReachableErr, [], p)

/-- `proc_cmd_fmw_set_default_hostname`. -/
def procCmdFmwSetDefaultHostname : Handler := fun ctx _ p =>
  setRpc ctx p portSysmgr "set_default_hostname" []

/-- `proc_cmd_logsts`. -/
def procCmdLogsts : Handler := fun ctx msg p =>
  let (cmd, portArg, logArg) := threeWords msg
  if cmd = [] then
    (.unknownCommand, [], p)
  else if portArg = [] then
    (.argError, [], p)
  else if logArg = [] then
    getRpc ctx p (atoi portArg) "get_debug_logging" []
  else
    setRpc ctx p (atoi portArg) "set_debug_logging" [(text "status", .str logArg)]

/-- `proc_cmd_log_list_update`. -/
def procCmdLogListUpdate : Handler := fun ctx _ p =>
  asyncRpc ctx p portSysmgr "update_loglist" []

/-- `proc_cmd_log_get_count`. -/
def procCmdLogGetCount : Handler := fun ctx _ p =>
  getRpc ctx p portSysmgr "get_log_count" []

/-- `proc_cmd_log_get_line`. -/
def procCmdLogGetLine : Handler := fun ctx msg p =>
  let (cmd, cmdArg, _) := threeWords msg
  if cmd = [] then
    (.unknownCommand, [], p)
  else if cmdArg = [] then
    (.argError, [], p)
  else
    getRpc ctx p portSysmgr "get_log_line" [(text "index", .int (atoi cmdArg))]

/-- `proc_cmd_shellcmd`, with or without the command's output. -/
def procCmdShellcmd (rpccmd : String) : Handler := fun ctx msg p =>
  let (cmd, destArg) := wordAndRest msg
  if cmd = [] then
    (.unknownCommand, [], p)
  else if destArg = [] then
    (.argError, [], p)
  else
    asyncRpc ctx p portSysmgr rpccmd
      [(text "command", .str (xpandargs ctx.aliasList destArg))]

/-- `proc_cmd_shellcmdresp`: at most 1300 bytes are returned. -/
def procCmdShellcmdresp : Handler := fun ctx _ p =>
  match ctx.env.readFile p.outgoing (text "/tmp/shellcmd.resp") with
  | none => (.fileOpenErr, [], p)
  | some contents =>
      if contents.length > 1300 then
        (.valueOutOfRange, [], p)
      else
        (.success, contents, p)

/-- `proc_cmd_devident`. -/
def procCmdDevident : Handler := fun ctx _ p =>
  asyncRpc ctx p portSysmgr "device_identify" []

/-- `proc_cmd_xmpshutdown`: the shutdown call goes to the proxy itself. -/
def procCmdXmpshutdown : Handler := fun ctx _ p =>
  asyncRpc ctx p portXmproxy "trigger_shutdown" []

/-- `proc_cmd_sleep`: only time passes. -/
def procCmdSleep : Handler := fun _ msg p =>
  let (cmd, cmdArg, _) := threeWords msg
  if cmd = [] then
    (.unknownCommand, [], p)
  else if cmdArg = [] then
    (.argError, [], p)
  else
    (.success, [], p)

/-- `proc_cmd_account_name`. -/
def procCmdAccountName : Handler := fun ctx _ p =>
  (.success,
    if ctx.cfg.xmppUserName = [] then text "none" else ctx.cfg.xmppUserName, p)

/-- `proc_cmd_bot_name`. -/
def procCmdBotName : Handler := fun ctx msg p =>
  let (cmd, cmdArg) := wordAndRest msg
  if cmd = [] then
    (.unknownCommand, [], p)
  else if cmdArg = [] then
    (.success, if p.xmppBotName = [] then text "none" else p.xmppBotName, p)
  else
    let name := xpandarg ctx.aliasList cmdArg
    (.success, [],
      { p with
        xmppBotName := name
        botNameFile :=
          if ctx.cfg.botNameFilePath = [] then p.botNameFile else endLine name })

/-! ## Handlers: devices -/

/-- `proc_cmd_gpio`. -/
def procCmdGpio : Handler := fun ctx msg p =>
  let (cmd, cmdArg, cmdArg2) := threeWords msg
  if cmd = [] then
    (.unknownCommand, [], p)
  else if cmdArg = [] then
    (.argError, [], p)
  else
    let gpioAddr := atoi (xpandarg ctx.aliasList cmdArg)
    if cmdArg2 = [] then
      getRpc ctx p portGpioctl "gpio_get" [(text "addr", .int gpioAddr)]
    else
      setRpc ctx p portGpioctl "gpio_set"
        [(text "addr", .int gpioAddr),
          (text "data", .int (atoi (xpandarg ctx.aliasList cmdArg2)))]

/-- One request to a sonoff relay. -/
def withSonoff
    (ctx : Context) (p : Proxy) (ip : Bytes) (request : SonoffRequest)
    (k : RpcSrvResult → SonoffState → Proxy → CmdOutcome) : CmdOutcome :=
  if ctx.env.sonoffConnect p.outgoing ip then
    let answer := ctx.env.sonoffAnswer p.outgoing ip request
    k answer.1 answer.2
      { p with outgoing := p.outgoing ++ [.sonoff ip request] }
  else
    (.hostNotReachableErr, [], p)

/-- `proc_cmd_sonoff`. -/
def procCmdSonoff : Handler := fun ctx msg p =>
  let (cmd, cmdArg, cmdArg2) := threeWords msg
  if cmd = [] then
    (.unknownCommand, [], p)
  else if cmdArg = [] then
    (.argError, [], p)
  else
    match ctx.env.hostnameToIp p.outgoing (xpandarg ctx.aliasList cmdArg) with
    | none => (.fail, [], p)
    | some ip =>
        if cmdArg2 = [] then
          withSonoff ctx p ip .getState fun result state p' =>
            (result,
              match state with
              | .on => text "on"
              | .off => text "off"
              | .unknown => text "unknown", p')
        else
          let sts := xpandarg ctx.aliasList cmdArg2
          if sts = text "on" then
            withSonoff ctx p ip .on fun result _ p' => (result, [], p')
          else if sts = text "off" then
            withSonoff ctx p ip .off fun result _ p' => (result, [], p')
          else if sts = text "toggle" then
            withSonoff ctx p ip .toggle fun result _ p' => (result, [], p')
          else
            (.argError, [], p)

/-- `proc_cmd_disp_clear`. -/
def procCmdDispClear : Handler := fun ctx _ p =>
  setRpc ctx p portSysmgr "display_clear" []

/-- `proc_cmd_disp_print`. -/
def procCmdDispPrint : Handler := fun ctx msg p =>
  let (cmd, cmdArg, _) := threeWords msg
  let cmdArg2 := (getLine 10 (readWord (readWord msg).2).2).1
  if cmd = [] then
    (.unknownCommand, [], p)
  else if cmdArg = [] then
    (.argError, [], p)
  else
    let line := xpandarg ctx.aliasList cmdArg
    if cmdArg2 = [] then
      getRpc ctx p portSysmgr "display_print" [(text "line", .int (atoi line))]
    else
      setRpc ctx p portSysmgr "display_print"
        [(text "line", .str line),
          (text "msg", .str (xpandarg ctx.aliasList cmdArg2))]

/-- `proc_cmd_get_display_backlight`. -/
def procCmdGetDisplayBacklight : Handler := fun ctx _ p =>
  getRpc ctx p portSysmgr "display_backlight_get" []

/-- `proc_cmd_set_display_backlight`. -/
def procCmdSetDisplayBacklight : Handler := fun ctx msg p =>
  let (cmd, cmdArg, _) := threeWords msg
  if cmd = [] then
    (.unknownCommand, [], p)
  else if cmdArg = [] then
    (.argError, [], p)
  else
    setRpc ctx p portSysmgr "display_backlight_set"
      [(text "status", .str (xpandarg ctx.aliasList cmdArg))]

/-- `proc_cmd_disp_backlight`. -/
def procCmdDispBacklight : Handler := fun ctx msg p =>
  let (cmd, cmdArg, _) := threeWords msg
  if cmd = [] then
    (.unknownCommand, [], p)
  else if cmdArg = [] then
    procCmdGetDisplayBacklight ctx msg p
  else
    procCmdSetDisplayBacklight ctx msg p

end Xmproxy
end BrBox
