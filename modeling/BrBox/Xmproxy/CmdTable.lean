import BrBox.Lib.CxxText

/-!
# The command table of the chat proxy

`xmproxy_cmd_table`: the commands a buddy can send over the chat channel, with
the access level each row asks for.  Whole groups of rows can be switched off
at start; nothing else of the table ever changes, which is a field of
`CmdTable`.

* `resolveCmdStr_setUSBGsmSts_false`, `resolveCmdStr_setOpenWrtCmdGroupSts_false`: a group that is
  switched off is not recognised.
* `adminAccess_iff`: the commands whose row is for the admin only.
-/

namespace BrBox
namespace Xmproxy

open CText
open CxxText

/-- `EXMPP_CMD_TYPES`. -/
inductive CmdType where
  | smsDeleteAll
  | smsDelete
  | smsGet
  | smsSend
  | smsListUpdate
  | smsGetTotal
  | fmwGetVersion
  | fmwUpdate
  | fmwUpdateSts
  | fmwUpdateRes
  | fmwReboot
  | fmwUptime
  | fmwHostname
  | fmwGetMyip
  | fmwResetHostname
  | dialVoice
  | dialUssd
  | getUssd
  | debugLogSts
  | gsmModemIdent
  | logUpdate
  | logCount
  | logMsg
  | fmwGetLocalip
  | fmwPoweroff
  | gpio
  | gsmEventNotify
  | gpioEventNotify
  | alias
  | sleep
  | account
  | botname
  | buddyList
  | shellcmd
  | shellcmdResp
  | devident
  | shutdown
  | sonoff
  | dispclear
  | dispprint
  | dispbklt
  | shellcmdTrig
  | buddyAdd
  | buddyRemove
  | buddySubscribe
  | buddyUnsubscribe
  | acceptBuddyList
  | relayMessage
  | unknown
  | none
deriving DecidableEq, Repr

/-- `EXMPP_USER_ACCESS_TYPES`. -/
inductive UserAccess where
  | admin
  | readwrite
  | readonly
  | unknown
  | none
deriving DecidableEq, Repr

/-- A row of the table. -/
structure CmdRow where
  cmdsts : Bool
  cmd : CmdType
  cmdName : Bytes
  cmdArg : Bytes
  cmdaccess : UserAccess
deriving DecidableEq, Repr

/-- The columns that stay as they are. -/
def CmdRow.columns (row : CmdRow) : CmdType × Bytes × Bytes × UserAccess :=
  (row.cmd, row.cmdName, row.cmdArg, row.cmdaccess)

/-- `xmproxy_cmd_table`. -/
def xmproxyCmdTable : List CmdRow :=
  [ ⟨true, .gsmModemIdent, text "gsmcheck", text "", .readwrite⟩,
    ⟨true, .smsListUpdate, text "smsupdate", text "", .readwrite⟩,
    ⟨true, .smsGetTotal, text "smstotal", text "", .readwrite⟩,
    ⟨true, .smsGet, text "smsget", text "<zero_index_msg>", .readwrite⟩,
    ⟨true, .smsDeleteAll, text "smsdeleteall", text "", .readwrite⟩,
    ⟨true, .smsSend, text "smssend", text "<phone-num> <msg>", .readwrite⟩,
    ⟨true, .dialVoice, text "dialvoice", text "<phone-num>", .readwrite⟩,
    ⟨true, .dialUssd, text "dialussd", text "<ussd-code>", .readwrite⟩,
    ⟨true, .getUssd, text "readussd", text "", .readwrite⟩,
    ⟨true, .fmwGetVersion, text "version", text "", .readwrite⟩,
    ⟨true, .fmwUpdate, text "sysupdate", text "", .readwrite⟩,
    ⟨true, .fmwReboot, text "reboot", text "", .readwrite⟩,
    ⟨true, .fmwPoweroff, text "poweroff", text "", .readwrite⟩,
    ⟨true, .fmwUptime, text "uptime", text "", .readwrite⟩,
    ⟨true, .fmwHostname, text "hostname", text "[name]", .readwrite⟩,
    ⟨true, .fmwResetHostname, text "resethostname", text "", .readwrite⟩,
    ⟨true, .fmwGetMyip, text "publicip", text "", .readwrite⟩,
    ⟨true, .fmwGetLocalip, text "localip", text "", .readwrite⟩,
    ⟨false, .debugLogSts, text "logsts", text "", .readwrite⟩,
    ⟨false, .logUpdate, text "logupdate", text "", .readwrite⟩,
    ⟨false, .logCount, text "logcount", text "", .readwrite⟩,
    ⟨false, .logMsg, text "logmsg", text "<zero_index_lineNum>", .readwrite⟩,
    ⟨true, .gpio, text "gpio", text "<gpio_num> [sts(0/1)]", .readwrite⟩,
    ⟨true, .gsmEventNotify, text "eventgsm", text "<sts[0/1]>", .readwrite⟩,
    ⟨true, .gpioEventNotify, text "eventgpio", text "<gpio_num> [sts(0/1)]", .readwrite⟩,
    ⟨true, .alias, text "alias", text "name=cmd", .readwrite⟩,
    ⟨true, .sleep, text "sleep", text "<seconds>", .readwrite⟩,
    ⟨true, .account, text "account", text "", .readwrite⟩,
    ⟨true, .botname, text "botname", text "[name]", .readwrite⟩,
    ⟨true, .buddyList, text "buddylist", text "", .readwrite⟩,
    ⟨true, .shellcmd, text "shellcmd", text "<command>", .readwrite⟩,
    ⟨true, .shellcmdResp, text "shellcmdresp", text "", .readwrite⟩,
    ⟨true, .shellcmdTrig, text "shellcmdtrig", text "<command>", .readwrite⟩,
    ⟨true, .devident, text "identify", text "", .readwrite⟩,
    ⟨true, .shutdown, text "xmpshutdown", text "", .admin⟩,
    ⟨true, .sonoff, text "sonoff", text "<ip/hostname> [sts(on/off/toggle)]", .readwrite⟩,
    ⟨true, .dispclear, text "dispclear", text "", .readwrite⟩,
    ⟨true, .dispprint, text "display", text "<line1/line2/line3..]> <message>", .readwrite⟩,
    ⟨true, .dispbklt, text "dispbklt", text "<sts[on/off]>", .readwrite⟩,
    ⟨true, .buddyAdd, text "acceptbuddy", text "[buddyID]", .admin⟩,
    ⟨true, .buddyRemove, text "rejectbuddy", text "[buddyID]", .admin⟩,
    ⟨true, .buddySubscribe, text "subscribe", text "[buddyID]", .admin⟩,
    ⟨true, .buddyUnsubscribe, text "unsubscribe", text "[buddyID]", .admin⟩,
    ⟨true, .acceptBuddyList, text "acceptbuddylist", text "", .readwrite⟩,
    ⟨true, .relayMessage, text "relaymsg", text "<buddyID> <message>", .admin⟩ ]

/-- The table of a running proxy. -/
structure CmdTable where
  rows : List CmdRow
  columns : rows.map CmdRow.columns = xmproxyCmdTable.map CmdRow.columns

namespace CmdTable

/-- The table the proxy starts with. -/
def initial : CmdTable :=
  { rows := xmproxyCmdTable, columns := rfl }

/-- Set the status of the rows of a group that are not disabled by default. -/
def setGroupSts (t : CmdTable) (group : CmdType → Bool) (sts : Bool) : CmdTable :=
  { rows := t.rows.map fun row =>
      if group row.cmd ∧ row.cmdsts = true then { row with cmdsts := sts } else row
    columns := by
      rw [List.map_map, ← t.columns]
      apply List.map_congr_left
      intro row _
      simp only [Function.comp_apply]
      split <;> rfl }

/-- The commands that need a modem. -/
def usbGsmGroup : List CmdType :=
  [.gsmModemIdent, .smsListUpdate, .smsGetTotal, .smsGet, .smsDeleteAll, .smsSend,
    .dialVoice, .dialUssd, .getUssd, .gsmEventNotify]

/-- The commands that an openwrt system does not have. -/
def openWrtGroup : List CmdType :=
  [.gpio, .gpioEventNotify, .fmwHostname, .fmwResetHostname, .fmwPoweroff, .shutdown]

/-- `SetUSBGsmSts`. -/
def setUSBGsmSts (t : CmdTable) (sts : Bool) : CmdTable :=
  t.setGroupSts (fun cmd => cmd ∈ usbGsmGroup) sts

/-- `SetOpenWrtCmdGroupSts`. -/
def setOpenWrtCmdGroupSts (t : CmdTable) (sts : Bool) : CmdTable :=
  t.setGroupSts (fun cmd => cmd ∈ openWrtGroup) sts

/-- The loop of `ResolveCmdStr`: disabled rows are skipped. -/
def search (name : Bytes) : List CmdRow → CmdType
  | [] => .unknown
  | row :: rows =>
      if row.cmdsts = true ∧ name = row.cmdName then row.cmd else search name rows

/-- `ResolveCmdStr`. -/
def resolveCmdStr (t : CmdTable) (msg : Bytes) : CmdType :=
  search (toLower (readWord msg).1) t.rows

/-- `print_help`. -/
def printHelp (t : CmdTable) : Bytes :=
  (t.rows.filter fun row => row.cmdsts).flatMap fun row =>
    row.cmdName ++ [32] ++ row.cmdArg ++ [10]

/-- A group whose rows are all disabled is not found. -/
theorem search_of_disabled
    {group : CmdType → Bool}
    (hunknown : group .unknown = false)
    (name : Bytes)
    {rows : List CmdRow}
    (hdisabled : ∀ row ∈ rows, group row.cmd = true → row.cmdsts = false) :
    group (search name rows) = false := by
  induction rows with
  | nil =>
      exact hunknown
  | cons row rows ih =>
      rw [search]
      split
      · next hfound =>
          by_contra hgroup
          have hoff := hdisabled row List.mem_cons_self ((Bool.not_eq_false _).mp hgroup)
          exact Bool.false_ne_true (hoff.symm.trans hfound.1)
      · exact ih fun row' hmem => hdisabled row' (List.mem_cons_of_mem row hmem)

/-- No command of a group that is switched off is recognised. -/
theorem resolveCmdStr_setGroupSts_false
    {group : CmdType → Bool}
    (hunknown : group .unknown = false)
    (t : CmdTable)
    (msg : Bytes) :
    group ((t.setGroupSts group false).resolveCmdStr msg) = false := by
  refine search_of_disabled hunknown _ fun row hmem hgroup => ?_
  obtain ⟨row', -, rfl⟩ := List.mem_map.mp hmem
  split_ifs at hgroup ⊢ with hon
  · rfl
  · exact Bool.eq_false_iff.mpr fun h => hon ⟨hgroup, h⟩

/-- Without a modem its commands are not recognised. -/
theorem resolveCmdStr_setUSBGsmSts_false
    (t : CmdTable)
    (msg : Bytes) :
    (t.setUSBGsmSts false).resolveCmdStr msg ∉ usbGsmGroup := by
  have hgroup := @resolveCmdStr_setGroupSts_false (fun cmd => cmd ∈ usbGsmGroup) rfl t msg
  exact of_decide_eq_false hgroup

/-- On an openwrt system those of the box are not recognised. -/
theorem resolveCmdStr_setOpenWrtCmdGroupSts_false
    (t : CmdTable)
    (msg : Bytes) :
    (t.setOpenWrtCmdGroupSts false).resolveCmdStr msg ∉ openWrtGroup := by
  have hgroup := @resolveCmdStr_setGroupSts_false (fun cmd => cmd ∈ openWrtGroup) rfl t msg
  exact of_decide_eq_false hgroup

/-- The row of a command asks for admin access. -/
def adminAccess (t : CmdTable) (cmd : CmdType) : Bool :=
  t.rows.any fun row => row.cmd = cmd ∧ row.cmdaccess = .admin

/-- The access column never changes. -/
theorem adminAccess_eq_initial
    (t : CmdTable) (cmd : CmdType) :
    t.adminAccess cmd = initial.adminAccess cmd := by
  have hcolumns : ∀ rows : List CmdRow,
      (rows.any fun row => decide (row.cmd = cmd ∧ row.cmdaccess = .admin)) =
        (rows.map CmdRow.columns).any fun c =>
          decide (c.1 = cmd ∧ c.2.2.2 = .admin) := by
    intro rows
    rw [List.any_map]
    rfl
  unfold adminAccess
  rw [hcolumns, hcolumns, t.columns]
  rfl

/-- The commands that are for the admin only. -/
theorem adminAccess_iff
    (t : CmdTable) (cmd : CmdType) :
    t.adminAccess cmd = true ↔
      cmd ∈ [.shutdown, .buddyAdd, .buddyRemove, .buddySubscribe,
        .buddyUnsubscribe, .relayMessage] := by
  rw [adminAccess_eq_initial]
  cases cmd <;> decide

end CmdTable

end Xmproxy
end BrBox
