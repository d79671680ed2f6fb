import BrBox.Adav.RequestCopies

/-!
# The commands of the system manager

The commands the system manager registers with its proxy, in the order of
`Start` and `main`, and the parameters each mapper reads.  The string fields
of the packets are at least as large as `param_value` (`Rpc.reads_roomy`).
-/

namespace BrBox
namespace Sysmgr

open CText
open CxxText
open CopyTrace
open Adav
open Adav.Copies

/-- The commands of every service, in the order of `EJSON_RPCGMGR_CMD`. -/
inductive CmnRpc where
  | getTaskSts
  | getRpcSrvVersion
  | triggerDatasave
  | getSettingsSts
  | shutdownService
  | resetTaskSts
  | getReadySts
  | getDebugLog
  | setDebugLog
  | triggerFactoryStore
  | triggerFactoryRestore
  | eventSubscribe
  | eventUnsubscribe
  | eventNotify
  | eventProcess
  | triggerRun
  | getDevopState
  | setDevopState
  | getMwByte
  | setMwByte
  | getMwWord
  | setMwWord
  | getMwDword
  | setMwDword
deriving DecidableEq, Repr

/-- The commands of the system manager, `EJSON_SYSMGR_RPC_TYPES`. -/
inductive SysmgrRpc where
  | getMacAddr
  | setMacAddr
  | getEthCount
  | getEthName
  | getIpAddr
  | setIpAddr
  | getNetmask
  | setNetmask
  | getLoadinfo
  | getMeminfo
  | getCpuinfo
  | getDevOp
  | setDevOp
  | getFmwver
  | getBootSystem
  | setFmwupdate
  | setDownloadtftp
  | setDownloadftp
  | getAsynctask
  | getDevtype
  | getHostname
  | setHostname
  | getMyPublicIp
  | setDefaultHostname
  | setUpdateLog
  | getLogCount
  | getLogLine
  | runShellcmd
  | devident
  | evntSubscribe
  | runShellcmdtrig
  | dispClear
  | dispPrint
  | dispGetBklt
  | dispSetBklt
deriving DecidableEq, Repr

/-- A command that is registered with the proxy. -/
inductive Rpc where
  | cmn (rpc : CmnRpc)
  | sysmgr (rpc : SysmgrRpc)
deriving DecidableEq, Repr

/-- `Start`: the common commands come first, in the order of their numbers;
    the others follow in the order they are attached by `main`. -/
def attachedRpcs : List (Bytes × Rpc) :=
  [ (text "get_rpc_req_status", .cmn .getTaskSts),
    (text "get_rpc_srv_version", .cmn .getRpcSrvVersion),
    (text "trigger_settings_save", .cmn .triggerDatasave),
    (text "get_settings_status", .cmn .getSettingsSts),
    (text "trigger_shutdown", .cmn .shutdownService),
    (text "reset_task_status", .cmn .resetTaskSts),
    (text "get_ready_status", .cmn .getReadySts),
    (text "get_debug_logging", .cmn .getDebugLog),
    (text "set_debug_logging", .cmn .setDebugLog),
    (text "trigger_factory_store", .cmn .triggerFactoryStore),
    (text "trigger_factory_restore", .cmn .triggerFactoryRestore),
    (text "subscribe_event", .cmn .eventSubscribe),
    (text "unsubscribe_event", .cmn .eventUnsubscribe),
    (text "notify_event", .cmn .eventNotify),
    (text "process_event", .cmn .eventProcess),
    (text "run_now", .cmn .triggerRun),
    (text "get_devop_state", .cmn .getDevopState),
    (text "set_devop_state", .cmn .setDevopState),
    (text "read_byte", .cmn .getMwByte),
    (text "write_byte", .cmn .setMwByte),
    (text "read_word", .cmn .getMwWord),
    (text "write_word", .cmn .setMwWord),
    (text "read_dword", .cmn .getMwDword),
    (text "write_dword", .cmn .setMwDword),
    (text "get_mac_addr", .sysmgr .getMacAddr),
    (text "set_mac_addr", .sysmgr .setMacAddr),
    (text "get_eth_count", .sysmgr .getEthCount),
    (text "get_eth_name", .sysmgr .getEthName),
    (text "get_ip_addr", .sysmgr .getIpAddr),
    (text "set_ip_addr", .sysmgr .setIpAddr),
    (text "get_netmask", .sysmgr .getNetmask),
    (text "set_netmask", .sysmgr .setNetmask),
    (text "get_load_info", .sysmgr .getLoadinfo),
    (text "get_mem_info", .sysmgr .getMeminfo),
    (text "get_cpu_info", .sysmgr .getCpuinfo),
    (text "get_device_operation", .sysmgr .getDevOp),
    (text "set_device_operation", .sysmgr .setDevOp),
    (text "get_fmw_version", .sysmgr .getFmwver),
    (text "get_boot_system", .sysmgr .getBootSystem),
    (text "firmware_update", .sysmgr .setFmwupdate),
    (text "download_tftp_file", .sysmgr .setDownloadtftp),
    (text "download_ftp_file", .sysmgr .setDownloadftp),
    (text "get_async_task", .sysmgr .getAsynctask),
    (text "get_devtype", .sysmgr .getDevtype),
    (text "get_hostname", .sysmgr .getHostname),
    (text "set_hostname", .sysmgr .setHostname),
    (text "get_my_public_ip", .sysmgr .getMyPublicIp),
    (text "set_default_hostname", .sysmgr .setDefaultHostname),
    (text "update_loglist", .sysmgr .setUpdateLog),
    (text "get_log_count", .sysmgr .getLogCount),
    (text "get_log_line", .sysmgr .getLogLine),
    (text "run_shellcmd", .sysmgr .runShellcmd),
    (text "device_identify", .sysmgr .devident),
    (text "re_subscribe_events", .sysmgr .evntSubscribe),
    (text "run_shellcmdtrig", .sysmgr .runShellcmdtrig),
    (text "display_clear", .sysmgr .dispClear),
    (text "display_print", .sysmgr .dispPrint),
    (text "display_backlight_get", .sysmgr .dispGetBklt),
    (text "display_backlight_set", .sysmgr .dispSetBklt) ]

/-- The list of the proxy: the index of a command is its place. -/
def sysmgrCallList : List RpcCommand :=
  (attachedRpcs.map Prod.fst).zipIdx.foldl
    (fun calls entry => attachRpcMethod calls entry.1 entry.2) []

/-- The command behind a method index. -/
def rpcOf (index : Int) : Option Rpc :=
  (attachedRpcs[index.toNat]?).map Prod.snd

/-- The string fields of the packets. -/
def cmnFnameVerStr : CharArray := { name := "cmn_fname_ver_str", capacity := 512 }

def srcurl : CharArray := { name := "srcurl", capacity := 1024 }

def sourcefilepath : CharArray := { name := "sourcefilepath", capacity := 1024 }

def targetfilepath : CharArray := { name := "targetfilepath", capacity := 1024 }

def hostname : CharArray := { name := "hostname", capacity := 1024 }

def shellCmd : CharArray := { name := "cmd", capacity := 1024 }

def ethName : CharArray := { name := "eth_name", capacity := 512 }

def msg : CharArray := { name := "msg", capacity := 1024 }

/-- The names before the last of each table of accepted values. -/
def debugLogArgstsTbl : List Bytes :=
  [text "disable", text "enable"]

def devopStateArgstsTbl : List Bytes :=
  [ text "idle", text "on", text "laststate", text "off", text "reboot", text "booting",
    text "rebooting", text "switchingoff", text "boot", text "idlenoexthw" ]

def macAddrArgIfaceTabl : List Bytes :=
  [ text "eth0", text "eth1", text "wlan0", text "br-lan", text "eth0.1", text "eth0.2",
    text "br0", text "tun1", text "enp110s0", text "usb0" ]

def devOpArgTabl : List Bytes :=
  [ text "idle", text "on", text "laststate", text "standby", text "reboot",
    text "booting", text "rebooting", text "switchingoff", text "boot" ]

def fmwVerArgTabl : List Bytes :=
  [ text "current", text "backup", text "kernel", text "project", text "brbox1",
    text "brbox2" ]

def dispLineArgTabl : List Bytes :=
  [text "line1", text "line2", text "line3", text "line4", text "lineall"]

def dispBkltArgTabl : List Bytes :=
  [text "off", text "on"]

/-- `SYSMGR_FMW_MODULE_BRBOX_PROJECT`. -/
def fmwModuleBrboxProject : Nat := 3

/-- What the mapper of a common command reads. -/
def CmnRpc.reads : CmnRpc → List ParamRead
  | .getTaskSts => [.jsonStringToInt (text "taskId")]
  | .setDebugLog => [.enum (text "status") debugLogArgstsTbl]
  | .eventSubscribe =>
      [ .jsonStringToInt (text "cltToken"), .optional (text "port"),
        .optional (text "evntNum") ]
  | .eventUnsubscribe => [.jsonStringToInt (text "srvToken")]
  | .eventNotify =>
      [ .jsonStringToInt (text "evntNum"), .optional (text "evntArg1"),
        .optional (text "evntArg2") ]
  | .eventProcess =>
      [ .jsonStringToInt (text "cltToken"), .jsonStringToInt (text "evntNum"),
        .optional (text "evntArg1"), .optional (text "evntArg2") ]
  | .setDevopState => [.enum (text "status") devopStateArgstsTbl]
  | .getMwByte => [.jsonStringToUlong (text "addr")]
  | .setMwByte => [.jsonStringToUlong (text "addr"), .jsonStringToUlong (text "data")]
  | .getMwWord => [.jsonStringToUlong (text "addr")]
  | .setMwWord => [.jsonStringToUlong (text "addr"), .jsonStringToUlong (text "data")]
  | .getMwDword => [.jsonStringToUlong (text "addr")]
  | .setMwDword => [.jsonStringToUlong (text "addr"), .jsonStringToUlong (text "data")]
  | _ => []

/-- What the mapper of a command of the system manager reads. -/
def SysmgrRpc.reads : SysmgrRpc → List ParamRead
  | .getMacAddr => [.string (text "iface") ethName]
  | .setMacAddr => [.enum (text "iface") macAddrArgIfaceTabl]
  | .getEthName => [.jsonStringToInt (text "index")]
  | .getIpAddr => [.string (text "iface") ethName]
  | .setIpAddr => [.enum (text "iface") macAddrArgIfaceTabl]
  | .getNetmask => [.string (text "iface") ethName]
  | .setNetmask => [.enum (text "iface") macAddrArgIfaceTabl]
  | .setDevOp => [.enum (text "operation") devOpArgTabl]
  | .getFmwver => [.enum (text "module") fmwVerArgTabl]
  | .setFmwupdate =>
      [.enum (text "module") fmwVerArgTabl, .string (text "filepath") cmnFnameVerStr]
  | .setDownloadtftp =>
      [ .string (text "srcaddr") srcurl, .string (text "srcfile") sourcefilepath,
        .string (text "targetpath") targetfilepath ]
  | .setDownloadftp =>
      [.string (text "srcaddr") srcurl, .string (text "targetpath") targetfilepath]
  | .setHostname => [.string (text "hostname") hostname]
  | .getLogLine => [.jsonStringToInt (text "index")]
  | .runShellcmd => [.string (text "command") shellCmd]
  | .runShellcmdtrig => [.string (text "command") shellCmd]
  | .dispPrint =>
      [.enum (text "line") dispLineArgTabl, .string (text "msg") msg]
  | .dispSetBklt => [.enum (text "status") dispBkltArgTabl]
  | _ => []

def Rpc.reads : Rpc → List ParamRead
  | .cmn rpc => rpc.reads
  | .sysmgr rpc => rpc.reads

/-- Every string field is at least as large as `param_value`. -/
theorem Rpc.reads_roomy
    (rpc : Rpc) :
    ∀ read ∈ rpc.reads, read.Roomy := by
  intro read hread field hfield
  cases rpc with
  | cmn rpc =>
      cases rpc <;>
        simp [Rpc.reads, CmnRpc.reads, ParamRead.jsonStringToInt,
          ParamRead.jsonStringToUlong] at hread <;>
        rcases hread with rfl | rfl | rfl | rfl <;> cases hfield
  | sysmgr rpc =>
      cases rpc <;>
        simp [Rpc.reads, SysmgrRpc.reads, ParamRead.jsonStringToInt] at hread <;>
        rcases hread with rfl | rfl | rfl <;> cases hfield <;> decide

end Sysmgr
end BrBox
