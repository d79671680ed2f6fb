import BrBox.Sysmgr.SysRpcTable

/-!
# The texts of a request inside the system manager

What is copied when a request is mapped and carried out: the members the proxy
reads, the parameters, the packet of the background task, the shell command
lines and the command of `run_shell_script`.

No copy on the way checks a length, so a request is carried out inside the
arrays exactly when its own texts are short.  `requestWithinBounds_iff` gives
the lengths.
-/

namespace BrBox
namespace Sysmgr

open CText
open CxxText
open CopyTrace
open Adav
open Adav.Copies

/-- The arrays of the handlers. -/
def cmdline : CharArray := { name := "cmdline", capacity := 512 }

def tmpcmd : CharArray := { name := "tmpcmd", capacity := 1024 }

/-- `command` of `run_shell_script`. -/
def scriptCommand : CharArray := { name := "command", capacity := 1024 }

/-- `cmd` of `read_network_info_ifconfig`. -/
def ifconfigCmd : CharArray := { name := "cmd", capacity := 512 }

/-- `ADCMN_BOARD_TYPE`. -/
inductive BoardType where
  | raspiA
  | raspiAplus
  | raspiB
  | raspiBplus
  | raspiB2
  | baytrail
  | baytrailI210
  | bbb
  | raspi0
  | raspi0w
  | raspi3
  | x8664
  | x8632
  | a5V11
  | nexx3020
  | glMt300nv2
  | raspi2
  | raspi4
  | unknown
  | none
deriving DecidableEq, Repr

/-- `ADCMN_SYSCFG_TYPE`. -/
inductive SyscfgType where
  | raspiRemoteKit
  | raspi2RemoteKit
  | hlkRm04
  | glmt300nv2RemoteKit
  | glmt300nv2AwsiotDemo
  | unknown
  | none
deriving DecidableEq, Repr

/-- What the handlers see of the device they run on. -/
structure Host where
  boardType : BoardType
  syscfgType : SyscfgType
  /-- `get_emulation_flag`. -/
  emulation : Bool
  /-- `PushAsyncTask` returned `RPC_SRV_RESULT_IN_PROG`. -/
  pushAsyncTask : Bool
  /-- `read_network_info` found the interface. -/
  networkInfo : Bytes → Bool
  /-- `ifconfig | grep` found the interface. -/
  ifconfigGrep : Bytes → Bool

/-- `openwrt_system`. -/
def Host.openwrtSystem (host : Host) : Bool :=
  match host.boardType with
  | .a5V11 => true
  | .nexx3020 => true
  | .glMt300nv2 => true
  | .raspiA => host.syscfgType = .raspiRemoteKit
  | .raspiAplus => host.syscfgType = .raspiRemoteKit
  | .raspiB => host.syscfgType = .raspiRemoteKit
  | .raspiBplus => host.syscfgType = .raspiRemoteKit
  | .raspiB2 => host.syscfgType = .raspiRemoteKit
  | .raspi0 => host.syscfgType = .raspiRemoteKit
  | .raspi0w => host.syscfgType = .raspiRemoteKit
  | .raspi2 => host.syscfgType = .raspi2RemoteKit
  | .raspi3 => host.syscfgType = .raspi2RemoteKit
  | .raspi4 => host.syscfgType = .raspi2RemoteKit
  | _ => false

section Work

variable (host : Host)

/-- `run_shell_script`: emulated, nothing is copied. -/
def runShellScript (script : Bytes) : Traced Unit := do
  if host.emulation then
    pure ()
  else
    let _ ← Traced.copy scriptCommand script
    pure ()

/-- The command line of `process_async_set_fmwupdate`. -/
def fmwupdateLine (path : Bytes) : Bytes :=
  if host.openwrtSystem then
    text "sleep 2;mips-update.sh -u " ++ path ++ text " > /tmp/update.result"
  else
    text "update -u " ++ path

/-- `process_async_set_fmwupdate` for the `project` module. -/
def processAsyncSetFmwupdate (work : Packet) : Traced Unit := do
  let line ← Traced.copy cmdline (fmwupdateLine host (work.get cmnFnameVerStr))
  runShellScript host line

/-- `process_set_fmwupdate`. -/
def processSetFmwupdate (packet : Packet) : Traced Unit := do
  if packet.enums.head? ≠ some fmwModuleBrboxProject then
    pure ()
  else
    let path ← Traced.copy cmnFnameVerStr (packet.get cmnFnameVerStr)
    let work : Packet := { packet with strings := [(cmnFnameVerStr, path)] }
    if host.pushAsyncTask then
      processAsyncSetFmwupdate host work
    else
      pure ()

/-- The start of the `wget` command of `process_async_download_file`. -/
def wgetStart : Bytes :=
  if host.boardType = .glMt300nv2 then text "wget " else text "wget --tries=2 "

/-- The command line of `process_async_download_file`. -/
def downloadLine (tftp : Bool) (url source target : Bytes) : Bytes :=
  if tftp then
    text "tftp " ++ url ++ text " -c get " ++ source ++ text " " ++ target
  else
    wgetStart host ++ url ++ text " -O " ++ target

/-- `process_async_download_file`. -/
def processAsyncDownloadFile (tftp : Bool) (work : Packet) : Traced Unit := do
  let line ← Traced.copy cmdline
    (downloadLine host tftp (work.get srcurl) (work.get sourcefilepath)
      (work.get targetfilepath))
  runShellScript host line

/-- `process_download_file`. -/
def processDownloadFile (tftp : Bool) (packet : Packet) : Traced Unit := do
  let url ← Traced.copy srcurl (packet.get srcurl)
  let source ← Traced.copy sourcefilepath (packet.get sourcefilepath)
  let target ← Traced.copy targetfilepath (packet.get targetfilepath)
  let work : Packet :=
    { enums := []
      strings := [(srcurl, url), (sourcefilepath, source), (targetfilepath, target)] }
  if host.pushAsyncTask then
    processAsyncDownloadFile host tftp work
  else
    pure ()

/-- `process_run_shellcmd`: a trigger command is not redirected. -/
def processRunShellcmd (trigger : Bool) (packet : Packet) : Traced Unit := do
  let line ← Traced.copy tmpcmd
    (if trigger then packet.get shellCmd
      else packet.get shellCmd ++ text " > /tmp/shellcmd.resp")
  let _ ← Traced.copy shellCmd line
  pure ()

/-- `read_network_info_ifconfig`. -/
def readNetworkInfoIfconfig (eth : Bytes) : Traced Unit := do
  let _ ← Traced.copy ifconfigCmd (text "ifconfig | grep " ++ eth ++ text " >/dev/null")
  if host.ifconfigGrep eth then
    let _ ← Traced.copy ifconfigCmd
      (text "ifconfig | grep " ++ eth ++ text " | awk '\x7bprint $5\x7d'")
    pure ()
  else
    pure ()

/-- `process_get_mac_addr`, and the same for the address and the netmask. -/
def processGetNetworkInfo (packet : Packet) : Traced Unit :=
  if host.networkInfo (packet.get ethName) then
    pure ()
  else
    readNetworkInfoIfconfig host (packet.get ethName)

/-- `ProcessWork` and, for a task that was pushed, `ProcessWorkAsync`. -/
def processWork (packet : Packet) : Rpc → Traced Unit
  | .sysmgr .setFmwupdate => processSetFmwupdate host packet
  | .sysmgr .setDownloadftp => processDownloadFile host false packet
  | .sysmgr .setDownloadtftp => processDownloadFile host true packet
  | .sysmgr .runShellcmd => processRunShellcmd false packet
  | .sysmgr .runShellcmdtrig => processRunShellcmd true packet
  | .sysmgr .getMacAddr => processGetNetworkInfo host packet
  | .sysmgr .getIpAddr => processGetNetworkInfo host packet
  | .sysmgr .getNetmask => processGetNetworkInfo host packet
  | _ => pure ()

end Work

/-- How a request ends, as far as the copies decide it. -/
inductive Outcome where
  /-- An error object is sent. -/
  | rejected (err : JsonRpcErrType)
  /-- The mapper answers with `CMD_TASK_RESULT_INVALID_PARAM`. -/
  | paramError
  /-- The command is carried out. -/
  | processed
deriving DecidableEq, Repr

/-- The request is answered with an error. -/
def Outcome.isError : Outcome → Bool
  | .rejected _ => true
  | .paramError => true
  | .processed => false

section Serve

variable {J : Type}
variable (host : Host)
variable (lib : ParamLib J)

/-- `monoshot_callback_function` of the mapper: map the request, carry it out. -/
def callMapper (jsonString : Bytes) (rpc : Rpc) : Traced Outcome := do
  match ← mapJsonToBinary lib jsonString rpc.reads Packet.fresh with
  | none => pure .paramError
  | some packet => do
      processWork host packet rpc
      pure .processed

/-- One request, from the receive buffer to the end of its background task. -/
def serve (jsonString : Bytes) : Traced Outcome := do
  match ← jsonProcessRequest lib.toJsonLib sysmgrCallList jsonString with
  | .reject err _ => pure (.rejected err)
  | .accept _ command _ =>
      match rpcOf command.methodIndex with
      | none => pure .paramError
      | some rpc => callMapper host lib jsonString rpc

/-- The command of a request, by its `method` alone. -/
def requestRpc (obj : J) : Option Rpc :=
  match (getJsonrpcMethod lib.toJsonLib sysmgrCallList obj).value with
  | none => none
  | some command => rpcOf command.methodIndex

/-- Some text that belongs to the request is too long for its array. -/
inductive LongValue (jsonString : Bytes) : Prop where
  | jsonrpc
      {obj : J}
      (hobj : requestObject lib.toJsonLib jsonString = some obj)
      (hlong : ¬ MemberFits lib.toJsonLib obj keyJsonrpc jsonrpcArr) :
      LongValue jsonString
  | id
      {obj : J}
      (hobj : requestObject lib.toJsonLib jsonString = some obj)
      (hlong : ¬ MemberFits lib.toJsonLib obj keyId idArr) :
      LongValue jsonString
  | method
      {obj : J}
      (hobj : requestObject lib.toJsonLib jsonString = some obj)
      (hlong : ¬ MemberFits lib.toJsonLib obj keyMethod methodArr) :
      LongValue jsonString
  | access
      {obj : J}
      (hobj : requestObject lib.toJsonLib jsonString = some obj)
      (hlong : ¬ MemberFits lib.toJsonLib obj keyAccess accessArr) :
      LongValue jsonString
  | param
      {obj : J} {rpc : Rpc} {read : ParamRead}
      (hobj : requestObject lib.toJsonLib jsonString = some obj)
      (hrpc : requestRpc lib obj = some rpc)
      (hread : read ∈ rpc.reads)
      (hlong : ¬ read.Short lib jsonString) :
      LongValue jsonString

/-- Every copy fits its array, and a value that would not is answered with an
    error. -/
def RequestWithinBounds (jsonString : Bytes) : Prop :=
  (serve host lib jsonString).Fits ∧
    (LongValue lib jsonString → (serve host lib jsonString).value.isError = true)

/-- The parameters a download puts on its command line leave room for the
    command itself. -/
def CommandLineShort (jsonString : Bytes) : Rpc → Prop
  | .sysmgr .setDownloadftp =>
      ∀ url target,
        lookupParam lib jsonString (text "srcaddr") = some url →
        lookupParam lib jsonString (text "targetpath") = some target →
        url.length + target.length ≤ if host.boardType = .glMt300nv2 then 502 else 492
  | .sysmgr .setDownloadtftp =>
      ∀ url source target,
        lookupParam lib jsonString (text "srcaddr") = some url →
        lookupParam lib jsonString (text "srcfile") = some source →
        lookupParam lib jsonString (text "targetpath") = some target →
        url.length + source.length + target.length ≤ 497
  | _ => True

/-- The texts of a request are short: up to 255 characters for the members the
    proxy reads, up to 254 for a parameter, and short together for the
    parameters of a download that is carried out.  What is only read after an
    earlier check of the request counts only when that check is passed. -/
def ShortRequest (jsonString : Bytes) : Prop :=
  ∀ obj, requestObject lib.toJsonLib jsonString = some obj →
    MemberFits lib.toJsonLib obj keyJsonrpc jsonrpcArr ∧
    MemberFits lib.toJsonLib obj keyId idArr ∧
    (lib.getString obj keyId ≠ none →
      MemberFits lib.toJsonLib obj keyMethod methodArr ∧
      ((getJsonrpcMethod lib.toJsonLib sysmgrCallList obj).value ≠ none →
        MemberFits lib.toJsonLib obj keyAccess accessArr) ∧
      ∀ rpc, requestRpc lib obj = some rpc →
        ReadsShort lib jsonString rpc.reads ∧
        (host.pushAsyncTask = true → CommandLineShort host lib jsonString rpc))

end Serve

section WorkFits

variable {host : Host}

theorem runShellScript_fits
    {script : Bytes}
    (hscript : script.length ≤ 1023) :
    (runShellScript host script).Fits := by
  unfold runShellScript
  split
  · simp
  · simp [scriptCommand]
    omega

/-- The update command fits whatever short path it is given. -/
theorem fmwupdateLine_length
    (host : Host) {path : Bytes}
    (hpath : path.length ≤ 254) :
    (fmwupdateLine host path).length ≤ 301 := by
  have hsleep : (text "sleep 2;mips-update.sh -u ").length = 26 := by decide
  have hresult : (text " > /tmp/update.result").length = 21 := by decide
  have hupdate : (text "update -u ").length = 10 := by decide
  unfold fmwupdateLine
  split
  · simp only [List.length_append]
    omega
  · simp only [List.length_append]
    omega

theorem processSetFmwupdate_fits
    {packet : Packet}
    (hshort : packet.Short) :
    (processSetFmwupdate host packet).Fits := by
  have hpath : (packet.get cmnFnameVerStr).length ≤ 254 := Packet.get_short hshort _
  have hline := fmwupdateLine_length host hpath
  unfold processSetFmwupdate
  split
  · simp
  refine (Traced.fits_bind _ _).mpr ⟨?_, ?_⟩
  · simp only [Traced.fits_copy, cmnFnameVerStr] at hpath ⊢
    omega
  split
  · have hget :
        ({ packet with strings := [(cmnFnameVerStr, packet.get cmnFnameVerStr)] } :
          Packet).get cmnFnameVerStr = packet.get cmnFnameVerStr := by
      simp [Packet.get]
    simp only [processAsyncSetFmwupdate, Traced.fits_bind, Traced.fits_copy,
      Traced.value_copy, hget]
    exact ⟨by simp only [cmdline]; omega, runShellScript_fits (by omega)⟩
  · simp

/-- The length of a download command. -/
theorem downloadLine_length
    (tftp : Bool) (url source target : Bytes) :
    (downloadLine host tftp url source target).length =
      if tftp then 14 + url.length + source.length + target.length
      else (if host.boardType = .glMt300nv2 then 9 else 19) + url.length + target.length := by
  have htftp : (text "tftp ").length = 5 := by decide
  have hget : (text " -c get ").length = 8 := by decide
  have hspace : (text " ").length = 1 := by decide
  have hwget : (text "wget ").length = 5 := by decide
  have htries : (text "wget --tries=2 ").length = 15 := by decide
  have hout : (text " -O ").length = 4 := by decide
  unfold downloadLine wgetStart
  cases tftp with
  | true =>
      simp only [if_true, List.length_append]
      omega
  | false =>
      split
      · contradiction
      split <;> simp only [List.length_append] <;> omega

/-- A download stays inside its arrays when its command line does. -/
theorem processDownloadFile_fits
    {packet : Packet}
    (hshort : packet.Short)
    (tftp : Bool) :
    (processDownloadFile host tftp packet).Fits ↔
      (host.pushAsyncTask = true →
        (downloadLine host tftp (packet.get srcurl) (packet.get sourcefilepath)
          (packet.get targetfilepath)).length ≤ 511) := by
  have hurl : (packet.get srcurl).length ≤ 254 := Packet.get_short hshort _
  have hsource : (packet.get sourcefilepath).length ≤ 254 := Packet.get_short hshort _
  have htarget : (packet.get targetfilepath).length ≤ 254 := Packet.get_short hshort _
  have hcopies :
      (packet.get srcurl).length + 1 ≤ 1024 ∧ (packet.get sourcefilepath).length + 1 ≤ 1024 ∧
        (packet.get targetfilepath).length + 1 ≤ 1024 := by
    omega
  unfold processDownloadFile
  simp only [Traced.fits_bind, Traced.fits_copy, Traced.value_copy]
  cases hpush : host.pushAsyncTask with
  | false =>
      simpa [srcurl, sourcefilepath, targetfilepath] using hcopies
  | true =>
      have hget :
          ∀ url source target : Bytes,
            let work : Packet :=
              { enums := []
                strings :=
                  [(srcurl, url), (sourcefilepath, source), (targetfilepath, target)] }
            work.get srcurl = url ∧ work.get sourcefilepath = source ∧
              work.get targetfilepath = target := by
        intro url source target
        simp [Packet.get, srcurl, sourcefilepath, targetfilepath]
      obtain ⟨hurl', hsource', htarget'⟩ :=
        hget (packet.get srcurl) (packet.get sourcefilepath) (packet.get targetfilepath)
      simp only [if_true, processAsyncDownloadFile, Traced.fits_bind, Traced.fits_copy,
        Traced.value_copy, hurl', hsource', htarget', forall_const]
      constructor
      · rintro ⟨-, -, -, hline, -⟩
        simp only [cmdline] at hline
        omega
      · intro hline
        refine ⟨hcopies.1, hcopies.2.1, hcopies.2.2, ?_, runShellScript_fits (by omega)⟩
        simp only [cmdline]
        omega

theorem processRunShellcmd_fits
    {packet : Packet}
    (hshort : packet.Short)
    (trigger : Bool) :
    (processRunShellcmd trigger packet).Fits := by
  have hcmd : (packet.get shellCmd).length ≤ 254 := Packet.get_short hshort _
  have hresp : (text " > /tmp/shellcmd.resp").length = 21 := by decide
  unfold processRunShellcmd
  cases trigger <;>
    simp only [Traced.fits_bind, Traced.fits_copy, Traced.value_copy, Traced.fits_pure,
      List.length_append, tmpcmd, if_true, Bool.false_eq_true, if_false, and_true] <;>
    simp only [shellCmd] at hcmd ⊢ <;> omega

theorem processGetNetworkInfo_fits
    {packet : Packet}
    (hshort : packet.Short) :
    (processGetNetworkInfo host packet).Fits := by
  have heth : (packet.get ethName).length ≤ 254 := Packet.get_short hshort _
  have hgrep : (text "ifconfig | grep ").length = 16 := by decide
  have hnull : (text " >/dev/null").length = 11 := by decide
  have hawk : (text " | awk '\x7bprint $5\x7d'").length = 19 := by decide
  unfold processGetNetworkInfo readNetworkInfoIfconfig
  split
  · simp
  split <;>
    simp only [Traced.fits_bind, Traced.fits_copy, Traced.fits_pure, List.length_append,
      ifconfigCmd, and_true] <;> omega

end WorkFits

section ServeFits

variable {J : Type}
variable {host : Host} {lib : ParamLib J} {jsonString : Bytes}

/-- The packet of an FTP download holds its two parameters. -/
theorem mapDownloadftp
    (packet : Packet) :
    (mapJsonToBinary lib jsonString SysmgrRpc.setDownloadftp.reads Packet.fresh).value =
        some packet ↔
      ∃ url target,
        lookupParam lib jsonString (text "srcaddr") = some url ∧
        lookupParam lib jsonString (text "targetpath") = some target ∧
        packet = { enums := [], strings := [(srcurl, url), (targetfilepath, target)] } := by
  simp only [SysmgrRpc.reads, mapJsonToBinary, ParamRead.run, Traced.value_bind,
    findSingleParam_value]
  cases lookupParam lib jsonString (text "srcaddr") with
  | none => simp
  | some url =>
      simp only [Traced.value_bind, Traced.value_copy, Traced.value_pure,
        findSingleParam_value]
      cases lookupParam lib jsonString (text "targetpath") with
      | none => simp
      | some target => simp [Packet.fresh, eq_comm]

/-- The packet of a TFTP download holds its three parameters. -/
theorem mapDownloadtftp
    (packet : Packet) :
    (mapJsonToBinary lib jsonString SysmgrRpc.setDownloadtftp.reads Packet.fresh).value =
        some packet ↔
      ∃ url source target,
        lookupParam lib jsonString (text "srcaddr") = some url ∧
        lookupParam lib jsonString (text "srcfile") = some source ∧
        lookupParam lib jsonString (text "targetpath") = some target ∧
        packet =
          { enums := []
            strings :=
              [(srcurl, url), (sourcefilepath, source), (targetfilepath, target)] } := by
  simp only [SysmgrRpc.reads, mapJsonToBinary, ParamRead.run, Traced.value_bind,
    findSingleParam_value]
  cases lookupParam lib jsonString (text "srcaddr") with
  | none => simp
  | some url =>
      simp only [Traced.value_bind, Traced.value_copy, Traced.value_pure,
        findSingleParam_value]
      cases lookupParam lib jsonString (text "srcfile") with
      | none => simp
      | some source =>
          simp only [Traced.value_bind, Traced.value_copy, Traced.value_pure,
            findSingleParam_value]
          cases lookupParam lib jsonString (text "targetpath") with
          | none => simp
          | some target => simp [Packet.fresh, eq_comm]

/-- A command whose parameters are short is carried out inside its arrays when
    its command line is short. -/
theorem processWork_fits
    {rpc : Rpc} {packet : Packet}
    (hshort : packet.Short)
    (hmap : (mapJsonToBinary lib jsonString rpc.reads Packet.fresh).value = some packet) :
    (processWork host packet rpc).Fits ↔
      (host.pushAsyncTask = true → CommandLineShort host lib jsonString rpc) := by
  cases rpc with
  | cmn rpc => simp [processWork, CommandLineShort]
  | sysmgr rpc =>
      cases rpc with
      | setFmwupdate => simp [processWork, CommandLineShort, processSetFmwupdate_fits hshort]
      | runShellcmd => simp [processWork, CommandLineShort, processRunShellcmd_fits hshort]
      | runShellcmdtrig => simp [processWork, CommandLineShort, processRunShellcmd_fits hshort]
      | getMacAddr => simp [processWork, CommandLineShort, processGetNetworkInfo_fits hshort]
      | getIpAddr => simp [processWork, CommandLineShort, processGetNetworkInfo_fits hshort]
      | getNetmask => simp [processWork, CommandLineShort, processGetNetworkInfo_fits hshort]
      | setDownloadftp =>
          obtain ⟨url, target, hurl, htarget, rfl⟩ := (mapDownloadftp packet).mp hmap
          rw [processWork, processDownloadFile_fits hshort, downloadLine_length]
          simp only [CommandLineShort, hurl, htarget, Option.some.injEq,
            Bool.false_eq_true, if_false]
          refine imp_congr_right fun _ => ?_
          simp only [Packet.get, srcurl, targetfilepath, List.find?_cons, decide_true,
            CharArray.mk.injEq, Option.map_some, Option.getD_some]
          split <;> simp <;> omega
      | setDownloadtftp =>
          obtain ⟨url, source, target, hurl, hsource, htarget, rfl⟩ :=
            (mapDownloadtftp packet).mp hmap
          rw [processWork, processDownloadFile_fits hshort, downloadLine_length]
          simp only [CommandLineShort, hurl, hsource, htarget, Option.some.injEq, if_true]
          refine imp_congr_right fun _ => ?_
          simp [Packet.get, srcurl, sourcefilepath, targetfilepath]
          omega
      | _ => simp [processWork, CommandLineShort]

/-- A mapper that hands nothing on has left its command line out. -/
theorem commandLineShort_of_none
    {rpc : Rpc}
    (hmap : (mapJsonToBinary lib jsonString rpc.reads Packet.fresh).value = none) :
    CommandLineShort host lib jsonString rpc := by
  cases rpc with
  | cmn rpc => trivial
  | sysmgr rpc =>
      cases rpc with
      | setDownloadftp =>
          intro url target hurl htarget
          have hsome := (mapDownloadftp _).mpr ⟨url, target, hurl, htarget, rfl⟩
          rw [Rpc.reads, hsome] at hmap
          cases hmap
      | setDownloadtftp =>
          intro url source target hurl hsource htarget
          have hsome := (mapDownloadtftp _).mpr ⟨url, source, target, hurl, hsource, htarget, rfl⟩
          rw [Rpc.reads, hsome] at hmap
          cases hmap
      | _ => trivial

/-- A command is mapped and carried out inside its arrays exactly when its
    parameters are short. -/
theorem callMapper_fits
    (rpc : Rpc) :
    (callMapper host lib jsonString rpc).Fits ↔
      ReadsShort lib jsonString rpc.reads ∧
        (host.pushAsyncTask = true → CommandLineShort host lib jsonString rpc) := by
  unfold callMapper
  rw [Traced.fits_bind, mapJsonToBinary_fits lib jsonString rpc.reads_roomy]
  refine and_congr_right fun hreads => ?_
  cases hmap : (mapJsonToBinary lib jsonString rpc.reads Packet.fresh).value with
  | none =>
      simp [commandLineShort_of_none hmap]
  | some packet =>
      have hshort := mapJsonToBinary_short lib jsonString hreads Packet.fresh_short hmap
      simp [processWork_fits hshort hmap]

/-- The copies of a request that has an object. -/
theorem serve_fits_of_some
    {obj : J}
    (hobj : requestObject lib.toJsonLib jsonString = some obj) :
    (serve host lib jsonString).Fits ↔
      MemberFits lib.toJsonLib obj keyJsonrpc jsonrpcArr ∧
      MemberFits lib.toJsonLib obj keyId idArr ∧
      (lib.getString obj keyId ≠ none →
        MemberFits lib.toJsonLib obj keyMethod methodArr ∧
        ((getJsonrpcMethod lib.toJsonLib sysmgrCallList obj).value ≠ none →
          MemberFits lib.toJsonLib obj keyAccess accessArr) ∧
        ∀ rpc, requestRpc lib obj = some rpc →
          ReadsShort lib jsonString rpc.reads ∧
          (host.pushAsyncTask = true → CommandLineShort host lib jsonString rpc)) := by
  unfold serve
  rw [jsonProcessRequest_of_some lib.toJsonLib sysmgrCallList hobj, processObject]
  simp only [Traced.fits_bind, Traced.value_bind, checkJsonrpc20_fits, getJsonrpcId_fits,
    getJsonrpcId_value, and_assoc]
  refine and_congr_right fun _ => and_congr_right fun _ => ?_
  simp only [requestRpc]
  cases lib.getString obj keyId with
  | none => simp
  | some idText =>
      simp only [Option.map_some, Traced.fits_bind, Traced.value_bind,
        getJsonrpcMethod_fits, ne_eq, reduceCtorEq,
        not_false_eq_true, forall_const, and_assoc]
      refine and_congr_right fun _ => ?_
      cases (getJsonrpcMethod lib.toJsonLib sysmgrCallList obj).value with
      | none => simp
      | some command =>
          simp only [Traced.fits_bind, Traced.value_bind, getJsonrpcAcc_fits,
            Traced.fits_pure, Traced.value_pure, reduceCtorEq,
            not_false_eq_true, forall_const, and_true]
          refine and_congr_right fun _ => ?_
          cases rpcOf command.methodIndex with
          | none => simp
          | some rpc => simp [callMapper_fits]

/-- The copies of a whole request. -/
theorem serve_fits_iff :
    (serve host lib jsonString).Fits ↔ ShortRequest host lib jsonString := by
  unfold ShortRequest
  cases hobj : requestObject lib.toJsonLib jsonString with
  | none =>
      obtain ⟨err, hreject⟩ :=
        jsonProcessRequest_of_none lib.toJsonLib sysmgrCallList hobj
      simp [serve, hreject]
  | some obj =>
      simp [serve_fits_of_some hobj]

/-- The answer to a request that has an object. -/
theorem serve_value_of_some
    {obj : J}
    (hobj : requestObject lib.toJsonLib jsonString = some obj) :
    (serve host lib jsonString).value =
      match (getJsonrpcId lib.toJsonLib obj).value with
      | none => .rejected .invalidReq
      | some _ =>
          match requestRpc lib obj with
          | none =>
              if (getJsonrpcMethod lib.toJsonLib sysmgrCallList obj).value = none then
                .rejected .methodNotFound
              else
                .paramError
          | some rpc => (callMapper host lib jsonString rpc).value := by
  unfold serve
  rw [jsonProcessRequest_of_some lib.toJsonLib sysmgrCallList hobj, processObject]
  simp only [Traced.value_bind, requestRpc]
  cases (getJsonrpcId lib.toJsonLib obj).value with
  | none => rfl
  | some reqId =>
      simp only [Traced.value_bind]
      cases (getJsonrpcMethod lib.toJsonLib sysmgrCallList obj).value with
      | none => rfl
      | some command =>
          simp only [Traced.value_bind, Traced.value_pure]
          cases rpcOf command.methodIndex <;> rfl

/-- A request without a readable id is answered with an error. -/
theorem serve_isError_of_id
    {obj : J}
    (hobj : requestObject lib.toJsonLib jsonString = some obj)
    (hid : lib.getString obj keyId = none) :
    (serve host lib jsonString).value.isError = true := by
  rw [serve_value_of_some hobj]
  simp [hid, Outcome.isError]

/-- A request for no command is answered with an error. -/
theorem serve_isError_of_rpc
    {obj : J}
    (hobj : requestObject lib.toJsonLib jsonString = some obj)
    (hrpc : requestRpc lib obj = none) :
    (serve host lib jsonString).value.isError = true := by
  rw [serve_value_of_some hobj, hrpc]
  cases (getJsonrpcId lib.toJsonLib obj).value with
  | none => rfl
  | some reqId =>
      simp only
      split <;> rfl

/-- A request whose mapper gives up is answered with an error. -/
theorem serve_isError_of_map
    {obj : J} {rpc : Rpc}
    (hobj : requestObject lib.toJsonLib jsonString = some obj)
    (hrpc : requestRpc lib obj = some rpc)
    (hmap : (mapJsonToBinary lib jsonString rpc.reads Packet.fresh).value = none) :
    (serve host lib jsonString).value.isError = true := by
  rw [serve_value_of_some hobj, hrpc]
  cases (getJsonrpcId lib.toJsonLib obj).value with
  | none => rfl
  | some reqId => simp [callMapper, hmap, Outcome.isError]

/-- In a short request, a value that is too long comes after the check that the
    request fails. -/
theorem serve_isError_of_longValue
    (hshort : ShortRequest host lib jsonString)
    (hlong : LongValue lib jsonString) :
    (serve host lib jsonString).value.isError = true := by
  cases hlong with
  | jsonrpc hobj hlong => exact absurd (hshort _ hobj).1 hlong
  | id hobj hlong => exact absurd (hshort _ hobj).2.1 hlong
  | @method obj hobj hlong =>
      by_cases hid : lib.getString obj keyId = none
      · exact serve_isError_of_id hobj hid
      · exact absurd ((hshort obj hobj).2.2 hid).1 hlong
  | @access obj hobj hlong =>
      by_cases hid : lib.getString obj keyId = none
      · exact serve_isError_of_id hobj hid
      by_cases hmethod : (getJsonrpcMethod lib.toJsonLib sysmgrCallList obj).value = none
      · exact serve_isError_of_rpc hobj (by simp [requestRpc, hmethod])
      · exact absurd (((hshort obj hobj).2.2 hid).2.1 hmethod) hlong
  | @param obj rpc read hobj hrpc hread hlong =>
      by_cases hid : lib.getString obj keyId = none
      · exact serve_isError_of_id hobj hid
      · have hreads := (((hshort obj hobj).2.2 hid).2.2 rpc hrpc).1
        exact serve_isError_of_map hobj hrpc
          (mapJsonToBinary_none_of_long lib jsonString hreads hread hlong Packet.fresh)

end ServeFits

/-- A request is served inside the arrays, and its long values are rejected,
    exactly when its texts are short. -/
theorem requestWithinBounds_iff
    {J : Type}
    (host : Host)
    (lib : ParamLib J)
    (jsonString : Bytes) :
    RequestWithinBounds host lib jsonString ↔ ShortRequest host lib jsonString := by
  constructor
  · rintro ⟨hfits, -⟩
    exact serve_fits_iff.mp hfits
  · intro hshort
    exact ⟨serve_fits_iff.mpr hshort, serve_isError_of_longValue hshort⟩

/-- An id of 256 characters. -/
def longId : Bytes :=
  List.replicate 256 97

/-- The text `{"id":"aaa...a"}`. -/
def longIdText : Bytes :=
  [123, 34, 105, 100, 34, 58, 34] ++ longId ++ [34, 125]

/-- The JSON functions on that text. -/
def longIdLib : ParamLib FlatJson where
  checker := fun t => t = longIdText
  tokenerParse := fun t => if t = longIdText then some [(keyId, longId)] else none
  getString := fun obj key => (obj.find? fun member => member.1 = key).map Prod.snd
  objectGet := fun _ _ => none

/-- A board with nothing attached. -/
def sampleHost : Host :=
  { boardType := .raspi3
    syscfgType := .unknown
    emulation := false
    pushAsyncTask := true
    networkInfo := fun _ => true
    ifconfigGrep := fun _ => true }

/-- The id of a request that fits the receive buffer and passes the checker is
    copied past the end of its array. -/
theorem not_requestWithinBounds_longId :
    longIdText.length < 0xffff ∧ longIdLib.checker longIdText = true ∧
      ¬ RequestWithinBounds sampleHost longIdLib longIdText := by
  have hobj : requestObject longIdLib.toJsonLib longIdText = some [(keyId, longId)] := by
    simp [requestObject, longIdLib, longIdText, openBracket]
  have hlength : longId.length = 256 := List.length_replicate
  refine ⟨?_, by simp [longIdLib], ?_⟩
  · simp only [longIdText, List.length_append, hlength]
    decide
  rintro ⟨hfits, -⟩
  have hid := ((serve_fits_of_some hobj).mp hfits).2.1 longId (by simp [longIdLib])
  rw [hlength] at hid
  exact absurd hid (by decide)

end Sysmgr
end BrBox
