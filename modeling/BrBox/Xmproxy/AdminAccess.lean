import BrBox.Xmproxy.CmdDispatch

/-!
# Commands for the admin only

The table asks for admin access in six rows, but the switch does not look at
that column: each handler checks the sender itself.  `proc_cmd_xmpshutdown`
does not.

`adminOnly_iff` says exactly when the access column is respected: the sender is
an admin, or no command of the message is `xmpshutdown`.
-/

namespace BrBox
namespace Xmproxy

open CText
open CxxText
open Adav

/-- The row of a command asks for admin access. -/
def adminCmd (cfg : Config) (cmd : Bytes) : Bool :=
  cfg.cmdTable.adminAccess (cfg.cmdTable.resolveCmdStr cmd)

/-- What a message of a sender without admin rights must not achieve. -/
structure Blocked
    (env : Environment) (s : XmppMgr) (msg sender : Bytes) : Prop where
  reply : ∀ (i : Nat) (cmd : Bytes), (commandsOf s.aliases.aliasList msg)[i]? = some cmd →
    adminCmd s.cfg cmd = true →
    (s.processMsg env msg sender).1[i]? = some (responseText .actionNotAllowed [])
  effect : ∀ pre cmd post,
    commandsOf s.aliases.aliasList msg = pre ++ cmd :: post →
    adminCmd s.cfg cmd = true →
    (runCmds (s.context env sender) (pre ++ [cmd]) s.proxy).2 =
      (runCmds (s.context env sender) pre s.proxy).2
  unchanged :
    (s.processMsg env msg sender).2.proxy =
      (runCmds (s.context env sender)
        ((commandsOf s.aliases.aliasList msg).filter fun cmd =>
          !adminCmd s.cfg cmd) s.proxy).2

/-- The access column is respected for a message. -/
def AdminOnly
    (env : Environment) (s : XmppMgr) (msg sender : Bytes) : Prop :=
  isAdminUser s.cfg sender = false → Blocked env s msg sender

/-- The commands of a list in two parts. -/
theorem runCmds_append
    (ctx : Context) (cmds cmds' : List Bytes) (p : Proxy) :
    runCmds ctx (cmds ++ cmds') p =
      ((runCmds ctx cmds p).1 ++ (runCmds ctx cmds' (runCmds ctx cmds p).2).1,
        (runCmds ctx cmds' (runCmds ctx cmds p).2).2) := by
  induction cmds generalizing p with
  | nil =>
      rfl
  | cons cmd cmds ih =>
      simp [runCmds, ih]

/-- Every command is answered. -/
theorem runCmds_length
    (ctx : Context) (cmds : List Bytes) (p : Proxy) :
    (runCmds ctx cmds p).1.length = cmds.length := by
  induction cmds generalizing p with
  | nil =>
      rfl
  | cons cmd cmds ih =>
      simp [runCmds, ih]

/-- The reply to a command in the middle of a list. -/
theorem runCmds_reply
    (ctx : Context) (pre : List Bytes) (cmd : Bytes) (post : List Bytes) (p : Proxy) :
    (runCmds ctx (pre ++ cmd :: post) p).1[pre.length]? =
      some (responseText
        (runCmd ctx cmd (runCmds ctx pre p).2).1
        (runCmd ctx cmd (runCmds ctx pre p).2).2.1) := by
  rw [runCmds_append, List.getElem?_append_right (by rw [runCmds_length]),
    runCmds_length]
  simp [runCmds]

/-- The proxy after one more command. -/
theorem runCmds_snoc
    (ctx : Context) (pre : List Bytes) (cmd : Bytes) (p : Proxy) :
    (runCmds ctx (pre ++ [cmd]) p).2 = (runCmd ctx cmd (runCmds ctx pre p).2).2.2 := by
  rw [runCmds_append]
  rfl

/-- The handlers with a check turn a sender without admin rights away. -/
theorem runCmd_blocked
    {ctx : Context} {cmd : Bytes}
    (hsender : isAdminUser ctx.cfg ctx.sender = false)
    (hadmin : adminCmd ctx.cfg cmd = true)
    (hcmd : ctx.cfg.cmdTable.resolveCmdStr cmd ≠ .shutdown)
    (p : Proxy) :
    runCmd ctx cmd p = (.actionNotAllowed, [], p) := by
  unfold adminCmd at hadmin
  rw [CmdTable.adminAccess_iff] at hadmin
  unfold runCmd
  generalize ctx.cfg.cmdTable.resolveCmdStr cmd = c at hadmin hcmd
  simp only [List.mem_cons, List.not_mem_nil, or_false] at hadmin
  rcases hadmin with rfl | rfl | rfl | rfl | rfl | rfl
  · exact absurd rfl hcmd
  · simp [handlerOf, procCmdBuddyAdd, buddyCmd, hsender]
  · simp [handlerOf, procCmdBuddyRemove, buddyCmd, hsender]
  · simp [handlerOf, procCmdBuddySubscribe, buddyCmd, hsender]
  · simp [handlerOf, procCmdBuddyUnsubscribe, buddyCmd, hsender]
  · simp [handlerOf, procCmdRelayMessage, hsender]

/-- Blocked commands can be left out. -/
theorem runCmds_filter
    {ctx : Context}
    (hsender : isAdminUser ctx.cfg ctx.sender = false)
    {cmds : List Bytes}
    (hcmds : ∀ cmd ∈ cmds, ctx.cfg.cmdTable.resolveCmdStr cmd ≠ .shutdown)
    (p : Proxy) :
    (runCmds ctx cmds p).2 =
      (runCmds ctx (cmds.filter fun cmd => !adminCmd ctx.cfg cmd) p).2 := by
  induction cmds generalizing p with
  | nil =>
      rfl
  | cons cmd cmds ih =>
      have htail := ih fun c hc => hcmds c (by simp [hc])
      by_cases hadmin : adminCmd ctx.cfg cmd = true
      · have hblocked := runCmd_blocked hsender hadmin (hcmds cmd (by simp)) p
        simp only [List.filter_cons, hadmin, Bool.not_true]
        simp only [runCmds, hblocked]
        exact htail p
      · simp only [List.filter_cons, hadmin, Bool.not_false, if_true, runCmds]
        exact htail _

/-- The shutdown command is either told that its host cannot be reached or
makes its call, whoever sent it. -/
theorem runCmd_shutdown
    {ctx : Context} {cmd : Bytes}
    (hcmd : ctx.cfg.cmdTable.resolveCmdStr cmd = .shutdown) (p : Proxy) :
    runCmd ctx cmd p = (.hostNotReachableErr, [], p) ∨
      (runCmd ctx cmd p).2.2.outgoing =
        p.outgoing ++ [.rpc portXmproxy (text "trigger_shutdown") []] := by
  unfold runCmd
  rw [hcmd]
  simp only [handlerOf, procCmdXmpshutdown, asyncRpc, withRpc]
  split
  · right
    rw [finishAsync_outgoing]
    rfl
  · exact Or.inl rfl

theorem processMsg_replies
    (env : Environment) (s : XmppMgr) (msg sender : Bytes)
    (hmsg : isAliasMsg msg = false) :
    (s.processMsg env msg sender).1 =
      (runCmds (s.context env sender)
        (commandsOf s.aliases.aliasList msg) s.proxy).1 := by
  simp [XmppMgr.processMsg, hmsg]

theorem processMsg_proxy
    (env : Environment) (s : XmppMgr) (msg sender : Bytes) :
    (s.processMsg env msg sender).2.proxy =
      (runCmds (s.context env sender)
        (commandsOf s.aliases.aliasList msg) s.proxy).2 := by
  unfold XmppMgr.processMsg
  cases hmsg : isAliasMsg msg with
  | true =>
      simp [commandsOf, hmsg, runCmds]
  | false =>
      simp

/-- A message with commands is not an alias definition. -/
theorem isAliasMsg_of_mem_commandsOf
    {aliasList : AliasMap} {msg cmd : Bytes}
    (hcmd : cmd ∈ commandsOf aliasList msg) :
    isAliasMsg msg = false := by
  cases hmsg : isAliasMsg msg with
  | true =>
      simp [commandsOf, hmsg] at hcmd
  | false =>
      rfl

/-- Without a shutdown command everything for the admin is blocked. -/
theorem blocked_of_no_shutdown
    {env : Environment} {s : XmppMgr} {msg sender : Bytes}
    (hsender : isAdminUser s.cfg sender = false)
    (hcmds : ∀ cmd ∈ commandsOf s.aliases.aliasList msg,
      s.cfg.cmdTable.resolveCmdStr cmd ≠ .shutdown) :
    Blocked env s msg sender := by
  have hblocked : ∀ cmd ∈ commandsOf s.aliases.aliasList msg,
      adminCmd s.cfg cmd = true → ∀ p,
        runCmd (s.context env sender) cmd p = (.actionNotAllowed, [], p) := by
    intro cmd hmem hadmin p
    exact runCmd_blocked hsender hadmin (hcmds cmd hmem) p
  constructor
  · intro i cmd hget hadmin
    obtain ⟨pre, post, hsplit, rfl, -⟩ := Slots.split_at hget
    have hmem : cmd ∈ commandsOf s.aliases.aliasList msg :=
      List.mem_of_getElem? hget
    rw [processMsg_replies env s msg sender (isAliasMsg_of_mem_commandsOf hmem),
      hsplit, runCmds_reply, hblocked cmd hmem hadmin]
  · intro pre cmd post hsplit hadmin
    rw [runCmds_snoc, hblocked cmd (by simp [hsplit]) hadmin]
  · rw [processMsg_proxy]
    have hsender' : isAdminUser (s.context env sender).cfg
        (s.context env sender).sender = false := hsender
    exact runCmds_filter hsender' hcmds s.proxy

/-- The access column is respected exactly if the sender is an admin or no
command of the message is `xmpshutdown`. -/
theorem adminOnly_iff
    (env : Environment) (s : XmppMgr) (msg sender : Bytes) :
    AdminOnly env s msg sender ↔
      isAdminUser s.cfg sender = true ∨
        ∀ cmd ∈ commandsOf s.aliases.aliasList msg,
          s.cfg.cmdTable.resolveCmdStr cmd ≠ .shutdown := by
  constructor
  · intro honly
    cases hsender : isAdminUser s.cfg sender with
    | true =>
        exact Or.inl rfl
    | false =>
        right
        intro cmd hmem hcmd
        have hblocked := honly hsender
        obtain ⟨pre, post, hsplit⟩ := List.append_of_mem hmem
        have hadmin : adminCmd s.cfg cmd = true := by
          unfold adminCmd
          rw [CmdTable.adminAccess_iff, hcmd]
          simp
        have hcmd' : (s.context env sender).cfg.cmdTable.resolveCmdStr cmd =
            .shutdown := hcmd
        rcases runCmd_shutdown hcmd' (runCmds (s.context env sender) pre s.proxy).2 with
          hhost | hcall
        · have hreply := hblocked.reply pre.length cmd (by simp [hsplit]) hadmin
          rw [processMsg_replies env s msg sender
            (isAliasMsg_of_mem_commandsOf hmem), hsplit, runCmds_reply,
            hhost] at hreply
          have hne : responseText .hostNotReachableErr [] ≠
              responseText .actionNotAllowed [] := by
            decide
          exact hne (Option.some.inj hreply)
        · have heffect := hblocked.effect pre cmd post hsplit hadmin
          rw [runCmds_snoc] at heffect
          rw [heffect] at hcall
          simpa using congrArg List.length hcall
  · rintro (hadmin | hcmds) hsender
    · rw [hadmin] at hsender
      cases hsender
    · exact blocked_of_no_shutdown hsender hcmds

/-- A buddy without admin rights shuts the proxy down. -/
theorem not_adminOnly_xmpshutdown :
    ¬ AdminOnly sampleEnvironment sampleMgr (text "XmpShutdown") (text "eve@x") := by
  intro honly
  have heffect := (honly (by decide)).effect [] (text "xmpshutdown") []
    (by decide) (by decide)
  revert heffect
  decide

end Xmproxy
end BrBox
