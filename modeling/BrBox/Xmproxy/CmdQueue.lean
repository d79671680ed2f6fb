import BrBox.Lib.LabelledRun
import BrBox.Xmproxy.CmdDispatch
import Mathlib.Data.List.Infix

/-!
# The command queue

`onXmppMessage` runs in the thread of the chat client.  It answers some messages
itself; every other one it appends to `processCmd` and wakes the command thread
through the counting semaphore of `ADThread`.  The command thread waits for the
semaphore and then works through the queue.  It leaves the loop when the queue
is empty, but also after every alias definition, so wake-ups and messages do
not match one to one.

* `SemaBound` is the invariant: a waiting thread has a wake-up, given or about
  to be given, for every message in the queue.
* `queueOk_run`: every message is processed once and in order, and nothing is
  left in the queue when the thread sleeps and no wake-up is on its way.
-/

namespace BrBox
namespace Xmproxy

open CText
open CxxText
open Adav
open LabelledRun

/-! ## The two threads -/

/-- `XmppCmdEntry`. -/
structure XmppCmdEntry where
  cmdMsg : Bytes
  sender : Bytes
deriving DecidableEq, Repr

/-- The chat client: outside `onXmppMessage`, or between the append and the
wake-up. -/
inductive ChatPc where
  | idle
  | wakeup
deriving DecidableEq, Repr

/-- The command thread: in `sem_wait`, at the head of the loop, with a copy of
the first entry, and before that entry is removed. -/
inductive CmdThreadPc where
  | waiting
  | testEmpty
  | process (cmd : XmppCmdEntry)
  | popFront (cmd : XmppCmdEntry)
deriving DecidableEq, Repr

/-- The proxy, its queue and its two threads.  `queued` and `processed` are the
histories of the queue and of the command thread. -/
structure CmdQueue where
  mgr : XmppMgr
  processCmd : List XmppCmdEntry
  oneShotSema : Nat
  chatPc : ChatPc
  cmdPc : CmdThreadPc
  responseMsg : Bytes
  chatReplies : List (Bytes × Bytes)
  cmdReplies : List (Bytes × Bytes)
  queued : List XmppCmdEntry
  processed : List XmppCmdEntry

/-- The address of the AI agent, empty if there is none, and what it answers. -/
structure AiAgent where
  aiAgentUrl : Bytes
  generateAiResponse : Bytes → Bytes

/-- One step: a message arrives, the chat client wakes the command thread, or
the command thread moves. -/
inductive QueueLabel where
  | message (msg sender : Bytes)
  | wakeup
  | cmdThread
deriving DecidableEq, Repr

namespace CmdQueue

/-- Both threads have been started. -/
def initial (mgr : XmppMgr) : CmdQueue :=
  { mgr := mgr
    processCmd := []
    oneShotSema := 0
    chatPc := .idle
    cmdPc := .waiting
    responseMsg := []
    chatReplies := []
    cmdReplies := []
    queued := []
    processed := [] }

/-- `onXmppMessage` up to its wake-up. -/
def onXmppMessage
    (ai : AiAgent) (s : CmdQueue) (msg sender : Bytes) : CmdQueue :=
  if msg = text "Echo" ∨ msg = text "echo" then
    { s with chatReplies := s.chatReplies ++ [(msg, sender)] }
  else if msg = text "Help" ∨ msg = text "help" then
    { s with chatReplies := s.chatReplies ++ [(s.mgr.cfg.cmdTable.printHelp, sender)] }
  else if text "return=" <:+: msg then
    { s with responseMsg := msg }
  else if ai.aiAgentUrl ≠ [] then
    { s with chatReplies := s.chatReplies ++ [(ai.generateAiResponse msg, sender)] }
  else
    { s with
      processCmd := s.processCmd ++ [⟨msg, sender⟩]
      chatPc := .wakeup
      queued := s.queued ++ [⟨msg, sender⟩] }

/-- `wakeup_thread`. -/
def wakeupThread (s : CmdQueue) : CmdQueue :=
  { s with oneShotSema := s.oneShotSema + 1, chatPc := .idle }

/-- `my_thread_func` and `monoshot_callback_function`. -/
def cmdThread (env : Environment) (s : CmdQueue) : Option CmdQueue :=
  match s.cmdPc with
  | .waiting =>
      if 0 < s.oneShotSema then
        some { s with oneShotSema := s.oneShotSema - 1, cmdPc := .testEmpty }
      else
        none
  | .testEmpty =>
      match s.processCmd with
      | [] => some { s with cmdPc := .waiting }
      | cmd :: _ => some { s with cmdPc := .process cmd }
  | .process cmd =>
      let outcome := s.mgr.processMsg env cmd.cmdMsg cmd.sender
      some
        { s with
          mgr := outcome.2
          cmdReplies := s.cmdReplies ++ outcome.1.map fun reply => (reply, cmd.sender)
          cmdPc := .popFront cmd
          processed := s.processed ++ [cmd] }
  | .popFront cmd =>
      -- an alias definition leaves the callback at once
      some
        { s with
          processCmd := s.processCmd.tail
          cmdPc := if isAliasMsg cmd.cmdMsg then .waiting else .testEmpty }

/-- One step. -/
def step (env : Environment) (ai : AiAgent) (s : CmdQueue) :
    QueueLabel → Option CmdQueue
  | .message msg sender =>
      match s.chatPc with
      | .idle => some (s.onXmppMessage ai msg sender)
      | .wakeup => none
  | .wakeup =>
      match s.chatPc with
      | .idle => none
      | .wakeup => some s.wakeupThread
  | .cmdThread => s.cmdThread env

end CmdQueue

/-! ## What is promised -/

/-- The replies to messages processed one after the other, and the proxy after
them. -/
def processAll (env : Environment) :
    List XmppCmdEntry → XmppMgr → List (Bytes × Bytes) × XmppMgr
  | [], mgr => ([], mgr)
  | cmd :: cmds, mgr =>
      let outcome := mgr.processMsg env cmd.cmdMsg cmd.sender
      let rest := processAll env cmds outcome.2
      ((outcome.1.map fun reply => (reply, cmd.sender)) ++ rest.1, rest.2)

/-- Every message is processed once and in order: the effects so far are those
of a first part of the messages, nothing is left in the queue when both threads
are at rest, and without further messages everything gets processed. -/
structure QueueOk
    (env : Environment) (ai : AiAgent) (mgr : XmppMgr) (s : CmdQueue) : Prop where
  ordered : s.processed <+: s.queued
  effects : (s.cmdReplies, s.mgr) = processAll env s.processed mgr
  drained : s.oneShotSema = 0 → s.cmdPc = .waiting → s.chatPc = .idle →
    s.processCmd = [] ∧ s.processed = s.queued
  completed : ∃ ls t, (∀ l ∈ ls, l = .wakeup ∨ l = .cmdThread) ∧
    run (CmdQueue.step env ai) s ls = some t ∧
    t.queued = s.queued ∧ t.processed = s.queued ∧ t.processCmd = [] ∧
    t.oneShotSema = 0 ∧ t.cmdPc = .waiting ∧ t.chatPc = .idle

/-! ## What a step does -/

/-- The steps, with their guards and their effects. -/
inductive QueueMove (env : Environment) (s : CmdQueue) : QueueLabel → CmdQueue → Prop where
  | answer {msg sender : Bytes} (responseMsg : Bytes) (chatReplies : List (Bytes × Bytes))
      (hchat : s.chatPc = .idle) :
      QueueMove env s (.message msg sender)
        { s with responseMsg := responseMsg, chatReplies := chatReplies }
  | push {msg sender : Bytes}
      (hchat : s.chatPc = .idle) :
      QueueMove env s (.message msg sender)
        { s with
          processCmd := s.processCmd ++ [⟨msg, sender⟩]
          chatPc := .wakeup
          queued := s.queued ++ [⟨msg, sender⟩] }
  | wakeup
      (hchat : s.chatPc = .wakeup) :
      QueueMove env s .wakeup
        { s with oneShotSema := s.oneShotSema + 1, chatPc := .idle }
  | semWait
      (hpc : s.cmdPc = .waiting)
      (hsema : 0 < s.oneShotSema) :
      QueueMove env s .cmdThread
        { s with oneShotSema := s.oneShotSema - 1, cmdPc := .testEmpty }
  | empty
      (hpc : s.cmdPc = .testEmpty)
      (hqueue : s.processCmd = []) :
      QueueMove env s .cmdThread { s with cmdPc := .waiting }
  | front (cmd : XmppCmdEntry) (rest : List XmppCmdEntry)
      (hpc : s.cmdPc = .testEmpty)
      (hqueue : s.processCmd = cmd :: rest) :
      QueueMove env s .cmdThread { s with cmdPc := .process cmd }
  | process (cmd : XmppCmdEntry)
      (hpc : s.cmdPc = .process cmd) :
      QueueMove env s .cmdThread
        { s with
          mgr := (s.mgr.processMsg env cmd.cmdMsg cmd.sender).2
          cmdReplies := s.cmdReplies ++
            (s.mgr.processMsg env cmd.cmdMsg cmd.sender).1.map
              fun reply => (reply, cmd.sender)
          cmdPc := .popFront cmd
          processed := s.processed ++ [cmd] }
  | popFront (cmd : XmppCmdEntry)
      (hpc : s.cmdPc = .popFront cmd) :
      QueueMove env s .cmdThread
        { s with
          processCmd := s.processCmd.tail
          cmdPc := if isAliasMsg cmd.cmdMsg then .waiting else .testEmpty }

/-- Every step is one of these. -/
theorem CmdQueue.step_move
    {env : Environment} {ai : AiAgent} {s t : CmdQueue} {l : QueueLabel}
    (hstep : s.step env ai l = some t) :
    QueueMove env s l t := by
  cases l with
  | message msg sender =>
      simp only [CmdQueue.step] at hstep
      split at hstep
      next hchat =>
        obtain rfl := Option.some.inj hstep
        unfold CmdQueue.onXmppMessage
        split
        next => exact .answer _ _ hchat
        next =>
          split
          next => exact .answer _ _ hchat
          next =>
            split
            next => exact .answer _ _ hchat
            next =>
              split
              next => exact .answer _ _ hchat
              next => exact .push hchat
      next => cases hstep
  | wakeup =>
      simp only [CmdQueue.step] at hstep
      split at hstep
      next => cases hstep
      next hchat =>
        obtain rfl := Option.some.inj hstep
        exact .wakeup hchat
  | cmdThread =>
      simp only [CmdQueue.step, CmdQueue.cmdThread] at hstep
      split at hstep
      next hpc =>
        split at hstep
        next hsema =>
          obtain rfl := Option.some.inj hstep
          exact .semWait hpc hsema
        next => cases hstep
      next hpc =>
        split at hstep
        next hqueue =>
          obtain rfl := Option.some.inj hstep
          exact .empty hpc hqueue
        next cmd rest hqueue =>
          obtain rfl := Option.some.inj hstep
          exact .front cmd rest hpc hqueue
      next cmd hpc =>
        obtain rfl := Option.some.inj hstep
        exact .process cmd hpc
      next cmd hpc =>
        obtain rfl := Option.some.inj hstep
        exact .popFront cmd hpc

/-! ## The invariant -/

/-- A wake-up that the chat client is about to give. -/
def ChatPc.pending : ChatPc → Nat
  | .idle => 0
  | .wakeup => 1

/-- The wake-up that the command thread is using. -/
def CmdThreadPc.inUse : CmdThreadPc → Nat
  | .waiting => 0
  | _ => 1

/-- Every message in the queue has a wake-up of its own. -/
def SemaBound (s : CmdQueue) : Prop :=
  s.processCmd.length ≤ s.oneShotSema + s.chatPc.pending + s.cmdPc.inUse

/-- The messages in the queue that have not been processed. -/
def CmdQueue.unprocessed (s : CmdQueue) : List XmppCmdEntry :=
  match s.cmdPc with
  | .popFront _ => s.processCmd.tail
  | _ => s.processCmd

/-- The entry that the command thread holds is the first of the queue. -/
def CmdQueue.HoldsFront (s : CmdQueue) : Prop :=
  match s.cmdPc with
  | .process cmd => s.processCmd.head? = some cmd
  | .popFront cmd => s.processCmd.head? = some cmd
  | _ => True

/-- What holds in every state of a run. -/
structure QueueInv (env : Environment) (mgr : XmppMgr) (s : CmdQueue) : Prop where
  holds : s.HoldsFront
  history : s.queued = s.processed ++ s.unprocessed
  effects : (s.cmdReplies, s.mgr) = processAll env s.processed mgr
  sema : SemaBound s

/-- One more message. -/
theorem processAll_snoc
    (env : Environment) (cmds : List XmppCmdEntry) (cmd : XmppCmdEntry)
    (mgr : XmppMgr) :
    processAll env (cmds ++ [cmd]) mgr =
      ((processAll env cmds mgr).1 ++
        ((processAll env cmds mgr).2.processMsg env cmd.cmdMsg cmd.sender).1.map
          (fun reply => (reply, cmd.sender)),
        ((processAll env cmds mgr).2.processMsg env cmd.cmdMsg cmd.sender).2) := by
  induction cmds generalizing mgr with
  | nil =>
      simp [processAll]
  | cons c cmds ih =>
      simp [processAll, ih]

namespace QueueInv

variable {env : Environment}
variable {mgr : XmppMgr}
variable {s t : CmdQueue}

/-- Nothing has arrived. -/
theorem initial
    (env : Environment) (mgr : XmppMgr) :
    QueueInv env mgr (CmdQueue.initial mgr) := by
  constructor
  · trivial
  · rfl
  · rfl
  · simp [SemaBound, CmdQueue.initial]

/-- A step keeps the thread's entry at the front. -/
theorem holds_move
    {l : QueueLabel} (hinv : QueueInv env mgr s) (hmove : QueueMove env s l t) :
    t.HoldsFront := by
  have hholds := hinv.holds
  cases hmove with
  | answer responseMsg chatReplies hchat =>
      exact hholds
  | push hchat =>
      revert hholds
      unfold CmdQueue.HoldsFront
      cases s.cmdPc with
      | waiting | testEmpty =>
          exact id
      | process cmd | popFront cmd =>
          intro hhead
          simp [List.head?_append, hhead]
  | wakeup hchat =>
      exact hholds
  | semWait hpc hsema =>
      trivial
  | empty hpc hqueue =>
      trivial
  | front cmd rest hpc hqueue =>
      simp [CmdQueue.HoldsFront, hqueue]
  | process cmd hpc =>
      simpa [CmdQueue.HoldsFront, hpc] using hholds
  | popFront cmd hpc =>
      unfold CmdQueue.HoldsFront
      cases isAliasMsg cmd.cmdMsg with
      | true | false =>
          trivial

/-- A step processes the first unprocessed message or none. -/
theorem history_move
    {l : QueueLabel} (hinv : QueueInv env mgr s) (hmove : QueueMove env s l t) :
    t.queued = t.processed ++ t.unprocessed := by
  have hhistory := hinv.history
  have hholds := hinv.holds
  cases hmove with
  | answer responseMsg chatReplies hchat =>
      exact hhistory
  | push hchat =>
      simp only [hhistory, List.append_assoc, List.append_cancel_left_eq]
      revert hholds
      unfold CmdQueue.HoldsFront CmdQueue.unprocessed
      cases s.cmdPc with
      | waiting | testEmpty | process cmd =>
          intro _
          rfl
      | popFront cmd =>
          intro hhead
          obtain ⟨rest, hqueue⟩ := List.head?_eq_some_iff.mp hhead
          simp [hqueue]
  | wakeup hchat =>
      exact hhistory
  | semWait hpc hsema =>
      simpa [CmdQueue.unprocessed, hpc] using hhistory
  | empty hpc hqueue =>
      simpa [CmdQueue.unprocessed, hpc] using hhistory
  | front cmd rest hpc hqueue =>
      simpa [CmdQueue.unprocessed, hpc] using hhistory
  | process cmd hpc =>
      simp only [CmdQueue.HoldsFront, hpc] at hholds
      obtain ⟨rest, hqueue⟩ := List.head?_eq_some_iff.mp hholds
      simp only [CmdQueue.unprocessed, hpc, hqueue] at hhistory
      simp [CmdQueue.unprocessed, hqueue, hhistory]
  | popFront cmd hpc =>
      simp only [CmdQueue.unprocessed, hpc] at hhistory
      rw [hhistory]
      unfold CmdQueue.unprocessed
      cases isAliasMsg cmd.cmdMsg with
      | true | false =>
          rfl

/-- A step has the effects of the message it processes. -/
theorem effects_move
    {l : QueueLabel} (hinv : QueueInv env mgr s) (hmove : QueueMove env s l t) :
    (t.cmdReplies, t.mgr) = processAll env t.processed mgr := by
  have heffects := hinv.effects
  cases hmove with
  | process cmd hpc =>
      rw [processAll_snoc, ← heffects]
  | _ =>
      exact heffects

/-- A step uses a wake-up only with a message or an empty queue. -/
theorem sema_move
    {l : QueueLabel} (hinv : QueueInv env mgr s) (hmove : QueueMove env s l t) :
    SemaBound t := by
  have hsema := hinv.sema
  unfold SemaBound at hsema ⊢
  cases hmove with
  | answer responseMsg chatReplies hchat =>
      exact hsema
  | push hchat =>
      simp only [hchat, ChatPc.pending, List.length_append, List.length_cons,
        List.length_nil] at hsema ⊢
      omega
  | wakeup hchat =>
      simp only [hchat, ChatPc.pending] at hsema ⊢
      omega
  | semWait hpc hpos =>
      simp only [hpc, CmdThreadPc.inUse] at hsema ⊢
      omega
  | empty hpc hqueue =>
      simp [hqueue]
  | front cmd rest hpc hqueue =>
      simpa [hpc, CmdThreadPc.inUse] using hsema
  | process cmd hpc =>
      simpa [hpc, CmdThreadPc.inUse] using hsema
  | popFront cmd hpc =>
      simp only [hpc, CmdThreadPc.inUse, List.length_tail] at hsema ⊢
      omega

/-- Every step keeps the invariant. -/
theorem move
    {l : QueueLabel} (hinv : QueueInv env mgr s) (hmove : QueueMove env s l t) :
    QueueInv env mgr t :=
  ⟨hinv.holds_move hmove, hinv.history_move hmove, hinv.effects_move hmove,
    hinv.sema_move hmove⟩

/-- A waiting thread without a wake-up has nothing to do. -/
theorem drained
    (hinv : QueueInv env mgr s)
    (hsema : s.oneShotSema = 0) (hpc : s.cmdPc = .waiting) (hchat : s.chatPc = .idle) :
    s.processCmd = [] ∧ s.processed = s.queued := by
  have hbound := hinv.sema
  simp only [SemaBound, hsema, hchat, hpc, ChatPc.pending, CmdThreadPc.inUse] at hbound
  have hempty : s.processCmd = [] := by
    apply List.eq_nil_of_length_eq_zero
    omega
  refine ⟨hempty, ?_⟩
  simp [hinv.history, CmdQueue.unprocessed, hpc, hempty]

end QueueInv

/-! ## Everything gets processed -/

/-- The steps that the position of the command thread still costs. -/
def CmdThreadPc.work : CmdThreadPc → Nat
  | .waiting => 0
  | .testEmpty => 3
  | .process _ => 2
  | .popFront _ => 1

/-- A bound for the steps until both threads are at rest. -/
def CmdQueue.work (s : CmdQueue) : Nat :=
  3 * s.processCmd.length + 4 * s.oneShotSema + 5 * s.chatPc.pending + s.cmdPc.work

/-- No thread has anything to do. -/
def CmdQueue.AtRest (s : CmdQueue) : Prop :=
  s.oneShotSema = 0 ∧ s.cmdPc = .waiting ∧ s.chatPc = .idle

/-- The command thread moves unless it waits for a wake-up. -/
theorem QueueInv.cmdThread_progress
    {env : Environment} {mgr : XmppMgr} {s : CmdQueue} (hinv : QueueInv env mgr s)
    (hbusy : ¬ (s.oneShotSema = 0 ∧ s.cmdPc = .waiting)) :
    ∃ t, s.cmdThread env = some t ∧ t.queued = s.queued ∧ t.work < s.work := by
  have hholds := hinv.holds
  unfold CmdQueue.cmdThread
  cases hpc : s.cmdPc with
  | waiting =>
      have hsema : 0 < s.oneShotSema := by
        have hne : ¬ s.oneShotSema = 0 := fun h => hbusy ⟨h, hpc⟩
        omega
      simp only [hsema, if_true]
      refine ⟨_, rfl, rfl, ?_⟩
      simp only [CmdQueue.work, hpc, CmdThreadPc.work]
      omega
  | testEmpty =>
      cases hqueue : s.processCmd with
      | nil =>
          refine ⟨_, rfl, rfl, ?_⟩
          simp [CmdQueue.work, hpc, hqueue, CmdThreadPc.work]
      | cons cmd rest =>
          refine ⟨_, rfl, rfl, ?_⟩
          simp [CmdQueue.work, hpc, hqueue, CmdThreadPc.work]
  | process cmd =>
      refine ⟨_, rfl, rfl, ?_⟩
      simp [CmdQueue.work, hpc, CmdThreadPc.work]
  | popFront cmd =>
      simp only [CmdQueue.HoldsFront, hpc] at hholds
      obtain ⟨rest, hqueue⟩ := List.head?_eq_some_iff.mp hholds
      refine ⟨_, rfl, rfl, ?_⟩
      simp only [CmdQueue.work, hpc, hqueue, List.tail_cons, List.length_cons,
        CmdThreadPc.work]
      cases isAliasMsg cmd.cmdMsg with
      | true =>
          simp only [if_true]
          omega
      | false =>
          simp only [Bool.false_eq_true, if_false]
          omega

/-- A state that is not at rest has a step towards it. -/
theorem QueueInv.progress
    {env : Environment} (ai : AiAgent) {mgr : XmppMgr} {s : CmdQueue}
    (hinv : QueueInv env mgr s) (hbusy : ¬ s.AtRest) :
    ∃ l t, (l = .wakeup ∨ l = .cmdThread) ∧ s.step env ai l = some t ∧
      t.queued = s.queued ∧ t.work < s.work := by
  cases hchat : s.chatPc with
  | wakeup =>
      refine ⟨.wakeup, s.wakeupThread, Or.inl rfl, by simp [CmdQueue.step, hchat], rfl, ?_⟩
      simp only [CmdQueue.work, CmdQueue.wakeupThread, hchat, ChatPc.pending]
      omega
  | idle =>
      have hthread : ¬ (s.oneShotSema = 0 ∧ s.cmdPc = .waiting) := by
        intro h
        exact hbusy ⟨h.1, h.2, hchat⟩
      obtain ⟨t, hstep, hqueued, hwork⟩ := hinv.cmdThread_progress hthread
      exact ⟨.cmdThread, t, Or.inr rfl, hstep, hqueued, hwork⟩

/-- Without further messages both threads come to rest. -/
theorem QueueInv.exists_atRest
    {env : Environment} (ai : AiAgent) {mgr : XmppMgr} {s : CmdQueue}
    (hinv : QueueInv env mgr s) :
    ∃ ls t, (∀ l ∈ ls, l = .wakeup ∨ l = .cmdThread) ∧
      run (CmdQueue.step env ai) s ls = some t ∧
      (QueueInv env mgr t ∧ t.queued = s.queued) ∧ t.AtRest := by
  refine exists_run_of_measure CmdQueue.work ?_ s ⟨hinv, rfl⟩
  rintro u ⟨hu, hqueued⟩ hbusy
  obtain ⟨l, t, hl, hstep, hsame, hwork⟩ := hu.progress ai hbusy
  exact ⟨l, t, hl, hstep, ⟨hu.move (CmdQueue.step_move hstep), hsame.trans hqueued⟩,
    hwork⟩

/-- Every queued message is processed once, in order, and none is left behind. -/
theorem queueOk_run
    (env : Environment) (ai : AiAgent) (mgr : XmppMgr)
    {ls : List QueueLabel} {s : CmdQueue}
    (hrun : run (CmdQueue.step env ai) (CmdQueue.initial mgr) ls = some s) :
    QueueOk env ai mgr s := by
  have hinv : QueueInv env mgr s := by
    refine run_invariant ?_ (QueueInv.initial env mgr) hrun
    intro s l t hinv hstep
    exact hinv.move (CmdQueue.step_move hstep)
  constructor
  · rw [hinv.history]
    exact List.prefix_append _ _
  · exact hinv.effects
  · exact hinv.drained
  · obtain ⟨ls, t, hls, hrun', ⟨hinv', hqueued⟩, hsema, hpc, hchat⟩ :=
      hinv.exists_atRest ai
    obtain ⟨hempty, hprocessed⟩ := hinv'.drained hsema hpc hchat
    exact ⟨ls, t, hls, hrun', hqueued, hprocessed.trans hqueued, hempty, hsema, hpc,
      hchat⟩

/-- No agent. -/
def noAgent : AiAgent :=
  { aiAgentUrl := []
    generateAiResponse := fun _ => [] }

/-- An alias is defined and used before the first wake-up; the definition ends
the first callback with the second message in the queue. -/
def aliasThenUse : List QueueLabel :=
  [ .message (text "alias up=uptime") (text "a@x"), .wakeup,
    .message (text "up") (text "a@x"), .cmdThread, .cmdThread, .cmdThread,
    .cmdThread, .wakeup ]

theorem queueOk_aliasThenUse :
    ∃ s, run (CmdQueue.step sampleEnvironment noAgent) (CmdQueue.initial sampleMgr)
        aliasThenUse = some s ∧
      (s.cmdPc, s.processCmd) = (.waiting, [⟨text "up", text "a@x"⟩]) ∧
      QueueOk sampleEnvironment noAgent sampleMgr s := by
  have hlast : (run (CmdQueue.step sampleEnvironment noAgent)
      (CmdQueue.initial sampleMgr) aliasThenUse).map
        (fun s => (s.cmdPc, s.processCmd)) =
      some (.waiting, [⟨text "up", text "a@x"⟩]) := by
    decide +kernel
  obtain ⟨s, hrun, hs⟩ := Option.map_eq_some_iff.mp hlast
  exact ⟨s, hrun, hs, queueOk_run sampleEnvironment noAgent sampleMgr hrun⟩

/-- Between the append and the wake-up the thread waits beside a message. -/
theorem not_empty_before_wakeup :
    ∃ s, run (CmdQueue.step sampleEnvironment noAgent) (CmdQueue.initial sampleMgr)
        [.message (text "uptime") (text "a@x")] = some s ∧
      s.oneShotSema = 0 ∧ s.cmdPc = .waiting ∧ s.processCmd ≠ [] := by
  have hlast : (run (CmdQueue.step sampleEnvironment noAgent)
      (CmdQueue.initial sampleMgr) [.message (text "uptime") (text "a@x")]).map
        (fun s => (s.oneShotSema, s.cmdPc, s.processCmd)) =
      some (0, .waiting, [⟨text "uptime", text "a@x"⟩]) := by
    decide +kernel
  obtain ⟨s, hrun, hs⟩ := Option.map_eq_some_iff.mp hlast
  simp only [Prod.mk.injEq] at hs
  exact ⟨s, hrun, hs.1, hs.2.1, by simp [hs.2.2]⟩

end Xmproxy
end BrBox
