import BrBox.Lib.Slots
import BrBox.Xmproxy.XmppMgr
import Mathlib.Data.List.Induction

/-!
# Event subscriptions

`eventgsm` and `eventgpio` let a buddy subscribe to events.  `myEventList` keeps
an entry after it was disabled; the list file holds the enabled ones.  A new
entry is appended to the file, any other change has it written again.

* `writeStatus_spec`: one write changes the entry of its key and no other.
* `subscriptionsKept_run_iff`: the list, the file and the events agree with the
  last write of every key, in every state on the way, exactly when no `eventgsm`
  turns its event on through an alias.  Its argument is the only one that is not
  expanded.
-/

namespace BrBox
namespace Xmproxy

open CText
open CxxText
open Adav

/-! ## The list and its file -/

/-- `EXMPP_EVNT_TYPES_TABL`. -/
def evntTypeText : EvntType → Bytes
  | .gsm => text "gsm"
  | .gpio => text "gpio"
  | .unknown => text "unknown"
  | .none => text "none"

/-- `FindEventSubscrEntry`. -/
def findEventSubscrEntry
    (addr : Bytes) (arg : Int) (type : EvntType) (e : EventSubscrEntry) : Bool :=
  match e.evntType with
  | .gsm => e.subscriber = addr ∧ e.evntType = type
  | .gpio => e.subscriber = addr ∧ e.evntArg = arg ∧ e.evntType = type
  | _ => false

/-- A line of the list file. -/
def subscrLine (addr : Bytes) (type : EvntType) (arg : Int) : Bytes :=
  endLine (addr ++ [32] ++ evntTypeText type ++ [32] ++ decimalText arg)

/-- `ExtendEventSubscrList`. -/
def extendEventSubscrList
    (path addr : Bytes) (type : EvntType) (arg : Int) (file : Bytes) : Bytes :=
  if path = [] then file else file ++ subscrLine addr type arg

/-- `RewriteEventSubscrList`. -/
def rewriteEventSubscrList
    (path : Bytes) (list : List EventSubscrEntry) (file : Bytes) : Bytes :=
  if path = [] then
    file
  else
    (list.filter fun e => e.status).flatMap fun e =>
      subscrLine e.subscriber e.evntType e.evntArg

/-- The entry that a line of the file stands for, if it has a known type. -/
def subscrOfLine (line : Bytes) : Option EventSubscrEntry :=
  let (addr, type, arg) := threeWords line
  if type = evntTypeText .gsm then
    some ⟨addr, .gsm, atoi arg, true⟩
  else if type = evntTypeText .gpio then
    some ⟨addr, .gpio, atoi arg, true⟩
  else
    none

/-- `LoadEventSubscrList` of a file into a list. -/
def loadEventSubscrList
    (file : Bytes) (list : List EventSubscrEntry) : List EventSubscrEntry :=
  list ++ (fileLines file).filterMap subscrOfLine

namespace Proxy

/-- The read branch of the two commands. -/
def readStatus
    (p : Proxy) (addr : Bytes) (type : EvntType) (arg : Int) : Bytes :=
  match p.myEventList.find? (findEventSubscrEntry addr arg type) with
  | some e => if e.status then text "1" else text "0"
  | none => text "0"

/-- The write branch of the two commands. -/
def writeStatus
    (p : Proxy) (path addr : Bytes) (type : EvntType) (arg : Int) (sts : Bool) :
    Proxy :=
  match p.myEventList.find? (findEventSubscrEntry addr arg type) with
  | some _ =>
      let list := Slots.updateFirst (findEventSubscrEntry addr arg type)
        (fun e => { e with status := sts }) p.myEventList
      { p with
        myEventList := list
        eventSubscrFile := rewriteEventSubscrList path list p.eventSubscrFile }
  | none =>
      if sts then
        { p with
          myEventList := p.myEventList ++ [⟨addr, type, arg, true⟩]
          eventSubscrFile :=
            extendEventSubscrList path addr type arg p.eventSubscrFile }
      else
        p

end Proxy

/-- `proc_cmd_event_gsm`: its argument is not expanded. -/
def procCmdEventGsm : Handler := fun ctx msg p =>
  let (cmd, cmdArg, _) := threeWords msg
  if cmd = [] then
    (.unknownCommand, [], p)
  else if cmdArg = [] then
    (.success, p.readStatus ctx.sender .gsm 0, p)
  else
    (.success, [],
      p.writeStatus ctx.cfg.eventSubscrListFile ctx.sender .gsm 0
        (cmdArg = text "1"))

/-- `proc_cmd_event_gpio`. -/
def procCmdEventGpio : Handler := fun ctx msg p =>
  let (cmd, cmdArg, cmdArgVal) := threeWords msg
  if cmd = [] then
    (.unknownCommand, [], p)
  else if cmdArg = [] then
    (.argError, [], p)
  else
    let io := atoi (xpandarg ctx.aliasList cmdArg)
    if cmdArgVal = [] then
      (.success, p.readStatus ctx.sender .gpio io, p)
    else
      (.success, [],
        p.writeStatus ctx.cfg.eventSubscrListFile ctx.sender .gpio io
          (xpandarg ctx.aliasList cmdArgVal = text "1"))

/-- The subscribers `GpioEventCallback` sends a message to, in their order. -/
def gpioEventTargets (evntArg : Int) (list : List EventSubscrEntry) : List Bytes :=
  (list.filter fun e =>
    e.evntType = .gpio ∧ e.evntArg = evntArg ∧ e.status = true).map
      EventSubscrEntry.subscriber

/-- `SendMessageToBuddy`: only buddies of the roster are sent anything. -/
def sendMessageToBuddy
    (env : Environment) (p : Proxy) (address body subject : Bytes) :
    Bool × Proxy :=
  if env.iConnect p.outgoing = true ∧ address ∈ env.roster p.outgoing then
    (true, { p with outgoing := p.outgoing ++ [.message address body subject] })
  else
    (false, p)

/-- What `SendMessageToBuddy` asks for before it sends. -/
def Reachable (env : Environment) (out : List Outgoing) (address : Bytes) : Prop :=
  env.iConnect out = true ∧ address ∈ env.roster out

/-- `GpioEventCallback`. -/
def gpioEventCallback (env : Environment) (p : Proxy) (evntArg : Int) : Proxy :=
  (gpioEventTargets evntArg p.myEventList).foldl
    (fun p' subscriber =>
      (sendMessageToBuddy env p' subscriber
        (text "eventgpio " ++ decimalText evntArg) (text "event")).2)
    p

/-! ## One write -/

/-- Subscriber, type and argument. -/
abbrev EventKey := Bytes × EvntType × Int

/-- The key of an entry. -/
def EventSubscrEntry.key (e : EventSubscrEntry) : EventKey :=
  (e.subscriber, e.evntType, e.evntArg)

/-- What the two commands ask for: a subscriber without blanks and an `int`. -/
structure KeyOk (k : EventKey) : Prop where
  nonempty : k.1 ≠ []
  noBlank : ∀ c ∈ k.1, isSpace c = false
  type : (k.2.1 = .gsm ∧ k.2.2 = 0) ∨ k.2.1 = .gpio
  low : -2 ^ 31 ≤ k.2.2
  high : k.2.2 < 2 ^ 31

/-- The functor finds the entry of a key. -/
theorem findEventSubscrEntry_iff
    {e : EventSubscrEntry} (he : KeyOk e.key)
    {addr : Bytes} {type : EvntType} {arg : Int}
    (hkey : (type = .gsm ∧ arg = 0) ∨ type = .gpio) :
    findEventSubscrEntry addr arg type e = true ↔ e.key = (addr, type, arg) := by
  obtain ⟨sub, ty, a, sts⟩ := e
  have htype := he.type
  simp only [EventSubscrEntry.key] at htype ⊢
  rcases htype with ⟨rfl, rfl⟩ | rfl
  · rcases hkey with ⟨rfl, rfl⟩ | rfl <;> simp [findEventSubscrEntry]
  · rcases hkey with ⟨rfl, rfl⟩ | rfl
    · simp [findEventSubscrEntry]
    · simp [findEventSubscrEntry, and_comm]

/-- List and file agree with the last status written for every key. -/
structure SubscrInv (p : Proxy) (last : EventKey → Option Bool) : Prop where
  keys : ∀ e ∈ p.myEventList, KeyOk e.key
  distinct : (p.myEventList.map EventSubscrEntry.key).Nodup
  file : p.eventSubscrFile =
    (p.myEventList.filter fun e => e.status).flatMap fun e =>
      subscrLine e.subscriber e.evntType e.evntArg
  last : ∀ k, last k = some true ↔
    ∃ e ∈ p.myEventList, e.key = k ∧ e.status = true

/-- The functor's search, by keys. -/
theorem SubscrInv.find_eq_none
    {p : Proxy} {last : EventKey → Option Bool} (hinv : SubscrInv p last)
    {addr : Bytes} {type : EvntType} {arg : Int}
    (hkey : (type = .gsm ∧ arg = 0) ∨ type = .gpio)
    (hfind : p.myEventList.find? (findEventSubscrEntry addr arg type) = none) :
    ∀ e ∈ p.myEventList, e.key ≠ (addr, type, arg) := by
  intro e he heq
  have hnot := List.find?_eq_none.mp hfind e he
  exact hnot ((findEventSubscrEntry_iff (hinv.keys e he) hkey).mpr heq)

theorem mem_split_iff
    {pre post : List EventSubscrEntry} {e e' : EventSubscrEntry} :
    e' ∈ pre ++ e :: post ↔ e' = e ∨ e' ∈ pre ++ post := by
  simp only [List.mem_append, List.mem_cons]
  constructor
  · rintro (h | h | h)
    · exact Or.inr (Or.inl h)
    · exact Or.inl h
    · exact Or.inr (Or.inr h)
  · rintro (h | h | h)
    · exact Or.inr (Or.inl h)
    · exact Or.inl h
    · exact Or.inr (Or.inr h)

/-- With distinct keys an entry is told from the others by its key. -/
theorem key_ne_of_split
    {pre post : List EventSubscrEntry} {e e' : EventSubscrEntry}
    (hdistinct : ((pre ++ e :: post).map EventSubscrEntry.key).Nodup)
    (he' : e' ∈ pre ++ post) :
    e'.key ≠ e.key := by
  intro heq
  rw [List.map_append, List.map_cons, List.nodup_middle, List.nodup_cons] at hdistinct
  apply hdistinct.1
  rw [← List.map_append, ← heq]
  exact List.mem_map_of_mem he'

/-- The entry of a key gets a new status. -/
theorem SubscrInv.setStatus
    {p : Proxy} {last : EventKey → Option Bool} (hinv : SubscrInv p last)
    {path : Bytes} (hpath : path ≠ [])
    {pre post : List EventSubscrEntry} {e : EventSubscrEntry}
    (hlist : p.myEventList = pre ++ e :: post) (sts : Bool) :
    SubscrInv
      { p with
        myEventList := pre ++ { e with status := sts } :: post
        eventSubscrFile := rewriteEventSubscrList path
          (pre ++ { e with status := sts } :: post) p.eventSubscrFile }
      (Function.update last e.key (some sts)) := by
  have hdistinct := hinv.distinct
  have hkeys := hinv.keys
  have hlast := hinv.last
  rw [hlist] at hdistinct hkeys hlast
  constructor
  · intro e' he'
    rcases mem_split_iff.mp he' with rfl | h
    · exact hkeys e (by simp)
    · exact hkeys e' (mem_split_iff.mpr (Or.inr h))
  · simpa [EventSubscrEntry.key] using hdistinct
  · simp [rewriteEventSubscrList, hpath]
  · intro k
    by_cases hk : k = e.key
    · subst hk
      rw [Function.update_self]
      constructor
      · intro hsts
        exact ⟨{ e with status := sts }, by simp, rfl, Option.some.inj hsts⟩
      · rintro ⟨e', he', heq, hstatus⟩
        rcases mem_split_iff.mp he' with rfl | h
        · exact congrArg some hstatus
        · exact absurd heq (key_ne_of_split hdistinct h)
    · rw [Function.update_of_ne hk, hlast]
      constructor
      · rintro ⟨e', he', heq, hstatus⟩
        rcases mem_split_iff.mp he' with rfl | h
        · exact absurd heq.symm hk
        · exact ⟨e', mem_split_iff.mpr (Or.inr h), heq, hstatus⟩
      · rintro ⟨e', he', heq, hstatus⟩
        rcases mem_split_iff.mp he' with rfl | h
        · exact absurd heq.symm hk
        · exact ⟨e', mem_split_iff.mpr (Or.inr h), heq, hstatus⟩

/-- A key without an entry gets one. -/
theorem SubscrInv.extend
    {p : Proxy} {last : EventKey → Option Bool} (hinv : SubscrInv p last)
    {path : Bytes} (hpath : path ≠ [])
    {addr : Bytes} {type : EvntType} {arg : Int}
    (hkey : KeyOk (addr, type, arg))
    (hnew : ∀ e ∈ p.myEventList, e.key ≠ (addr, type, arg)) :
    SubscrInv
      { p with
        myEventList := p.myEventList ++ [⟨addr, type, arg, true⟩]
        eventSubscrFile := extendEventSubscrList path addr type arg p.eventSubscrFile }
      (Function.update last (addr, type, arg) (some true)) := by
  constructor
  · intro e he
    rcases List.mem_append.mp he with h | h
    · exact hinv.keys e h
    · obtain rfl := List.mem_singleton.mp h
      exact hkey
  · rw [List.map_append]
    refine List.nodup_append'.mpr ⟨hinv.distinct, by simp, ?_⟩
    simpa [EventSubscrEntry.key] using hnew
  · simp [extendEventSubscrList, hpath, hinv.file]
  · intro k
    by_cases hk : k = (addr, type, arg)
    · subst hk
      simp [EventSubscrEntry.key]
    · rw [Function.update_of_ne hk, hinv.last]
      constructor
      · rintro ⟨e, he, heq, hstatus⟩
        exact ⟨e, by simp [he], heq, hstatus⟩
      · rintro ⟨e, he, heq, hstatus⟩
        rcases List.mem_append.mp he with h | h
        · exact ⟨e, h, heq, hstatus⟩
        · obtain rfl := List.mem_singleton.mp h
          exact absurd heq.symm hk

/-- A key without an entry counts as turned off. -/
theorem SubscrInv.turnedOff
    {p : Proxy} {last : EventKey → Option Bool} (hinv : SubscrInv p last)
    {key : EventKey} (hnew : ∀ e ∈ p.myEventList, e.key ≠ key) :
    SubscrInv p (Function.update last key (some false)) := by
  refine { hinv with last := ?_ }
  intro k
  by_cases hk : k = key
  · subst hk
    rw [Function.update_self]
    constructor
    · intro hfalse
      cases hfalse
    · rintro ⟨e, he, heq, -⟩
      exact absurd heq (hnew e he)
  · rw [Function.update_of_ne hk]
    exact hinv.last k

/-- One write changes the status of its key and of no other. -/
theorem writeStatus_spec
    {p : Proxy} {last : EventKey → Option Bool} (hinv : SubscrInv p last)
    {path : Bytes} (hpath : path ≠ [])
    {addr : Bytes} {type : EvntType} {arg : Int}
    (hkey : KeyOk (addr, type, arg)) (sts : Bool) :
    SubscrInv (p.writeStatus path addr type arg sts)
      (Function.update last (addr, type, arg) (some sts)) := by
  unfold Proxy.writeStatus
  cases hfind : p.myEventList.find? (findEventSubscrEntry addr arg type) with
  | some e =>
      obtain ⟨pre, post, hlist, hfound, hpre, -⟩ := Slots.split_find hfind
      have hupdate : Slots.updateFirst (findEventSubscrEntry addr arg type)
          (fun e => { e with status := sts }) (pre ++ e :: post) =
            pre ++ { e with status := sts } :: post :=
        Slots.updateFirst_split _ hfound hpre
      have he : e.key = (addr, type, arg) := by
        rw [← findEventSubscrEntry_iff (hinv.keys e (by simp [hlist])) hkey.type]
        exact hfound
      have hset := hinv.setStatus hpath hlist sts
      rw [he] at hset
      simpa only [hlist, hupdate] using hset
  | none =>
      have hnew := hinv.find_eq_none hkey.type hfind
      cases sts with
      | true =>
          exact hinv.extend hpath hkey hnew
      | false =>
          exact hinv.turnedOff hnew

/-! ## Reading the file -/

/-- The text of a type is one word. -/
theorem evntTypeText_word
    (type : EvntType) :
    evntTypeText type ≠ [] ∧ ∀ c ∈ evntTypeText type, isSpace c = false := by
  have hall : (evntTypeText type).all (fun c => !isSpace c) = true := by
    cases type <;> decide
  refine ⟨by cases type <;> decide, fun c hc => ?_⟩
  simpa using List.all_eq_true.mp hall c hc

/-- A line of the file is read back as the enabled entry of its key. -/
theorem subscrOfLine_key
    {k : EventKey} (hk : KeyOk k) :
    subscrOfLine (k.1 ++ [32] ++ evntTypeText k.2.1 ++ [32] ++ decimalText k.2.2) =
      some ⟨k.1, k.2.1, k.2.2, true⟩ := by
  obtain ⟨addr, type, arg⟩ := k
  have hword : threeWords
      (addr ++ [32] ++ evntTypeText type ++ [32] ++ decimalText arg) =
        (addr, evntTypeText type, decimalText arg) := by
    obtain ⟨hne, hnoblank⟩ := evntTypeText_word type
    simp only [threeWords, List.append_assoc, List.cons_append, List.nil_append]
    rw [readWord_append_blank hk.nonempty hk.noBlank]
    simp only [readWord_blank_cons]
    rw [readWord_append_blank hne hnoblank]
    simp only [readWord_blank_cons]
    rw [readWord_word fun c hc => isSpace_of_mem_decimalText hc]
  unfold subscrOfLine
  rw [hword]
  dsimp only
  rw [atoi_decimalText hk.low hk.high]
  rcases hk.type with ⟨rfl, rfl⟩ | rfl
  · rfl
  · rfl

/-- No newline in a line of the file. -/
theorem newline_not_mem_subscr
    {k : EventKey} (hk : KeyOk k) :
    (10 : Byte) ∉ k.1 ++ [32] ++ evntTypeText k.2.1 ++ [32] ++ decimalText k.2.2 := by
  have hblank : isSpace (10 : Byte) = true := by decide
  intro hmem
  simp only [List.mem_append, List.mem_singleton] at hmem
  rcases hmem with (((h | h) | h) | h) | h
  · simp [hk.noBlank _ h] at hblank
  · revert h
    decide
  · simp [(evntTypeText_word k.2.1).2 _ h] at hblank
  · revert h
    decide
  · simp [isSpace_of_mem_decimalText h] at hblank

/-- The enabled entries are read back in their order. -/
theorem loadEventSubscrList_entries
    {list : List EventSubscrEntry}
    (hkeys : ∀ e ∈ list, KeyOk e.key) :
    loadEventSubscrList
        ((list.filter fun e => e.status).flatMap fun e =>
          subscrLine e.subscriber e.evntType e.evntArg) [] =
      list.filter fun e => e.status := by
  unfold loadEventSubscrList
  induction list with
  | nil =>
      rfl
  | cons e list ih =>
      have htail := ih fun e' he' => hkeys e' (by simp [he'])
      have he := hkeys e (by simp)
      by_cases hstatus : e.status = true
      · simp only [List.filter_cons, hstatus, if_true, List.flatMap_cons]
        have hline := fileLines_endLine_append (newline_not_mem_subscr he)
          ((list.filter fun e => e.status).flatMap fun e =>
            subscrLine e.subscriber e.evntType e.evntArg)
        have hentry := subscrOfLine_key he
        simp only [EventSubscrEntry.key] at hline hentry
        unfold subscrLine at hline ⊢
        rw [hline, List.filterMap_cons_some hentry]
        simp only [List.nil_append, List.cons.injEq]
        refine ⟨?_, htail⟩
        obtain ⟨sub, type, arg, sts⟩ := e
        simp only at hstatus
        rw [hstatus]
      · simpa [List.filter_cons, hstatus] using htail

/-! ## Sequences of commands -/

/-- The two commands. -/
inductive EventCmd where
  | eventgsm
  | eventgpio
deriving DecidableEq, Repr

/-- A command of a buddy, with the aliases there are when it is handled. -/
structure EventOp where
  cmd : EventCmd
  aliasList : AliasMap
  sender : Bytes
  msg : Bytes

namespace EventOp

/-- Hand a command to its handler. -/
def perform
    (env : Environment) (cfg : Config) (p : Proxy) (op : EventOp) : CmdOutcome :=
  let ctx : Context :=
    { env := env, cfg := cfg, aliasList := op.aliasList, sender := op.sender }
  match op.cmd with
  | .eventgsm => procCmdEventGsm ctx op.msg p
  | .eventgpio => procCmdEventGpio ctx op.msg p

/-- The key a command is about, if it has its arguments. -/
def key (op : EventOp) : Option EventKey :=
  let (cmd, cmdArg, _) := threeWords op.msg
  match op.cmd with
  | .eventgsm => if cmd = [] then none else some (op.sender, .gsm, 0)
  | .eventgpio =>
      if cmd = [] ∨ cmdArg = [] then
        none
      else
        some (op.sender, .gpio, atoi (xpandarg op.aliasList cmdArg))

/-- The value a command is meant to write: its last argument, with the alias in
place of its name; none if the command reads. -/
def value (op : EventOp) : Option Bytes :=
  let (_, cmdArg, cmdArgVal) := threeWords op.msg
  match op.cmd with
  | .eventgsm =>
      if cmdArg = [] then none else some (xpandarg op.aliasList cmdArg)
  | .eventgpio =>
      if cmdArgVal = [] then none else some (xpandarg op.aliasList cmdArgVal)

/-- The text a handler compares with `1`; none if it reads. -/
def compared (op : EventOp) : Option Bytes :=
  let (_, cmdArg, cmdArgVal) := threeWords op.msg
  match op.cmd with
  | .eventgsm => if cmdArg = [] then none else some cmdArg
  | .eventgpio =>
      if cmdArgVal = [] then none else some (xpandarg op.aliasList cmdArgVal)

/-- No alias is needed to see that an `eventgsm` turns its event on. -/
def ArgKept (op : EventOp) : Prop :=
  op.cmd = .eventgsm → op.key ≠ none →
    xpandarg op.aliasList (threeWords op.msg).2.1 = text "1" →
    (threeWords op.msg).2.1 = text "1"

instance (op : EventOp) : Decidable op.ArgKept :=
  inferInstanceAs (Decidable (_ → _ → _ → _))

/-- The keys of the two commands. -/
theorem key_cases
    {op : EventOp} {k : EventKey} (hkey : op.key = some k) :
    (op.cmd = .eventgsm ∧ (threeWords op.msg).1 ≠ [] ∧ k = (op.sender, .gsm, 0)) ∨
    (op.cmd = .eventgpio ∧ (threeWords op.msg).1 ≠ [] ∧
      (threeWords op.msg).2.1 ≠ [] ∧
      k = (op.sender, .gpio,
        atoi (xpandarg op.aliasList (threeWords op.msg).2.1))) := by
  unfold key at hkey
  cases hcmd : op.cmd with
  | eventgsm =>
      simp only [hcmd] at hkey
      split at hkey
      · cases hkey
      · rename_i hne
        exact Or.inl ⟨rfl, hne, (Option.some.inj hkey).symm⟩
  | eventgpio =>
      simp only [hcmd] at hkey
      split at hkey
      · cases hkey
      · rename_i hne
        obtain ⟨hcmd', harg⟩ := not_or.mp hne
        exact Or.inr ⟨rfl, hcmd', harg, (Option.some.inj hkey).symm⟩

/-- A command about a key writes what it compares or reads the status. -/
theorem perform_key
    (env : Environment) (cfg : Config) (p : Proxy) {op : EventOp} {k : EventKey}
    (hkey : op.key = some k) :
    op.perform env cfg p =
      match op.compared with
      | some v =>
          (.success, [],
            p.writeStatus cfg.eventSubscrListFile k.1 k.2.1 k.2.2 (v = text "1"))
      | none => (.success, p.readStatus k.1 k.2.1 k.2.2, p) := by
  rcases key_cases hkey with ⟨hcmd, hne, rfl⟩ | ⟨hcmd, hne, harg, rfl⟩
  · simp only [perform, compared, hcmd, procCmdEventGsm, if_neg hne]
    split <;> rfl
  · simp only [perform, compared, hcmd, procCmdEventGpio, if_neg hne, if_neg harg]
    split <;> rfl

/-- A command without its arguments changes nothing. -/
theorem perform_no_key
    (env : Environment) (cfg : Config) (p : Proxy) {op : EventOp}
    (hkey : op.key = none) :
    (op.perform env cfg p).2.2 = p := by
  unfold key at hkey
  unfold perform
  cases hcmd : op.cmd with
  | eventgsm =>
      simp only [hcmd] at hkey ⊢
      split at hkey
      · rename_i hempty
        simp only [procCmdEventGsm, if_pos hempty]
      · cases hkey
  | eventgpio =>
      simp only [hcmd] at hkey ⊢
      split at hkey
      · rename_i hempty
        simp only [procCmdEventGpio]
        split
        · rfl
        · rename_i hne
          rw [if_pos (hempty.resolve_left hne)]
      · cases hkey

/-- Expanding the argument does not change whether a command writes. -/
theorem compared_eq_none_iff
    (op : EventOp) :
    op.compared = none ↔ op.value = none := by
  unfold compared value
  cases op.cmd with
  | eventgsm => simp
  | eventgpio => exact Iff.rfl

/-- Where no alias is needed, the handler compares with `1` what is meant. -/
theorem ArgKept.compared_eq
    {op : EventOp} (hkept : op.ArgKept) (hkey : op.key ≠ none) :
    op.compared.map (fun v => decide (v = text "1")) =
      op.value.map (fun v => decide (v = text "1")) := by
  unfold compared value
  cases hcmd : op.cmd with
  | eventgpio => rfl
  | eventgsm =>
      by_cases harg : (threeWords op.msg).2.1 = []
      · simp [harg]
      simp only [if_neg harg, Option.map_some, Option.some.injEq, decide_eq_decide]
      constructor
      · intro hone
        rw [hone]
        rfl
      · exact hkept hcmd hkey

/-- The sender's id is a word. -/
def SenderOk (op : EventOp) : Prop :=
  op.sender ≠ [] ∧ ∀ c ∈ op.sender, isSpace c = false

instance (op : EventOp) : Decidable op.SenderOk :=
  @instDecidableAnd _ _ inferInstance (List.decidableBAll _ op.sender)

/-- A command of such a sender is about a proper key. -/
theorem keyOk_of_key
    {op : EventOp} {k : EventKey}
    (hsender : op.SenderOk) (hkey : op.key = some k) :
    KeyOk k := by
  rcases key_cases hkey with ⟨-, -, rfl⟩ | ⟨-, -, -, rfl⟩
  · exact ⟨hsender.1, hsender.2, Or.inl ⟨rfl, rfl⟩, by simp, by simp⟩
  · exact ⟨hsender.1, hsender.2, Or.inr rfl, (atoi_range _).1, (atoi_range _).2⟩

end EventOp

/-- The proxy after a sequence of commands. -/
def eventRun
    (env : Environment) (cfg : Config) (p : Proxy) (ops : List EventOp) : Proxy :=
  ops.foldl (fun p' op => (op.perform env cfg p').2.2) p

/-- The last text that the commands about a key write; `written` says what one
command writes. -/
def lastText
    (written : EventOp → Option Bytes) (ops : List EventOp) (k : EventKey) :
    Option Bytes :=
  (ops.filterMap fun op => if op.key = some k then written op else none).getLast?

/-- The last value written for a key. -/
def lastWrite (ops : List EventOp) (k : EventKey) : Option Bytes :=
  lastText EventOp.value ops k

/-- The last status written for a key. -/
def lastStatus
    (written : EventOp → Option Bytes) (ops : List EventOp) (k : EventKey) :
    Option Bool :=
  (lastText written ops k).map fun v => decide (v = text "1")

theorem lastStatus_append_singleton
    (written : EventOp → Option Bytes) (ops : List EventOp) (op : EventOp) :
    lastStatus written (ops ++ [op]) =
      match op.key, written op with
      | some k, some v =>
          Function.update (lastStatus written ops) k (some (v = text "1"))
      | _, _ => lastStatus written ops := by
  funext k
  unfold lastStatus lastText
  rw [List.filterMap_append]
  cases hkey : op.key with
  | none =>
      simp [hkey]
  | some k' =>
      cases hvalue : written op with
      | none =>
          simp [hvalue]
      | some v =>
          by_cases hk : k = k'
          · subst hk
            simp [hkey, hvalue]
          · simp [hkey, Ne.symm hk, hk]

/-- Without aliases for `eventgsm` the compared texts are the values. -/
theorem lastStatus_compared
    {ops : List EventOp} (hkept : ∀ op ∈ ops, op.ArgKept) :
    lastStatus EventOp.compared ops = lastStatus EventOp.value ops := by
  induction ops using List.reverseRecOn with
  | nil =>
      rfl
  | append_singleton ops op ih =>
      rw [lastStatus_append_singleton, lastStatus_append_singleton,
        ih fun o ho => hkept o (by simp [ho])]
      cases hkey : op.key with
      | none =>
          rfl
      | some k =>
          have hsame := (hkept op (by simp)).compared_eq (by simp [hkey])
          cases hcompared : op.compared with
          | none =>
              rw [(op.compared_eq_none_iff).mp hcompared]
          | some v =>
              cases hvalue : op.value with
              | none =>
                  rw [(op.compared_eq_none_iff).mpr hvalue] at hcompared
                  cases hcompared
              | some w =>
                  simp only [hcompared, hvalue, Option.map_some, Option.some.injEq] at hsame
                  simp only [hsame]

/-- The invariant after every sequence of commands. -/
theorem subscrInv_run
    (env : Environment) (cfg : Config) (hpath : cfg.eventSubscrListFile ≠ [])
    (p : Proxy) (hlist : p.myEventList = []) (hfile : p.eventSubscrFile = [])
    (ops : List EventOp) (hsenders : ∀ op ∈ ops, op.SenderOk) :
    SubscrInv (eventRun env cfg p ops) (lastStatus EventOp.compared ops) := by
  induction ops using List.reverseRecOn with
  | nil =>
      constructor
      · simp [eventRun, hlist]
      · simp [eventRun, hlist]
      · simp [eventRun, hlist, hfile]
      · intro k
        simp [eventRun, hlist, lastStatus, lastText]
  | append_singleton ops op ih =>
      have hinv := ih fun o ho => hsenders o (by simp [ho])
      have hsnoc : eventRun env cfg p (ops ++ [op]) =
          (op.perform env cfg (eventRun env cfg p ops)).2.2 := by
        simp [eventRun]
      rw [hsnoc, lastStatus_append_singleton]
      cases hkey : op.key with
      | none =>
          rw [EventOp.perform_no_key env cfg _ hkey]
          exact hinv
      | some k =>
          rw [EventOp.perform_key env cfg _ hkey]
          cases op.compared with
          | none =>
              exact hinv
          | some v =>
              exact writeStatus_spec hinv hpath
                (EventOp.keyOk_of_key (hsenders op (by simp)) hkey) _

/-- The message to a subscriber of the input `n`. -/
def gpioMessage (n : Int) (subscriber : Bytes) : Outgoing :=
  .message subscriber (text "eventgpio " ++ decimalText n) (text "event")

/-- The list, the file and the events after a sequence of commands. -/
structure SubscriptionsKept
    (env : Environment) (cfg : Config) (ops : List EventOp) (p : Proxy) : Prop where
  distinct : (p.myEventList.map EventSubscrEntry.key).Nodup
  reads : ∀ (op : EventOp) (k : EventKey), op.key = some k → op.value = none →
    op.perform env cfg p =
      (.success, if lastWrite ops k = some (text "1") then text "1" else text "0", p)
  targetsNodup : ∀ n, (gpioEventTargets n p.myEventList).Nodup
  targets : ∀ n b, b ∈ gpioEventTargets n p.myEventList ↔
    lastWrite ops (b, .gpio, n) = some (text "1")
  /-- The targets are messaged in turn; one that is reachable whatever was sent
  before gets its message. -/
  messages : ∀ n, ∃ sent : List Bytes,
    sent.Sublist (gpioEventTargets n p.myEventList) ∧
    (gpioEventCallback env p n).outgoing = p.outgoing ++ sent.map (gpioMessage n) ∧
    ∀ b ∈ gpioEventTargets n p.myEventList,
      (∀ more, Reachable env (p.outgoing ++ more) b) → b ∈ sent
  reload : loadEventSubscrList p.eventSubscrFile [] =
    p.myEventList.filter fun e => e.status

theorem lastStatus_eq_some_true
    (ops : List EventOp) (k : EventKey) :
    lastStatus EventOp.value ops k = some true ↔ lastWrite ops k = some (text "1") := by
  unfold lastStatus lastWrite
  cases lastText EventOp.value ops k with
  | none =>
      simp
  | some v =>
      simp

/-- A read tells whether the entry of its key is enabled. -/
theorem SubscrInv.readStatus
    {p : Proxy} {last : EventKey → Option Bool} (hinv : SubscrInv p last)
    {k : EventKey} (hk : (k.2.1 = .gsm ∧ k.2.2 = 0) ∨ k.2.1 = .gpio) :
    p.readStatus k.1 k.2.1 k.2.2 =
      if last k = some true then text "1" else text "0" := by
  unfold Proxy.readStatus
  cases hfind : p.myEventList.find? (findEventSubscrEntry k.1 k.2.2 k.2.1) with
  | none =>
      have hnew := hinv.find_eq_none hk hfind
      rw [if_neg]
      rw [hinv.last]
      rintro ⟨e, he, heq, -⟩
      exact hnew e he heq
  | some e =>
      have he := List.mem_of_find?_eq_some hfind
      have heq : e.key = k := by
        exact (findEventSubscrEntry_iff (hinv.keys e he) hk).mp
          (List.find?_some hfind)
      by_cases hstatus : e.status = true
      · rw [if_pos ((hinv.last k).mpr ⟨e, he, heq, hstatus⟩)]
        simp [hstatus]
      · have hlast : ¬ last k = some true := by
          rw [hinv.last]
          rintro ⟨e', he', heq', hstatus'⟩
          have hsame : e' = e :=
            List.inj_on_of_nodup_map hinv.distinct he' he (heq'.trans heq.symm)
          exact hstatus (hsame ▸ hstatus')
        simp [hstatus, hlast]

/-- An event goes to the enabled entries of its number, once each. -/
theorem SubscrInv.targets
    {p : Proxy} {last : EventKey → Option Bool} (hinv : SubscrInv p last) (n : Int) :
    (gpioEventTargets n p.myEventList).Nodup ∧
      ∀ b, b ∈ gpioEventTargets n p.myEventList ↔ last (b, .gpio, n) = some true := by
  constructor
  · unfold gpioEventTargets
    rw [List.nodup_map_iff_inj_on]
    · intro e he e' he' hsub
      simp only [List.mem_filter, decide_eq_true_eq] at he he'
      apply List.inj_on_of_nodup_map hinv.distinct he.1 he'.1
      simp only [EventSubscrEntry.key]
      rw [hsub, he.2.1, he.2.2.1, he'.2.1, he'.2.2.1]
    · exact (List.Nodup.of_map _ hinv.distinct).filter _
  · intro b
    rw [hinv.last]
    simp only [gpioEventTargets, List.mem_map, List.mem_filter, decide_eq_true_eq]
    constructor
    · rintro ⟨e, ⟨he, htype, harg, hstatus⟩, rfl⟩
      exact ⟨e, he, by simp [EventSubscrEntry.key, htype, harg], hstatus⟩
    · rintro ⟨e, he, heq, hstatus⟩
      simp only [EventSubscrEntry.key, Prod.mk.injEq] at heq
      exact ⟨e, ⟨he, heq.2.1, heq.2.2, hstatus⟩, heq.1⟩

/-- The messages that are sent in turn: one each, to the reachable ones at least. -/
theorem foldl_sendMessageToBuddy
    (env : Environment) (body subject : Bytes) (targets : List Bytes) (p : Proxy) :
    ∃ sent : List Bytes,
      sent.Sublist targets ∧
      (targets.foldl
        (fun p' b => (sendMessageToBuddy env p' b body subject).2) p).outgoing =
          p.outgoing ++ sent.map (fun b => .message b body subject) ∧
      ∀ b ∈ targets, (∀ more, Reachable env (p.outgoing ++ more) b) → b ∈ sent := by
  induction targets generalizing p with
  | nil =>
      exact ⟨[], List.Sublist.refl _, by simp, by simp⟩
  | cons b targets ih =>
      rw [List.foldl_cons]
      by_cases hreach : env.iConnect p.outgoing = true ∧ b ∈ env.roster p.outgoing
      · have hsent : (sendMessageToBuddy env p b body subject).2 =
            { p with outgoing := p.outgoing ++ [Outgoing.message b body subject] } := by
          rw [sendMessageToBuddy, if_pos hreach]
        obtain ⟨sent, hsub, hout, hall⟩ := ih (sendMessageToBuddy env p b body subject).2
        rw [hsent] at hout hall ⊢
        refine ⟨b :: sent, hsub.cons_cons b, by simp [hout], ?_⟩
        intro b' hb' hb'reach
        rcases List.mem_cons.mp hb' with rfl | hb'
        · exact List.mem_cons_self
        · refine List.mem_cons_of_mem _ (hall b' hb' fun more => ?_)
          rw [List.append_assoc]
          exact hb'reach _
      · have hsame : (sendMessageToBuddy env p b body subject).2 = p := by
          rw [sendMessageToBuddy, if_neg hreach]
        obtain ⟨sent, hsub, hout, hall⟩ := ih p
        rw [hsame]
        refine ⟨sent, hsub.cons b, hout, ?_⟩
        intro b' hb' hb'reach
        rcases List.mem_cons.mp hb' with rfl | hb'
        · have hnow := hb'reach []
          rw [List.append_nil] at hnow
          exact absurd hnow hreach
        · exact hall b' hb' hb'reach

/-- Where the statuses of the list are those last written, all is in step. -/
theorem SubscrInv.subscriptionsKept
    {env : Environment} {cfg : Config} {ops : List EventOp} {p : Proxy}
    (hinv : SubscrInv p (lastStatus EventOp.value ops)) :
    SubscriptionsKept env cfg ops p := by
  constructor
  · exact hinv.distinct
  · intro op k hkey hvalue
    have htype : (k.2.1 = .gsm ∧ k.2.2 = 0) ∨ k.2.1 = .gpio := by
      rcases EventOp.key_cases hkey with ⟨-, -, rfl⟩ | ⟨-, -, -, rfl⟩
      · exact Or.inl ⟨rfl, rfl⟩
      · exact Or.inr rfl
    rw [EventOp.perform_key env cfg _ hkey, (op.compared_eq_none_iff).mpr hvalue]
    simp only [hinv.readStatus htype, lastStatus_eq_some_true]
  · intro n
    exact (hinv.targets n).1
  · intro n b
    rw [(hinv.targets n).2, lastStatus_eq_some_true]
  · intro n
    exact foldl_sendMessageToBuddy env _ _ _ _
  · rw [hinv.file]
    exact loadEventSubscrList_entries hinv.keys

/-- The read of `eventgsm`. -/
def gsmRead (sender : Bytes) : EventOp where
  cmd := .eventgsm
  aliasList := ∅
  sender := sender
  msg := text "eventgsm"

theorem gsmRead_key
    (sender : Bytes) :
    (gsmRead sender).key = some (sender, .gsm, 0) := by
  have hword : (threeWords (text "eventgsm")).1 ≠ [] := by
    decide
  simp [EventOp.key, gsmRead, hword]

theorem gsmRead_value
    (sender : Bytes) :
    (gsmRead sender).value = none := by
  have hword : (threeWords (text "eventgsm")).2.1 = [] := by
    decide
  simp [EventOp.value, gsmRead, hword]

/-- A read shows the status of the list, and after a good sequence that is the
last value written. -/
theorem SubscriptionsKept.gsm_iff
    {env : Environment} {cfg : Config} {ops : List EventOp} {p : Proxy}
    {last : EventKey → Option Bool}
    (hkept : SubscriptionsKept env cfg ops p) (hinv : SubscrInv p last)
    (sender : Bytes) :
    last (sender, .gsm, 0) = some true ↔
      lastWrite ops (sender, .gsm, 0) = some (text "1") := by
  have hread := hkept.reads (gsmRead sender) _ (gsmRead_key sender) (gsmRead_value sender)
  rw [EventOp.perform_key env cfg _ (gsmRead_key sender),
    ((gsmRead sender).compared_eq_none_iff).mpr (gsmRead_value sender)] at hread
  have hshown := congrArg (fun outcome => outcome.2.1) hread
  simp only [hinv.readStatus (k := (sender, .gsm, 0)) (Or.inl ⟨rfl, rfl⟩)] at hshown
  have hne : text "1" ≠ text "0" := by
    decide
  constructor
  · intro hlast
    by_contra hwrite
    rw [if_pos hlast, if_neg hwrite] at hshown
    exact hne hshown
  · intro hwrite
    by_contra hlast
    rw [if_neg hlast, if_pos hwrite] at hshown
    exact hne hshown.symm

/-- In a good state the last command has turned on what it was meant to. -/
theorem SubscriptionsKept.argKept_last
    {env : Environment} {cfg : Config} {ops : List EventOp} {op : EventOp} {p : Proxy}
    (hkept : SubscriptionsKept env cfg (ops ++ [op]) p)
    (hinv : SubscrInv p (lastStatus EventOp.compared (ops ++ [op]))) :
    op.ArgKept := by
  intro hcmd hkey hone
  obtain ⟨k, hk⟩ := Option.ne_none_iff_exists'.mp hkey
  have harg : (threeWords op.msg).2.1 ≠ [] := by
    intro hnil
    have hone' : ([] : Bytes) = text "1" := by
      rw [hnil] at hone
      exact hone
    revert hone'
    decide
  have hgsm : k = (op.sender, .gsm, 0) := by
    rcases EventOp.key_cases hk with ⟨-, -, rfl⟩ | ⟨hgpio, -⟩
    · rfl
    · rw [hcmd] at hgpio
      cases hgpio
  have hvalue : op.value = some (text "1") := by
    simp only [EventOp.value, hcmd, if_neg harg, hone]
  have hcompared : op.compared = some (threeWords op.msg).2.1 := by
    simp only [EventOp.compared, hcmd, if_neg harg]
  have hwritten : lastWrite (ops ++ [op]) (op.sender, .gsm, 0) = some (text "1") := by
    rw [← lastStatus_eq_some_true, lastStatus_append_singleton, hk, hvalue, hgsm]
    simp
  have hlast := (hkept.gsm_iff hinv op.sender).mpr hwritten
  rw [lastStatus_append_singleton, hk, hcompared, hgsm] at hlast
  simpa using hlast

/-- Every sequence of subscription commands keeps list, file and events in step in
every state it reaches, exactly when no `eventgsm` turns its event on through an
alias. -/
theorem subscriptionsKept_run_iff
    (env : Environment) (cfg : Config) (hpath : cfg.eventSubscrListFile ≠ [])
    (p : Proxy) (hlist : p.myEventList = []) (hfile : p.eventSubscrFile = [])
    (ops : List EventOp) (hsenders : ∀ op ∈ ops, op.SenderOk) :
    (∀ done, done <+: ops →
      SubscriptionsKept env cfg done (eventRun env cfg p done)) ↔
        ∀ op ∈ ops, op.ArgKept := by
  constructor
  · intro hkept
    induction ops using List.reverseRecOn with
    | nil =>
        intro op hop
        cases hop
    | append_singleton ops op ih =>
        have hbefore := ih (fun o ho => hsenders o (by simp [ho])) fun done hdone =>
          hkept done (hdone.trans (List.prefix_append ops [op]))
        intro o ho
        rcases List.mem_append.mp ho with ho | ho
        · exact hbefore o ho
        · cases List.mem_singleton.mp ho
          exact (hkept _ (List.prefix_refl _)).argKept_last
            (subscrInv_run env cfg hpath p hlist hfile _ hsenders)
  · intro hkept done hdone
    have hinv := subscrInv_run env cfg hpath p hlist hfile done fun op hop =>
      hsenders op (hdone.subset hop)
    rw [lastStatus_compared fun op hop => hkept op (hdone.subset hop)] at hinv
    exact hinv.subscriptionsKept

/-- Two buddies: one turns an input on through an alias and off again. -/
def sampleEventOps : List EventOp :=
  [ ⟨.eventgpio, (∅ : AliasMap).insert (text "on") (text "1"), text "a@x",
      text "eventgpio 4 $ON"⟩,
    ⟨.eventgsm, ∅, text "a@x", text "eventgsm 1"⟩,
    ⟨.eventgpio, ∅, text "b@x", text "eventgpio 4 1"⟩,
    ⟨.eventgpio, ∅, text "a@x", text "eventgpio 4 0"⟩ ]

theorem subscriptionsKept_sampleEventOps :
    gpioEventTargets 4
        (eventRun sampleEnvironment sampleConfig Proxy.initial
          sampleEventOps).myEventList = [text "b@x"] ∧
    SubscriptionsKept sampleEnvironment sampleConfig sampleEventOps
      (eventRun sampleEnvironment sampleConfig Proxy.initial sampleEventOps) :=
  ⟨by decide,
    (subscriptionsKept_run_iff sampleEnvironment sampleConfig (by decide)
      Proxy.initial rfl rfl sampleEventOps (by decide)).mpr (by decide) _
        (List.prefix_refl _)⟩

/-- A buddy turns the modem event on through an alias. -/
def aliasedGsmOps : List EventOp :=
  [⟨.eventgsm, (∅ : AliasMap).insert (text "on") (text "1"), text "a@x",
    text "eventgsm $on"⟩]

/-- The value written is `1`, and the read answers `0`. -/
theorem not_subscriptionsKept_aliasedGsm :
    (∀ op ∈ aliasedGsmOps, op.SenderOk) ∧
    lastWrite aliasedGsmOps (text "a@x", .gsm, 0) = some (text "1") ∧
    ((gsmRead (text "a@x")).perform sampleEnvironment sampleConfig
      (eventRun sampleEnvironment sampleConfig Proxy.initial aliasedGsmOps)).2.1 =
        text "0" ∧
    ¬ SubscriptionsKept sampleEnvironment sampleConfig aliasedGsmOps
      (eventRun sampleEnvironment sampleConfig Proxy.initial aliasedGsmOps) := by
  have hwrite : lastWrite aliasedGsmOps (text "a@x", .gsm, 0) = some (text "1") := by
    decide
  have hshown :
      ((gsmRead (text "a@x")).perform sampleEnvironment sampleConfig
        (eventRun sampleEnvironment sampleConfig Proxy.initial aliasedGsmOps)).2.1 =
          text "0" := by
    decide
  refine ⟨by decide, hwrite, hshown, ?_⟩
  intro hkept
  have hread := hkept.reads (gsmRead (text "a@x")) _ (gsmRead_key _) (gsmRead_value _)
  rw [hread, if_pos hwrite] at hshown
  revert hshown
  decide

end Xmproxy
end BrBox
