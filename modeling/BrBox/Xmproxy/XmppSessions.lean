import BrBox.Lib.CText
import BrBox.Lib.LabelledRun
import Mathlib.Logic.Function.Basic

/-!
# Chat sessions of the chat proxy

`ADXmppProxy` keeps one chat session for each buddy that has written to it.  A
session and its filters belong to the `Client` that was alive when the buddy
opened it, and die with that `Client`; nothing takes them out of `mySessions`
when the connection is lost.

Of `gloox` the model has what its documentation promises: it reports a
connection only while there is one, its receive loop ends only after a lost
connection has been reported, and it calls back only from a live `Client`.

* `SessionInv`: `iConnect` implies a `Client`, and a buddy's entry is the session
  that it opened last.
* `sessionsOk_run_iff`: the runs that use sessions of the live `Client` only.
-/

namespace BrBox
namespace Xmproxy

open CText
open LabelledRun

section Model

/-- The three pointers of a `Session`, each by the number of the `Client` it was
made under. -/
structure ChatSession where
  mSession : Nat
  mChatStateFilter : Nat
  mMessageEventFilter : Nat
deriving DecidableEq, Repr

/-- What `gloox` knows about the connection of the current `Client`. -/
inductive Link
  | absent
  | created
  | up
  | down
deriving DecidableEq, Repr

/-- What the proxy does with its pointers: it follows `j`, or uses an object of a
`Client`; both with the value of `j` at that moment.  Requests are handed on. -/
inductive ProxyEvent
  | deref (j : Option Nat)
  | use (client : Nat) (j : Option Nat)
  | request (req sender : Bytes)
deriving DecidableEq, Repr

/-- The members of the proxy; `opened` lists the sessions that buddies have
opened, with their `Client`. -/
structure XmppProxy where
  j : Option Nat
  clients : Nat
  link : Link
  iConnect : Bool
  connected : Bool
  failedAuthorization : Bool
  adminBuddy : Bytes
  bkupAdminBuddy : Bytes
  mySessions : Bytes → Option ChatSession
  opened : List (Bytes × Nat)
  events : List ProxyEvent

namespace XmppProxy

/-- The constructor. -/
def new : XmppProxy :=
  { j := none
    clients := 0
    link := .absent
    iConnect := false
    connected := false
    failedAuthorization := false
    adminBuddy := []
    bkupAdminBuddy := []
    mySessions := fun _ => none
    opened := []
    events := [] }

/-- Note what is done with pointers. -/
def note (p : XmppProxy) (events : List ProxyEvent) : XmppProxy :=
  { p with events := p.events ++ events }

@[simp] theorem note_events (p : XmppProxy) (events : List ProxyEvent) :
    (p.note events).events = p.events ++ events := by
  rfl

@[simp] theorem note_j (p : XmppProxy) (events : List ProxyEvent) :
    (p.note events).j = p.j := by
  rfl

/-- `connect` up to its own `j->connect`. -/
def connect (p : XmppProxy) (adminbuddy bkupadminbuddy : Bytes) : XmppProxy :=
  match p.j with
  | some _ => p
  | none =>
      ({ p with
          adminBuddy := adminbuddy
          bkupAdminBuddy := bkupadminbuddy
          j := some (p.clients + 1)
          clients := p.clients + 1
          link := .created
          connected := true } : XmppProxy).note [.deref (some (p.clients + 1))]

/-- The end of `connect`, when the receive loop has returned. -/
def leave (p : XmppProxy) : XmppProxy :=
  { p.note [.deref p.j] with j := none, link := .absent, connected := false }

/-- `onConnect`. -/
def onConnect (p : XmppProxy) : XmppProxy :=
  { p with iConnect := true }

/-- `onDisconnect`; the connection is down when `gloox` reports it. -/
def onDisconnect (p : XmppProxy) (authenticationFailed : Bool) : XmppProxy :=
  { p with
    failedAuthorization := p.failedAuthorization || authenticationFailed
    iConnect := false
    link := .down }

/-- `disconnect`: `gloox` reports the end of a connection that is not down yet. -/
def disconnect (p : XmppProxy) : XmppProxy :=
  match p.j with
  | none => p
  | some _ =>
      if p.link = .down then
        p.note [.deref p.j]
      else
        (p.note [.deref p.j]).onDisconnect false

/-- The four calls that send through a session. -/
def sendThrough (p : XmppProxy) (session : ChatSession) : XmppProxy :=
  p.note
    [.use session.mMessageEventFilter p.j, .use session.mMessageEventFilter p.j,
      .use session.mChatStateFilter p.j, .use session.mSession p.j]

/-- `send_reply`. -/
def sendReply (p : XmppProxy) (sender : Bytes) : Int × XmppProxy :=
  match p.j with
  | none => (-1, p)
  | some _ =>
      match p.mySessions sender with
      | some session => (0, p.sendThrough session)
      | none => (-1, p)

/-- The entry of a buddy that opens another session is disposed of and erased. -/
def disposeOld (p : XmppProxy) (bare : Bytes) : XmppProxy :=
  match p.mySessions bare with
  | some session =>
      { p.note [.deref p.j, .use session.mSession p.j] with
        mySessions := Function.update p.mySessions bare none }
  | none => p

/-- `handleMessageSession`: the session and its filters are made under `j`. -/
def handleMessageSession (p : XmppProxy) (bare : Bytes) : XmppProxy :=
  match p.j with
  | none => p
  | some client =>
      { p.disposeOld bare with
        mySessions :=
          Function.update (p.disposeOld bare).mySessions bare (some ⟨client, client, client⟩)
        opened := p.opened ++ [(bare, client)] }

/-- `receive_request`: everyone but the admins is looked up in the roster of `j`. -/
def receiveRequest
    (p : XmppProxy) (roster : List Bytes) (req sender : Bytes) : Int × XmppProxy :=
  if sender = p.adminBuddy ∨ sender = p.bkupAdminBuddy then
    (0, p.note [.request req sender])
  else if sender ∈ roster then
    (0, p.note [.deref p.j, .request req sender])
  else
    (-1, p.note [.deref p.j])

/-- `handleMessage`; the sender is the target of the session of `gloox`. -/
def handleMessage
    (p : XmppProxy) (roster : List Bytes) (body sender : Bytes) : XmppProxy :=
  if 0 < body.length then (p.receiveRequest roster body sender).2 else p

/-- `SendMessageToBuddy`; a session that is not in the list is made under `j` and
disposed of at once. -/
def sendMessageToBuddy
    (p : XmppProxy) (roster : List Bytes) (address : Bytes) : Bool × XmppProxy :=
  if p.iConnect = false then
    (false, p)
  else if address ∈ roster then
    match p.mySessions address with
    | some session => (true, (p.note [.deref p.j]).sendThrough session)
    | none => (true, p.note [.deref p.j, .deref p.j, .deref p.j])
  else
    (false, p.note [.deref p.j])

/-- `IsMyBuddy`. -/
def isMyBuddy (p : XmppProxy) (roster : List Bytes) (address : Bytes) : Bool × XmppProxy :=
  if p.iConnect = false then
    (false, p)
  else
    (address ∈ roster, p.note [.deref p.j])

end XmppProxy

/-- A call on the proxy; `roster` is the roster of the `Client` at that moment. -/
inductive ProxyLabel
  | connect (adminbuddy bkupadminbuddy : Bytes)
  | connectResult (ok : Bool)
  | onConnect
  | onDisconnect (authenticationFailed : Bool)
  | leave
  | disconnect
  | handleMessageSession (bare : Bytes)
  | handleMessage (roster : List Bytes) (body sender : Bytes)
  | sendReply (reply sender : Bytes)
  | sendMessageToBuddy (roster : List Bytes) (address body subject : Bytes)
  | isMyBuddy (roster : List Bytes) (address : Bytes)
deriving DecidableEq, Repr

namespace XmppProxy

/-- One call; none where `gloox` does not make it. -/
def proxyStep (p : XmppProxy) : ProxyLabel → Option XmppProxy
  | .connect adminbuddy bkupadminbuddy => some (p.connect adminbuddy bkupadminbuddy)
  | .connectResult ok =>
      if p.link = .created then
        some { p.note [.deref p.j] with link := if ok then .up else .down }
      else
        none
  | .onConnect => if p.link = .up then some p.onConnect else none
  | .onDisconnect authenticationFailed =>
      if p.link = .created ∨ p.link = .up then
        some (p.onDisconnect authenticationFailed)
      else
        none
  | .leave => if p.link = .down then some p.leave else none
  | .disconnect => some p.disconnect
  | .handleMessageSession bare => some (p.handleMessageSession bare)
  | .handleMessage roster body sender =>
      if p.j = none then none else some (p.handleMessage roster body sender)
  | .sendReply _ sender => some (p.sendReply sender).2
  | .sendMessageToBuddy roster address _ _ => some (p.sendMessageToBuddy roster address).2
  | .isMyBuddy roster address => some (p.isMyBuddy roster address).2

end XmppProxy

/-- `j` is followed where it is not null, and an object is used while `j` is the
`Client` it was made under. -/
def ProxyEvent.Ok : ProxyEvent → Prop
  | .deref j => j ≠ none
  | .use client j => j = some client
  | .request _ _ => True

/-- Everything the proxy has done with its pointers was right. -/
def SessionsOk (p : XmppProxy) : Prop :=
  ∀ e ∈ p.events, e.Ok

/-- The buddy that a call takes a session for, if the guards let it. -/
def XmppProxy.buddyOf (p : XmppProxy) : ProxyLabel → Option Bytes
  | .sendReply _ sender => if p.j = none then none else some sender
  | .sendMessageToBuddy roster address _ _ =>
      if p.iConnect = true ∧ address ∈ roster then some address else none
  | .handleMessageSession bare => if p.j = none then none else some bare
  | _ => none

/-- A call for a buddy that has opened no session under another `Client`. -/
def NotFromBefore (p : XmppProxy) (l : ProxyLabel) : Prop :=
  ∀ buddy ∈ p.buddyOf l, ∀ x ∈ p.opened, x.1 = buddy → p.j = some x.2

instance decidableNotFromBefore (p : XmppProxy) (l : ProxyLabel) :
    Decidable (NotFromBefore p l) :=
  inferInstanceAs (Decidable
    (∀ buddy ∈ p.buddyOf l, ∀ x ∈ p.opened, x.1 = buddy → p.j = some x.2))

end Model

section Runs

namespace XmppProxy

/-- What the calls keep while no buddy from an earlier connection is met. -/
structure SessionInv (p : XmppProxy) : Prop where
  ok : SessionsOk p
  entries : ∀ b session, p.mySessions b = some session →
    ∃ client, session = ⟨client, client, client⟩ ∧ (b, client) ∈ p.opened
  opened : ∀ b client, (b, client) ∈ p.opened →
    p.mySessions b = some ⟨client, client, client⟩
  absent : p.link = .absent ↔ p.j = none
  online : p.iConnect = true → p.link = .up

variable {p p' : XmppProxy}

/-- The constructed proxy. -/
theorem sessionInv_new : SessionInv new := by
  constructor
  · simp [SessionsOk, new]
  · simp [new]
  · simp [new]
  · simp [new]
  · simp [new]

/-- Pointers that are right are noted. -/
theorem SessionInv.note
    (hinv : p.SessionInv) (events : List ProxyEvent)
    (hevents : ∀ e ∈ events, e.Ok) :
    (p.note events).SessionInv := by
  refine { hinv with ok := ?_ }
  intro e he
  rcases List.mem_append.mp he with he | he
  · exact hinv.ok e he
  · exact hevents e he

/-- An online proxy has a `Client`. -/
theorem SessionInv.client
    (hinv : p.SessionInv) (honline : p.iConnect = true) :
    p.j ≠ none := by
  intro hj
  have habsent := hinv.absent.mpr hj
  rw [hinv.online honline] at habsent
  cases habsent

/-- The entry of a buddy that is not from before is of the live `Client`. -/
theorem SessionInv.entry_live
    (hinv : p.SessionInv) {b : Bytes} {session : ChatSession}
    (hentry : p.mySessions b = some session)
    (hlive : ∀ x ∈ p.opened, x.1 = b → p.j = some x.2) :
    ∃ client, session = ⟨client, client, client⟩ ∧ p.j = some client := by
  obtain ⟨client, rfl, hopened⟩ := hinv.entries b session hentry
  exact ⟨client, rfl, hlive _ hopened rfl⟩

theorem SessionInv.connect
    (hinv : p.SessionInv) (adminbuddy bkupadminbuddy : Bytes) :
    (p.connect adminbuddy bkupadminbuddy).SessionInv := by
  unfold XmppProxy.connect
  cases hj : p.j with
  | some client =>
      exact hinv
  | none =>
      apply SessionInv.note
      · refine { hinv with absent := by simp, online := ?_ }
        intro honline
        exact absurd hj (hinv.client honline)
      · simp [ProxyEvent.Ok]

theorem SessionInv.onDisconnect
    (hinv : p.SessionInv) (authenticationFailed : Bool) (hj : p.j ≠ none) :
    (p.onDisconnect authenticationFailed).SessionInv := by
  refine { hinv with absent := ?_, online := by simp [XmppProxy.onDisconnect] }
  simpa [XmppProxy.onDisconnect] using hj

theorem SessionInv.disconnect
    (hinv : p.SessionInv) :
    p.disconnect.SessionInv := by
  unfold XmppProxy.disconnect
  cases hj : p.j with
  | none =>
      exact hinv
  | some client =>
      have hnoted : (p.note [.deref p.j]).SessionInv :=
        hinv.note _ (by simp [ProxyEvent.Ok, hj])
      simp only [← hj]
      split
      · exact hnoted
      · exact hnoted.onDisconnect false (by simp [hj])

/-- Sending through a session of the live `Client`. -/
theorem SessionInv.sendThrough
    (hinv : p.SessionInv) {client : Nat} (hj : p.j = some client) :
    (p.sendThrough ⟨client, client, client⟩).SessionInv := by
  apply hinv.note
  simp [ProxyEvent.Ok, hj]

theorem SessionInv.sendReply
    (hinv : p.SessionInv) (reply sender : Bytes)
    (hlive : NotFromBefore p (.sendReply reply sender)) :
    (p.sendReply sender).2.SessionInv := by
  unfold XmppProxy.sendReply
  cases hj : p.j with
  | none =>
      exact hinv
  | some client =>
      cases hentry : p.mySessions sender with
      | none =>
          exact hinv
      | some session =>
          have hbuddy : p.buddyOf (.sendReply reply sender) = some sender := by
            simp [buddyOf, hj]
          obtain ⟨owner, rfl, howner⟩ := hinv.entry_live hentry (hlive sender hbuddy)
          exact hinv.sendThrough howner

theorem SessionInv.handleMessageSession
    (hinv : p.SessionInv) (bare : Bytes)
    (hlive : NotFromBefore p (.handleMessageSession bare)) :
    (p.handleMessageSession bare).SessionInv := by
  unfold XmppProxy.handleMessageSession
  cases hj : p.j with
  | none =>
      exact hinv
  | some client =>
      have hbuddy : p.buddyOf (.handleMessageSession bare) = some bare := by
        simp [buddyOf, hj]
      have hlive' := hlive bare hbuddy
      have hok : SessionsOk (p.disposeOld bare) := by
        unfold disposeOld
        cases hentry : p.mySessions bare with
        | none =>
            exact hinv.ok
        | some session =>
            obtain ⟨owner, rfl, howner⟩ := hinv.entry_live hentry hlive'
            exact (hinv.note [.deref p.j, .use owner p.j]
              (by simp [ProxyEvent.Ok, howner])).ok
      have hother : ∀ b, b ≠ bare → (p.disposeOld bare).mySessions b = p.mySessions b := by
        intro b hb
        unfold disposeOld
        split
        · exact Function.update_of_ne hb _ _
        · rfl
      have hlink : (p.disposeOld bare).link = p.link ∧ (p.disposeOld bare).j = p.j ∧
          (p.disposeOld bare).iConnect = p.iConnect := by
        unfold disposeOld
        split <;> exact ⟨rfl, rfl, rfl⟩
      constructor
      · exact hok
      · intro b session hentry
        by_cases hb : b = bare
        · subst hb
          simp only [Function.update_self, Option.some.injEq] at hentry
          exact ⟨client, hentry.symm, by simp⟩
        · simp only [Function.update_of_ne hb, hother b hb] at hentry
          obtain ⟨owner, heq, hopened⟩ := hinv.entries b session hentry
          exact ⟨owner, heq, List.mem_append_left _ hopened⟩
      · intro b owner hopened
        rcases List.mem_append.mp hopened with hold | hnew
        · by_cases hb : b = bare
          · subst hb
            have howner := hlive' (b, owner) hold rfl
            rw [hj] at howner
            obtain rfl := Option.some.inj howner
            simp
          · simp only [Function.update_of_ne hb, hother b hb]
            exact hinv.opened b owner hold
        · obtain ⟨rfl, rfl⟩ : b = bare ∧ owner = client := by simpa using hnew
          simp
      · simpa [hlink.1, hlink.2.1] using hinv.absent
      · simpa [hlink.1, hlink.2.2] using hinv.online

theorem SessionInv.handleMessage
    (hinv : p.SessionInv) (roster : List Bytes) (body sender : Bytes)
    (hj : p.j ≠ none) :
    (p.handleMessage roster body sender).SessionInv := by
  unfold XmppProxy.handleMessage XmppProxy.receiveRequest
  split
  · split
    · exact hinv.note _ (by simp [ProxyEvent.Ok])
    · split
      · exact hinv.note _ (by simp [ProxyEvent.Ok, hj])
      · exact hinv.note _ (by simp [ProxyEvent.Ok, hj])
  · exact hinv

theorem SessionInv.sendMessageToBuddy
    (hinv : p.SessionInv) (roster : List Bytes) (address body subject : Bytes)
    (hlive : NotFromBefore p (.sendMessageToBuddy roster address body subject)) :
    (p.sendMessageToBuddy roster address).2.SessionInv := by
  unfold XmppProxy.sendMessageToBuddy
  by_cases hoffline : p.iConnect = false
  · rw [if_pos hoffline]
    exact hinv
  · have honline : p.iConnect = true := by simpa using hoffline
    have hj := hinv.client honline
    have hderef : (p.note [.deref p.j]).SessionInv := hinv.note _ (by simp [ProxyEvent.Ok, hj])
    rw [if_neg hoffline]
    by_cases hroster : address ∈ roster
    · rw [if_pos hroster]
      cases hentry : p.mySessions address with
      | none =>
          exact hinv.note _ (by simp [ProxyEvent.Ok, hj])
      | some session =>
          have hbuddy : p.buddyOf (.sendMessageToBuddy roster address body subject) =
              some address := by
            simp [buddyOf, honline, hroster]
          obtain ⟨owner, rfl, howner⟩ := hinv.entry_live hentry (hlive address hbuddy)
          exact hderef.sendThrough howner
    · rw [if_neg hroster]
      exact hderef

theorem SessionInv.isMyBuddy
    (hinv : p.SessionInv) (roster : List Bytes) (address : Bytes) :
    (p.isMyBuddy roster address).2.SessionInv := by
  unfold XmppProxy.isMyBuddy
  split
  · exact hinv
  · rename_i hoffline
    exact hinv.note _ (by simp [ProxyEvent.Ok, hinv.client (by simpa using hoffline)])

/-- A call for no buddy from an earlier connection keeps the invariant. -/
theorem SessionInv.step
    (hinv : p.SessionInv) {l : ProxyLabel}
    (hlive : NotFromBefore p l)
    (hstep : p.proxyStep l = some p') :
    p'.SessionInv := by
  have hsome : p.link ≠ .absent → p.j ≠ none := mt hinv.absent.mpr
  cases l with
  | connect adminbuddy bkupadminbuddy =>
      obtain rfl := Option.some.inj hstep
      exact hinv.connect adminbuddy bkupadminbuddy
  | connectResult ok =>
      simp only [proxyStep] at hstep
      split at hstep
      · rename_i hlink
        obtain rfl := Option.some.inj hstep
        have hj := hsome (by simp [hlink])
        have hnoted := hinv.note [.deref p.j] (by simp [ProxyEvent.Ok, hj])
        refine { hnoted with absent := ?_, online := ?_ }
        · cases ok <;> simpa using hj
        · intro honline
          have hup := hinv.online honline
          rw [hlink] at hup
          cases hup
      · cases hstep
  | onConnect =>
      simp only [proxyStep] at hstep
      split at hstep
      · rename_i hlink
        obtain rfl := Option.some.inj hstep
        exact { hinv with online := fun _ => hlink }
      · cases hstep
  | onDisconnect authenticationFailed =>
      simp only [proxyStep] at hstep
      split at hstep
      · rename_i hlink
        obtain rfl := Option.some.inj hstep
        apply hinv.onDisconnect
        apply hsome
        rcases hlink with hlink | hlink <;> simp [hlink]
      · cases hstep
  | leave =>
      simp only [proxyStep] at hstep
      split at hstep
      · rename_i hlink
        obtain rfl := Option.some.inj hstep
        have hj := hsome (by simp [hlink])
        have hnoted := hinv.note [.deref p.j] (by simp [ProxyEvent.Ok, hj])
        refine { hnoted with absent := by simp [XmppProxy.leave], online := ?_ }
        intro honline
        have hup := hinv.online honline
        rw [hlink] at hup
        cases hup
      · cases hstep
  | disconnect =>
      obtain rfl := Option.some.inj hstep
      exact hinv.disconnect
  | handleMessageSession bare =>
      obtain rfl := Option.some.inj hstep
      exact hinv.handleMessageSession bare hlive
  | handleMessage roster body sender =>
      simp only [proxyStep] at hstep
      split at hstep
      · cases hstep
      · rename_i hj
        obtain rfl := Option.some.inj hstep
        exact hinv.handleMessage roster body sender hj
  | sendReply reply sender =>
      obtain rfl := Option.some.inj hstep
      exact hinv.sendReply reply sender hlive
  | sendMessageToBuddy roster address body subject =>
      obtain rfl := Option.some.inj hstep
      exact hinv.sendMessageToBuddy roster address body subject hlive
  | isMyBuddy roster address =>
      obtain rfl := Option.some.inj hstep
      exact hinv.isMyBuddy roster address

/-- A call that takes the session of a buddy uses it. -/
theorem SessionInv.use_mem
    (hinv : p.SessionInv) {l : ProxyLabel} {buddy : Bytes} {client : Nat}
    (hbuddy : p.buddyOf l = some buddy)
    (hopened : (buddy, client) ∈ p.opened)
    (hstep : p.proxyStep l = some p') :
    .use client p.j ∈ p'.events := by
  have hentry := hinv.opened buddy client hopened
  cases l with
  | sendReply reply sender =>
      simp only [buddyOf, Option.ite_none_left_eq_some, Option.some.injEq] at hbuddy
      obtain ⟨hj, rfl⟩ := hbuddy
      obtain ⟨current, hcurrent⟩ := Option.ne_none_iff_exists'.mp hj
      obtain rfl := Option.some.inj hstep
      simp [XmppProxy.sendReply, hcurrent, hentry, XmppProxy.sendThrough]
  | sendMessageToBuddy roster address body subject =>
      simp only [buddyOf, Option.ite_none_right_eq_some, Option.some.injEq] at hbuddy
      obtain ⟨⟨honline, hroster⟩, rfl⟩ := hbuddy
      obtain rfl := Option.some.inj hstep
      simp [XmppProxy.sendMessageToBuddy, honline, hroster, hentry, XmppProxy.sendThrough]
  | handleMessageSession bare =>
      simp only [buddyOf, Option.ite_none_left_eq_some, Option.some.injEq] at hbuddy
      obtain ⟨hj, rfl⟩ := hbuddy
      obtain ⟨current, hcurrent⟩ := Option.ne_none_iff_exists'.mp hj
      obtain rfl := Option.some.inj hstep
      simp [XmppProxy.handleMessageSession, hcurrent, disposeOld, hentry]
  | _ =>
      cases hbuddy

/-- A call after which everything was right was for no buddy from before. -/
theorem SessionInv.notFromBefore
    (hinv : p.SessionInv) {l : ProxyLabel}
    (hstep : p.proxyStep l = some p') (hok : SessionsOk p') :
    NotFromBefore p l := by
  rintro buddy hbuddy ⟨b, client⟩ hopened rfl
  exact hok _ (hinv.use_mem hbuddy hopened hstep)

end XmppProxy

/-- The proxy has used its pointers right in every state of a run if and only if no
call of the run takes a session for a buddy that opened one under an earlier
`Client`. -/
theorem sessionsOk_run_iff
    (ls : List ProxyLabel) (u : XmppProxy)
    (hrun : run XmppProxy.proxyStep .new ls = some u) :
    (∀ pre t, pre <+: ls → run XmppProxy.proxyStep .new pre = some t → SessionsOk t) ↔
      Meets XmppProxy.proxyStep NotFromBefore .new ls :=
  forall_prefix_iff_meets
    (I := XmppProxy.SessionInv)
    (fun _ _ _ hinv hlive hstep => hinv.step hlive hstep)
    (fun _ hinv => hinv.ok)
    (fun _ _ _ hinv hstep hok => hinv.notFromBefore hstep hok)
    XmppProxy.sessionInv_new hrun

/-- Two connections; a buddy writes in each of them and is answered, and another
one is sent an event. -/
def sampleCalls : List ProxyLabel :=
  [.connect [97] [98], .connectResult true, .onConnect, .handleMessageSession [99],
    .handleMessage [[99]] [49] [99], .sendReply [50] [99], .onDisconnect false, .leave,
    .sendReply [50] [99],
    .connect [97] [98], .connectResult true, .onConnect, .handleMessageSession [100],
    .sendMessageToBuddy [[100], [101]] [100] [50] [51],
    .sendMessageToBuddy [[100], [101]] [101] [50] [51]]

theorem sessionsOk_run_iff_sampleCalls :
    ∃ u, run XmppProxy.proxyStep .new sampleCalls = some u ∧ u.clients = 2 ∧ SessionsOk u :=
  ⟨_, rfl, rfl, (sessionsOk_run_iff sampleCalls _ rfl).mpr (by decide +kernel) sampleCalls _
    List.prefix_rfl rfl⟩

/-- A buddy that wrote before a reconnect is answered after it: the reply goes
through the session of the `Client` that was deleted. -/
theorem not_sessionsOk_reconnect :
    ∃ u,
      run XmppProxy.proxyStep .new
        [.connect [97] [98], .connectResult true, .onConnect, .handleMessageSession [99],
          .onDisconnect false, .leave, .connect [97] [98], .sendReply [50] [99]] = some u ∧
      ¬ SessionsOk u := by
  refine ⟨_, rfl, ?_⟩
  intro hok
  have huse := hok (.use 1 (some 2)) (by decide +kernel)
  cases huse

end Runs

end Xmproxy
end BrBox
