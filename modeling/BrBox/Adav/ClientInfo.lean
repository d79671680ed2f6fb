import BrBox.Adav.NetServer

/-!
# What the server knows about its clients

`clientInfo_chain` is meant to hold one entry for every open client
descriptor, so that `get_client_info` reports the ip, port and ident that were
registered when the descriptor was accepted, and every request entry carries
them.

An orderly close removes the entry, a failed `recv` does not.  The main result
of this module says that this is the only way to get out of step: a history
keeps the registry exact if and only if no `recv` fails in it.
-/

namespace BrBox
namespace Adav

open CText
open LabelledRun

/-- The entries of `clientInfo_chain` for one descriptor. -/
def entriesOf (s : ListenState) (sd : Nat) : List NetDataObj :=
  s.clientInfoChain.elems.filter (identifyByDescriptor sd)

/-- What a registration entry says about its client. -/
def NetDataObj.info (obj : NetDataObj) : Peer where
  ip := obj.ip
  port := obj.port
  cltid := obj.ident

/-- What was registered at the most recent `accept` of a descriptor. -/
def registered (s : ListenState) (sd : Nat) : Option Peer :=
  match s.lastConn sd with
  | some conn => (s.peers[conn]?).join
  | none => none

/-- The registry is in step with the open connections. -/
structure ClientInfoExact (s : ListenState) : Prop where
  /-- Open descriptors are reported as they were registered. -/
  lookup : ∀ sd conn, s.fds sd = some conn →
    (registered s sd).isSome = true ∧ getClientInfo s sd = registered s sd
  /-- Open descriptors have exactly one entry. -/
  oneEntry : ∀ sd conn, s.fds sd = some conn → (entriesOf s sd).length = 1
  /-- Closed descriptors have none. -/
  noEntry : ∀ sd, s.fds sd = none → entriesOf s sd = []
  /-- Request entries carry what was registered for their connection. -/
  stamped : ∀ obj ∈ s.requestChain.elems,
    s.peers[obj.origin.conn]? = some (some obj.stamp)

/-- `getnameinfo` succeeds on every accepted connection. -/
def NamesPeer : ListenEvent → Prop
  | .accept _ info => info.isSome = true
  | _ => True

/-- `get_client_info` reports the oldest entry of the descriptor. -/
theorem getClientInfo_eq_head
    (s : ListenState) (sd : Nat) :
    getClientInfo s sd = (entriesOf s sd).head?.map NetDataObj.info := by
  rw [entriesOf, List.head?_filter]
  rfl

/-- Removing the first match takes the head off the matching elements. -/
theorem filter_eraseP_same
    {α : Type} (p : α → Bool) (l : List α) :
    (l.eraseP p).filter p = (l.filter p).tail := by
  induction l with
  | nil =>
      rfl
  | cons a l ih =>
      cases ha : p a with
      | true =>
          simp [ha]
      | false =>
          simp [ha, ih]

/-- Removing an element leaves the matches of a disjoint predicate alone. -/
theorem filter_eraseP_disjoint
    {α : Type} {p q : α → Bool}
    (hdisj : ∀ a, p a = true → q a = false)
    (l : List α) :
    (l.eraseP p).filter q = l.filter q := by
  induction l with
  | nil =>
      rfl
  | cons a l ih =>
      cases ha : p a with
      | true =>
          simp [ha, hdisj a ha]
      | false =>
          simp only [List.eraseP_cons, ha, Bool.cond_false, List.filter_cons, ih]

section Registry

variable {s t : ListenState}

@[simp] theorem entriesOf_closeConn
    (s : ListenState) (sd sd' : Nat) :
    entriesOf (closeConn s sd) sd' = entriesOf s sd' := by
  rfl

/-- An orderly close removes the oldest entry of the descriptor only. -/
theorem entriesOf_deregisterClientInfo
    (s : ListenState) (sd sd' : Nat) :
    entriesOf (deregisterClientInfo s sd) sd' =
      if sd' = sd then (entriesOf s sd).tail else entriesOf s sd' := by
  unfold entriesOf deregisterClientInfo
  simp only [GenericChain.chainRemoveByIdent_elems]
  split
  · rename_i h
    subst h
    exact filter_eraseP_same _ _
  · rename_i h
    apply filter_eraseP_disjoint
    intro obj hobj
    simp only [identifyByDescriptor, decide_eq_true_eq,
      decide_eq_false_iff_not] at hobj ⊢
    omega

/-- A registration adds one entry for the new descriptor. -/
theorem entriesOf_acceptConn
    (s : ListenState) (sd sd' : Nat) (host : Bytes) (port : Int) :
    entriesOf (acceptConn s sd (some (host, port))) sd' =
      if sd' = sd then
        entriesOf s sd ++ [clientInfoObj s sd port host]
      else
        entriesOf s sd' := by
  have helems :
      (acceptConn s sd (some (host, port))).clientInfoChain.elems =
        s.clientInfoChain.elems ++ [clientInfoObj s sd port host] := by
    rfl
  unfold entriesOf
  rw [helems, List.filter_append]
  split
  · rename_i h
    subst h
    simp [identifyByDescriptor, clientInfoObj]
  · rename_i h
    have hne : ¬ sd = sd' := fun hsd => h hsd.symm
    simp [identifyByDescriptor, clientInfoObj, hne]

/-- The descriptor bookkeeping that holds in every run. -/
structure FdInv (s : ListenState) : Prop where
  listenClosed : s.fds s.listenSd = none
  tracked : ∀ sd, sd ≠ s.listenSd → s.masterSet sd = (s.fds sd).isSome
  numbered : ∀ sd conn, s.fds sd = some conn → conn < s.peers.length
  lastOpen : ∀ sd conn, s.fds sd = some conn → s.lastConn sd = some conn

theorem fdInv_startListening
    (listenSd : Nat) :
    FdInv (startListening listenSd) := by
  refine ⟨rfl, ?_, ?_, ?_⟩
  · intro sd hsd
    simpa [startListening] using hsd
  · intro sd conn h
    cases h
  · intro sd conn h
    cases h

theorem fdInv_acceptConn
    (hinv : FdInv s) {sd : Nat} (hsd : sd ≠ s.listenSd)
    (info : Option (Bytes × Int)) :
    FdInv (acceptConn s sd info) := by
  have hlisten : (acceptConn s sd info).listenSd = s.listenSd := by
    cases info <;> rfl
  refine ⟨?_, ?_, ?_, ?_⟩
  · rw [hlisten]
    simpa [acceptConn, Function.update_of_ne (Ne.symm hsd)] using
      hinv.listenClosed
  · intro sd' hsd'
    rw [hlisten] at hsd'
    by_cases h : sd' = sd
    · subst h
      simp [acceptConn]
    · simpa [acceptConn, Function.update_of_ne h] using hinv.tracked sd' hsd'
  · intro sd' conn hconn
    by_cases h : sd' = sd
    · subst h
      simp [acceptConn] at hconn ⊢
      omega
    · simp [acceptConn, Function.update_of_ne h] at hconn ⊢
      have := hinv.numbered sd' conn hconn
      omega
  · intro sd' conn hconn
    by_cases h : sd' = sd
    · subst h
      simpa [acceptConn] using hconn
    · simp [acceptConn, Function.update_of_ne h] at hconn ⊢
      exact hinv.lastOpen sd' conn hconn

theorem fdInv_closeConn
    (hinv : FdInv s) (sd : Nat) :
    FdInv (closeConn s sd) := by
  refine ⟨?_, ?_, ?_, ?_⟩
  · by_cases h : s.listenSd = sd
    · simp [closeConn, h]
    · simpa [closeConn, Function.update_of_ne h] using hinv.listenClosed
  · intro sd' hsd'
    by_cases h : sd' = sd
    · subst h
      simp [closeConn]
    · simpa [closeConn, Function.update_of_ne h] using hinv.tracked sd' hsd'
  · intro sd' conn hconn
    by_cases h : sd' = sd
    · subst h
      simp [closeConn] at hconn
    · simp only [closeConn, Function.update_of_ne h] at hconn
      exact hinv.numbered sd' conn hconn
  · intro sd' conn hconn
    by_cases h : sd' = sd
    · subst h
      simp [closeConn] at hconn
    · simp only [closeConn, Function.update_of_ne h] at hconn
      exact hinv.lastOpen sd' conn hconn

/-- Every step keeps the descriptor bookkeeping. -/
theorem listenStep_fdInv
    {ev : ListenEvent}
    (hinv : FdInv s)
    (hstep : listenStep s ev = some t) :
    FdInv t := by
  obtain ⟨-, h | h | h | h | h | h⟩ := listenStep_cases hstep
  · obtain ⟨sd, info, -, -, hsd, rfl⟩ := h
    exact fdInv_acceptConn hinv hsd info
  · obtain ⟨-, rfl⟩ := h
    exact ⟨hinv.listenClosed, hinv.tracked, hinv.numbered, hinv.lastOpen⟩
  · obtain ⟨sd, received, conn, -, -, -, hrecv⟩ := h
    obtain ⟨objs, chain, hsome, -⟩ := jsonReceive_spec s sd conn received
    rw [hsome, Option.some.injEq] at hrecv
    subst hrecv
    exact ⟨hinv.listenClosed, hinv.tracked, hinv.numbered, hinv.lastOpen⟩
  · obtain ⟨sd, -, rfl⟩ := h
    exact hinv
  · obtain ⟨sd, -, -, rfl⟩ := h
    apply fdInv_closeConn
    exact ⟨hinv.listenClosed, hinv.tracked, hinv.numbered, hinv.lastOpen⟩
  · obtain ⟨sd, -, -, rfl⟩ := h
    exact fdInv_closeConn hinv sd

/-- A readable client descriptor is open. -/
theorem fds_isSome_of_readable
    (hinv : FdInv s) {sd : Nat}
    (hread : readable s sd = true) :
    ∃ conn, s.fds sd = some conn := by
  simp only [readable, Bool.and_eq_true, decide_eq_true_eq] at hread
  have hsome := hinv.tracked sd hread.2
  rw [hread.1.1] at hsome
  exact Option.isSome_iff_exists.mp hsome.symm

/-- The registry in step with the connections, in inductive form. -/
structure RegistryInv (s : ListenState) : Prop where
  fd : FdInv s
  closed : ∀ sd, s.fds sd = none → entriesOf s sd = []
  opened : ∀ sd conn, s.fds sd = some conn →
    ∃ obj, entriesOf s sd = [obj] ∧ s.peers[conn]? = some (some obj.info)
  stamped : ∀ obj ∈ s.requestChain.elems,
    s.peers[obj.origin.conn]? = some (some obj.stamp)

theorem registryInv_startListening
    (listenSd : Nat) :
    RegistryInv (startListening listenSd) := by
  refine ⟨fdInv_startListening listenSd, ?_, ?_, ?_⟩
  · intro sd _
    rfl
  · intro sd conn h
    cases h
  · intro obj hobj
    cases hobj

/-- The inductive form gives the exact registry. -/
theorem clientInfoExact_of_registryInv
    (hinv : RegistryInv s) :
    ClientInfoExact s := by
  refine ⟨?_, ?_, hinv.closed, hinv.stamped⟩
  · intro sd conn hconn
    obtain ⟨obj, hentries, hpeer⟩ := hinv.opened sd conn hconn
    have hreg : registered s sd = some obj.info := by
      simp [registered, hinv.fd.lastOpen sd conn hconn, hpeer]
    rw [getClientInfo_eq_head, hentries, hreg]
    exact ⟨rfl, rfl⟩
  · intro sd conn hconn
    obtain ⟨obj, hentries, -⟩ := hinv.opened sd conn hconn
    rw [hentries]
    rfl

theorem registryInv_acceptConn
    (hinv : RegistryInv s) {sd : Nat}
    (hfree : s.fds sd = none)
    (hsd : sd ≠ s.listenSd)
    (host : Bytes) (port : Int) :
    RegistryInv (acceptConn s sd (some (host, port))) := by
  refine ⟨fdInv_acceptConn hinv.fd hsd _, ?_, ?_, ?_⟩
  · intro sd' hsd'
    by_cases h : sd' = sd
    · subst h
      simp [acceptConn] at hsd'
    · simp only [acceptConn, Function.update_of_ne h] at hsd'
      rw [entriesOf_acceptConn, if_neg h]
      exact hinv.closed sd' hsd'
  · intro sd' conn hconn
    by_cases h : sd' = sd
    · subst h
      have hnew : conn = s.peers.length := by
        simpa [acceptConn, eq_comm] using hconn
      refine ⟨clientInfoObj s sd' port host, ?_, ?_⟩
      · rw [entriesOf_acceptConn, if_pos rfl, hinv.closed sd' hfree]
        rfl
      · subst hnew
        simp [acceptConn, registeredPeer, NetDataObj.info, clientInfoObj]
    · simp only [acceptConn, Function.update_of_ne h] at hconn
      obtain ⟨obj, hentries, hpeer⟩ := hinv.opened sd' conn hconn
      refine ⟨obj, ?_, ?_⟩
      · rw [entriesOf_acceptConn, if_neg h, hentries]
      · have hlt := hinv.fd.numbered sd' conn hconn
        simp only [acceptConn]
        rw [List.getElem?_append_left hlt, hpeer]
  · intro obj hobj
    have hold := hinv.stamped obj hobj
    have hlt : obj.origin.conn < s.peers.length :=
      (List.getElem?_eq_some_iff.mp hold).1
    simp only [acceptConn]
    rw [List.getElem?_append_left hlt, hold]

theorem registryInv_jsonReceive
    (hinv : RegistryInv s) {sd conn : Nat} {received : Bytes}
    (hconn : s.fds sd = some conn)
    (hrecv :
      jsonReceiveDataAndNotifyConsumer s sd conn received = some t) :
    RegistryInv t := by
  obtain ⟨objs, chain, hsome, helems, -, -, hobjs⟩ :=
    jsonReceive_spec s sd conn received
  rw [hsome, Option.some.injEq] at hrecv
  subst hrecv
  refine
    ⟨⟨hinv.fd.listenClosed, hinv.fd.tracked, hinv.fd.numbered,
      hinv.fd.lastOpen⟩, hinv.closed, hinv.opened, ?_⟩
  intro obj hobj
  rw [helems, List.mem_append] at hobj
  rcases hobj with hobj | hobj
  · exact hinv.stamped obj hobj
  · obtain ⟨-, horigin, hstamp⟩ := hobjs obj hobj
    obtain ⟨entry, hentries, hpeer⟩ := hinv.opened sd conn hconn
    rw [horigin, hstamp, getClientInfo_eq_head, hentries]
    exact hpeer

theorem registryInv_orderlyClose
    (hinv : RegistryInv s) {sd : Nat}
    (hread : readable s sd = true) :
    RegistryInv (closeConn (deregisterClientInfo s sd) sd) := by
  have hfd : FdInv (deregisterClientInfo s sd) :=
    ⟨hinv.fd.listenClosed, hinv.fd.tracked, hinv.fd.numbered,
      hinv.fd.lastOpen⟩
  obtain ⟨conn, hconn⟩ := fds_isSome_of_readable hinv.fd hread
  obtain ⟨obj, hentries, -⟩ := hinv.opened sd conn hconn
  refine ⟨fdInv_closeConn hfd sd, ?_, ?_, hinv.stamped⟩
  · intro sd' hsd'
    rw [entriesOf_closeConn, entriesOf_deregisterClientInfo]
    by_cases h : sd' = sd
    · rw [if_pos h, hentries]
      rfl
    · rw [if_neg h]
      simp only [closeConn, Function.update_of_ne h] at hsd'
      exact hinv.closed sd' hsd'
  · intro sd' conn' hconn'
    by_cases h : sd' = sd
    · subst h
      simp [closeConn] at hconn'
    · simp only [closeConn, Function.update_of_ne h] at hconn'
      rw [entriesOf_closeConn, entriesOf_deregisterClientInfo, if_neg h]
      exact hinv.opened sd' conn' hconn'

/-- Every step other than a failed `recv` keeps the registry in step. -/
theorem listenStep_registryInv
    {ev : ListenEvent}
    (hinv : RegistryInv s)
    (hcond : NamesPeer ev ∧ ∀ sd, ev ≠ .recvFail sd)
    (hstep : listenStep s ev = some t) :
    RegistryInv t := by
  obtain ⟨hnames, hok⟩ := hcond
  obtain ⟨-, h | h | h | h | h | h⟩ := listenStep_cases hstep
  · obtain ⟨sd, info, rfl, hfree, hsd, rfl⟩ := h
    obtain ⟨⟨host, port⟩, rfl⟩ := Option.isSome_iff_exists.mp hnames
    exact registryInv_acceptConn hinv hfree hsd host port
  · obtain ⟨-, rfl⟩ := h
    exact
      ⟨⟨hinv.fd.listenClosed, hinv.fd.tracked, hinv.fd.numbered,
        hinv.fd.lastOpen⟩, hinv.closed, hinv.opened, hinv.stamped⟩
  · obtain ⟨sd, received, conn, -, -, hconn, hrecv⟩ := h
    exact registryInv_jsonReceive hinv hconn hrecv
  · obtain ⟨sd, -, rfl⟩ := h
    exact hinv
  · obtain ⟨sd, -, hread, rfl⟩ := h
    exact registryInv_orderlyClose hinv hread
  · obtain ⟨sd, rfl, -, -⟩ := h
    exact absurd rfl (hok sd)

/--
A history keeps the registry exact in every state it goes through if and only
if no `recv` fails in it.
-/
theorem clientInfoExact_run_iff
    (listenSd : Nat)
    {evs : List ListenEvent}
    (hnames : ∀ ev ∈ evs, NamesPeer ev)
    (hrun : run listenStep (startListening listenSd) evs = some t) :
    (∀ pre u,
        pre <+: evs →
        run listenStep (startListening listenSd) pre = some u →
        ClientInfoExact u) ↔
      ∀ sd, ListenEvent.recvFail sd ∉ evs := by
  constructor
  · intro hexact sd hmem
    obtain ⟨pre, post, rfl⟩ := List.append_of_mem hmem
    obtain ⟨u, hpre, htail⟩ := run_prefix hrun
    obtain ⟨v, hstep, -⟩ := run_cons_success htail
    have hu : ClientInfoExact u := hexact pre u ⟨_, rfl⟩ hpre
    have hv : ClientInfoExact v := by
      apply hexact (pre ++ [ListenEvent.recvFail sd]) v
      · exact ⟨post, by simp⟩
      · rw [run_append, hpre]
        simp [run, hstep]
    have hfd : FdInv u :=
      run_invariant (fun _ _ _ => listenStep_fdInv)
        (fdInv_startListening listenSd) hpre
    -- the failed descriptor was open with one entry and is closed with it
    obtain ⟨-, h | h | h | h | h | h⟩ := listenStep_cases hstep
    · obtain ⟨sd', info, hev, -⟩ := h
      cases hev
    · cases h.1
    · obtain ⟨sd', received, conn, hev, -⟩ := h
      cases hev
    · obtain ⟨sd', hev, -⟩ := h
      cases hev
    · obtain ⟨sd', hev, -⟩ := h
      cases hev
    · obtain ⟨sd', hev, hread, rfl⟩ := h
      cases hev
      obtain ⟨conn, hconn⟩ := fds_isSome_of_readable hfd hread
      have hone := hu.oneEntry sd conn hconn
      have hnone := hv.noEntry sd (by simp [closeConn])
      rw [entriesOf_closeConn] at hnone
      rw [hnone] at hone
      cases hone
  · intro hok pre u hpre hrunpre
    have hmeets :
        Meets listenStep
          (fun _ ev => NamesPeer ev ∧ ∀ sd, ev ≠ .recvFail sd)
          (startListening listenSd) pre := by
      apply meets_of_forall
      intro ev hev
      refine ⟨hnames ev (hpre.subset hev), ?_⟩
      rintro sd rfl
      exact hok sd (hpre.subset hev)
    apply clientInfoExact_of_registryInv
    exact
      run_invariant_of_meets
        (fun _ _ _ hinv hcond hstep =>
          listenStep_registryInv hinv hcond hstep)
        (registryInv_startListening listenSd) hmeets hrunpre

end Registry

/-- The registry of one client that connects, sends `{}` and leaves. -/
theorem clientInfoExact_run_iff_orderly :
    ((∀ pre u,
        pre <+:
          [.accept 4 (some ([49], 5000)),
            .recvData 4 [openBrace, closeBrace], .recvClosed 4] →
        run listenStep (startListening 3) pre = some u →
        ClientInfoExact u) ↔
      ∀ sd,
        ListenEvent.recvFail sd ∉
          [.accept 4 (some ([49], 5000)),
            .recvData 4 [openBrace, closeBrace], .recvClosed 4]) := by
  refine clientInfoExact_run_iff 3 ?_ rfl
  simp [NamesPeer]

/--
After a failed `recv` the number is accepted again, and the old client is
reported in place of the new one.
-/
theorem failedRecv_misreports :
    ∃ t,
      run listenStep (startListening 3)
        [.accept 4 (some ([49], 5000)), .recvFail 4,
          .accept 4 (some ([50], 6000))] = some t ∧
      getClientInfo t 4 = some { ip := [49], port := 5000, cltid := 1 } ∧
      registered t 4 = some { ip := [50], port := 6000, cltid := 2 } ∧
      ¬ ClientInfoExact t := by
  refine ⟨_, rfl, rfl, rfl, ?_⟩
  intro hexact
  have hlookup := (hexact.lookup 4 1 rfl).2
  exact absurd hlookup (by decide)

end Adav
end BrBox
