import BrBox.Lib.LabelledRun
import BrBox.Adav.GenericChain
import BrBox.Adav.NetFraming
import Mathlib.Logic.Function.Basic

/-!
# The listen loop of the TCP server

`ADNetServer::thread_callback_function` accepts connections, reads them and
closes them again; the ip, port and ident of every client are kept in
`clientInfo_chain` under the number of its descriptor.

A closed descriptor number may be handed out again by a later `accept`.
The model therefore numbers the connections: `fds` gives the connection behind
an open descriptor, and the ghost fields `peers` and `lastConn` remember what
was registered for each connection and which connection a descriptor number
stood for last.  No modelled function of the server reads a ghost field.

The outcome of `select`, `accept` and `recv` is the label of a step.
-/

namespace BrBox
namespace Adav

open CText
open LabelledRun

/-- Ghost data of an entry: its connection and its number among all entries. -/
structure Origin where
  conn : Nat
  seq : Nat
deriving DecidableEq, Repr

/-- `net_data_obj`, with the ghost origin of the data. -/
structure NetDataObj where
  ident : Int
  sockDescriptor : Nat
  port : Int
  ip : Bytes
  cltid : Int
  dataBufferLen : Nat
  dataBuffer : Bytes
  origin : Origin
deriving DecidableEq, Repr

/-- What `get_client_info` reports about a client. -/
structure Peer where
  ip : Bytes
  port : Int
  cltid : Int
deriving DecidableEq, Repr

/-- The listen thread's part of `ADNetServer` and the kernel's descriptors. -/
structure ListenState where
  listenSd : Nat
  maxSd : Nat
  masterSet : Nat → Bool
  endServer : Bool
  clientInfoChain : GenericChain NetDataObj
  requestChain : GenericChain NetDataObj
  fds : Nat → Option Nat
  peers : List (Option Peer)
  lastConn : Nat → Option Nat
  received : Nat

/-- `start_listening` once the listening socket is set up. -/
def startListening (listenSd : Nat) : ListenState where
  listenSd := listenSd
  maxSd := listenSd
  masterSet := fun i => decide (i = listenSd)
  endServer := false
  clientInfoChain := GenericChain.new
  requestChain := GenericChain.new
  fds := fun _ => none
  peers := []
  lastConn := fun _ => none
  received := 0

/-- `identify_chain_element`: entries are found by their descriptor. -/
def identifyByDescriptor (sd : Nat) (obj : NetDataObj) : Bool :=
  decide (obj.sockDescriptor = sd)

/-- The ip text that `register_client_info` keeps. -/
def registeredIp (cltIp : Bytes) : Bytes :=
  if 0 < cltIp.length ∧ cltIp.length < 1023 then cltIp else []

/-- The object that `register_client_info` puts on `clientInfo_chain`. -/
def clientInfoObj
    (s : ListenState) (sd : Nat) (cltPort : Int) (cltIp : Bytes) :
    NetDataObj where
  ident := s.clientInfoChain.chainGenerateIdent.1
  sockDescriptor := sd
  port := cltPort
  ip := registeredIp cltIp
  cltid := 0
  dataBufferLen := 0
  dataBuffer := []
  origin := { conn := s.peers.length, seq := 0 }

/-- `register_client_info`. -/
def registerClientInfo
    (s : ListenState) (sd : Nat) (cltPort : Int) (cltIp : Bytes) :
    ListenState :=
  { s with
    clientInfoChain :=
      s.clientInfoChain.chainGenerateIdent.2.chainPut
        (clientInfoObj s sd cltPort cltIp) }

/-- What the registration of a new client will report. -/
def registeredPeer
    (s : ListenState) (info : Option (Bytes × Int)) : Option Peer :=
  info.map fun hostPort =>
    { ip := registeredIp hostPort.1
      port := hostPort.2
      cltid := s.clientInfoChain.chainGenerateIdent.1 }

/-- `print_client_info`: register the client if `getnameinfo` succeeds. -/
def printClientInfo
    (s : ListenState) (sd : Nat) (info : Option (Bytes × Int)) :
    ListenState :=
  match info with
  | some (host, port) => registerClientInfo s sd port host
  | none => s

/-- `deregister_client_info`. -/
def deregisterClientInfo (s : ListenState) (sd : Nat) : ListenState :=
  { s with
    clientInfoChain :=
      (s.clientInfoChain.chainRemoveByIdent (identifyByDescriptor sd)).2 }

/-- `get_client_info`. -/
def getClientInfo (s : ListenState) (sd : Nat) : Option Peer :=
  (s.clientInfoChain.chainGetByIdent (identifyByDescriptor sd)).map
    fun obj => { ip := obj.ip, port := obj.port, cltid := obj.ident }

/-- The client data stamped on entries of a client that is not registered. -/
def unknownPeer : Peer where
  ip := []
  port := -1
  cltid := -1

/-- The request entry of one segment. -/
def requestObj
    (sd conn : Nat) (stamp : Peer) (seq : Nat) (ident : Int) (g : Segment) :
    NetDataObj where
  ident := ident
  sockDescriptor := sd
  port := stamp.port
  ip := stamp.ip
  cltid := stamp.cltid
  dataBufferLen := g.dataBufferLen
  dataBuffer := g.dataBuffer
  origin := { conn := conn, seq := seq }

/-- Put one entry per segment on the request chain. -/
def putSegments (sd conn : Nat) (stamp : Peer) :
    Nat → List Segment → GenericChain NetDataObj → GenericChain NetDataObj
  | _, [], chain => chain
  | seq, g :: gs, chain =>
      putSegments sd conn stamp (seq + 1) gs
        (chain.chainGenerateIdent.2.chainPut
          (requestObj sd conn stamp seq chain.chainGenerateIdent.1 g))

/-- `json_receive_data_and_notify_consumer` up to the notification. -/
def jsonReceiveDataAndNotifyConsumer
    (s : ListenState) (sd conn : Nat) (received : Bytes) :
    Option ListenState :=
  match receiveSegments received with
  | none => none
  | some segments =>
      some
        { s with
          requestChain :=
            putSegments sd conn ((getClientInfo s sd).getD unknownPeer)
              s.received segments s.requestChain
          received := s.received + segments.length }

/-- `while(!FD_ISSET(max_sd)) max_sd -= 1`. -/
def lowerMaxSd (masterSet : Nat → Bool) : Nat → Nat
  | 0 => 0
  | n + 1 => if masterSet (n + 1) then n + 1 else lowerMaxSd masterSet n

/-- The clean-up of a connection: `close`, `FD_CLR` and the new `max_sd`. -/
def closeConn (s : ListenState) (sd : Nat) : ListenState :=
  { s with
    fds := Function.update s.fds sd none
    masterSet := Function.update s.masterSet sd false
    maxSd :=
      if sd = s.maxSd then
        lowerMaxSd (Function.update s.masterSet sd false) s.maxSd
      else
        s.maxSd }

/-- One outcome of `accept` or `recv` in the listen loop. -/
inductive ListenEvent where
  /-- `accept` returned `sd`; `info` is what `getnameinfo` gave, if anything. -/
  | accept (sd : Nat) (info : Option (Bytes × Int))
  /-- `accept` failed with an error other than `EWOULDBLOCK`. -/
  | acceptFail
  /-- `recv` returned these bytes. -/
  | recvData (sd : Nat) (received : Bytes)
  /-- `recv` failed with `EWOULDBLOCK`. -/
  | recvWouldBlock (sd : Nat)
  /-- `recv` returned 0. -/
  | recvClosed (sd : Nat)
  /-- `recv` failed with an error other than `EWOULDBLOCK`. -/
  | recvFail (sd : Nat)
deriving DecidableEq, Repr

/-- Client descriptors that the loop may find readable. -/
def readable (s : ListenState) (sd : Nat) : Bool :=
  s.masterSet sd && decide (sd ≤ s.maxSd) && decide (sd ≠ s.listenSd)

/-- The branch of a successful `accept`. -/
def acceptConn
    (s : ListenState) (sd : Nat) (info : Option (Bytes × Int)) :
    ListenState :=
  { printClientInfo s sd info with
    fds := Function.update s.fds sd (some s.peers.length)
    masterSet := Function.update s.masterSet sd true
    maxSd := if s.maxSd < sd then sd else s.maxSd
    peers := s.peers ++ [registeredPeer s info]
    lastConn := Function.update s.lastConn sd (some s.peers.length) }

/-- One step of the listen loop. -/
def listenStep (s : ListenState) : ListenEvent → Option ListenState
  | .accept sd info =>
      if s.endServer = false ∧ s.fds sd = none ∧ sd ≠ s.listenSd then
        some (acceptConn s sd info)
      else
        none
  | .acceptFail =>
      if s.endServer = false then some { s with endServer := true } else none
  | .recvData sd received =>
      if s.endServer = false ∧ readable s sd = true ∧ received ≠ [] then
        match s.fds sd with
        | some conn => jsonReceiveDataAndNotifyConsumer s sd conn received
        | none => none
      else
        none
  | .recvWouldBlock sd =>
      if s.endServer = false ∧ readable s sd = true then some s else none
  | .recvClosed sd =>
      if s.endServer = false ∧ readable s sd = true then
        some (closeConn (deregisterClientInfo s sd) sd)
      else
        none
  | .recvFail sd =>
      if s.endServer = false ∧ readable s sd = true then
        some (closeConn s sd)
      else
        none

/-- The client data stamped on an entry. -/
def NetDataObj.stamp (obj : NetDataObj) : Peer where
  ip := obj.ip
  port := obj.port
  cltid := obj.cltid

/-- What an entry looks like to its consumer. -/
def NetDataObj.view (obj : NetDataObj) : Nat × Bytes :=
  (obj.dataBufferLen, cString obj.dataBuffer)

/-- The entries made from a list of segments. -/
theorem putSegments_spec
    (sd conn : Nat) (stamp : Peer)
    (segments : List Segment) :
    ∀ (seq : Nat) (chain : GenericChain NetDataObj),
      ∃ objs : List NetDataObj,
        (putSegments sd conn stamp seq segments chain).elems =
          chain.elems ++ objs ∧
        objs.map NetDataObj.view = segments.map Segment.view ∧
        objs.map (fun obj => obj.origin.seq) =
          List.range' seq segments.length ∧
        ∀ obj ∈ objs,
          obj.sockDescriptor = sd ∧
          obj.origin.conn = conn ∧
          obj.stamp = stamp := by
  induction segments with
  | nil =>
      intro seq chain
      exact ⟨[], by simp [putSegments]⟩
  | cons g gs ih =>
      intro seq chain
      obtain ⟨objs, helems, hview, hseq, hobjs⟩ :=
        ih (seq + 1)
          (chain.chainGenerateIdent.2.chainPut
            (requestObj sd conn stamp seq chain.chainGenerateIdent.1 g))
      refine
        ⟨requestObj sd conn stamp seq chain.chainGenerateIdent.1 g :: objs,
          ?_, ?_, ?_, ?_⟩
      · rw [putSegments, helems]
        simp only [GenericChain.chainPut_elems,
          GenericChain.chainGenerateIdent_elems, List.append_assoc,
          List.singleton_append]
      · simp only [List.map_cons, hview]
        rfl
      · simp only [List.map_cons, hseq, List.length_cons, List.range'_succ,
          requestObj]
      · intro obj hobj
        rcases List.mem_cons.mp hobj with rfl | hobj
        · exact ⟨rfl, rfl, rfl⟩
        · exact hobjs obj hobj

/-- Receiving appends one entry per piece and changes nothing else. -/
theorem jsonReceive_spec
    (s : ListenState) (sd conn : Nat) (received : Bytes) :
    ∃ objs chain,
      jsonReceiveDataAndNotifyConsumer s sd conn received =
        some
          { s with
            requestChain := chain
            received := s.received + objs.length } ∧
      chain.elems = s.requestChain.elems ++ objs ∧
      objs.map NetDataObj.view = (splitFrames received).map pieceView ∧
      objs.map (fun obj => obj.origin.seq) =
        List.range' s.received objs.length ∧
      ∀ obj ∈ objs,
        obj.sockDescriptor = sd ∧
        obj.origin.conn = conn ∧
        obj.stamp = (getClientInfo s sd).getD unknownPeer := by
  obtain ⟨segments, hsegments, hpieces⟩ := receiveSegments_spec received
  obtain ⟨objs, helems, hview, hseq, hobjs⟩ :=
    putSegments_spec sd conn ((getClientInfo s sd).getD unknownPeer)
      segments s.received s.requestChain
  have hlen : objs.length = segments.length := by
    simpa using congrArg List.length hview
  refine ⟨objs, _, ?_, helems, ?_, ?_, hobjs⟩
  · simp only [jsonReceiveDataAndNotifyConsumer, hsegments, hlen]
  · rw [hview, hpieces]
  · rw [hseq, hlen]

/--
One entry per request, in order, each with the request as its C string, when
the requests are sent one by one and arrive in a single `recv`.
-/
def FramesAgree
    (s : ListenState) (sd conn : Nat) (texts : List Bytes) : Prop :=
  ∃ objs t,
    jsonReceiveDataAndNotifyConsumer s sd conn (sendAll texts) = some t ∧
    t.requestChain.elems = s.requestChain.elems ++ objs ∧
    objs.map (fun obj => cString obj.dataBuffer) = texts

/--
Client and server agree on the framing exactly for a single request in which
no closing brace is directly followed by an opening one.
-/
theorem framesAgree_iff
    (s : ListenState) (sd conn : Nat)
    {texts : List Bytes}
    (hne : texts ≠ [])
    (htexts : ∀ t ∈ texts, t ≠ [] ∧ (0 : Byte) ∉ t) :
    FramesAgree s sd conn texts ↔
      ∃ t, texts = [t] ∧ ¬ [closeBrace, openBrace] <:+: t := by
  obtain ⟨objs, chain, hsome, helems, hview, -⟩ :=
    jsonReceive_spec s sd conn (sendAll texts)
  have hstrings :
      objs.map (fun obj => cString obj.dataBuffer) =
        (splitFrames (sendAll texts)).map cString := by
    have h := congrArg (List.map Prod.snd) hview
    simpa [NetDataObj.view, pieceView, Function.comp_def] using h
  rw [← splitFrames_sendAll_iff hne htexts, ← hstrings]
  constructor
  · rintro ⟨objs', t, ht, helems', hobjs'⟩
    rw [hsome, Option.some.injEq] at ht
    subst ht
    have heq : objs' = objs := by
      rw [helems] at helems'
      exact (List.append_cancel_left helems').symm
    rw [← heq]
    exact hobjs'
  · intro hobjs
    exact ⟨objs, _, hsome, helems, hobjs⟩

/-- A request `{}` on its own is framed correctly. -/
theorem framesAgree_single :
    FramesAgree (startListening 3) 4 0 [[openBrace, closeBrace]] := by
  refine (framesAgree_iff (startListening 3) 4 0 ?_ ?_).mpr ⟨_, rfl, ?_⟩
  · decide
  · decide
  · decide

/-- Two pipelined requests `{}` make one entry. -/
theorem not_framesAgree_pipelined :
    ¬ FramesAgree (startListening 3) 4 0
      [[openBrace, closeBrace], [openBrace, closeBrace]] := by
  rintro ⟨objs, t, ht, helems, hobjs⟩
  have hrecv :
      jsonReceiveDataAndNotifyConsumer (startListening 3) 4 0
        (sendAll [[openBrace, closeBrace], [openBrace, closeBrace]]) =
      some
        { startListening 3 with
          requestChain :=
            { elems :=
                [{ ident := 1
                   sockDescriptor := 4
                   port := -1
                   ip := []
                   cltid := -1
                   dataBufferLen := 6
                   dataBuffer := [openBrace, closeBrace, 0, 0, 0, 0, 0]
                   origin := { conn := 0, seq := 0 } }]
              identGenerator := 1 }
          received := 1 } := by
    rfl
  rw [hrecv, Option.some.injEq] at ht
  subst ht
  have hlen := congrArg List.length hobjs
  have hone := congrArg List.length helems
  simp [startListening] at hlen hone
  omega

/-- Everything that one step of the listen loop can do. -/
theorem listenStep_cases
    {s t : ListenState} {ev : ListenEvent}
    (hstep : listenStep s ev = some t) :
    s.endServer = false ∧
    ((∃ sd info,
        ev = .accept sd info ∧ s.fds sd = none ∧ sd ≠ s.listenSd ∧
        t = acceptConn s sd info) ∨
     (ev = .acceptFail ∧ t = { s with endServer := true }) ∨
     (∃ sd received conn,
        ev = .recvData sd received ∧ readable s sd = true ∧
        s.fds sd = some conn ∧
        jsonReceiveDataAndNotifyConsumer s sd conn received = some t) ∨
     (∃ sd, ev = .recvWouldBlock sd ∧ t = s) ∨
     (∃ sd,
        ev = .recvClosed sd ∧ readable s sd = true ∧
        t = closeConn (deregisterClientInfo s sd) sd) ∨
     (∃ sd,
        ev = .recvFail sd ∧ readable s sd = true ∧
        t = closeConn s sd)) := by
  cases ev with
  | accept sd info =>
      simp only [listenStep] at hstep
      split at hstep
      · rename_i hguard
        exact ⟨hguard.1, Or.inl
          ⟨sd, info, rfl, hguard.2.1, hguard.2.2,
            (Option.some.inj hstep).symm⟩⟩
      · cases hstep
  | acceptFail =>
      simp only [listenStep] at hstep
      split at hstep
      · rename_i hguard
        exact ⟨hguard, Or.inr (Or.inl ⟨rfl, (Option.some.inj hstep).symm⟩)⟩
      · cases hstep
  | recvData sd received =>
      simp only [listenStep] at hstep
      split at hstep
      · rename_i hguard
        split at hstep
        · rename_i conn hconn
          exact ⟨hguard.1, Or.inr (Or.inr (Or.inl
            ⟨sd, received, conn, rfl, hguard.2.1, hconn, hstep⟩))⟩
        · cases hstep
      · cases hstep
  | recvWouldBlock sd =>
      simp only [listenStep] at hstep
      split at hstep
      · rename_i hguard
        exact ⟨hguard.1, Or.inr (Or.inr (Or.inr (Or.inl
          ⟨sd, rfl, (Option.some.inj hstep).symm⟩)))⟩
      · cases hstep
  | recvClosed sd =>
      simp only [listenStep] at hstep
      split at hstep
      · rename_i hguard
        exact ⟨hguard.1, Or.inr (Or.inr (Or.inr (Or.inr (Or.inl
          ⟨sd, rfl, hguard.2, (Option.some.inj hstep).symm⟩))))⟩
      · cases hstep
  | recvFail sd =>
      simp only [listenStep] at hstep
      split at hstep
      · rename_i hguard
        exact ⟨hguard.1, Or.inr (Or.inr (Or.inr (Or.inr (Or.inr
          ⟨sd, rfl, hguard.2, (Option.some.inj hstep).symm⟩))))⟩
      · cases hstep

end Adav
end BrBox
