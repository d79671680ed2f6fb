import BrBox.Adav.NetServer

/-!
# The entries made from one receive buffer

`ADNetServer::json_receive_data_and_notify_consumer` puts one entry on
`request_chain` for every piece of the receive buffer.  The module says which
texts, lengths, descriptors and idents these entries have.

Cutting is exact for every buffer.  The idents come from a signed counter, so
they grow inside a call exactly when the counter does not pass `INT_MAX`
between two entries of that call.
-/

namespace BrBox
namespace Adav

open CText

/-- Number of places where a `}` is directly followed by a `{`. -/
def joints : Bytes → Nat
  | c :: d :: rest =>
      (if c = closeBrace ∧ d = openBrace then 1 else 0) + joints (d :: rest)
  | _ => 0

/-- One piece ends in `}` and the next one starts with `{`. -/
def CutBetween (p q : Bytes) : Prop :=
  p.getLast? = some closeBrace ∧ q.head? = some openBrace

@[simp] theorem consHead_length
    (c : Byte) {ps : List Bytes} (hne : ps ≠ []) :
    (consHead c ps).length = ps.length := by
  cases ps with
  | nil =>
      exact absurd rfl hne
  | cons p ps =>
      rfl

/-- One more piece than there are joints. -/
theorem splitFrames_length
    (w : Bytes) :
    (splitFrames w).length = joints w + 1 := by
  induction w using splitFrames.induct with
  | case1 =>
      rfl
  | case2 c =>
      rfl
  | case3 c d rest hcut ih =>
      rw [splitFrames, if_pos hcut, List.length_cons, ih, joints, if_pos hcut]
      omega
  | case4 c d rest hcut ih =>
      rw [splitFrames, if_neg hcut, consHead_length c (splitFrames_ne_nil _),
        ih, joints, if_neg hcut]
      omega

/-- Every joint takes a byte. -/
theorem joints_le_length
    (w : Bytes) :
    joints w ≤ w.length := by
  induction w using joints.induct with
  | case1 c d rest ih =>
      rw [joints, List.length_cons]
      split <;> omega
  | case2 w hw =>
      cases w with
      | nil =>
          exact Nat.le_refl _
      | cons c rest =>
          cases rest with
          | nil =>
              exact Nat.zero_le _
          | cons d rest =>
              exact absurd rfl (hw c d rest)

/-- The first piece starts with the first byte. -/
theorem splitFrames_cons
    (d : Byte) (rest : Bytes) :
    ∃ tail ps, splitFrames (d :: rest) = (d :: tail) :: ps := by
  cases rest with
  | nil =>
      exact ⟨[], [], rfl⟩
  | cons e rest =>
      by_cases hcut : d = closeBrace ∧ e = openBrace
      · exact ⟨[], splitFrames (e :: rest), by rw [splitFrames, if_pos hcut]⟩
      · obtain ⟨p, ps, hps⟩ :=
          List.exists_cons_of_ne_nil (splitFrames_ne_nil (e :: rest))
        refine ⟨p, ps, ?_⟩
        rw [splitFrames, if_neg hcut, hps, consHead]

/-- A byte in front of the first piece moves no cut. -/
theorem isChain_cutBetween_consHead
    {c d : Byte} {tail : Bytes} {ps : List Bytes}
    (hchain : List.IsChain CutBetween ((d :: tail) :: ps)) :
    List.IsChain CutBetween (consHead c ((d :: tail) :: ps)) := by
  cases ps with
  | nil =>
      exact List.IsChain.singleton _
  | cons q ps =>
      rw [consHead, List.isChain_cons_cons]
      rw [List.isChain_cons_cons] at hchain
      obtain ⟨⟨hlast, hhead⟩, hrest⟩ := hchain
      refine ⟨⟨?_, hhead⟩, hrest⟩
      rw [List.getLast?_cons_cons]
      exact hlast

/-- Every cut lies between a `}` and a `{`. -/
theorem splitFrames_isChain
    (w : Bytes) :
    List.IsChain CutBetween (splitFrames w) := by
  induction w using splitFrames.induct with
  | case1 =>
      exact List.IsChain.singleton _
  | case2 c =>
      exact List.IsChain.singleton _
  | case3 c d rest hcut ih =>
      rw [splitFrames, if_pos hcut]
      obtain ⟨tail, ps, hps⟩ := splitFrames_cons d rest
      rw [hps] at ih ⊢
      rw [List.isChain_cons_cons]
      exact ⟨⟨by simp [hcut.1], by simp [hcut.2]⟩, ih⟩
  | case4 c d rest hcut ih =>
      rw [splitFrames, if_neg hcut]
      obtain ⟨tail, ps, hps⟩ := splitFrames_cons d rest
      rw [hps] at ih ⊢
      exact isChain_cutBetween_consHead ih

/-- No piece holds a joint. -/
theorem splitFrames_piece_no_joint
    {w p : Bytes}
    (hp : p ∈ splitFrames w) :
    ¬ [closeBrace, openBrace] <:+: p := by
  induction w using splitFrames.induct generalizing p with
  | case1 =>
      simp only [splitFrames, List.mem_singleton] at hp
      simp [hp]
  | case2 c =>
      simp only [splitFrames, List.mem_singleton] at hp
      simp [hp, List.infix_cons_iff]
  | case3 c d rest hcut ih =>
      rw [splitFrames, if_pos hcut, List.mem_cons] at hp
      rcases hp with rfl | hp
      · simp [List.infix_cons_iff]
      · exact ih hp
  | case4 c d rest hcut ih =>
      rw [splitFrames, if_neg hcut] at hp
      obtain ⟨tail, ps, hps⟩ := splitFrames_cons d rest
      rw [hps, consHead, List.mem_cons] at hp
      rcases hp with rfl | hp
      · rw [List.infix_cons_iff]
        rintro (hpre | hinfix)
        · obtain ⟨more, hmore⟩ := hpre
          simp only [List.cons_append, List.nil_append,
            List.cons.injEq] at hmore
          exact hcut ⟨hmore.1.symm, hmore.2.1.symm⟩
        · exact ih (by simp [hps]) hinfix
      · exact ih (by simp [hps, hp])

/-- The idents that the next `n` calls of `chain_generate_ident` return. -/
def nextIdents : Nat → Int → List Int
  | 0, _ => []
  | n + 1, generator =>
      wrapInt32 (generator + 1) :: nextIdents n (wrapInt32 (generator + 1))

/-- Up to `INT_MAX` the idents grow, and all of them are new. -/
theorem nextIdents_pairwise
    {n : Nat} {generator : Int}
    (hlow : -2 ^ 31 ≤ generator)
    (hhigh : generator + n < 2 ^ 31) :
    (nextIdents n generator).Pairwise (· < ·) ∧
      ∀ ident ∈ nextIdents n generator, generator < ident := by
  induction n generalizing generator with
  | zero =>
      exact ⟨List.Pairwise.nil, by simp [nextIdents]⟩
  | succ n ih =>
      have hnext : wrapInt32 (generator + 1) = generator + 1 :=
        wrapInt32_of_range (by omega) (by omega)
      obtain ⟨hpair, hnew⟩ :=
        @ih (generator + 1) (by omega) (by omega)
      rw [nextIdents, hnext]
      refine ⟨List.Pairwise.cons hnew hpair, ?_⟩
      intro ident hident
      rcases List.mem_cons.mp hident with rfl | hident
      · omega
      · have := hnew ident hident
        omega

/-- Behind `INT_MAX` comes `INT_MIN`. -/
theorem wrapInt32_past_max :
    wrapInt32 (2 ^ 31 - 1 + 1) = -2 ^ 31 := by
  rfl

/-- A wrap between two of the idents breaks the order. -/
theorem nextIdents_not_pairwise
    {n : Nat} {generator : Int}
    (hlow : -2 ^ 31 ≤ generator)
    (hmax : generator < 2 ^ 31 - 1)
    (hpast : 2 ^ 31 ≤ generator + n) :
    ¬ (nextIdents n generator).Pairwise (· < ·) := by
  induction n generalizing generator with
  | zero =>
      omega
  | succ n ih =>
      have hnext : wrapInt32 (generator + 1) = generator + 1 :=
        wrapInt32_of_range (by omega) (by omega)
      rw [nextIdents, hnext]
      intro hpair
      rw [List.pairwise_cons] at hpair
      obtain ⟨hfirst, hrest⟩ := hpair
      by_cases hlast : generator + 1 = 2 ^ 31 - 1
      · -- this ident is the largest `int`, the next one the smallest
        obtain ⟨m, rfl⟩ : ∃ m, n = m + 1 :=
          ⟨n - 1, by omega⟩
        have hwrapped := hfirst (-2 ^ 31) (by
          rw [nextIdents, hlast, wrapInt32_past_max]
          exact List.mem_cons_self)
        omega
      · exact ih (by omega) (by omega) (by omega) hrest

/-- The idents of one call grow unless the generator wraps inside the call. -/
theorem nextIdents_pairwise_iff
    {n : Nat} {generator : Int}
    (hlow : -2 ^ 31 ≤ generator)
    (hhigh : generator < 2 ^ 31)
    (hn : n < 2 ^ 32) :
    (nextIdents n generator).Pairwise (· < ·) ↔
      generator = 2 ^ 31 - 1 ∨ generator + n < 2 ^ 31 := by
  constructor
  · intro hpair
    by_contra hnot
    rw [not_or] at hnot
    exact nextIdents_not_pairwise hlow (by omega) (by omega) hpair
  · rintro (rfl | hroom)
    · cases n with
      | zero =>
          exact List.Pairwise.nil
      | succ n =>
          rw [nextIdents, wrapInt32_past_max]
          obtain ⟨hpair, hnew⟩ :=
            @nextIdents_pairwise n (-2 ^ 31) (by omega) (by omega)
          exact List.Pairwise.cons hnew hpair
    · exact (nextIdents_pairwise hlow hroom).1

/-- The idents of the entries put for a list of segments. -/
theorem putSegments_idents
    (sd conn : Nat) (stamp : Peer)
    (segments : List Segment) :
    ∀ (seq : Nat) (chain : GenericChain NetDataObj),
      (putSegments sd conn stamp seq segments chain).elems.map
          NetDataObj.ident =
        chain.elems.map NetDataObj.ident ++
          nextIdents segments.length chain.identGenerator := by
  induction segments with
  | nil =>
      intro seq chain
      simp [putSegments, nextIdents]
  | cons g gs ih =>
      intro seq chain
      rw [putSegments, ih]
      simp [nextIdents, requestObj, GenericChain.chainGenerateIdent]

/-- What the entries of one receive buffer have to look like. -/
structure EntriesExact
    (sd : Nat) (received : Bytes) (objs : List NetDataObj) : Prop where
  /-- The texts make up the buffer. -/
  concat : (objs.map fun obj => cString obj.dataBuffer).flatten = received
  /-- Cuts are between a `}` and a `{` only. -/
  cutsAtJoints :
    List.IsChain CutBetween (objs.map fun obj => cString obj.dataBuffer)
  /-- No such place is left inside a text. -/
  noJointInside :
    ∀ obj ∈ objs, ¬ [closeBrace, openBrace] <:+: cString obj.dataBuffer
  nonempty : ∀ obj ∈ objs, cString obj.dataBuffer ≠ []
  bufferLen :
    ∀ obj ∈ objs, obj.dataBufferLen = (cString obj.dataBuffer).length
  descriptor : ∀ obj ∈ objs, obj.sockDescriptor = sd
  identsIncrease : (objs.map NetDataObj.ident).Pairwise (· < ·)

/--
The call reads inside the terminated buffer only, appends its entries to the
request chain, and they are as they should be.
-/
def RequestEntries
    (s : ListenState) (sd conn : Nat) (received : Bytes) : Prop :=
  ∃ objs t,
    jsonReceiveDataAndNotifyConsumer s sd conn received = some t ∧
    t.requestChain.elems = s.requestChain.elems ++ objs ∧
    EntriesExact sd received objs

/-- The C string of a piece without NUL is the piece. -/
theorem cString_piece
    {received p : Bytes}
    (hzero : (0 : Byte) ∉ received)
    (hp : p ∈ splitFrames received) :
    cString p = p := by
  have hmem : (0 : Byte) ∉ p := by
    intro h
    apply hzero
    rw [← splitFrames_flatten received]
    exact List.mem_flatten.mpr ⟨p, hp, h⟩
  have h := cString_append_zero hmem []
  rwa [cString_append_terminator] at h

/-- The entries of a call: its texts are the pieces, its idents come in a row. -/
theorem jsonReceive_entries
    (s : ListenState) (sd conn : Nat)
    {received : Bytes}
    (hzero : (0 : Byte) ∉ received) :
    ∃ objs t,
      jsonReceiveDataAndNotifyConsumer s sd conn received = some t ∧
      t.requestChain.elems = s.requestChain.elems ++ objs ∧
      objs.map (fun obj => cString obj.dataBuffer) = splitFrames received ∧
      objs.map NetDataObj.dataBufferLen =
        (splitFrames received).map List.length ∧
      objs.map NetDataObj.ident =
        nextIdents (joints received + 1) s.requestChain.identGenerator ∧
      ∀ obj ∈ objs, obj.sockDescriptor = sd := by
  obtain ⟨segments, hsegments, hpieces⟩ := receiveSegments_spec received
  obtain ⟨objs, helems, hview, -, hobjs⟩ :=
    putSegments_spec sd conn ((getClientInfo s sd).getD unknownPeer)
      segments s.received s.requestChain
  have hidents :=
    putSegments_idents sd conn ((getClientInfo s sd).getD unknownPeer)
      segments s.received s.requestChain
  rw [helems, List.map_append, List.append_cancel_left_eq] at hidents
  have hcount : segments.length = joints received + 1 := by
    rw [← splitFrames_length]
    simpa using congrArg List.length hpieces
  rw [hpieces] at hview
  refine ⟨objs, _, by rw [jsonReceiveDataAndNotifyConsumer, hsegments],
    helems, ?_, ?_, by rw [hidents, hcount], fun obj hobj => (hobjs obj hobj).1⟩
  · have htexts := congrArg (List.map Prod.snd) hview
    simp only [List.map_map, Function.comp_def, NetDataObj.view,
      pieceView] at htexts
    rw [htexts]
    calc
      (splitFrames received).map cString
          = (splitFrames received).map id :=
        List.map_congr_left fun p hp => cString_piece hzero hp
      _ = splitFrames received := List.map_id _
  · have hlens := congrArg (List.map Prod.fst) hview
    simpa only [List.map_map, Function.comp_def, NetDataObj.view,
      pieceView] using hlens

/-- Entries whose texts are the pieces of a buffer are exact if their idents grow. -/
theorem entriesExact_of_pieces
    {sd : Nat} {received : Bytes} {objs : List NetDataObj}
    (hne : received ≠ [])
    (htexts : objs.map (fun obj => cString obj.dataBuffer) = splitFrames received)
    (hlens :
      objs.map NetDataObj.dataBufferLen = (splitFrames received).map List.length)
    (hsd : ∀ obj ∈ objs, obj.sockDescriptor = sd)
    (hincrease : (objs.map NetDataObj.ident).Pairwise (· < ·)) :
    EntriesExact sd received objs := by
  have hmem : ∀ obj ∈ objs, cString obj.dataBuffer ∈ splitFrames received := by
    intro obj hobj
    rw [← htexts]
    exact List.mem_map_of_mem hobj
  have hbuffer :
      objs.map NetDataObj.dataBufferLen =
        objs.map fun obj => (cString obj.dataBuffer).length := by
    rw [hlens, ← htexts, List.map_map]
    rfl
  exact
    { concat := by rw [htexts, splitFrames_flatten]
      cutsAtJoints := htexts ▸ splitFrames_isChain received
      noJointInside := fun obj hobj => splitFrames_piece_no_joint (hmem obj hobj)
      nonempty := fun obj hobj => splitFrames_piece_ne_nil hne (hmem obj hobj)
      bufferLen := fun obj hobj => List.map_inj_left.mp hbuffer obj hobj
      descriptor := hsd
      identsIncrease := hincrease }

/--
For a buffer of an `int` number of bytes without NUL, everything about the
entries is exact, except that the idents grow if and only if the generator
does not pass `INT_MAX` between two entries of the call.
-/
theorem requestEntries_iff
    (s : ListenState) (sd conn : Nat)
    {received : Bytes}
    (hlow : -2 ^ 31 ≤ s.requestChain.identGenerator)
    (hhigh : s.requestChain.identGenerator < 2 ^ 31)
    (hlen : received.length < 2 ^ 31)
    (hne : received ≠ [])
    (hzero : (0 : Byte) ∉ received) :
    RequestEntries s sd conn received ↔
      s.requestChain.identGenerator = 2 ^ 31 - 1 ∨
        s.requestChain.identGenerator + joints received < 2 ^ 31 - 1 := by
  obtain ⟨objs, t, hcall, helems, htexts, hlens, hidents, hsd⟩ :=
    jsonReceive_entries s sd conn hzero
  have hroom := joints_le_length received
  have hiff :=
    nextIdents_pairwise_iff hlow hhigh
      (show joints received + 1 < 2 ^ 32 by omega)
  rw [← hidents] at hiff
  have hcond :
      ((objs.map NetDataObj.ident).Pairwise (· < ·)) ↔
        s.requestChain.identGenerator = 2 ^ 31 - 1 ∨
          s.requestChain.identGenerator + joints received < 2 ^ 31 - 1 := by
    rw [hiff]
    push_cast
    constructor <;> intro h <;> omega
  rw [← hcond]
  constructor
  · rintro ⟨objs', t', hcall', helems', hexact⟩
    rw [hcall, Option.some.injEq] at hcall'
    subst hcall'
    rw [helems, List.append_cancel_left_eq] at helems'
    rw [helems']
    exact hexact.identsIncrease
  · intro hincrease
    exact ⟨objs, t, hcall, helems, entriesExact_of_pieces hne htexts hlens hsd hincrease⟩

/-- A request chain that has handed out all idents up to `generator`. -/
def servedFor (generator : Int) : ListenState :=
  { startListening 3 with
    requestChain := { elems := [], identGenerator := generator } }

/-- Two requests `{}` in one buffer of a server that has just started. -/
theorem requestEntries_two :
    RequestEntries (servedFor 0) 4 0
      [openBrace, closeBrace, openBrace, closeBrace] := by
  refine
    (requestEntries_iff (servedFor 0) 4 0
      ?_ ?_ ?_ ?_ ?_).mpr (Or.inr ?_)
  · decide
  · decide
  · decide
  · decide
  · decide
  · decide

/-- The same buffer when one ident is left: the second entry gets `INT_MIN`. -/
theorem not_requestEntries_wrap :
    ¬ RequestEntries (servedFor (2 ^ 31 - 2)) 4 0
      [openBrace, closeBrace, openBrace, closeBrace] := by
  rintro ⟨objs, t, hcall, helems, hexact⟩
  obtain ⟨objs', t', hcall', helems', -, -, hidents, -⟩ :=
    jsonReceive_entries (servedFor (2 ^ 31 - 2)) 4 0
      (show (0 : Byte) ∉ [openBrace, closeBrace, openBrace, closeBrace] by
        decide)
  rw [hcall, Option.some.injEq] at hcall'
  subst hcall'
  rw [helems, List.append_cancel_left_eq] at helems'
  subst helems'
  have hincrease := hexact.identsIncrease
  rw [hidents] at hincrease
  revert hincrease
  decide

end Adav
end BrBox
