import BrBox.Lib.CText

/-!
# Framing of JSON requests on a TCP stream

The client (`ADNetClient::send_data`) sends a request text together with its
terminating NUL.  The server (`ADNetServer::json_receive_data_and_notify_consumer`)
cuts the bytes of one `recv` wherever a closing brace is directly followed by
an opening brace, and hands every piece on as a C string.

The scan of the source works with indices into the receive buffer; here
`cutLoop` follows it step by step.  `splitFrames` is the list-level meaning of
that scan and `receiveSegments_spec` connects the two.
-/

namespace BrBox
namespace Adav

open CText

/-- The byte `}`. -/
def closeBrace : Byte := 125

/-- The byte `{`. -/
def openBrace : Byte := 123

/-- `ADNetClient::send_data`: `strlen + 1` bytes of the request go out. -/
def sendData (sendBuf : Bytes) : Bytes :=
  sendBuf ++ [0]

/-- One piece of the stream: `data_buffer_len` and `data_buffer`. -/
structure Segment where
  dataBufferLen : Nat
  dataBuffer : Bytes
deriving DecidableEq, Repr

/--
The scan over `buf[0..len)`.  The arguments are the number of iterations left,
`i` and `last_index`; `pTemp` is always `&buf[last_index]`.  The result is the
list of pieces cut off so far and the final `last_index`.
-/
def cutLoop (buf : Bytes) :
    (left i lastIndex : Nat) → Option (List Segment × Nat)
  | 0, _, lastIndex => some ([], lastIndex)
  | left + 1, i, lastIndex =>
      match buf[i]? with
      | none => none
      | some c =>
          if c = closeBrace then
            match buf[i + 1]? with
            | none => none
            | some d =>
                if d = openBrace then
                  match strncpy buf lastIndex (i - lastIndex + 1),
                      cutLoop buf left (i + 1) (i + 1) with
                  | some data, some (rest, final) =>
                      some
                        ({ dataBufferLen := i - lastIndex + 1
                           dataBuffer := data ++ [0] } :: rest, final)
                  | _, _ => none
                else
                  cutLoop buf left (i + 1) lastIndex
          else
            cutLoop buf left (i + 1) lastIndex

/--
The pieces made from the bytes of one `recv`.  The receive loop has written
the terminator behind them; the last piece is copied with that terminator.
-/
def receiveSegments (received : Bytes) : Option (List Segment) :=
  match cutLoop (received ++ [0]) received.length 0 0 with
  | none => none
  | some (segments, lastIndex) =>
      match strncpy (received ++ [0]) lastIndex
          (received.length - lastIndex + 1) with
      | none => none
      | some data =>
          some (segments ++
            [{ dataBufferLen := received.length - lastIndex
               dataBuffer := data }])

/-- Put a byte in front of the first piece. -/
def consHead (c : Byte) : List Bytes → List Bytes
  | [] => [[c]]
  | p :: ps => (c :: p) :: ps

/-- Cut between every `}` and a directly following `{`. -/
def splitFrames : Bytes → List Bytes
  | [] => [[]]
  | [c] => [[c]]
  | c :: d :: rest =>
      if c = closeBrace ∧ d = openBrace then
        [c] :: splitFrames (d :: rest)
      else
        consHead c (splitFrames (d :: rest))

/-- Put bytes in front of the first piece. -/
def appendHead (cur : Bytes) : List Bytes → List Bytes
  | [] => [cur]
  | p :: ps => (cur ++ p) :: ps

@[simp] theorem appendHead_nil
    {ps : List Bytes} (hne : ps ≠ []) :
    appendHead [] ps = ps := by
  cases ps with
  | nil =>
      exact absurd rfl hne
  | cons p ps =>
      rfl

/-- Growing the open piece by one byte. -/
theorem appendHead_append_singleton
    (cur : Bytes) (c : Byte) (ps : List Bytes) :
    appendHead (cur ++ [c]) ps = appendHead cur (consHead c ps) := by
  cases ps with
  | nil =>
      rfl
  | cons p ps =>
      simp [appendHead, consHead]

/-- There is always at least one piece. -/
theorem splitFrames_ne_nil
    (w : Bytes) :
    splitFrames w ≠ [] := by
  induction w using splitFrames.induct with
  | case1 =>
      simp [splitFrames]
  | case2 c =>
      simp [splitFrames]
  | case3 c d rest hcut ih =>
      simp [splitFrames, hcut]
  | case4 c d rest hcut ih =>
      rw [splitFrames, if_neg hcut]
      cases splitFrames (d :: rest) with
      | nil =>
          simp [consHead]
      | cons p ps =>
          simp [consHead]

/-- No piece boundary after the first byte of a string. -/
theorem splitFrames_cons_of_not_cut
    {c : Byte} {rest : Bytes}
    (hcut : ¬ (c = closeBrace ∧ rest.head? = some openBrace)) :
    splitFrames (c :: rest) = consHead c (splitFrames rest) := by
  cases rest with
  | nil =>
      rfl
  | cons d rest =>
      rw [splitFrames, if_neg]
      simpa using hcut

/-- What a piece of the stream looks like to the consumer of the entry. -/
def Segment.view (g : Segment) : Nat × Bytes :=
  (g.dataBufferLen, cString g.dataBuffer)

/-- The view a cut-off piece of the received bytes has. -/
def pieceView (p : Bytes) : Nat × Bytes :=
  (p.length, cString p)

/-- An extra terminator does not change the C string. -/
theorem cString_append_terminator
    (data : Bytes) :
    cString (data ++ [0]) = cString data := by
  induction data with
  | nil =>
      simp
  | cons c data ih =>
      by_cases hc : c = 0
      · subst hc
        simp
      · rw [List.cons_append, cString_cons_of_ne hc, cString_cons_of_ne hc, ih]

/-- The scan reads the next byte and the one behind it, or the terminator. -/
theorem getElem?_scan
    (read rem : Bytes) (c : Byte) :
    (read ++ c :: rem ++ [0])[read.length]? = some c ∧
      (read ++ c :: rem ++ [0])[read.length + 1]? =
        some (rem.head?.getD 0) := by
  rw [List.append_assoc]
  constructor
  · rw [List.getElem?_append_right (Nat.le_refl _)]
    simp
  · rw [List.getElem?_append_right (by omega)]
    cases rem with
    | nil =>
        simp
    | cons d rest =>
        simp

/-- At a cut the open piece is copied and the scan goes on with an empty one. -/
theorem cutLoop_cut
    {pre cur rest : Bytes} {segments : List Segment} {final : Nat}
    (hloop :
      cutLoop (pre ++ cur ++ closeBrace :: openBrace :: rest ++ [0])
          (openBrace :: rest).length
          (pre.length + cur.length + 1) (pre.length + cur.length + 1) =
        some (segments, final)) :
    ∃ data,
      cutLoop (pre ++ cur ++ closeBrace :: openBrace :: rest ++ [0])
          (closeBrace :: openBrace :: rest).length
          (pre.length + cur.length) pre.length =
        some
          ({ dataBufferLen := cur.length + 1
             dataBuffer := data ++ [0] } :: segments, final) ∧
      cString data = cString (cur ++ [closeBrace]) := by
  have hscan := getElem?_scan (pre ++ cur) (openBrace :: rest) closeBrace
  rw [List.length_append] at hscan
  obtain ⟨hget, hnext⟩ := hscan
  obtain ⟨data, hcopy, -, hdata⟩ :=
    strncpy_spec (pre ++ cur ++ closeBrace :: openBrace :: rest ++ [0])
      pre.length (cur.length + 1) (by simp)
  have hpiece :
      ((pre ++ cur ++ closeBrace :: openBrace :: rest ++ [0]).drop
          pre.length).take (cur.length + 1) =
        cur ++ [closeBrace] := by
    have hbuf :
        pre ++ cur ++ closeBrace :: openBrace :: rest ++ [0] =
          pre ++ ((cur ++ [closeBrace]) ++ (openBrace :: rest ++ [0])) := by
      simp
    rw [hbuf, List.drop_left, List.take_left' (by simp)]
  rw [hpiece] at hdata
  have hlen : pre.length + cur.length - pre.length + 1 = cur.length + 1 := by
    omega
  refine ⟨data, ?_, hdata⟩
  rw [List.length_cons, cutLoop, hget]
  simp only [if_true, hnext, List.head?_cons, Option.getD_some,
    hlen, hcopy, hloop]

/-- Elsewhere the byte joins the open piece. -/
theorem cutLoop_skip
    {pre cur rem : Bytes} {c : Byte}
    (hcut : ¬ (c = closeBrace ∧ rem.head? = some openBrace)) :
    cutLoop (pre ++ cur ++ c :: rem ++ [0]) (c :: rem).length
        (pre.length + cur.length) pre.length =
      cutLoop (pre ++ cur ++ c :: rem ++ [0]) rem.length
        (pre.length + cur.length + 1) pre.length := by
  have hscan := getElem?_scan (pre ++ cur) rem c
  rw [List.length_append] at hscan
  obtain ⟨hget, hnext⟩ := hscan
  rw [List.length_cons, cutLoop, hget]
  by_cases hc : c = closeBrace
  · have hd : rem.head?.getD 0 ≠ openBrace := by
      intro hd
      apply hcut
      refine ⟨hc, ?_⟩
      cases rem with
      | nil =>
          exact absurd hd (by decide)
      | cons d rest =>
          simpa using hd
    subst hc
    simp only [if_true, hnext, hd, if_false]
  · simp only [hc, if_false]

/--
The scan from the middle of the buffer: `pre` has been cut off already, `cur`
is the open piece and `rem` is still to be read.
-/
theorem cutLoop_spec
    (rem : Bytes) :
    ∀ pre cur : Bytes,
      ∃ segments final,
        cutLoop (pre ++ cur ++ rem ++ [0]) rem.length
            (pre.length + cur.length) pre.length =
          some (segments, final) ∧
        final ≤ (pre ++ cur ++ rem).length ∧
        segments.map Segment.view ++
            [pieceView ((pre ++ cur ++ rem).drop final)] =
          (appendHead cur (splitFrames rem)).map pieceView := by
  induction rem with
  | nil =>
      intro pre cur
      refine ⟨[], pre.length, rfl, by simp, ?_⟩
      simp [splitFrames, appendHead]
  | cons c rem ih =>
      intro pre cur
      by_cases hcut : c = closeBrace ∧ rem.head? = some openBrace
      · -- the piece is cut off here and the scan goes on with an empty one
        obtain ⟨rfl, hhead⟩ := hcut
        obtain ⟨rest, rfl⟩ : ∃ rest, rem = openBrace :: rest := by
          cases rem with
          | nil =>
              simp at hhead
          | cons d rest =>
              exact ⟨rest, by simpa using hhead⟩
        obtain ⟨segments, final, hloop, hfinal, hview⟩ :=
          ih (pre ++ cur ++ [closeBrace]) []
        obtain ⟨data, hstep, hdata⟩ :=
          cutLoop_cut (by simpa [List.append_assoc, Nat.add_assoc] using hloop)
        refine ⟨_, final, hstep, by simpa [List.append_assoc] using hfinal, ?_⟩
        have hsplit :
            splitFrames (closeBrace :: openBrace :: rest) =
              [closeBrace] :: splitFrames (openBrace :: rest) := by
          simp [splitFrames]
        have hview' :
            segments.map Segment.view ++
                [pieceView ((pre ++ cur ++
                  closeBrace :: openBrace :: rest).drop final)] =
              (splitFrames (openBrace :: rest)).map pieceView := by
          rw [appendHead_nil (splitFrames_ne_nil _)] at hview
          simpa [List.append_assoc] using hview
        rw [hsplit]
        simp only [appendHead, List.map_cons, List.cons_append, hview']
        simp [Segment.view, pieceView, cString_append_terminator, hdata]
      · -- the byte joins the open piece
        obtain ⟨segments, final, hloop, hfinal, hview⟩ :=
          ih pre (cur ++ [c])
        refine ⟨segments, final, ?_, ?_, ?_⟩
        · rw [cutLoop_skip hcut]
          simpa [List.append_assoc, Nat.add_assoc] using hloop
        · simpa [List.append_assoc] using hfinal
        · rw [splitFrames_cons_of_not_cut hcut,
            ← appendHead_append_singleton]
          simpa [List.append_assoc] using hview

/--
The scan reads only inside the terminated buffer, and its pieces are the
pieces of `splitFrames`, each seen as a C string.
-/
theorem receiveSegments_spec
    (received : Bytes) :
    ∃ segments,
      receiveSegments received = some segments ∧
      segments.map Segment.view =
        (splitFrames received).map pieceView := by
  obtain ⟨segments, final, hloop, hfinal, hview⟩ :=
    cutLoop_spec received [] []
  simp only [List.nil_append, List.length_nil, Nat.add_zero] at *
  obtain ⟨data, hcopy, -, hdata⟩ :=
    strncpy_spec (received ++ [0]) final
      (received.length - final + 1) (by simp; omega)
  have hlast :
      ((received ++ [0]).drop final).take (received.length - final + 1) =
        received.drop final ++ [0] := by
    rw [List.drop_append_of_le_length hfinal, List.take_of_length_le]
    simp
  refine
    ⟨segments ++ [{ dataBufferLen := received.length - final
                    dataBuffer := data }], ?_, ?_⟩
  · simp [receiveSegments, hloop, hcopy]
  · rw [appendHead_nil (splitFrames_ne_nil _)] at hview
    rw [← hview]
    simp [Segment.view, pieceView, hdata, hlast, cString_append_terminator]

/-- Cutting loses no byte. -/
@[simp] theorem splitFrames_flatten
    (w : Bytes) :
    (splitFrames w).flatten = w := by
  induction w using splitFrames.induct with
  | case1 =>
      rfl
  | case2 c =>
      rfl
  | case3 c d rest hcut ih =>
      simp [splitFrames, hcut] at ih ⊢
      exact ih
  | case4 c d rest hcut ih =>
      rw [splitFrames, if_neg hcut]
      obtain ⟨p, ps, hps⟩ :=
        List.exists_cons_of_ne_nil (splitFrames_ne_nil (d :: rest))
      rw [hps] at ih ⊢
      simpa [consHead] using ih

/-- The pieces of a nonempty stream are nonempty. -/
theorem splitFrames_piece_ne_nil
    {w p : Bytes}
    (hw : w ≠ [])
    (hp : p ∈ splitFrames w) :
    p ≠ [] := by
  induction w using splitFrames.induct generalizing p with
  | case1 =>
      exact absurd rfl hw
  | case2 c =>
      simp only [splitFrames, List.mem_singleton] at hp
      simp [hp]
  | case3 c d rest hcut ih =>
      rw [splitFrames, if_pos hcut, List.mem_cons] at hp
      rcases hp with rfl | hp
      · simp
      · exact ih (by simp) hp
  | case4 c d rest hcut ih =>
      rw [splitFrames, if_neg hcut] at hp
      obtain ⟨q, qs, hqs⟩ :=
        List.exists_cons_of_ne_nil (splitFrames_ne_nil (d :: rest))
      rw [hqs, consHead, List.mem_cons] at hp
      rcases hp with rfl | hp
      · simp
      · exact ih (by simp) (by simp [hqs, hp])

/-- There is one piece exactly when no `}` is directly followed by `{`. -/
theorem splitFrames_length_one_iff
    (w : Bytes) :
    (splitFrames w).length = 1 ↔
      ¬ [closeBrace, openBrace] <:+: w := by
  induction w using splitFrames.induct with
  | case1 =>
      simp [splitFrames]
  | case2 c =>
      simp [splitFrames, List.infix_cons_iff]
  | case3 c d rest hcut ih =>
      have hpos :=
        List.length_pos_iff.mpr (splitFrames_ne_nil (d :: rest))
      obtain ⟨rfl, rfl⟩ := hcut
      have hinfix :
          [closeBrace, openBrace] <:+: closeBrace :: openBrace :: rest :=
        ⟨[], rest, rfl⟩
      simp only [splitFrames, and_self, if_true, List.length_cons, hinfix,
        not_true, iff_false]
      omega
  | case4 c d rest hcut ih =>
      have hlen :
          (consHead c (splitFrames (d :: rest))).length =
            (splitFrames (d :: rest)).length := by
        obtain ⟨p, ps, hps⟩ :=
          List.exists_cons_of_ne_nil (splitFrames_ne_nil (d :: rest))
        simp [hps, consHead]
      have hpre : ¬ [closeBrace, openBrace] <+: c :: d :: rest := by
        rintro ⟨tail, htail⟩
        simp only [List.cons_append, List.nil_append, List.cons.injEq] at htail
        exact hcut ⟨htail.1.symm, htail.2.1.symm⟩
      rw [splitFrames, if_neg hcut, hlen, ih, List.infix_cons_iff (a := c)]
      simp only [hpre, false_or]

/-- A text that is not cut is the only piece. -/
theorem splitFrames_eq_singleton
    {w : Bytes}
    (hw : ¬ [closeBrace, openBrace] <:+: w) :
    splitFrames w = [w] := by
  obtain ⟨p, hp⟩ :=
    List.length_eq_one_iff.mp ((splitFrames_length_one_iff w).mpr hw)
  have hflat := splitFrames_flatten w
  rw [hp] at hflat ⊢
  simpa using hflat

/-- A terminating NUL adds no cut. -/
theorem infix_sendData_iff
    (t : Bytes) :
    [closeBrace, openBrace] <:+: sendData t ↔
      [closeBrace, openBrace] <:+: t := by
  rw [sendData, List.infix_concat_iff]
  constructor
  · rintro (hsuf | hinf)
    · obtain ⟨l, hl⟩ := hsuf
      have hlast := congrArg List.getLast? hl
      simp [openBrace] at hlast
    · exact hinf
  · exact Or.inr

/-- Number of bytes of a list of pieces that are visible as C strings. -/
def visibleLength (ps : List Bytes) : Nat :=
  (ps.map fun p => (cString p).length).sum

/-- Number of bytes of a stream that are not NUL. -/
def payloadLength (w : Bytes) : Nat :=
  w.countP (fun c => c ≠ 0)

/-- One more byte makes at most that byte visible. -/
theorem visibleLength_splitFrames_cons_le
    (c : Byte) (w : Bytes) :
    visibleLength (splitFrames (c :: w)) ≤
      visibleLength (splitFrames w) + payloadLength [c] := by
  have hhead (ps : List Bytes) :
      visibleLength (consHead c ps) ≤
        visibleLength ps + payloadLength [c] := by
    by_cases hc : c = 0
    · subst hc
      cases ps with
      | nil =>
          simp [visibleLength, consHead]
      | cons p ps =>
          simp [visibleLength, consHead]
          omega
    · cases ps with
      | nil =>
          simp [visibleLength, consHead, payloadLength,
            cString_cons_of_ne hc, hc]
      | cons p ps =>
          simp [visibleLength, consHead, payloadLength,
            cString_cons_of_ne hc, hc]
          omega
  by_cases hcut : c = closeBrace ∧ w.head? = some openBrace
  · obtain ⟨rest, rfl⟩ : ∃ rest, w = openBrace :: rest := by
      cases w with
      | nil =>
          simp at hcut
      | cons d rest =>
          exact ⟨rest, by simpa using hcut.2⟩
    have hone := hhead []
    rw [splitFrames, if_pos ⟨hcut.1, rfl⟩]
    simp only [visibleLength, consHead, List.map_cons, List.map_nil,
      List.sum_cons, List.sum_nil] at hone ⊢
    omega
  · rw [splitFrames_cons_of_not_cut hcut]
    exact hhead _

theorem payloadLength_append
    (u v : Bytes) :
    payloadLength (u ++ v) = payloadLength u + payloadLength v := by
  simp [payloadLength]

theorem payloadLength_cons
    (c : Byte) (w : Bytes) :
    payloadLength (c :: w) = payloadLength w + payloadLength [c] := by
  rw [← List.singleton_append, payloadLength_append, Nat.add_comm]

/-- No more bytes are visible than are not NUL. -/
theorem visibleLength_splitFrames_le
    (w : Bytes) :
    visibleLength (splitFrames w) ≤ payloadLength w := by
  induction w with
  | nil =>
      simp [splitFrames, visibleLength]
  | cons c w ih =>
      have hone := visibleLength_splitFrames_cons_le c w
      rw [payloadLength_cons]
      omega

/-- The byte behind a NUL is never visible. -/
theorem visibleLength_splitFrames_lt
    (u : Bytes) {c : Byte} (hc : c ≠ 0) (v : Bytes) :
    visibleLength (splitFrames (u ++ 0 :: c :: v)) <
      payloadLength (u ++ 0 :: c :: v) := by
  induction u with
  | nil =>
      have hcut :
          ¬ ((0 : Byte) = closeBrace ∧ (c :: v).head? = some openBrace) := by
        rintro ⟨h, -⟩
        exact absurd h (by decide)
      obtain ⟨p, ps, hps⟩ :=
        List.exists_cons_of_ne_nil (splitFrames_ne_nil (c :: v))
      -- the first piece of the rest starts with `c` and lies behind the NUL
      have hstart : p.head? = some c := by
        have hflat := splitFrames_flatten (c :: v)
        have hp : p ≠ [] :=
          splitFrames_piece_ne_nil (w := c :: v) (by simp) (by simp [hps])
        rw [hps] at hflat
        cases p with
        | nil =>
            exact absurd rfl hp
        | cons x p =>
            simp only [List.flatten_cons, List.cons_append,
              List.cons.injEq] at hflat
            simp [hflat.1]
      have hvisible : 0 < (cString p).length := by
        cases p with
        | nil =>
            simp at hstart
        | cons x p =>
            obtain rfl : x = c := by simpa using hstart
            simp [cString_cons_of_ne hc]
      have hall := visibleLength_splitFrames_le (c :: v)
      rw [List.nil_append, splitFrames_cons_of_not_cut hcut, payloadLength_cons,
        hps]
      rw [hps] at hall
      simp only [visibleLength, consHead, List.map_cons, List.sum_cons,
        cString_zero_cons, List.length_nil] at hall ⊢
      omega
  | cons x u ih =>
      have hone := visibleLength_splitFrames_cons_le x (u ++ 0 :: c :: v)
      rw [List.cons_append, payloadLength_cons]
      omega

/-- What several sends put on the wire. -/
def sendAll (texts : List Bytes) : Bytes :=
  (texts.map sendData).flatten

/-- The payload of a sequence of sends is the texts themselves. -/
theorem payloadLength_sendAll
    {texts : List Bytes}
    (htexts : ∀ t ∈ texts, (0 : Byte) ∉ t) :
    payloadLength (sendAll texts) =
      (texts.map List.length).sum := by
  induction texts with
  | nil =>
      rfl
  | cons t texts ih =>
      have ht : payloadLength t = t.length := by
        rw [payloadLength, List.countP_eq_length]
        intro c hc
        have hne : c ≠ 0 := by
          rintro rfl
          exact htexts t (by simp) hc
        simpa using hne
      have hrest := ih (fun t' ht' => htexts t' (List.mem_cons_of_mem _ ht'))
      have hnul : payloadLength [0] = 0 := by
        simp [payloadLength]
      have hwire : sendAll (t :: texts) = t ++ ([0] ++ sendAll texts) := by
        simp [sendAll, sendData]
      rw [hwire, payloadLength_append, payloadLength_append, ht, hnul, hrest,
        List.map_cons, List.sum_cons, Nat.zero_add]

/--
Several texts sent in one go come out as themselves exactly when there is
only one of them and it is not cut.
-/
theorem splitFrames_sendAll_iff
    {texts : List Bytes}
    (hne : texts ≠ [])
    (htexts : ∀ t ∈ texts, t ≠ [] ∧ (0 : Byte) ∉ t) :
    (splitFrames (sendAll texts)).map cString = texts ↔
      ∃ t, texts = [t] ∧ ¬ [closeBrace, openBrace] <:+: t := by
  constructor
  · intro heq
    cases texts with
    | nil =>
        exact absurd rfl hne
    | cons t₁ rest =>
        cases rest with
        | nil =>
            refine ⟨t₁, rfl, ?_⟩
            have hlen := congrArg List.length heq
            simp only [sendAll, List.map_cons, List.map_nil, List.flatten_cons,
              List.flatten_nil, List.append_nil, List.length_map,
              List.length_cons, List.length_nil] at hlen
            rw [← infix_sendData_iff]
            exact (splitFrames_length_one_iff _).mp hlen
        | cons t₂ rest =>
            -- the first byte of the second text lies behind a NUL
            exfalso
            obtain ⟨c, tail, rfl⟩ :=
              List.exists_cons_of_ne_nil (htexts t₂ (by simp)).1
            have hc : c ≠ 0 := by
              rintro rfl
              exact (htexts _ (List.mem_cons_of_mem _ List.mem_cons_self)).2
                (by simp)
            have hwire :
                sendAll (t₁ :: (c :: tail) :: rest) =
                  t₁ ++ 0 :: c :: (tail ++ 0 :: sendAll rest) := by
              simp [sendAll, sendData]
            have hlt :=
              visibleLength_splitFrames_lt t₁ hc (tail ++ 0 :: sendAll rest)
            have hpay :=
              payloadLength_sendAll (fun t ht => (htexts t ht).2)
            have hsum := congrArg (fun l => (l.map List.length).sum) heq
            rw [← hwire, hpay] at hlt
            simp only [visibleLength, List.map_map, Function.comp_def]
              at hlt hsum
            omega
  · rintro ⟨t, rfl, hcut⟩
    have hzero := (htexts t (by simp)).2
    have hwhole : splitFrames (sendData t) = [sendData t] := by
      apply splitFrames_eq_singleton
      rw [infix_sendData_iff]
      exact hcut
    simp only [sendAll, List.map_cons, List.map_nil, List.flatten_cons,
      List.flatten_nil, List.append_nil, hwhole]
    rw [sendData, cString_append_zero hzero]

end Adav
end BrBox
