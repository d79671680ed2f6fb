import BrBox.Lib.InputStream
import BrBox.Lib.CText

/-!
# Comma-separated subarguments of the command line

`ADCmdlineHelper::set_new_subargument` keeps a copy of an option argument and
counts its fields; every call of `get_next_subargument` hands out the next
one.  The tokenizer writes a NUL over each comma it has passed, into the same
buffer whose first byte it tests for "no argument".

* `repeatCalls_fields`: what any number of calls returns, from any position.
* `subargsExact_iff`: the fields come out right unless the first one is empty.
-/

namespace BrBox
namespace Adav

open CText

/-- The byte `,`. -/
def comma : Byte := 44

/-- `strchr`: the distance to the first `c`, if it comes before the NUL. -/
def strchr (c : Byte) : Bytes → Option (Option Nat)
  | [] => none
  | b :: rest =>
      if b = c then
        some (some 0)
      else if b = 0 then
        some none
      else
        match strchr c rest with
        | none => none
        | some found => some (found.map (· + 1))

/-- `strdup`: the characters of the copy. -/
def strdup (buf : Bytes) : Option Bytes :=
  if (0 : Byte) ∈ buf then some (cString buf) else none

/-- The two members of `ADCmdlineHelper` that the tokenizer works on. -/
structure SubargState where
  completeSubargument : Option Bytes
  /-- The index of `subarg_ptr` in the copy. -/
  subargPtr : Option Nat
deriving DecidableEq, Repr

/-- The counting loop of `set_new_subargument`, for at most `left` rounds. -/
def countLoop (buf : Bytes) : (left ptr subargNum : Nat) → Option Nat
  | 0, _, _ => none
  | left + 1, ptr, subargNum =>
      match strchr comma (buf.drop ptr) with
      | none => none
      | some none => some subargNum
      | some (some k) => countLoop buf left (ptr + k + 1) (subargNum + 1)

/-- Free the copy of an earlier argument. -/
def freeSubargument (s : SubargState) : SubargState :=
  match s.completeSubargument with
  | none => s
  | some _ => { completeSubargument := none, subargPtr := none }

/-- `set_new_subargument`. -/
def setNewSubargument
    (s : SubargState) (arg : Option Bytes) : Option (Nat × SubargState) :=
  match arg with
  | none => some (0, freeSubargument s)
  | some buf =>
      if cString buf = [] then
        some (0, freeSubargument s)
      else
        let copy := cString buf ++ [0]
        match countLoop copy copy.length 0 1 with
        | none => none
        | some subargNum =>
            some (subargNum,
              { completeSubargument := some copy, subargPtr := some 0 })

/-- `get_next_subargument`: what it returns, and the string behind `subarg`. -/
def getNextSubargument
    (s : SubargState) : Option ((Nat × Option Bytes) × SubargState) :=
  match s.completeSubargument with
  | none => some ((0, none), s)
  | some buf =>
      match strdup buf with
      | none => none
      | some whole =>
          if whole = [] then
            some ((0, none), s)
          else
            match s.subargPtr with
            | none => some ((0, none), s)
            | some ptr =>
                match strchr comma (buf.drop ptr) with
                | none => none
                | some none =>
                    match strdup (buf.drop ptr) with
                    | none => none
                    | some str =>
                        some ((1, some str), { s with subargPtr := none })
                | some (some k) =>
                    -- `*c = '\0'` ends the copy here
                    match strdup ((buf.set (ptr + k) 0).drop ptr) with
                    | none => none
                    | some str =>
                        some ((2, some str),
                          { completeSubargument := some (buf.set (ptr + k) 0)
                            subargPtr := some (ptr + k + 1) })

/-- A number of calls of `get_next_subargument` one after another. -/
def repeatCalls :
    Nat → SubargState → Option (List (Nat × Option Bytes) × SubargState)
  | 0, s => some ([], s)
  | m + 1, s =>
      match getNextSubargument s with
      | none => none
      | some (answer, t) =>
          match repeatCalls m t with
          | none => none
          | some (answers, u) => some (answer :: answers, u)

/-- The characters of the argument; a NULL argument has none. -/
def subargText : Option Bytes → Bytes
  | none => []
  | some buf => cString buf

/-- The comma-separated fields of an argument. -/
def commaFields (s : Bytes) : List Bytes :=
  if s = [] then [] else s.splitOn comma

/-- Code 2 for every field but the last one, code 1 for that. -/
def fieldAnswers : List Bytes → List (Nat × Option Bytes)
  | [] => []
  | [f] => [(1, some f)]
  | f :: g :: fs => (2, some f) :: fieldAnswers (g :: fs)

/-- The first `m` answers: the fields, then code 0 from then on. -/
def expectedAnswers (fs : List Bytes) (m : Nat) : List (Nat × Option Bytes) :=
  (fieldAnswers fs).take m ++ List.replicate (m - fs.length) (0, none)

/--
The count is the number of fields, and any number of calls returns the fields
in order and nothing else.
-/
def SubargsExact (s : SubargState) (arg : Option Bytes) : Prop :=
  ∃ t,
    setNewSubargument s arg = some ((commaFields (subargText arg)).length, t) ∧
    ∀ m, ∃ u,
      repeatCalls m t = some (expectedAnswers (commaFields (subargText arg)) m, u)

section Library

theorem strchr_append_cons
    {c : Byte} {pre : Bytes}
    (hc : c ∉ pre)
    (hzero : (0 : Byte) ∉ pre)
    (rest : Bytes) :
    strchr c (pre ++ c :: rest) = some (some pre.length) := by
  induction pre with
  | nil =>
      simp [strchr]
  | cons b pre ih =>
      rw [List.mem_cons, not_or] at hc hzero
      have hbc : ¬ b = c := fun h => hc.1 h.symm
      have hb0 : ¬ b = 0 := fun h => hzero.1 h.symm
      rw [List.cons_append, strchr, if_neg hbc, if_neg hb0, ih hc.2 hzero.2]
      rfl

theorem strchr_none
    {c : Byte} {s : Bytes}
    (hc : c ∉ s)
    (hc0 : c ≠ 0)
    (hzero : (0 : Byte) ∉ s)
    (rest : Bytes) :
    strchr c (s ++ 0 :: rest) = some none := by
  induction s with
  | nil =>
      simp [strchr, hc0.symm]
  | cons b s ih =>
      rw [List.mem_cons, not_or] at hc hzero
      have hbc : ¬ b = c := fun h => hc.1 h.symm
      have hb0 : ¬ b = 0 := fun h => hzero.1 h.symm
      rw [List.cons_append, strchr, if_neg hbc, if_neg hb0, ih hc.2 hzero.2]
      rfl

theorem strdup_append_zero
    {s : Bytes}
    (hzero : (0 : Byte) ∉ s)
    (rest : Bytes) :
    strdup (s ++ 0 :: rest) = some s := by
  rw [strdup, if_pos (by simp), cString_append_zero hzero]

end Library

/-- The counting loop from the start of a field. -/
theorem countLoop_spec
    (rest : Bytes)
    (hzero : (0 : Byte) ∉ rest) :
    ∀ (pre : Bytes) (left subargNum : Nat),
      rest.length < left →
      countLoop (pre ++ rest ++ [0]) left pre.length (subargNum + 1) =
        some (subargNum + (rest.splitOn comma).length) := by
  induction hlen : rest.length using Nat.strongRecOn generalizing rest with
  | ind n ih =>
      subst hlen
      intro pre left subargNum hleft
      obtain ⟨left, rfl⟩ : ∃ m, left = m + 1 := ⟨left - 1, by omega⟩
      have hdrop : (pre ++ rest ++ [0]).drop pre.length = rest ++ [0] := by
        rw [List.append_assoc, List.drop_left]
      rw [countLoop, hdrop]
      rcases InputStream.eq_line_or_append comma rest with
        hlast | ⟨field, more, hfield, rfl⟩
      · rw [strchr_none hlast (by decide) hzero, List.splitOn_eq_singleton hlast]
        rfl
      · rw [List.mem_append, not_or, List.mem_cons, not_or] at hzero
        obtain ⟨hz₁, -, hz₂⟩ := hzero
        rw [List.append_assoc, List.cons_append,
          strchr_append_cons hfield hz₁]
        have hnext :=
          ih more.length (by simp; omega) more hz₂ rfl
            (pre ++ field ++ [comma]) left (subargNum + 1)
            (by simp at hleft; omega)
        simp only [List.append_assoc, List.length_append,
          List.length_cons, List.length_nil, List.cons_append,
          List.nil_append] at hnext ⊢
        rw [List.splitOn_append_cons_self_of_not_mem hfield, List.length_cons]
        rw [show pre.length + field.length + 1 =
          pre.length + (field.length + (0 + 1)) by omega, hnext]
        congr 1
        omega

/-- The first byte of the copy is still a character. -/
def Started (buf : Bytes) : Prop :=
  ∃ c rest, c ≠ 0 ∧ buf = c :: rest ++ [0]

/-- A copy that starts with a character passes the test for emptiness. -/
theorem strdup_of_started
    {buf : Bytes}
    (hstart : Started buf) :
    ∃ whole, strdup buf = some whole ∧ whole ≠ [] := by
  obtain ⟨c, rest, hc, rfl⟩ := hstart
  refine ⟨cString (c :: rest ++ [0]), by rw [strdup, if_pos (by simp)], ?_⟩
  rw [List.cons_append, cString_cons_of_ne hc]
  simp

/-- The call that finds no more comma. -/
theorem getNextSubargument_last
    {pre rest : Bytes}
    (hstart : Started (pre ++ rest ++ [0]))
    (hzero : (0 : Byte) ∉ rest)
    (hlast : comma ∉ rest) :
    getNextSubargument
        { completeSubargument := some (pre ++ rest ++ [0])
          subargPtr := some pre.length } =
      some ((1, some rest),
        { completeSubargument := some (pre ++ rest ++ [0])
          subargPtr := none }) := by
  obtain ⟨whole, hdup, hne⟩ := strdup_of_started hstart
  have hdrop : (pre ++ rest ++ [0]).drop pre.length = rest ++ [0] := by
    rw [List.append_assoc, List.drop_left]
  simp only [getNextSubargument, hdup, hne, if_false, hdrop,
    strchr_none hlast (by decide) hzero, strdup_append_zero hzero]

/-- The call that finds a comma: a NUL takes its place. -/
theorem getNextSubargument_field
    {pre field more : Bytes}
    (hstart : Started (pre ++ (field ++ comma :: more) ++ [0]))
    (hzero : (0 : Byte) ∉ field)
    (hfield : comma ∉ field) :
    getNextSubargument
        { completeSubargument := some (pre ++ (field ++ comma :: more) ++ [0])
          subargPtr := some pre.length } =
      some ((2, some field),
        { completeSubargument := some (pre ++ field ++ [0] ++ more ++ [0])
          subargPtr := some (pre ++ field ++ [0]).length }) := by
  obtain ⟨whole, hdup, hne⟩ := strdup_of_started hstart
  have hdrop :
      (pre ++ (field ++ comma :: more) ++ [0]).drop pre.length =
        field ++ comma :: (more ++ [0]) := by
    simp
  have hset :
      (pre ++ (field ++ comma :: more) ++ [0]).set
          (pre.length + field.length) 0 =
        pre ++ (field ++ 0 :: (more ++ [0])) := by
    rw [List.append_assoc, List.set_append_right _ _ (by omega)]
    simp
  simp only [getNextSubargument, hdup, hne, if_false, hdrop,
    strchr_append_cons hfield hzero, hset, List.drop_left,
    strdup_append_zero hzero]
  simp [Nat.add_assoc]

/-- A call that returns 0 changes nothing, and so do all later ones. -/
theorem repeatCalls_spent
    {s : SubargState}
    (hspent : getNextSubargument s = some ((0, none), s))
    (m : Nat) :
    repeatCalls m s = some (List.replicate m (0, none), s) := by
  induction m with
  | zero =>
      rfl
  | succ m ih =>
      simp only [repeatCalls, hspent, ih, List.replicate_succ]

/-- Behind the last field there is nothing more to hand out. -/
theorem getNextSubargument_spent
    {buf : Bytes}
    (hstart : Started buf) :
    getNextSubargument { completeSubargument := some buf, subargPtr := none } =
      some ((0, none),
        { completeSubargument := some buf, subargPtr := none }) := by
  obtain ⟨whole, hdup, hne⟩ := strdup_of_started hstart
  simp only [getNextSubargument, hdup, hne, if_false]

theorem expectedAnswers_last
    (f : Bytes) (m : Nat) :
    expectedAnswers [f] (m + 1) =
      (1, some f) :: List.replicate m (0, none) := by
  simp [expectedAnswers, fieldAnswers]

theorem expectedAnswers_cons
    (f : Bytes) {fs : List Bytes} (hne : fs ≠ []) (m : Nat) :
    expectedAnswers (f :: fs) (m + 1) =
      (2, some f) :: expectedAnswers fs m := by
  cases fs with
  | nil =>
      exact absurd rfl hne
  | cons g fs =>
      simp [expectedAnswers, fieldAnswers]

/-- A passed field leaves a first character behind, unless it was an empty one. -/
theorem started_of_field
    {pre field more : Bytes}
    (hstart : Started (pre ++ (field ++ comma :: more) ++ [0]))
    (hne : pre ++ field ≠ []) :
    Started (pre ++ field ++ [0] ++ more ++ [0]) := by
  obtain ⟨c, rest, hc, hbuf⟩ := hstart
  obtain ⟨d, passed, hpassed⟩ := List.exists_cons_of_ne_nil hne
  have hcd : d = c := by
    have hhead := congrArg List.head? hbuf
    rw [← List.append_assoc, hpassed] at hhead
    simpa using hhead
  refine ⟨c, passed ++ [0] ++ more, hc, ?_⟩
  rw [hpassed, hcd]
  simp

/-- What the calls return from the start of a field on. -/
theorem repeatCalls_fields
    (rest : Bytes)
    (hzero : (0 : Byte) ∉ rest) :
    ∀ (pre : Bytes) (m : Nat),
      Started (pre ++ rest ++ [0]) →
      (pre = [] → rest.head? ≠ some comma) →
      ∃ u,
        repeatCalls m
            { completeSubargument := some (pre ++ rest ++ [0])
              subargPtr := some pre.length } =
          some (expectedAnswers (rest.splitOn comma) m, u) := by
  induction hlen : rest.length using Nat.strongRecOn generalizing rest with
  | ind n ih =>
      subst hlen
      intro pre m hstart hfirst
      cases m with
      | zero =>
          exact ⟨_, by simp [repeatCalls, expectedAnswers]; rfl⟩
      | succ m =>
          rcases InputStream.eq_line_or_append comma rest with
            hlast | ⟨field, more, hfield, rfl⟩
          · have hspent :=
              repeatCalls_spent (getNextSubargument_spent hstart) m
            rw [repeatCalls, getNextSubargument_last hstart hzero hlast,
              List.splitOn_eq_singleton hlast, expectedAnswers_last]
            simp only [hspent]
            exact ⟨_, rfl⟩
          · rw [List.mem_append, not_or, List.mem_cons, not_or] at hzero
            obtain ⟨hz₁, -, hz₂⟩ := hzero
            have hne : pre ++ field ≠ [] := by
              intro h
              rw [List.append_eq_nil_iff] at h
              apply hfirst h.1
              simp [h.2]
            obtain ⟨u, hrest⟩ :=
              ih more.length (by simp; omega) more hz₂ rfl
                (pre ++ field ++ [0]) m
                (started_of_field hstart hne)
                (fun h => absurd h (by simp))
            refine ⟨u, ?_⟩
            rw [repeatCalls, getNextSubargument_field hstart hz₁ hfield]
            simp only [hrest]
            rw [List.splitOn_append_cons_self_of_not_mem hfield,
              expectedAnswers_cons field (List.splitOn_ne_nil _ _)]

/-- `set_new_subargument` of a non-empty argument. -/
theorem setNewSubargument_cons
    (s : SubargState)
    {buf : Bytes}
    (hne : cString buf ≠ []) :
    setNewSubargument s (some buf) =
      some (((cString buf).splitOn comma).length,
        { completeSubargument := some (cString buf ++ [0])
          subargPtr := some 0 }) := by
  have hcount :=
    countLoop_spec (cString buf) (zero_not_mem_cString buf) []
      (cString buf ++ [0]).length 0 (by simp)
  simp only [List.nil_append, List.length_nil, Nat.zero_add] at hcount
  simp only [setNewSubargument, hne, if_false, hcount]

/-- Without an argument there is nothing to hand out. -/
theorem getNextSubargument_freed
    (s : SubargState) :
    getNextSubargument (freeSubargument s) =
      some ((0, none), freeSubargument s) := by
  unfold freeSubargument
  cases hs : s.completeSubargument with
  | none =>
      simp only [getNextSubargument, hs]
  | some buf =>
      rfl

/-- A leading comma: the first call ends the copy at its first byte. -/
theorem repeatCalls_leading_comma
    (rest : Bytes) :
    ∃ u,
      repeatCalls 2
          { completeSubargument := some (comma :: rest ++ [0])
            subargPtr := some 0 } =
        some ([(2, some []), (0, none)], u) := by
  have hfield :=
    @getNextSubargument_field [] [] rest
      ⟨comma, rest, by decide, rfl⟩ (by simp) (by simp)
  simp only [List.nil_append, List.length_nil] at hfield
  have hempty : strdup ([0] ++ rest ++ [0]) = some [] := by
    simp [strdup]
  rw [repeatCalls, hfield]
  simp only [repeatCalls, getNextSubargument, hempty, if_true]
  exact ⟨_, rfl⟩

/-- The second of several fields is answered with a code other than 0. -/
theorem expectedAnswers_two
    {f : Bytes} {fs : List Bytes}
    (hne : fs ≠ []) :
    expectedAnswers (f :: fs) 2 ≠ [(2, some []), (0, none)] := by
  obtain ⟨g, gs, rfl⟩ := List.exists_cons_of_ne_nil hne
  rw [expectedAnswers_cons f hne 1]
  cases gs with
  | nil =>
      simp [expectedAnswers, fieldAnswers]
  | cons h gs =>
      simp [expectedAnswers, fieldAnswers]

/-- NULL or the empty string: there is nothing to hand out. -/
theorem subargsExact_nil
    (s : SubargState) {arg : Option Bytes}
    (hnone : subargText arg = []) :
    SubargsExact s arg := by
  have hset : setNewSubargument s arg = some (0, freeSubargument s) := by
    cases arg with
    | none =>
        rfl
    | some buf =>
        have hbuf : cString buf = [] := hnone
        simp only [setNewSubargument, hbuf, if_true]
  refine ⟨freeSubargument s, by rw [hset, hnone]; rfl, ?_⟩
  intro m
  refine ⟨freeSubargument s, ?_⟩
  rw [repeatCalls_spent (getNextSubargument_freed s), hnone]
  simp [expectedAnswers, fieldAnswers, commaFields]

theorem commaFields_of_ne_nil
    {text : Bytes}
    (hne : text ≠ []) :
    commaFields text = text.splitOn comma := by
  rw [commaFields, if_neg hne]

/-- Behind a leading comma the second field is lost. -/
theorem not_subargsExact_comma
    (s : SubargState) {buf chars : Bytes}
    (hchars : cString buf = comma :: chars) :
    ¬ SubargsExact s (some buf) := by
  have hne : cString buf ≠ [] := by
    rw [hchars]
    exact List.cons_ne_nil _ _
  rintro ⟨t, ht, hcalls⟩
  rw [setNewSubargument_cons s hne, Option.some.injEq, Prod.mk.injEq] at ht
  obtain ⟨-, rfl⟩ := ht
  obtain ⟨u, hu⟩ := hcalls 2
  obtain ⟨v, hv⟩ := repeatCalls_leading_comma chars
  have htext : subargText (some buf) = cString buf := rfl
  rw [htext, commaFields_of_ne_nil hne, hchars, hv, Option.some.injEq, Prod.mk.injEq] at hu
  have hsplit : (comma :: chars).splitOn comma = [] :: chars.splitOn comma :=
    List.splitOn_append_cons_self_of_not_mem List.not_mem_nil chars
  rw [hsplit] at hu
  exact expectedAnswers_two (List.splitOn_ne_nil _ _) hu.1.symm

/-- With any other first character all fields come out. -/
theorem subargsExact_cons
    (s : SubargState) {buf chars : Bytes} {c : Byte}
    (hchars : cString buf = c :: chars)
    (hcomma : c ≠ comma) :
    SubargsExact s (some buf) := by
  have hne : cString buf ≠ [] := by
    rw [hchars]
    exact List.cons_ne_nil _ _
  have htext : subargText (some buf) = cString buf := rfl
  have hc0 : c ≠ 0 := by
    intro h
    apply zero_not_mem_cString buf
    simp [hchars, h]
  refine ⟨_, by rw [setNewSubargument_cons s hne, htext, commaFields_of_ne_nil hne], ?_⟩
  intro m
  rw [htext, commaFields_of_ne_nil hne]
  exact
    repeatCalls_fields (cString buf) (zero_not_mem_cString buf) [] m
      ⟨c, chars, hc0, by simp [hchars]⟩ (fun _ => by simpa [hchars] using hcomma)

/--
Whatever was set before, the fields of an argument come out right exactly
when the argument does not start with a comma.
-/
theorem subargsExact_iff
    (s : SubargState) (arg : Option Bytes) :
    SubargsExact s arg ↔ (subargText arg).head? ≠ some comma := by
  cases htext : subargText arg with
  | nil =>
      simp [subargsExact_nil s htext]
  | cons c chars =>
      cases arg with
      | none =>
          cases htext
      | some buf =>
          rw [List.head?_cons, ne_eq, Option.some.injEq]
          constructor
          · rintro hexact rfl
            exact not_subargsExact_comma s htext hexact
          · exact subargsExact_cons s htext

/-- Of the two fields of `,x` only the first one is handed out. -/
theorem not_subargsExact_leadingComma :
    ¬ SubargsExact { completeSubargument := none, subargPtr := none }
        (some [comma, 120, 0]) := by
  rintro ⟨t, hset, hcalls⟩
  have hcopy :
      setNewSubargument { completeSubargument := none, subargPtr := none }
          (some [comma, 120, 0]) =
        some (2,
          { completeSubargument := some [comma, 120, 0]
            subargPtr := some 0 }) := by
    rfl
  rw [hcopy, Option.some.injEq, Prod.mk.injEq] at hset
  obtain ⟨-, rfl⟩ := hset
  obtain ⟨u, hu⟩ := hcalls 2
  have hanswers := congrArg (Option.map Prod.fst) hu
  simp only [Option.map_some] at hanswers
  revert hanswers
  decide

end Adav
end BrBox
