import Mathlib.Data.List.Infix
import Mathlib.Data.List.TakeWhile

/-!
# Loops over an input stream

A stream has what is left to read and two flags.  `getline` reads up to a delimiter; it
sets `eof` if the stream ends first, and `fail` if there was nothing to read.  The loop
`while (stream.good())` tests the flags, not what is left, so it reads once more behind
a delimiter that stands last.

* `foldLines`: such a loop, which ends on every stream.
* `foldLines_eq_foldl_splitOn`: it sees the fields of the text, each once and in order.
* `foldReads`: the loop `while (getline(...))`, which tests the read itself and so does
  not see an empty last field.
-/

namespace BrBox
namespace InputStream

universe u v

variable {α : Type u}
variable {β : Type v}

/-- A stream with its flags. -/
structure Stream (α : Type u) where
  rest : List α
  eof : Bool
  fail : Bool

/-- A stream over a text. -/
def Stream.ofText
    (text : List α) : Stream α :=
  { rest := text, eof := false, fail := false }

/-- No flag is set. -/
def Stream.good
    (s : Stream α) : Bool :=
  !s.eof && !s.fail

/-- How often a good stream can be read at most. -/
def Stream.left
    (s : Stream α) : Nat :=
  if s.good then
    s.rest.length + 1
  else
    0

@[simp]
theorem good_ofText
    (text : List α) :
    (Stream.ofText text).good = true :=
  rfl

section Reads

variable [DecidableEq α]

/-- `getline`: what is read and the stream behind it.  A stream that is not good leaves
the string as it is. -/
def Stream.getline
    (delim : α)
    (s : Stream α) : Option (List α) × Stream α :=
  if s.good then
    let line := s.rest.takeWhile fun c => c ≠ delim
    match s.rest.dropWhile fun c => c ≠ delim with
    | [] => (some line, { rest := [], eof := true, fail := line.isEmpty })
    | _ :: rest => (some line, { rest := rest, eof := false, fail := false })
  else
    (none, { s with fail := true })

theorem forall_ne_delim
    {delim : α}
    {line : List α}
    (hline : delim ∉ line) :
    ∀ c ∈ line, decide (c ≠ delim) = true := by
  intro c hc
  rw [decide_eq_true_eq]
  rintro rfl
  exact hline hc

/-- Behind a delimiter the stream is good. -/
theorem getline_append_cons
    {delim : α}
    {line : List α}
    (hline : delim ∉ line)
    (rest : List α) :
    (Stream.ofText (line ++ delim :: rest)).getline delim =
      (some line, Stream.ofText rest) := by
  have hall := forall_ne_delim hline
  have htake : (line ++ delim :: rest).takeWhile (fun c => c ≠ delim) = line := by
    rw [List.takeWhile_append_of_pos hall]
    simp
  have hdrop : (line ++ delim :: rest).dropWhile (fun c => c ≠ delim) = delim :: rest := by
    rw [List.dropWhile_append_of_pos hall]
    simp
  rw [Stream.getline, if_pos (good_ofText _)]
  simp only [Stream.ofText, htake, hdrop]

/-- A last line ends the stream. -/
theorem getline_of_not_mem
    {delim : α}
    {line : List α}
    (hline : delim ∉ line) :
    (Stream.ofText line).getline delim =
      (some line, { rest := [], eof := true, fail := line.isEmpty }) := by
  have hall := forall_ne_delim hline
  have htake : line.takeWhile (fun c => c ≠ delim) = line :=
    List.takeWhile_eq_self_iff.mpr hall
  have hdrop : line.dropWhile (fun c => c ≠ delim) = [] :=
    List.dropWhile_eq_nil_iff.mpr hall
  rw [Stream.getline, if_pos (good_ofText _)]
  simp only [Stream.ofText, htake, hdrop]

/-- Every read of a good stream brings it nearer to its end. -/
theorem left_getline_lt
    {delim : α}
    {s : Stream α}
    (hgood : s.good = true) :
    (s.getline delim).2.left < s.left := by
  rw [Stream.getline, if_pos hgood]
  unfold Stream.left
  rw [if_pos hgood]
  have hlen : (s.rest.dropWhile fun c => c ≠ delim).length ≤ s.rest.length :=
    (List.dropWhile_sublist _).length_le
  cases hdrop : s.rest.dropWhile fun c => c ≠ delim with
  | nil =>
      simp [Stream.good]
  | cons c rest =>
      rw [hdrop, List.length_cons] at hlen
      simp only [Stream.good, Bool.not_false, Bool.and_self, if_true]
      omega

/-- The loop `while (s.good()) { getline(s, line, delim); ... }`. -/
def foldLines
    (delim : α)
    (f : β → List α → β)
    (s : Stream α)
    (acc : β) : β :=
  if s.good then
    foldLines delim f (s.getline delim).2 (f acc ((s.getline delim).1.getD []))
  else
    acc
termination_by s.left
decreasing_by exact left_getline_lt ‹_›

theorem foldLines_of_not_good
    {delim : α}
    {f : β → List α → β}
    {s : Stream α}
    (hgood : s.good = false)
    (acc : β) :
    foldLines delim f s acc = acc := by
  rw [foldLines, if_neg (by simp [hgood])]

theorem foldLines_append_cons
    {delim : α}
    {line : List α}
    (hline : delim ∉ line)
    (f : β → List α → β)
    (rest : List α)
    (acc : β) :
    foldLines delim f (Stream.ofText (line ++ delim :: rest)) acc =
      foldLines delim f (Stream.ofText rest) (f acc line) := by
  rw [foldLines, if_pos (good_ofText _), getline_append_cons hline]
  rfl

theorem foldLines_of_not_mem
    {delim : α}
    {line : List α}
    (hline : delim ∉ line)
    (f : β → List α → β)
    (acc : β) :
    foldLines delim f (Stream.ofText line) acc = f acc line := by
  rw [foldLines, if_pos (good_ofText _), getline_of_not_mem hline, foldLines_of_not_good rfl]
  rfl

/-- A text is one line, or a line, a delimiter and a rest. -/
theorem eq_line_or_append
    (delim : α)
    (text : List α) :
    delim ∉ text ∨ ∃ line rest, delim ∉ line ∧ text = line ++ delim :: rest := by
  by_cases hmem : delim ∈ text
  · obtain ⟨line, rest, htext, hline⟩ := List.eq_append_cons_of_mem hmem
    exact Or.inr ⟨line, rest, hline, htext⟩
  · exact Or.inl hmem

/-- The loop sees every field of the text once and in order. -/
theorem foldLines_eq_foldl_splitOn
    (delim : α)
    (f : β → List α → β)
    (text : List α)
    (acc : β) :
    foldLines delim f (Stream.ofText text) acc = (text.splitOn delim).foldl f acc := by
  induction hlen : text.length using Nat.strongRecOn generalizing text acc with
  | ind n ih =>
      subst hlen
      rcases eq_line_or_append delim text with hline | ⟨line, rest, hline, rfl⟩
      · rw [foldLines_of_not_mem hline, List.splitOn_eq_singleton hline]
        rfl
      · rw [foldLines_append_cons hline, List.splitOn_append_cons_self_of_not_mem hline,
          List.foldl_cons]
        apply ih rest.length _ rest _ rfl
        rw [List.length_append, List.length_cons]
        omega

/-- Collecting the lines gives the fields. -/
theorem foldLines_push
    (delim : α)
    (text : List α)
    (acc : List (List α)) :
    foldLines delim (fun lines line => lines ++ [line]) (Stream.ofText text) acc =
      acc ++ text.splitOn delim := by
  rw [foldLines_eq_foldl_splitOn]
  induction text.splitOn delim generalizing acc with
  | nil =>
      simp
  | cons line lines ih =>
      rw [List.foldl_cons, ih, List.append_assoc]
      rfl

/-- A read that is not `fail` was made on a good stream. -/
theorem good_of_getline
    {delim : α}
    {s : Stream α}
    (hread : (s.getline delim).2.fail = false) :
    s.good = true := by
  cases hgood : s.good with
  | true =>
      rfl
  | false =>
      rw [Stream.getline, hgood] at hread
      cases hread

/-- The loop `while (getline(s, line, delim)) { ... }`. -/
def foldReads
    (delim : α)
    (f : β → List α → β)
    (s : Stream α)
    (acc : β) : β :=
  if (s.getline delim).2.fail then
    acc
  else
    foldReads delim f (s.getline delim).2 (f acc ((s.getline delim).1.getD []))
termination_by s.left
decreasing_by exact left_getline_lt (good_of_getline (Bool.eq_false_iff.mpr ‹_›))

theorem foldReads_of_fail
    {delim : α}
    {f : β → List α → β}
    {s : Stream α}
    (hread : (s.getline delim).2.fail = true)
    (acc : β) :
    foldReads delim f s acc = acc := by
  rw [foldReads, if_pos hread]

theorem foldReads_of_not_fail
    {delim : α}
    {f : β → List α → β}
    {s : Stream α}
    (hread : (s.getline delim).2.fail = false)
    (acc : β) :
    foldReads delim f s acc =
      foldReads delim f (s.getline delim).2 (f acc ((s.getline delim).1.getD [])) := by
  rw [foldReads, if_neg (Bool.eq_false_iff.mp hread)]

/-- Nothing is read from an empty text. -/
theorem foldReads_nil
    {delim : α}
    (f : β → List α → β)
    (acc : β) :
    foldReads delim f (Stream.ofText []) acc = acc := by
  refine foldReads_of_fail ?_ acc
  rw [getline_of_not_mem (List.not_mem_nil)]
  rfl

/-- A last line is read if there is something on it. -/
theorem foldReads_of_not_mem
    {delim : α}
    {line : List α}
    (hline : delim ∉ line)
    (hne : line ≠ [])
    (f : β → List α → β)
    (acc : β) :
    foldReads delim f (Stream.ofText line) acc = f acc line := by
  have hread : ((Stream.ofText line).getline delim).2.fail = false := by
    rw [getline_of_not_mem hline]
    simpa using hne
  rw [foldReads_of_not_fail hread, getline_of_not_mem hline]
  exact foldReads_of_fail (by simp [Stream.getline, Stream.good]) _

/-- A line with its delimiter is read, empty or not. -/
theorem foldReads_append_cons
    {delim : α}
    {line : List α}
    (hline : delim ∉ line)
    (f : β → List α → β)
    (rest : List α)
    (acc : β) :
    foldReads delim f (Stream.ofText (line ++ delim :: rest)) acc =
      foldReads delim f (Stream.ofText rest) (f acc line) := by
  have hread : ((Stream.ofText (line ++ delim :: rest)).getline delim).2.fail = false := by
    rw [getline_append_cons hline]
    rfl
  rw [foldReads_of_not_fail hread, getline_append_cons hline]
  rfl

end Reads

end InputStream
end BrBox
