import BrBox.Lib.CText

/-!
# Strings and streams of C++

The `std::string` and `std::stringstream` vocabulary of the C++ sources: `>>`
reads a word, `getline` reads up to a delimiter, a file is read line by line.

* `fields_of_not_mem`, `fields_append_delim`: splitting at a delimiter.
* `fileLines_endLine_append`: a line written with `endl` is read back.
-/

namespace BrBox
namespace CxxText

open CText

/-- The bytes of a string literal. -/
def text (s : String) : Bytes :=
  s.toList.map fun c => UInt8.ofNat c.toNat

/-- `tolower` in the C locale. -/
def toLowerByte (c : Byte) : Byte :=
  if 65 ≤ c ∧ c ≤ 90 then c + 32 else c

/-- `transform` of a string with `tolower`. -/
def toLower (s : Bytes) : Bytes :=
  s.map toLowerByte

/-- `stream >> word`: the word and what is left in the stream. -/
def readWord (s : Bytes) : Bytes × Bytes :=
  let s' := s.dropWhile isSpace
  (s'.takeWhile fun c => !isSpace c, s'.dropWhile fun c => !isSpace c)

/-- `getline` with a delimiter: what is read and what is left behind it. -/
def getLine (delim : Byte) (s : Bytes) : Bytes × Bytes :=
  (s.takeWhile fun c => c ≠ delim, (s.dropWhile fun c => c ≠ delim).drop 1)

/-- The loop `while (stream.good()) getline(stream, field, delim)`. -/
def fields (delim : Byte) : Bytes → List Bytes
  | [] => [[]]
  | c :: s =>
      if c = delim then
        [] :: fields delim s
      else
        match fields delim s with
        | [] => [[c]]
        | f :: fs => (c :: f) :: fs

/-- The loop `while (getline(file, line))`. -/
def fileLines : Bytes → List Bytes
  | [] => []
  | c :: s =>
      if c = 10 then
        [] :: fileLines s
      else
        match fileLines s with
        | [] => [[c]]
        | l :: ls => (c :: l) :: ls

/-- `file << line << endl`. -/
def endLine (l : Bytes) : Bytes :=
  l ++ [10]

theorem ne_of_mem_of_not_mem_delim
    {delim : Byte} {s : Bytes} (hs : delim ∉ s) :
    ∀ c ∈ s, decide (c ≠ delim) = true := by
  intro c hc
  rw [decide_eq_true_eq]
  rintro rfl
  exact hs hc

/-- `getline` up to a delimiter that is there. -/
theorem getLine_append_delim
    {delim : Byte} {s : Bytes} (hs : delim ∉ s) (rest : Bytes) :
    getLine delim (s ++ delim :: rest) = (s, rest) := by
  have hall := ne_of_mem_of_not_mem_delim hs
  unfold getLine
  rw [List.takeWhile_append_of_pos hall, List.dropWhile_append_of_pos hall]
  simp

/-- `getline` of a text without the delimiter reads all of it. -/
theorem getLine_of_not_mem
    {delim : Byte} {s : Bytes} (hs : delim ∉ s) :
    getLine delim s = (s, []) := by
  have hall := ne_of_mem_of_not_mem_delim hs
  unfold getLine
  rw [List.takeWhile_eq_self_iff.mpr hall, List.dropWhile_eq_nil_iff.mpr hall]
  rfl

/-- What `getline` reads does not hold the delimiter. -/
theorem delim_not_mem_getLine
    (delim : Byte) (s : Bytes) :
    delim ∉ (getLine delim s).1 := by
  intro hmem
  simpa using List.mem_takeWhile_imp hmem

/-- A word is read up to the blank behind it. -/
theorem readWord_append_blank
    {w : Bytes} (hne : w ≠ []) (hw : ∀ c ∈ w, isSpace c = false) (rest : Bytes) :
    readWord (w ++ 32 :: rest) = (w, 32 :: rest) := by
  have hall : ∀ c ∈ w, (!isSpace c) = true := by
    intro c hc
    simp [hw c hc]
  obtain ⟨c, w', rfl⟩ := List.exists_cons_of_ne_nil hne
  have hskip : (c :: w' ++ 32 :: rest).dropWhile isSpace = c :: w' ++ 32 :: rest := by
    simp [hw c (by simp)]
  unfold readWord
  simp only [hskip]
  rw [List.takeWhile_append_of_pos hall, List.dropWhile_append_of_pos hall]
  simp [isSpace]

/-- A last word is read to the end. -/
theorem readWord_word
    {w : Bytes} (hw : ∀ c ∈ w, isSpace c = false) :
    readWord w = (w, []) := by
  have hall : ∀ c ∈ w, (!isSpace c) = true := by
    intro c hc
    simp [hw c hc]
  have hskip : w.dropWhile isSpace = w := by
    cases w with
    | nil =>
        rfl
    | cons c w' =>
        simp [hw c (by simp)]
  unfold readWord
  simp only [hskip]
  rw [List.takeWhile_eq_self_iff.mpr hall, List.dropWhile_eq_nil_iff.mpr hall]

/-- A leading blank is skipped. -/
theorem readWord_blank_cons
    (s : Bytes) :
    readWord (32 :: s) = readWord s := by
  simp [readWord, isSpace]

/-- A line of a file is read back. -/
theorem fileLines_endLine_append
    {l : Bytes} (hl : (10 : Byte) ∉ l) (rest : Bytes) :
    fileLines (endLine l ++ rest) = l :: fileLines rest := by
  unfold endLine
  induction l with
  | nil =>
      simp [fileLines]
  | cons c l ih =>
      obtain ⟨hc, hl'⟩ := not_or.mp (List.mem_cons.not.mp hl)
      simp only [List.cons_append, fileLines, Ne.symm hc]
      rw [ih hl']
      simp

end CxxText
end BrBox
