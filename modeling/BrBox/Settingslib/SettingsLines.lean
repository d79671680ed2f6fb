import BrBox.Adav.SettingsText
import Mathlib.Data.List.DropRight

/-!
# The lines of a settings file

What a line of a settings file says, for the lines that `settings_save` writes and for the
pieces that `fgets` makes of any file.

* `lineOf_sectionLine`, `lineOf_pairLine`: a line that is written is read as what it was
  written for, if the name, or the key and the value, are plain.
* `plainName_of_lineOf`, `plainPair_of_lineOf`: nothing else is read from any file.
* `pieces_flatMap`: a file of short lines is read line by line.
-/

namespace BrBox
namespace Settingslib

open CText
open CxxText
open Adav

/-- What a line says to the parser. -/
inductive Line where
  | skip
  | sec (name : Bytes)
  | pair (key value : Bytes)
  | bad
deriving DecidableEq, Repr

/-- The cases of `parse_str`. -/
def readLine (str : Bytes) : Line :=
  if str = [] ∨ str.all isBlankChar = true ∨ str.head? = some 35 then
    .skip
  else if isSectionStr str then
    .sec (getSectionFromStr str)
  else if isKeyValueStr str then
    .pair (getKeyValueFromStr str).1 (getKeyValueFromStr str).2
  else if isKeyWithoutValueStr str then
    .pair str []
  else
    .bad

/-- The line in a buffer. -/
def lineOf (buf : Bytes) : Line :=
  readLine (trimStr (cString buf))

/-- The format `"[%s]"` of a section. -/
def sectionLine (name : Bytes) : Bytes :=
  91 :: name ++ [93]

/-- The format `"%s %c %s"` of a key and its value. -/
def pairLine (key value : Bytes) : Bytes :=
  key ++ [32, 61, 32] ++ value

/-- No blank at the ends. -/
structure Trimmed (s : Bytes) : Prop where
  head : ∀ c ∈ s.head?, isBlankChar c = false
  last : ∀ c ∈ s.getLast?, isBlankChar c = false

/-- A section name that fits between the brackets. -/
def PlainName (name : Bytes) : Prop :=
  ∀ c ∈ name, c ≠ 0 ∧ c ≠ 10 ∧ c ≠ 93

/-- A key and a value that one line can tell. -/
structure PlainPair (key value : Bytes) : Prop where
  clean : ∀ c ∈ key ++ value, c ≠ 0 ∧ c ≠ 10
  key_ne : key ≠ []
  key_trimmed : Trimmed key
  key_separator : (61 : Byte) ∉ key
  not_comment : key.head? ≠ some 35
  not_section : key.head? = some 91 → (93 : Byte) ∉ key ++ value
  value_trimmed : Trimmed value

instance decidableTrimmed (s : Bytes) : Decidable (Trimmed s) :=
  decidable_of_iff
    ((∀ c ∈ s.head?, isBlankChar c = false) ∧ (∀ c ∈ s.getLast?, isBlankChar c = false))
    ⟨fun h => ⟨h.1, h.2⟩, fun h => ⟨h.head, h.last⟩⟩

instance decidablePlainName (name : Bytes) : Decidable (PlainName name) :=
  decidableForallByte name fun c => c ≠ 0 ∧ c ≠ 10 ∧ c ≠ 93

instance decidablePlainPair (key value : Bytes) : Decidable (PlainPair key value) :=
  decidable_of_iff
    ((∀ c ∈ key ++ value, c ≠ 0 ∧ c ≠ 10) ∧ key ≠ [] ∧ Trimmed key ∧ (61 : Byte) ∉ key ∧
      key.head? ≠ some 35 ∧ (key.head? = some 91 → (93 : Byte) ∉ key ++ value) ∧ Trimmed value)
    ⟨fun ⟨h₁, h₂, h₃, h₄, h₅, h₆, h₇⟩ => ⟨h₁, h₂, h₃, h₄, h₅, h₆, h₇⟩,
      fun ⟨h₁, h₂, h₃, h₄, h₅, h₆, h₇⟩ => ⟨h₁, h₂, h₃, h₄, h₅, h₆, h₇⟩⟩

section Trim

theorem trimEnd_eq
    (s : Bytes) :
    trimEnd s = s.rdropWhile isBlankChar := by
  rfl

theorem mem_of_mem_trimEnd
    {s : Bytes} {c : Byte}
    (hmem : c ∈ trimEnd s) :
    c ∈ s :=
  (List.rdropWhile_prefix isBlankChar s).subset hmem

theorem mem_of_mem_trimStr
    {s : Bytes} {c : Byte}
    (hmem : c ∈ trimStr s) :
    c ∈ s :=
  (List.dropWhile_suffix isBlankChar).subset (mem_of_mem_trimEnd hmem)

/-- A blank at the end does not count. -/
theorem trimStr_append_blank
    (s : Bytes)
    {b : Byte}
    (hb : isBlankChar b = true) :
    trimStr (s ++ [b]) = trimStr s := by
  rw [trimStr, trimStr, List.dropWhile_append]
  cases hs : s.dropWhile isBlankChar with
  | nil =>
      simp [hb]
  | cons c rest =>
      simp only [List.isEmpty_cons, Bool.false_eq_true, if_false]
      rw [trimEnd_eq, List.rdropWhile_concat_pos _ _ _ hb, trimEnd_eq]

theorem trimEnd_head?
    {c : Byte} {s : Bytes}
    (hc : isBlankChar c = false) :
    (trimEnd (c :: s)).head? = some c := by
  have hpre : trimEnd (c :: s) <+: c :: s :=
    List.rdropWhile_prefix isBlankChar (c :: s)
  have hne : trimEnd (c :: s) ≠ [] := by
    rw [trimEnd_eq, Ne, List.rdropWhile_eq_nil_iff]
    intro hall
    rw [hall c List.mem_cons_self] at hc
    cases hc
  obtain ⟨d, rest, hd⟩ := List.exists_cons_of_ne_nil hne
  rw [hd] at hpre ⊢
  rw [(List.cons_prefix_cons.mp hpre).1]
  rfl

theorem trimEnd_getLast?
    (s : Bytes) :
    ∀ c ∈ (trimEnd s).getLast?, isBlankChar c = false := by
  intro c hc
  obtain ⟨hne, rfl⟩ := List.mem_getLast?_eq_getLast hc
  exact Bool.eq_false_iff.mpr (List.rdropWhile_last_not isBlankChar s hne)

/-- A trimmed string has no blank at its ends. -/
theorem trimmed_trimStr
    (s : Bytes) :
    Trimmed (trimStr s) where
  head := by
    intro c hc
    rw [trimStr] at hc
    cases hs : s.dropWhile isBlankChar with
    | nil =>
        rw [hs] at hc
        simp [trimEnd] at hc
    | cons d rest =>
        have hd : isBlankChar d = false := by
          have := List.head_dropWhile_not isBlankChar (l := s) (by simp [hs])
          simpa [hs] using this
        rw [hs, trimEnd_head? hd] at hc
        rwa [← Option.mem_some.mp hc]
  last := trimEnd_getLast? _

/-- What has no blank at its ends stays. -/
theorem trimStr_of_trimmed
    {s : Bytes}
    (hs : Trimmed s) :
    trimStr s = s := by
  have hdrop : s.dropWhile isBlankChar = s := by
    cases s with
    | nil =>
        rfl
    | cons c s =>
        rw [List.dropWhile_cons_of_neg]
        simp [hs.head c rfl]
  rw [trimStr, hdrop, trimEnd_eq, List.rdropWhile_eq_self_iff]
  intro hne
  simp [hs.last _ (List.getLast?_eq_some_getLast hne)]

end Trim

section Written

/-- A name is read from its line. -/
theorem lineOf_sectionLine
    {name : Bytes}
    (hname : PlainName name) :
    lineOf (endLine (sectionLine name)) = .sec name := by
  have hline : ∀ c ∈ sectionLine name, c ≠ 0 := by
    intro c hc
    simp only [sectionLine, List.cons_append, List.mem_cons, List.mem_append,
      List.not_mem_nil, or_false] at hc
    rcases hc with rfl | hc | rfl
    · decide
    · exact (hname c hc).1
    · decide
  have hbytes : cString (endLine (sectionLine name)) = sectionLine name ++ [10] := by
    apply cString_of_zero_not_mem
    intro hzero
    rcases List.mem_append.mp hzero with hzero | hzero
    · exact hline 0 hzero rfl
    · simp at hzero
  have htrimmed : Trimmed (sectionLine name) := by
    constructor
    · intro c hc
      obtain rfl : 91 = c := by simpa [sectionLine] using hc
      decide
    · intro c hc
      obtain rfl : 93 = c := by
        rw [sectionLine, List.getLast?_concat] at hc
        exact Option.mem_some.mp hc
      decide
  have hstr : trimStr (cString (endLine (sectionLine name))) = sectionLine name := by
    rw [hbytes, trimStr_append_blank _ (by decide), trimStr_of_trimmed htrimmed]
  have hbracket : isSectionStr (sectionLine name) = true := by
    simp [isSectionStr, sectionLine]
  have hget : getSectionFromStr (sectionLine name) = name := by
    have hall : ∀ c ∈ name, decide (c ≠ 93) = true := by
      intro c hc
      simpa using (hname c hc).2.2
    simp only [getSectionFromStr, sectionLine, List.cons_append, List.drop_succ_cons,
      List.drop_zero]
    rw [List.takeWhile_append_of_pos hall]
    simp
  rw [lineOf, hstr, readLine, if_neg, if_pos hbracket, hget]
  simp [sectionLine, isBlankChar]

/-- What stands behind the separator for a value. -/
structure ValueTail (tail value : Bytes) : Prop where
  value_eq : tail.dropWhile isBlankChar = value
  mem : ∀ c ∈ tail, c = 32 ∨ c ∈ value

/-- The string of a line; without a value the blank behind the separator is dropped. -/
theorem trimStr_pairLine
    {key value : Bytes}
    (hplain : PlainPair key value) :
    ∃ tail, trimStr (cString (endLine (pairLine key value))) = key ++ 32 :: 61 :: tail ∧
      ValueTail tail value := by
  obtain ⟨c, rest, hkey⟩ := List.exists_cons_of_ne_nil hplain.key_ne
  have hfirst : isBlankChar c = false := hplain.key_trimmed.head c (by simp [hkey])
  have hzero : (0 : Byte) ∉ endLine (pairLine key value) := by
    have hkv : (0 : Byte) ∉ key ++ value := fun hmem => (hplain.clean 0 hmem).1 rfl
    simp only [List.mem_append, not_or] at hkv
    simp [endLine, pairLine, hkv.1, hkv.2]
  rw [cString_of_zero_not_mem hzero, endLine, trimStr_append_blank _ (by decide)]
  by_cases hvalue : value = []
  · refine ⟨[], ?_, by simp [hvalue], by simp⟩
    have hline : pairLine key value = key ++ [32, 61] ++ [32] := by
      simp [pairLine, hvalue]
    rw [hline, trimStr_append_blank _ (by decide), trimStr_of_trimmed]
    constructor
    · intro d hd
      obtain rfl : c = d := by simpa [hkey] using hd
      exact hfirst
    · intro d hd
      obtain rfl : 61 = d := by simpa using hd
      decide
  · refine ⟨32 :: value, ?_, ?_, by simp⟩
    · rw [trimStr_of_trimmed, pairLine]
      · simp
      · constructor
        · intro d hd
          obtain rfl : c = d := by simpa [hkey, pairLine] using hd
          exact hfirst
        · intro d hd
          apply hplain.value_trimmed.last
          rwa [pairLine, List.getLast?_append_of_ne_nil _ hvalue] at hd
    · obtain ⟨d, value', rfl⟩ := List.exists_cons_of_ne_nil hvalue
      have hd : isBlankChar d = false := hplain.value_trimmed.head d rfl
      rw [List.dropWhile_cons_of_pos (by decide), List.dropWhile_cons_of_neg (by simp [hd])]

/-- The string of a line is not a section. -/
theorem isSectionStr_pair
    {key value tail : Bytes}
    (hplain : PlainPair key value)
    (htail : ValueTail tail value) :
    isSectionStr (key ++ 32 :: 61 :: tail) = false := by
  obtain ⟨c, rest, hkey⟩ := List.exists_cons_of_ne_nil hplain.key_ne
  by_cases hc : c = 91
  · subst hc
    have hnot := hplain.not_section (by simp [hkey])
    simp only [hkey, List.cons_append, List.mem_cons, List.mem_append, not_or] at hnot
    have hmem : (93 : Byte) ∉ tail := by
      intro hmem
      rcases htail.mem 93 hmem with h | h
      · exact absurd h (by decide)
      · exact hnot.2.2 h
    simp [isSectionStr, hkey, hnot.2.1, hmem]
  · simp only [hkey, List.cons_append]
    unfold isSectionStr
    split
    · rename_i heq
      exact absurd (List.cons.inj heq).1 hc
    · rfl

/-- The string of a line is split at its separator. -/
theorem getKeyValueFromStr_pair
    {key value tail : Bytes}
    (hplain : PlainPair key value)
    (htail : ValueTail tail value) :
    getKeyValueFromStr (key ++ 32 :: 61 :: tail) = (key, value) := by
  have hsep : ∀ d ∈ key ++ [32], decide (d ≠ 61) = true := by
    intro d hd
    rcases List.mem_append.mp hd with hd | hd
    · exact ne_of_mem_of_not_mem_delim hplain.key_separator d hd
    · obtain rfl := List.mem_singleton.mp hd
      decide
  have hsplit : key ++ 32 :: 61 :: tail = (key ++ [32]) ++ 61 :: tail := by
    simp
  have hend : trimEnd (key ++ [32]) = key := by
    rw [trimEnd_eq, List.rdropWhile_concat_pos _ _ _ (by decide), List.rdropWhile_eq_self_iff]
    intro hne
    simp [hplain.key_trimmed.last _ (List.getLast?_eq_some_getLast hne)]
  rw [getKeyValueFromStr, hsplit, List.takeWhile_append_of_pos hsep,
    List.dropWhile_append_of_pos hsep]
  simp [hend, htail.value_eq]

/-- A key and its value are read from their line. -/
theorem lineOf_pairLine
    {key value : Bytes}
    (hplain : PlainPair key value) :
    lineOf (endLine (pairLine key value)) = .pair key value := by
  obtain ⟨tail, hstr, htail⟩ := trimStr_pairLine hplain
  obtain ⟨c, rest, hkey⟩ := List.exists_cons_of_ne_nil hplain.key_ne
  have hfirst : isBlankChar c = false := hplain.key_trimmed.head c (by simp [hkey])
  have hcomment : c ≠ 35 := by
    rintro rfl
    exact hplain.not_comment (by simp [hkey])
  have hequal : c ≠ 61 := by
    rintro rfl
    exact hplain.key_separator (by simp [hkey])
  rw [lineOf, hstr, readLine, if_neg, if_neg, if_pos, getKeyValueFromStr_pair hplain htail]
  · simp [isKeyValueStr, hkey, hequal]
  · simp [isSectionStr_pair hplain htail]
  · simp [hkey, hfirst, hcomment]

/-- The line behind a section is blank. -/
theorem lineOf_blank :
    lineOf (endLine []) = .skip := by
  decide

end Written

section Read

/-- A piece ends at its newline, if it has one. -/
def IsPiece (buf : Bytes) : Prop :=
  ∃ line, (10 : Byte) ∉ line ∧ (buf = line ∨ buf = endLine line)

/-- The string read from a piece has no newline and no NUL. -/
theorem clean_of_isPiece
    {buf : Bytes}
    (hpiece : IsPiece buf) :
    ∀ c ∈ trimStr (cString buf), c ≠ 0 ∧ c ≠ 10 := by
  obtain ⟨line, hline, hbuf⟩ := hpiece
  have hclean : ∀ c ∈ trimStr (cString line), c ≠ 0 ∧ c ≠ 10 := by
    intro c hc
    have hmem := mem_of_mem_trimStr hc
    constructor
    · rintro rfl
      exact zero_not_mem_cString line hmem
    · rintro rfl
      exact hline ((List.takeWhile_prefix _).subset hmem)
  rcases hbuf with rfl | rfl
  · exact hclean
  · by_cases hzero : (0 : Byte) ∈ line
    · have hsame : cString (endLine line) = cString line := by
        obtain ⟨c, hc, hstop⟩ : ∃ c ∈ line, decide (c ≠ 0) = false := ⟨0, hzero, rfl⟩
        rw [cString, cString, endLine, List.takeWhile_append, if_neg]
        intro hlen
        have hall := List.takeWhile_eq_self_iff.mp
          ((List.takeWhile_prefix _).eq_of_length hlen)
        rw [hall c hc] at hstop
        cases hstop
      rwa [hsame]
    · have hnew : cString (endLine line) = cString line ++ [10] := by
        rw [cString_of_zero_not_mem hzero, cString_of_zero_not_mem]
        · rfl
        · simp [endLine, hzero]
      rwa [hnew, trimStr_append_blank _ (by decide)]

/-- The name of a section is plain. -/
theorem plainName_of_lineOf
    {buf name : Bytes}
    (hpiece : IsPiece buf)
    (hline : lineOf buf = .sec name) :
    PlainName name := by
  have hclean := clean_of_isPiece hpiece
  obtain rfl : getSectionFromStr (trimStr (cString buf)) = name := by
    revert hline
    rw [lineOf, readLine]
    split
    · exact nofun
    · split
      · exact Line.sec.inj
      · split
        · exact nofun
        · split <;> exact nofun
  intro c hc
  have hmem : c ∈ trimStr (cString buf) :=
    List.mem_of_mem_drop ((List.takeWhile_prefix _).subset hc)
  refine ⟨(hclean c hmem).1, (hclean c hmem).2, ?_⟩
  simpa using List.mem_takeWhile_imp hc

/-- A key that is read with a value is plain with it. -/
theorem plainPair_getKeyValue
    {str : Bytes}
    (hclean : ∀ c ∈ str, c ≠ 0 ∧ c ≠ 10)
    (htrimmed : Trimmed str)
    (hcomment : str.head? ≠ some 35)
    (hsection : isSectionStr str = false)
    (hkeyValue : isKeyValueStr str = true) :
    PlainPair (getKeyValueFromStr str).1 (getKeyValueFromStr str).2 := by
  cases str with
  | nil =>
      simp [isKeyValueStr] at hkeyValue
  | cons c rest =>
      have hfirst : isBlankChar c = false := htrimmed.head c rfl
      have hequal : c ≠ 61 := by
        rintro rfl
        simp [isKeyValueStr] at hkeyValue
      have hkey : ∃ more, (c :: rest).takeWhile (fun d => d ≠ 61) = c :: more :=
        ⟨_, List.takeWhile_cons_of_pos (by simpa using hequal)⟩
      obtain ⟨more, hmore⟩ := hkey
      have hhead : (getKeyValueFromStr (c :: rest)).1.head? = some c := by
        rw [getKeyValueFromStr, hmore]
        exact trimEnd_head? hfirst
      have hkeyMem : ∀ d ∈ (getKeyValueFromStr (c :: rest)).1, d ∈ c :: rest ∧ d ≠ 61 := by
        intro d hd
        have htake := mem_of_mem_trimEnd hd
        exact ⟨(List.takeWhile_prefix _).subset htake, by simpa using List.mem_takeWhile_imp htake⟩
      have hsuffix : (getKeyValueFromStr (c :: rest)).2 <:+ c :: rest :=
        (List.dropWhile_suffix _).trans
          ((List.drop_suffix _ _).trans (List.dropWhile_suffix _))
      have hmem : ∀ d ∈ (getKeyValueFromStr (c :: rest)).1 ++
          (getKeyValueFromStr (c :: rest)).2, d ∈ c :: rest := by
        intro d hd
        rcases List.mem_append.mp hd with hd | hd
        · exact (hkeyMem d hd).1
        · exact hsuffix.subset hd
      constructor
      · exact fun d hd => hclean d (hmem d hd)
      · intro hnil
        simp [hnil] at hhead
      · constructor
        · intro d hd
          rw [hhead] at hd
          rwa [← Option.mem_some.mp hd]
        · exact trimEnd_getLast? _
      · exact fun hsep => (hkeyMem 61 hsep).2 rfl
      · rw [hhead]
        exact hcomment
      · intro hbracket hclose
        rw [hhead] at hbracket
        obtain rfl : c = 91 := Option.some.inj hbracket
        have hin : (93 : Byte) ∈ rest :=
          (List.mem_cons.mp (hmem 93 hclose)).resolve_left (by decide)
        simp [isSectionStr, hin] at hsection
      · constructor
        · intro d hd
          rw [getKeyValueFromStr] at hd
          have hne := List.ne_nil_of_mem (List.mem_of_mem_head? hd)
          have hnot := List.head_dropWhile_not isBlankChar hne
          rw [List.head?_eq_some_head hne] at hd
          rw [← Option.mem_some.mp hd]
          simpa using hnot
        · intro d hd
          apply htrimmed.last
          obtain ⟨before, hbefore⟩ := hsuffix
          rw [← hbefore, List.getLast?_append]
          rw [Option.mem_def] at hd
          simp [hd]

/-- A key that is read is plain with its value. -/
theorem plainPair_of_lineOf
    {buf key value : Bytes}
    (hpiece : IsPiece buf)
    (hline : lineOf buf = .pair key value) :
    PlainPair key value := by
  have hclean := clean_of_isPiece hpiece
  have htrimmed := trimmed_trimStr (cString buf)
  revert hline
  rw [lineOf, readLine]
  split
  · exact nofun
  · rename_i hskip
    simp only [not_or] at hskip
    split
    · exact nofun
    · rename_i hsection
      split
      · rename_i hkeyValue
        intro hline
        obtain ⟨rfl, rfl⟩ := Line.pair.inj hline
        exact plainPair_getKeyValue hclean htrimmed hskip.2.2 (by simpa using hsection) hkeyValue
      · split
        · rename_i hkeyOnly
          intro hline
          obtain ⟨rfl, rfl⟩ := Line.pair.inj hline
          refine ⟨by simpa using hclean, hskip.1, htrimmed, ?_, hskip.2.2, ?_, ⟨nofun, nofun⟩⟩
          · simp only [isKeyWithoutValueStr, Bool.and_eq_true, Bool.not_eq_true'] at hkeyOnly
            simpa using hkeyOnly.2
          · intro hbracket hclose
            rw [List.append_nil] at hclose
            cases hstr : trimStr (cString buf) with
            | nil =>
                simp [hstr] at hbracket
            | cons c rest =>
                rw [hstr] at hbracket hclose hsection
                obtain rfl : c = 91 := Option.some.inj hbracket
                have hin : (93 : Byte) ∈ rest :=
                  (List.mem_cons.mp hclose).resolve_left (by decide)
                simp [isSectionStr, hin] at hsection
        · exact nofun

end Read

section Pieces

/-- What `fgets` reads is a piece. -/
theorem isPiece_of_mem_pieces
    (room : Nat)
    {stream buf : Bytes}
    (hmem : buf ∈ pieces room stream) :
    IsPiece buf := by
  induction stream generalizing room buf with
  | nil =>
      simp [pieces] at hmem
  | cons c stream ih =>
      rw [pieces] at hmem
      by_cases hc : c = 10
      · rw [if_pos (.inl hc), List.mem_cons] at hmem
        rcases hmem with rfl | hrest
        · exact ⟨[], List.not_mem_nil, .inr (by simp [endLine, hc])⟩
        · exact ih _ hrest
      · have hone : IsPiece [c] := ⟨[c], by simpa using Ne.symm hc, .inl rfl⟩
        by_cases hroom : room ≤ 1
        · rw [if_pos (.inr hroom), List.mem_cons] at hmem
          rcases hmem with rfl | hrest
          · exact hone
          · exact ih _ hrest
        · rw [if_neg (not_or.mpr ⟨hc, hroom⟩)] at hmem
          cases hpieces : pieces (room - 1) stream with
          | nil =>
              rw [hpieces] at hmem
              obtain rfl := List.mem_singleton.mp hmem
              exact hone
          | cons piece rest =>
              rw [hpieces] at hmem
              rcases List.mem_cons.mp hmem with rfl | hrest
              · have hfirst : piece ∈ pieces (room - 1) stream := by simp [hpieces]
                obtain ⟨line, hline, hpiece⟩ := ih (room - 1) hfirst
                refine ⟨c :: line, by simp [Ne.symm hc, hline], ?_⟩
                rcases hpiece with rfl | rfl
                · exact .inl rfl
                · exact .inr rfl
              · exact ih (room - 1) (by simp [hpieces, hrest])

/-- A line that fits is one piece. -/
theorem pieces_endLine_append
    {line : Bytes}
    (hline : (10 : Byte) ∉ line)
    (room : Nat)
    (hfits : line.length < room)
    (rest : Bytes) :
    pieces room (endLine line ++ rest) = endLine line :: pieces (maxLineChars - 1) rest := by
  induction line generalizing room with
  | nil =>
      simp [endLine, pieces]
  | cons c line ih =>
      obtain ⟨hc, hline'⟩ := not_or.mp (List.mem_cons.not.mp hline)
      have hlen : line.length < room - 1 := by
        rw [List.length_cons] at hfits
        omega
      have hroom : ¬ room ≤ 1 := by
        rw [List.length_cons] at hfits
        omega
      have hcons : endLine (c :: line) ++ rest = c :: (endLine line ++ rest) := rfl
      rw [hcons, pieces, if_neg (not_or.mpr ⟨Ne.symm hc, hroom⟩), ih hline' (room - 1) hlen]
      rfl

/-- A file of lines that fit is read line by line. -/
theorem pieces_flatMap
    {lines : List Bytes}
    (hlines : ∀ line ∈ lines, (10 : Byte) ∉ line ∧ line.length < maxLineChars - 1) :
    pieces (maxLineChars - 1) (lines.flatMap endLine) = lines.map endLine := by
  induction lines with
  | nil =>
      simp [pieces]
  | cons line lines ih =>
      obtain ⟨hnew, hfits⟩ := hlines line List.mem_cons_self
      rw [List.flatMap_cons, pieces_endLine_append hnew _ hfits,
        ih fun l hl => hlines l (List.mem_cons_of_mem _ hl), List.map_cons]

end Pieces

end Settingslib
end BrBox
