import BrBox.Lib.CxxText
import BrBox.Adav.Settings

/-!
# Reading a settings file

`settings_open` reads a file in pieces of at most `MAX_LINECHARS - 1` bytes.  A piece is
a section, a key with or without a text, a comment, or blank; any other piece, and a key
before the first section, makes it fail.  A text is read as a value if it fits in the
buffer.

The order in which `settings_save` writes the keys is that of a hash table; the writer, and
`atol` and `atof`, are parameters.

* `length_lt_of_mem_pieces`: no piece overruns its buffer.
* `getValue_spec`: a text is read exactly if it fits.
-/

namespace BrBox
namespace Adav

open CText
open CxxText

section Reader

/-- `MAX_VALUECHARS`. -/
def maxValueChars : Nat := 256

/-- `MAX_LINECHARS`; no buffer of the parser is smaller. -/
def maxLineChars : Nat := 256 + maxValueChars + 10

/-- What `fgets` takes and leaves, with room for some bytes. -/
def fgets : Nat → Bytes → Bytes × Bytes
  | 0, stream => ([], stream)
  | _ + 1, [] => ([], [])
  | room + 1, c :: stream =>
      if c = 10 then
        ([c], stream)
      else
        let rest := fgets room stream
        (c :: rest.1, rest.2)

/-- The pieces `fgets` makes of a file, with room for some bytes in the first one. -/
def pieces : (room : Nat) → Bytes → List Bytes
  | _, [] => []
  | room, c :: stream =>
      if c = 10 ∨ room ≤ 1 then
        [c] :: pieces (maxLineChars - 1) stream
      else
        match pieces (room - 1) stream with
        | [] => [[c]]
        | piece :: rest => (c :: piece) :: rest

/-- `is_blank_char`. -/
def isBlankChar (c : Byte) : Bool :=
  c == 32 || c == 9 || c == 13 || c == 10

/-- Without blanks at the end. -/
def trimEnd (s : Bytes) : Bytes :=
  (s.reverse.dropWhile isBlankChar).reverse

/-- `trim_str`. -/
def trimStr (s : Bytes) : Bytes :=
  trimEnd (s.dropWhile isBlankChar)

/-- `Settings` and `ParseState`; no section is `has_section` 0. -/
structure ParseState where
  settings : SettingsDoc
  currentSection : Option Bytes

/-- `settings_set` by the name of a section; sections without attached settings are left
out. -/
def settingsSetNamed
    (doc : SettingsDoc) (sec key text : Bytes) : Option SettingsDoc :=
  if sec = [] then
    none
  else if sec = CxxText.text "Data" then
    some (settingsSet doc .data key text)
  else if sec = CxxText.text "MetaData" then
    some (settingsSet doc .metaData key text)
  else
    some doc

/-- `is_section_str`. -/
def isSectionStr (str : Bytes) : Bool :=
  match str with
  | 91 :: rest => rest.contains 93
  | _ => false

/-- `is_key_value_str`. -/
def isKeyValueStr (str : Bytes) : Bool :=
  str.head? != some 61 && str.contains 61

/-- `is_key_without_value_str`. -/
def isKeyWithoutValueStr (str : Bytes) : Bool :=
  str.head? != some 61 && !str.contains 61

/-- `get_section_from_str`. -/
def getSectionFromStr (str : Bytes) : Bytes :=
  (str.drop 1).takeWhile fun c => c ≠ 93

/-- `get_key_value_from_str`. -/
def getKeyValueFromStr (str : Bytes) : Bytes × Bytes :=
  (trimEnd (str.takeWhile fun c => c ≠ 61),
    ((str.dropWhile fun c => c ≠ 61).drop 1).dropWhile isBlankChar)

/-- `settings_set` in the current section. -/
def ParseState.set (st : ParseState) (key text : Bytes) : Option ParseState :=
  match st.currentSection with
  | none => none
  | some sec =>
      (settingsSetNamed st.settings sec key text).map fun settings =>
        { st with settings := settings }

/-- `parse_str`. -/
def parseStr (st : ParseState) (str : Bytes) : Option ParseState :=
  if str = [] then
    some st
  else if str.all isBlankChar then
    some st
  else if str.head? = some 35 then
    some st
  else if isSectionStr str then
    some { st with currentSection := some (getSectionFromStr str) }
  else if isKeyValueStr str then
    let keyValue := getKeyValueFromStr str
    st.set keyValue.1 keyValue.2
  else if isKeyWithoutValueStr str then
    st.set str []
  else
    none

/-- The loop of `settings_open`. -/
def parsePieces : ParseState → List Bytes → Option ParseState
  | st, [] => some st
  | st, buf :: rest =>
      match parseStr st (trimStr (cString buf)) with
      | none => none
      | some st' => parsePieces st' rest

/-- `settings_open`. -/
def settingsOpen (content : Bytes) : Option SettingsDoc :=
  (parsePieces { settings := ∅, currentSection := none }
    (pieces (maxLineChars - 1) content)).map ParseState.settings

/-- The pieces are those of one `fgets` after the other. -/
theorem pieces_eq
    (room : Nat)
    (hroom : 0 < room)
    {stream : Bytes}
    (hstream : stream ≠ []) :
    pieces room stream =
      (fgets room stream).1 :: pieces (maxLineChars - 1) (fgets room stream).2 := by
  induction stream generalizing room with
  | nil =>
      exact absurd rfl hstream
  | cons c stream ih =>
      obtain ⟨room, rfl⟩ : ∃ n, room = n + 1 := ⟨room - 1, by omega⟩
      by_cases hc : c = 10
      · simp [pieces, fgets, hc]
      · cases room with
        | zero =>
            simp [pieces, fgets, hc]
        | succ room =>
            cases stream with
            | nil =>
                simp [pieces, fgets, hc]
            | cons d stream =>
                have hrest := ih (room + 1) (by omega) (by simp)
                rw [pieces, if_neg (by simp [hc]), Nat.add_sub_cancel, hrest]
                simp [fgets, hc]

/-- A piece is not longer than the buffer. -/
theorem length_fgets_le
    (room : Nat)
    (stream : Bytes) :
    (fgets room stream).1.length ≤ room := by
  induction room generalizing stream with
  | zero =>
      simp [fgets]
  | succ room ih =>
      cases stream with
      | nil =>
          simp [fgets]
      | cons c stream =>
          have hrest := ih stream
          by_cases hc : c = 10
          · simp [fgets, hc]
          · simpa [fgets, hc] using hrest

/-- `fgets` leaves less than there was. -/
theorem length_fgets_lt
    {room : Nat}
    (hroom : 0 < room)
    {stream : Bytes}
    (hstream : stream ≠ []) :
    (fgets room stream).2.length < stream.length := by
  induction stream generalizing room with
  | nil =>
      exact absurd rfl hstream
  | cons c stream ih =>
      obtain ⟨room, rfl⟩ : ∃ n, room = n + 1 := ⟨room - 1, by omega⟩
      by_cases hc : c = 10
      · simp [fgets, hc]
      · cases room with
        | zero =>
            simp [fgets, hc]
        | succ room =>
            cases stream with
            | nil =>
                simp [fgets, hc]
            | cons d stream =>
                have hrest := ih (Nat.succ_pos room) (by simp)
                simp only [fgets, if_neg hc, List.length_cons] at hrest ⊢
                omega

/-- No piece that `settings_open` reads overruns its buffer, whatever the file holds. -/
theorem length_lt_of_mem_pieces
    {stream piece : Bytes}
    (hpiece : piece ∈ pieces (maxLineChars - 1) stream) :
    piece.length < maxLineChars := by
  by_cases hstream : stream = []
  · subst hstream
    cases hpiece
  · rw [pieces_eq _ (by decide) hstream] at hpiece
    rcases List.mem_cons.mp hpiece with rfl | hrest
    · have hle := length_fgets_le (maxLineChars - 1) stream
      exact Nat.lt_of_le_of_lt hle (by decide)
    · have hless := length_fgets_lt (show 0 < maxLineChars - 1 by decide) hstream
      exact length_lt_of_mem_pieces hrest
termination_by stream.length

end Reader

section Values

variable {D : Type}

/-- What the reader takes from the C library. -/
structure Conversions (D : Type) where
  atol : Bytes → Int
  atof : Bytes → D

/-- What the loop over `get_token` finds between the commas. -/
def tokens : Bytes → List Bytes
  | [] => []
  | c :: s =>
      if c = 44 then
        [] :: tokens s
      else
        match tokens s with
        | [] => [[c]]
        | token :: rest => (c :: token) :: rest

/-- `get_converted_value`. -/
def getConvertedValue {α : Type} (convert : Bytes → α) (old : α) (text : Bytes) : Bool × α :=
  if text.length < maxValueChars then
    (true, convert text)
  else
    (false, old)

/-- `get_converted_tuple`. -/
def getConvertedTuple {α : Type}
    (convert : Bytes → α) (out : List α) (text : Bytes) : Bool × List α :=
  if out = [] then
    (false, out)
  else if text.length < maxValueChars then
    (true, ((tokens text).map convert).take out.length ++ out.drop (tokens text).length)
  else
    (false, out)

/-- The call of `Load` for a key type, with the text of the key. -/
def getValue
    (conv : Conversions D) (old : SettingsValue D) (text : Bytes) : Bool × SettingsValue D :=
  match old with
  | .string size kept =>
      if text.length < size then
        (true, .string size text)
      else
        (false, .string size kept)
  | .int n => (getConvertedValue atoi n text).map id .int
  | .intArr l => (getConvertedTuple atoi l text).map id .intArr
  | .long n => (getConvertedValue conv.atol n text).map id .long
  | .longArr l => (getConvertedTuple conv.atol l text).map id .longArr
  | .double d => (getConvertedValue conv.atof d text).map id .double
  | .doubleArr l => (getConvertedTuple conv.atof l text).map id .doubleArr

/-- lib-settings with its reader. -/
def settingsLib
    (conv : Conversions D) (save : SettingsDoc → Bytes) (printDouble : D → Bytes) :
    SettingsLib D Bytes where
  settingsOpen := settingsOpen
  settingsSave := save
  emptyFile := []
  printDouble := printDouble
  getValue := getValue conv

/-- A text fits in the buffer it is read to. -/
def Fits : SettingsValue D → Bytes → Prop
  | .string size _, text => text.length < size
  | .int _, text | .long _, text | .double _, text => text.length < maxValueChars
  | .intArr l, text | .longArr l, text => l ≠ [] ∧ text.length < maxValueChars
  | .doubleArr l, text => l ≠ [] ∧ text.length < maxValueChars

theorem getConvertedValue_spec
    {α : Type}
    (convert : Bytes → α)
    (old : α)
    (text : Bytes) :
    ((getConvertedValue convert old text).1 = true ↔ text.length < maxValueChars) ∧
      ((getConvertedValue convert old text).1 = false →
        (getConvertedValue convert old text).2 = old) := by
  by_cases hfits : text.length < maxValueChars
  · simp [getConvertedValue, hfits]
  · simp [getConvertedValue, hfits]

theorem getConvertedTuple_spec
    {α : Type}
    (convert : Bytes → α)
    (out : List α)
    (text : Bytes) :
    ((getConvertedTuple convert out text).1 = true ↔
        out ≠ [] ∧ text.length < maxValueChars) ∧
      ((getConvertedTuple convert out text).1 = false →
        (getConvertedTuple convert out text).2 = out) := by
  by_cases hout : out = []
  · simp [getConvertedTuple, hout]
  · by_cases hfits : text.length < maxValueChars
    · simp [getConvertedTuple, hout, hfits]
    · simp [getConvertedTuple, hout, hfits]

/-- A text is read if and only if it fits; else the variable keeps its value. -/
theorem getValue_spec
    (conv : Conversions D)
    (old : SettingsValue D)
    (text : Bytes) :
    ((getValue conv old text).1 = true ↔ Fits old text) ∧
      ((getValue conv old text).1 = false → (getValue conv old text).2 = old) := by
  cases old with
  | string size kept =>
      by_cases hfits : text.length < size
      · simp [getValue, Fits, hfits]
      · simp [getValue, Fits, hfits]
  | int n =>
      obtain ⟨hread, hkept⟩ := getConvertedValue_spec atoi n text
      exact ⟨hread, fun h => congrArg SettingsValue.int (hkept h)⟩
  | intArr l =>
      obtain ⟨hread, hkept⟩ := getConvertedTuple_spec atoi l text
      exact ⟨hread, fun h => congrArg SettingsValue.intArr (hkept h)⟩
  | long n =>
      obtain ⟨hread, hkept⟩ := getConvertedValue_spec conv.atol n text
      exact ⟨hread, fun h => congrArg SettingsValue.long (hkept h)⟩
  | longArr l =>
      obtain ⟨hread, hkept⟩ := getConvertedTuple_spec conv.atol l text
      exact ⟨hread, fun h => congrArg SettingsValue.longArr (hkept h)⟩
  | double d =>
      obtain ⟨hread, hkept⟩ := getConvertedValue_spec conv.atof d text
      exact ⟨hread, fun h => congrArg SettingsValue.double (hkept h)⟩
  | doubleArr l =>
      obtain ⟨hread, hkept⟩ := getConvertedTuple_spec conv.atof l text
      exact ⟨hread, fun h => congrArg SettingsValue.doubleArr (hkept h)⟩

/-- Variables of one shape read the same texts. -/
theorem fits_congr
    {v w : SettingsValue D}
    (hshape : v.shape = w.shape)
    (text : Bytes) :
    Fits v text ↔ Fits w text := by
  simp only [SettingsValue.shape, Prod.mk.injEq] at hshape
  obtain ⟨htype, hsize⟩ := hshape
  cases v <;> cases w <;> simp only [SettingsValue.keyType, reduceCtorEq] at htype
  case string.string size kept size' kept' =>
    have hsize' : size = size' := hsize
    simp [Fits, hsize']
  case int.int | long.long | double.double =>
    exact Iff.rfl
  case intArr.intArr l l' | longArr.longArr l l' | doubleArr.doubleArr l l' =>
    have hlength : l.length = l'.length := hsize
    have hnil : l = [] ↔ l' = [] := by
      rw [← List.length_eq_zero_iff, hlength, List.length_eq_zero_iff]
    simp [Fits, hnil]

end Values

end Adav
end BrBox
