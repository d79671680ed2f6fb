import BrBox.Settingslib.StoredSettings

/-!
# lib-settings as the library of ADSettings

`ADSettings` is modelled over a library that reads what it has written
(`SettingsLib.Faithful`).  lib-settings does so for what fits its buffers: keys and texts
that `PairFits` admits, and values whose text is shorter than `MAX_VALUECHARS`.  `atol`,
`atof` and the format of a double stay parameters.

* `map_tokens_tupleText`: the tokens of a printed array are its elements.
* `libSettings_faithful`: lib-settings meets the assumption within `libScope`.
-/

namespace BrBox
namespace Settingslib

open CText
open CxxText
open Adav (SettingsDoc SettingsLib SettingsScope SettingsValue Conversions tokens
  getConvertedValue getConvertedTuple getValue maxValueChars)

/-! ## Tokens -/

/-- The token before the first comma. -/
theorem tokens_comma
    {token : Bytes}
    (htoken : (44 : Byte) ∉ token)
    (rest : Bytes) :
    tokens (token ++ 44 :: rest) = token :: tokens rest := by
  induction token with
  | nil =>
      simp [tokens]
  | cons c token ih =>
      simp only [List.mem_cons, not_or] at htoken
      obtain ⟨hc, htoken⟩ := htoken
      rw [List.cons_append, tokens, if_neg (Ne.symm hc), ih htoken]

/-- A text without a comma is one token. -/
theorem tokens_single
    {token : Bytes}
    (hne : token ≠ [])
    (htoken : (44 : Byte) ∉ token) :
    tokens token = [token] := by
  induction token with
  | nil =>
      exact absurd rfl hne
  | cons c token ih =>
      simp only [List.mem_cons, not_or] at htoken
      obtain ⟨hc, htoken⟩ := htoken
      cases token with
      | nil =>
          simp [tokens, Ne.symm hc]
      | cons d token =>
          rw [tokens, if_neg (Ne.symm hc), ih (by simp) htoken]

section Tuples

variable {α : Type}
variable {convert : Bytes → α}

/-- The elements of a printed array are converted one by one, also after a blank. -/
theorem map_tokens_blank_tupleText
    (hblank : ∀ s, convert (32 :: s) = convert s)
    {texts : List Bytes}
    (hne : texts ≠ [])
    (htexts : ∀ text ∈ texts, text ≠ [] ∧ (44 : Byte) ∉ text) :
    (tokens (tupleText texts)).map convert = texts.map convert ∧
      (tokens (32 :: tupleText texts)).map convert = texts.map convert := by
  induction texts with
  | nil =>
      exact absurd rfl hne
  | cons first texts ih =>
      obtain ⟨hfirst, hcomma⟩ := htexts first List.mem_cons_self
      have hcomma' : (44 : Byte) ∉ 32 :: first := by
        simp [hcomma]
      cases texts with
      | nil =>
          simp [tupleText, tokens_single hfirst hcomma, tokens_single (by simp) hcomma',
            hblank]
      | cons second texts =>
          obtain ⟨-, hrest⟩ := ih (by simp) fun text htext =>
            htexts text (List.mem_cons_of_mem first htext)
          have hsplit : tupleText (first :: second :: texts) =
              first ++ 44 :: 32 :: tupleText (second :: texts) := by
            simp [tupleText, List.intercalate_cons_cons]
          have htokens := tokens_comma hcomma (32 :: tupleText (second :: texts))
          have htokens' := tokens_comma hcomma' (32 :: tupleText (second :: texts))
          rw [List.cons_append] at htokens'
          rw [hsplit]
          constructor
          · rw [htokens, List.map_cons, List.map_cons, hrest]
          · rw [htokens', List.map_cons, List.map_cons, hrest, hblank]

/-- The tokens of a printed array are its elements. -/
theorem map_tokens_tupleText
    (hblank : ∀ s, convert (32 :: s) = convert s)
    {texts : List Bytes}
    (hne : texts ≠ [])
    (htexts : ∀ text ∈ texts, text ≠ [] ∧ (44 : Byte) ∉ text) :
    (tokens (tupleText texts)).map convert = texts.map convert :=
  (map_tokens_blank_tupleText hblank hne htexts).1

/-- Elements that are read back one by one. -/
theorem map_convert_print
    {print : α → Bytes}
    {l : List α}
    (hback : ∀ a ∈ l, convert (print a) = a) :
    (l.map print).map convert = l := by
  rw [List.map_map]
  exact (List.map_congr_left hback).trans (List.map_id l)

/-- An array of the same length is read back from its text. -/
theorem getConvertedTuple_print
    (hblank : ∀ s, convert (32 :: s) = convert s)
    {print : α → Bytes}
    (hprint : ∀ a, print a ≠ [] ∧ (44 : Byte) ∉ print a)
    {out l : List α}
    (hne : l ≠ [])
    (hlength : out.length = l.length)
    (hfits : (tupleText (l.map print)).length < maxValueChars) :
    getConvertedTuple convert out (tupleText (l.map print)) =
      (true, (l.map print).map convert) := by
  have hout : out ≠ [] := by
    rintro rfl
    exact hne (List.length_eq_zero_iff.mp hlength.symm)
  have htexts : ∀ text ∈ l.map print, text ≠ [] ∧ (44 : Byte) ∉ text := by
    intro text htext
    obtain ⟨a, -, rfl⟩ := List.mem_map.mp htext
    exact hprint a
  have htokens := map_tokens_tupleText hblank (by simpa using hne) htexts
  have hcount : (tokens (tupleText (l.map print))).length = l.length := by
    simpa using congrArg List.length htokens
  have hdrop : out.drop l.length = [] := List.drop_eq_nil_of_le (by omega)
  rw [getConvertedTuple, if_neg hout, if_pos hfits, htokens, hcount, hdrop, List.append_nil,
    hlength, List.take_of_length_le (by simp)]

/-- An array keeps its length. -/
theorem length_getConvertedTuple
    (out : List α)
    (text : Bytes) :
    (getConvertedTuple convert out text).2.length = out.length := by
  unfold getConvertedTuple
  split
  · rfl
  · split
    · simp only [List.length_append, List.length_take, List.length_map, List.length_drop]
      omega
    · rfl

/-- An array keeps its elements' number, and one at least. -/
theorem getConvertedTuple_ne_nil
    {out : List α}
    (hout : out ≠ [])
    (text : Bytes) :
    (getConvertedTuple convert out text).2 ≠ [] := by
  intro hnil
  have hlength : (getConvertedTuple convert out text).2.length = out.length :=
    length_getConvertedTuple out text
  rw [hnil] at hlength
  exact hout (List.length_eq_zero_iff.mp hlength.symm)

end Tuples

/-! ## Numbers -/

/-- A number is a text without a comma. -/
theorem decimal_text
    (n : Int) :
    decimalText n ≠ [] ∧ (44 : Byte) ∉ decimalText n := by
  refine ⟨?_, comma_not_mem_decimalText n⟩
  unfold decimalText
  split
  · simp
  · exact digitsText_ne_nil _

/-- A number of the type `long`. -/
def InLong (m : Machine) (n : Int) : Prop :=
  -2 ^ (m.longBits - 1) ≤ n ∧ n < 2 ^ (m.longBits - 1)

/-- A number of the type `int`. -/
def InInt (n : Int) : Prop :=
  -2 ^ 31 ≤ n ∧ n < 2 ^ 31

/-- `atol` and `atof` skip a blank, and read what `%ld` and the format of a double have
printed. -/
structure ReadsNumbers {D : Type}
    (m : Machine) (conv : Conversions D) (printDouble : D → Bytes) : Prop where
  atol_blank : ∀ s, conv.atol (32 :: s) = conv.atol s
  atol_decimalText : ∀ n, InLong m n → conv.atol (decimalText n) = n
  atof_blank : ∀ s, conv.atof (32 :: s) = conv.atof s
  atof_print : ∀ d, printDouble (conv.atof (printDouble d)) = printDouble d
  double_text : ∀ d, printDouble d ≠ [] ∧ (44 : Byte) ∉ printDouble d

example (m : Machine) :
    ReadsNumbers m { atol := decimalValue, atof := decimalValue } decimalText where
  atol_blank := decimalValue_blank
  atol_decimalText n _ := decimalValue_decimalText n
  atof_blank := decimalValue_blank
  atof_print d := congrArg decimalText (decimalValue_decimalText d)
  double_text := decimal_text

/-- `atoi` skips a blank. -/
theorem atoi_blank
    (s : Bytes) :
    atoi (32 :: s) = atoi s := by
  rw [atoi_eq_wrapInt32, atoi_eq_wrapInt32, decimalValue_blank]

/-- The text of an `int` fits in every buffer of the library. -/
theorem length_decimalText_lt
    {n : Int}
    (hn : InInt n) :
    (decimalText n).length < maxValueChars := by
  have hdigits : (digitsText n.natAbs).length ≤ 10 := by
    rw [digitsText, List.length_map, Nat.length_toDigits_le_iff (by decide) (by decide)]
    have hlow := hn.1
    have hhigh := hn.2
    omega
  unfold decimalText maxValueChars
  split
  · rw [List.length_cons]
    omega
  · omega

/-! ## The library -/

section Library

variable {m : Machine}
variable {D : Type}
variable {conv : Conversions D}
variable {printDouble : D → Bytes}

/-- The texts of the sections, as `settings_set` gets them. -/
def docTexts (doc : SettingsDoc) : List StoredText :=
  doc.entries.map fun entry => (entry.1, entry.2)

/-- The file that `settings_save` writes of the sections. -/
def savedDoc (m : Machine) (doc : SettingsDoc) : Bytes :=
  ((setTexts (settingsNew : Settings m) (docTexts doc)).bind settingsSave).getD []

/-- lib-settings on a machine. -/
def libSettings
    (m : Machine) (conv : Conversions D) (printDouble : D → Bytes) : SettingsLib D Bytes :=
  Adav.settingsLib conv (savedDoc m) printDouble

/-- The numbers of a value are of their type. -/
def NumbersInRange (m : Machine) : SettingsValue D → Prop
  | .int n => InInt n
  | .intArr l => ∀ n ∈ l, InInt n
  | .long n => InLong m n
  | .longArr l => ∀ n ∈ l, InLong m n
  | .string _ _ | .double _ | .doubleArr _ => True

/-- What fits the buffers of lib-settings. -/
def libScope
    (m : Machine) (conv : Conversions D) (printDouble : D → Bytes) : SettingsScope D where
  doc := fun doc => ∀ kv ∈ docTexts doc, PairFits kv.1.2 kv.2
  value := fun v =>
    NumbersInRange m v ∧ Adav.Fits v ((libSettings m conv printDouble).print v)

/-- The texts that are set are those of the sections. -/
theorem settingsGet_docTexts
    (doc : SettingsDoc)
    (sec : Adav.SettingsSection)
    (key : Bytes) :
    Adav.settingsGet (Adav.settingsSetAll ∅ (docTexts doc)) sec key =
      Adav.settingsGet doc sec key := by
  have hkeys : (docTexts doc).map Prod.fst = doc.entries.keys := by
    simp [docTexts, List.keys, Function.comp_def]
  have hnodup : ((docTexts doc).map Prod.fst).Nodup := hkeys ▸ doc.nodupKeys
  cases hget : Adav.settingsGet doc sec key with
  | none =>
      rw [Adav.settingsGet_setAll_of_not_mem]
      · simp [Adav.settingsGet]
      · rw [hkeys]
        exact AList.lookup_eq_none.mp hget
  | some value =>
      apply Adav.settingsGet_setAll _ hnodup
      exact List.mem_map.mpr ⟨⟨(sec, key), value⟩, AList.mem_lookup_iff.mp hget, rfl⟩

/-- A file of texts that fit is read with these texts. -/
theorem open_savedDoc
    {doc : SettingsDoc}
    (hfits : ∀ kv ∈ docTexts doc, PairFits kv.1.2 kv.2) :
    ∃ doc', Adav.settingsOpen (savedDoc m doc) = some doc' ∧
      ∀ sec key, Adav.settingsGet doc' sec key = Adav.settingsGet doc sec key := by
  obtain ⟨s, hset, hstorable⟩ :=
    exists_setTexts hfits (storable_settingsNew : Storable (settingsNew : Settings m))
  obtain ⟨content, hsave, hopen⟩ := settingsOpen_settingsSave hstorable
  have hcontent : savedDoc m doc = content := by
    rw [savedDoc, hset, Option.bind_some, hsave, Option.getD_some]
  have hagrees := agrees_setTexts agrees_empty hset
  rcases readsAlike m content with ⟨-, hnone⟩ | ⟨doc', s', hdoc, hopen', hread⟩
  · rw [hopen] at hnone
    cases hnone
  · rw [hopen] at hopen'
    obtain rfl := Option.some.inj hopen'
    refine ⟨doc', hcontent ▸ hdoc, ?_⟩
    intro sec key
    rw [hread, ← hagrees, settingsGet_docTexts]

/-- A value that fits is read back from its text. -/
theorem getValue_print
    (hconv : ReadsNumbers m conv printDouble)
    {old v : SettingsValue D}
    (hrange : NumbersInRange m v)
    (hfits : Adav.Fits v ((libSettings m conv printDouble).print v))
    (hvalid : v.Valid)
    (hshape : old.shape = v.shape) :
    ∃ v', getValue conv old ((libSettings m conv printDouble).print v) = (true, v') ∧
      (libSettings m conv printDouble).print v' = (libSettings m conv printDouble).print v ∧
      v'.Valid ∧ v'.shape = v.shape := by
  simp only [SettingsValue.shape, Prod.mk.injEq] at hshape
  obtain ⟨htype, hsize⟩ := hshape
  cases old <;> cases v <;> simp only [SettingsValue.keyType, reduceCtorEq] at htype
  case string.string size kept size' text =>
    have hsize' : size = size' := hsize
    have hroom : text.length < size' := hvalid
    refine ⟨.string size' text, ?_, rfl, hvalid, rfl⟩
    simp [getValue, SettingsLib.print, hsize', hroom]
  case int.int old n =>
    refine ⟨.int n, ?_, rfl, trivial, rfl⟩
    have hshort : (decimalText n).length < maxValueChars := hfits
    simp [getValue, SettingsLib.print, getConvertedValue, hshort,
      atoi_decimalText hrange.1 hrange.2]
  case long.long old n =>
    refine ⟨.long n, ?_, rfl, trivial, rfl⟩
    have hshort : (decimalText n).length < maxValueChars := hfits
    simp [getValue, SettingsLib.print, getConvertedValue, hshort,
      hconv.atol_decimalText n hrange]
  case double.double old d =>
    refine ⟨.double (conv.atof (printDouble d)), ?_, hconv.atof_print d, trivial, rfl⟩
    have hshort : (printDouble d).length < maxValueChars := hfits
    simp [getValue, SettingsLib.print, libSettings, Adav.settingsLib, getConvertedValue,
      hshort]
  case intArr.intArr old l =>
    have hread := getConvertedTuple_print atoi_blank decimal_text hvalid
      (show old.length = l.length from hsize) hfits.2
    have hback : (l.map decimalText).map atoi = l :=
      map_convert_print fun n hn => atoi_decimalText (hrange n hn).1 (hrange n hn).2
    refine ⟨.intArr l, ?_, rfl, hvalid, rfl⟩
    rw [getValue, SettingsLib.print, hread, hback]
    rfl
  case longArr.longArr old l =>
    have hread := getConvertedTuple_print hconv.atol_blank decimal_text hvalid
      (show old.length = l.length from hsize) hfits.2
    have hback : (l.map decimalText).map conv.atol = l :=
      map_convert_print fun n hn => hconv.atol_decimalText n (hrange n hn)
    refine ⟨.longArr l, ?_, rfl, hvalid, rfl⟩
    rw [getValue, SettingsLib.print, hread, hback]
    rfl
  case doubleArr.doubleArr old l =>
    have hread := getConvertedTuple_print hconv.atof_blank hconv.double_text hvalid
      (show old.length = l.length from hsize) hfits.2
    have hl : l ≠ [] := hvalid
    have hne : (l.map printDouble).map conv.atof ≠ [] := by
      simpa using hl
    have hprint : ((l.map printDouble).map conv.atof).map printDouble = l.map printDouble := by
      rw [List.map_map, List.map_map]
      exact List.map_congr_left fun d _ => hconv.atof_print d
    refine ⟨.doubleArr ((l.map printDouble).map conv.atof), ?_, ?_, hne, ?_⟩
    · rw [getValue, SettingsLib.print]
      exact congrArg (Prod.map id SettingsValue.doubleArr) hread
    · exact congrArg tupleText hprint
    · simp [SettingsValue.shape, SettingsValue.keyType, SettingsValue.valueSize]

/-- lib-settings reads what it has written, within its buffers. -/
theorem libSettings_faithful
    (hconv : ReadsNumbers m conv printDouble) :
    (libSettings m conv printDouble).Faithful (libScope m conv printDouble) where
  open_save := by
    intro doc hdoc
    exact open_savedDoc hdoc
  get_print := by
    rintro old v ⟨hrange, hfits⟩ hvalid hshape
    exact getValue_print hconv hrange hfits hvalid hshape
  get_keeps := by
    intro old text hvalid
    cases old with
    | string size kept =>
        simp only [libSettings, Adav.settingsLib, getValue]
        split
        case isTrue hroom =>
          exact ⟨hroom, rfl⟩
        case isFalse =>
          exact ⟨hvalid, rfl⟩
    | int n | long n | double n =>
        exact ⟨trivial, rfl⟩
    | intArr l | longArr l | doubleArr l =>
        exact ⟨getConvertedTuple_ne_nil hvalid text,
          congrArg (Prod.mk _) (length_getConvertedTuple l text)⟩
  get_int := by
    intro old n hlow hhigh
    have hshort := length_decimalText_lt ⟨hlow, hhigh⟩
    simp [libSettings, Adav.settingsLib, getValue, getConvertedValue, hshort,
      atoi_decimalText hlow hhigh]

end Library

end Settingslib
end BrBox
