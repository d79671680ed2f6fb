import BrBox.Lib.CopyTrace
import BrBox.Lib.DecimalText
import Mathlib.Data.List.AList
import Mathlib.Data.List.Nodup

/-!
# The settings of a service

`ADSettings` keeps the settings of a service in a text file and in an
alternate file beside it.  A store goes to the file that was not loaded, counts
a sequence number up and writes the checksum of the file last; a load takes the
file whose checksum is right and, of two, the one with the larger number.

The settings library is a parameter: it turns a text into sections of keys and
back, and it reads a typed value from the text of a key.  A `.sha1` file is the
content it was computed from, if any.  The path is not empty, and the
settings are attached before the load.
-/

namespace BrBox
namespace Adav

open CText
open CopyTrace

/-- `ESETTINGS_STATE`. -/
inductive SettingsState where
  | okMain
  | okBackup
  | okOverrideData
  | noFilePassed
  | emptyFileCreateError
  | emptyFileDefaultData
  | mainFileCorrupt
  | backupFileCorrupt
  | bothFilesCorrupt
  | unknown
  | none
deriving DecidableEq, Repr

/-- `ESETTINGS_KEY_STATE` as far as it is set. -/
inductive KeyState where
  | notLoaded
  | loaded
  | notFound
deriving DecidableEq, Repr

/-- `ESETTINGS_SECTION`, by the name of the section. -/
inductive SettingsSection where
  | data
  | metaData
deriving DecidableEq, Repr

/-- `mainfile`, or `mainfile.alt`. -/
inductive SettingsFile where
  | main
  | backup
deriving DecidableEq, Repr

/-- The file beside a file. -/
def SettingsFile.other : SettingsFile → SettingsFile
  | .main => .backup
  | .backup => .main

@[simp] theorem SettingsFile.other_other
    (f : SettingsFile) :
    f.other.other = f := by
  cases f <;> rfl

@[simp] theorem SettingsFile.other_ne
    (f : SettingsFile) :
    f.other ≠ f := by
  cases f <;> decide

@[simp] theorem SettingsFile.ne_other
    (f : SettingsFile) :
    f ≠ f.other := by
  cases f <;> decide

/-- A file is one of two. -/
theorem SettingsFile.eq_or_other
    (f g : SettingsFile) :
    g = f ∨ g = f.other := by
  cases f <;> cases g <;> decide

/-- The seven key types. -/
inductive KeyType where
  | string
  | int
  | intArr
  | long
  | longArr
  | double
  | doubleArr
deriving DecidableEq, Repr

/-- The variable of a setting: a buffer of a size, a number or an array. -/
inductive SettingsValue (D : Type) where
  | string (size : Nat) (text : Bytes)
  | int (n : Int)
  | intArr (l : List Int)
  | long (n : Int)
  | longArr (l : List Int)
  | double (d : D)
  | doubleArr (l : List D)
deriving DecidableEq, Repr

/-- Sections of keys with their texts: `Settings`. -/
abbrev SettingsDoc := AList fun _ : SettingsSection × Bytes => Bytes

/-- `settings_get`. -/
def settingsGet (doc : SettingsDoc) (sec : SettingsSection) (key : Bytes) :
    Option Bytes :=
  doc.lookup (sec, key)

/-- `settings_set`. -/
def settingsSet
    (doc : SettingsDoc) (sec : SettingsSection) (key text : Bytes) :
    SettingsDoc :=
  doc.insert (sec, key) text

@[simp] theorem settingsGet_set_self
    (doc : SettingsDoc) (sec : SettingsSection) (key text : Bytes) :
    settingsGet (settingsSet doc sec key text) sec key = some text := by
  simp [settingsGet, settingsSet]

theorem settingsGet_set_of_ne
    (doc : SettingsDoc) {sec sec' : SettingsSection} {key key' : Bytes}
    (text : Bytes)
    (hne : (sec', key') ≠ (sec, key)) :
    settingsGet (settingsSet doc sec key text) sec' key' =
      settingsGet doc sec' key' := by
  simp only [settingsGet, settingsSet]
  exact AList.lookup_insert_ne hne

/-- Several calls of `settings_set`, in order. -/
def settingsSetAll
    (doc : SettingsDoc)
    (texts : List ((SettingsSection × Bytes) × Bytes)) : SettingsDoc :=
  texts.foldl (fun doc kv => settingsSet doc kv.1.1 kv.1.2 kv.2) doc

/-- A key that is not set keeps its text. -/
theorem settingsGet_setAll_of_not_mem
    {sec : SettingsSection} {key : Bytes}
    {texts : List ((SettingsSection × Bytes) × Bytes)}
    (doc : SettingsDoc)
    (hkey : (sec, key) ∉ texts.map Prod.fst) :
    settingsGet (settingsSetAll doc texts) sec key =
      settingsGet doc sec key := by
  induction texts generalizing doc with
  | nil =>
      rfl
  | cons kv texts ih =>
      simp only [List.map_cons, List.mem_cons, not_or] at hkey
      simp only [settingsSetAll, List.foldl_cons] at ih ⊢
      rw [ih _ hkey.2, settingsGet_set_of_ne _ _ hkey.1]

/-- Each of several different keys gets its text. -/
theorem settingsGet_setAll
    {texts : List ((SettingsSection × Bytes) × Bytes)}
    (doc : SettingsDoc)
    (hnodup : (texts.map Prod.fst).Nodup)
    {sec : SettingsSection} {key text : Bytes}
    (hmem : ((sec, key), text) ∈ texts) :
    settingsGet (settingsSetAll doc texts) sec key = some text := by
  induction texts generalizing doc with
  | nil =>
      simp at hmem
  | cons kv texts ih =>
      simp only [List.map_cons, List.nodup_cons] at hnodup
      rcases List.mem_cons.mp hmem with hhead | htail
      · subst hhead
        have hrest := settingsGet_setAll_of_not_mem
          (settingsSet doc sec key text) hnodup.1
        simp only [settingsSetAll, List.foldl_cons] at hrest ⊢
        rw [hrest, settingsGet_set_self]
      · exact ih _ hnodup.2 htail

section Settings

variable {D : Type} [DecidableEq D]
variable {C : Type} [DecidableEq C]

/-- `key_type` of a variable. -/
def SettingsValue.keyType : SettingsValue D → KeyType
  | .string _ _ => .string
  | .int _ => .int
  | .intArr _ => .intArr
  | .long _ => .long
  | .longArr _ => .longArr
  | .double _ => .double
  | .doubleArr _ => .doubleArr

/-- `value_size`, in elements. -/
def SettingsValue.valueSize : SettingsValue D → Nat
  | .string size _ => size
  | .int _ | .long _ | .double _ => 1
  | .intArr l | .longArr l => l.length
  | .doubleArr l => l.length

/-- What stays fixed of a variable while its value changes. -/
def SettingsValue.shape (v : SettingsValue D) : KeyType × Nat :=
  (v.keyType, v.valueSize)

/-- A terminated string in its buffer; an array has an element. -/
def SettingsValue.Valid : SettingsValue D → Prop
  | .string size text => text.length < size
  | .int _ | .long _ | .double _ => True
  | .intArr l | .longArr l => l ≠ []
  | .doubleArr l => l ≠ []

instance SettingsValue.decidableValid :
    (v : SettingsValue D) → Decidable v.Valid
  | .string size text => inferInstanceAs (Decidable (text.length < size))
  | .int _ => isTrue trivial
  | .long _ => isTrue trivial
  | .double _ => isTrue trivial
  | .intArr l => inferInstanceAs (Decidable (l ≠ []))
  | .longArr l => inferInstanceAs (Decidable (l ≠ []))
  | .doubleArr l => inferInstanceAs (Decidable (l ≠ []))

/-- The settings library and the formats of `printf`. -/
structure SettingsLib (D C : Type) where
  settingsOpen : C → Option SettingsDoc
  settingsSave : SettingsDoc → C
  emptyFile : C
  printDouble : D → Bytes
  getValue : SettingsValue D → Bytes → Bool × SettingsValue D

/-- The text of a value in `Store`. -/
def SettingsLib.print (lib : SettingsLib D C) : SettingsValue D → Bytes
  | .string _ text => text
  | .int n => decimalText n
  | .intArr l => tupleText (l.map decimalText)
  | .long n => decimalText n
  | .longArr l => tupleText (l.map decimalText)
  | .double d => lib.printDouble d
  | .doubleArr l => tupleText (l.map lib.printDouble)

/-- `value` of `Store`. -/
def storeValueArr : CharArray := { name := "value", capacity := 4096 }

/-- `temp_arr` of `Store`. -/
def storeTempArr : CharArray := { name := "temp_arr", capacity := 512 }

/-- The loop of `Store` over an array: each element is printed into `temp_arr`, the
last one without a comma behind it, and appended to `value`. -/
def storeElemTexts (value : Bytes) : List Bytes → Traced Bytes
  | [] => pure value
  | [elem] => do
      let tempArr ← Traced.copy storeTempArr elem
      Traced.copy storeValueArr (value ++ tempArr)
  | elem :: next :: elems => do
      let tempArr ← Traced.copy storeTempArr (elem ++ [44, 32])
      let value ← Traced.copy storeValueArr (value ++ tempArr)
      storeElemTexts value (next :: elems)

/-- What the branches of `Store` print into `value`. -/
def SettingsLib.storeValue (lib : SettingsLib D C) : SettingsValue D → Traced Bytes
  | .string _ text => Traced.copy storeValueArr text
  | .int n => Traced.copy storeValueArr (decimalText n)
  | .intArr l => storeElemTexts [] (l.map decimalText)
  | .long n => Traced.copy storeValueArr (decimalText n)
  | .longArr l => storeElemTexts [] (l.map decimalText)
  | .double d => Traced.copy storeValueArr (lib.printDouble d)
  | .doubleArr l => storeElemTexts [] (l.map lib.printDouble)

theorem storeElemTexts_value
    (value : Bytes) (elems : List Bytes) :
    (storeElemTexts value elems).value = value ++ tupleText elems := by
  fun_induction storeElemTexts value elems with
  | case1 value =>
      simp [tupleText, List.intercalate]
  | case2 value elem =>
      simp [tupleText, List.intercalate]
  | case3 value elem next elems ih =>
      simp only [Traced.value_bind, Traced.value_copy]
      rw [ih]
      simp [tupleText, List.intercalate, List.intersperse]

omit [DecidableEq D] [DecidableEq C] in
/-- The branches print the text of the value. -/
@[simp] theorem SettingsLib.storeValue_value
    (lib : SettingsLib D C) (v : SettingsValue D) :
    (lib.storeValue v).value = lib.print v := by
  cases v with
  | string size text | int n | long n | double d => rfl
  | intArr l | longArr l | doubleArr l =>
      simp [storeValue, storeElemTexts_value, print]

/-- The sections of texts and the values that fit the buffers of the library. -/
structure SettingsScope (D : Type) where
  doc : SettingsDoc → Prop
  value : SettingsValue D → Prop

/-- The library reads what it has written of the sections that fit, and a typed
value that fits is read back from its text up to what is printed of it. -/
structure SettingsLib.Faithful
    (lib : SettingsLib D C) (scope : SettingsScope D) : Prop where
  open_save : ∀ doc, scope.doc doc → ∃ doc',
    lib.settingsOpen (lib.settingsSave doc) = some doc' ∧
      ∀ sec key, settingsGet doc' sec key = settingsGet doc sec key
  get_print : ∀ old v : SettingsValue D,
    scope.value v → v.Valid → old.shape = v.shape →
      ∃ v', lib.getValue old (lib.print v) = (true, v') ∧
        lib.print v' = lib.print v ∧ v'.Valid ∧ v'.shape = v.shape
  get_keeps : ∀ (old : SettingsValue D) (text : Bytes), old.Valid →
    (lib.getValue old text).2.Valid ∧
      (lib.getValue old text).2.shape = old.shape
  get_int : ∀ old n : Int, -2 ^ 31 ≤ n → n < 2 ^ 31 →
    lib.getValue (.int old) (decimalText n) = (true, .int n)

/-- An attached setting with its copy in `SettingsChainLocal`. -/
structure SettingsEntry (D : Type) where
  key : Bytes
  value : SettingsValue D
  localValue : SettingsValue D
  keyState : KeyState
deriving DecidableEq, Repr

/-- One of the three integers of `MetaData`, with its local copy. -/
structure MetaEntry where
  value : Int
  localValue : Int
  keyState : KeyState
deriving DecidableEq, Repr

/-- A settings file; `sha1` is the content its `.sha1` was computed from. -/
structure StoredFile (C : Type) where
  content : Option C
  sha1 : Option C
deriving DecidableEq, Repr

/-- The two files. -/
abbrev SettingsDisk (C : Type) := SettingsFile → StoredFile C

/-- `ADSettings` after a load that returned 0; `checked` is a ghost: the loaded
file had passed its checksum, or a store has written since. -/
structure ADSettings (D : Type) where
  entries : List (SettingsEntry D)
  version : MetaEntry
  seqCount : MetaEntry
  size : MetaEntry
  file : SettingsFile
  alternateFile : SettingsFile
  filepath : SettingsFile
  settings : SettingsDoc
  state : SettingsState
  checked : Bool

/-- `SETTINGS_SECTION_META_DATA_VERSION`. -/
def keyVersion : Bytes := [86, 101, 114, 115, 105, 111, 110]

/-- `SETTINGS_SECTION_META_DATA_SEQ_COUNT`. -/
def keySeqCount : Bytes :=
  [83, 101, 113, 117, 101, 110, 99, 101, 67, 111, 117, 110, 116]

/-- `SETTINGS_SECTION_META_DATA_SIZE`. -/
def keySize : Bytes := [83, 105, 122, 101]

/-- `settings_get_int`. -/
def settingsGetInt
    (lib : SettingsLib D C) (doc : SettingsDoc) (sec : SettingsSection)
    (key : Bytes) (old : Int) : Bool × Int :=
  match settingsGet doc sec key with
  | none => (false, old)
  | some text =>
      match lib.getValue (.int old) text with
      | (found, .int n) => (found, n)
      | _ => (false, old)

/-- What `ReadMetaData` fills in. -/
structure MetaRead where
  version : Int
  seqCount : Int
  size : Int
deriving DecidableEq, Repr

/-- `settings_get_int`, or -1. -/
def readMetaInt (lib : SettingsLib D C) (doc : SettingsDoc) (key : Bytes) :
    Int :=
  match settingsGetInt lib doc .metaData key 0 with
  | (true, n) => n
  | (false, _) => -1

/-- `ReadMetaData`. -/
def readMetaData (lib : SettingsLib D C) (content : Option C) : MetaRead :=
  match content.bind lib.settingsOpen with
  | none => ⟨0, 0, 0⟩
  | some doc =>
      ⟨readMetaInt lib doc keyVersion, readMetaInt lib doc keySeqCount,
        readMetaInt lib doc keySize⟩

/-- `VerifyCheckSum`. -/
def verifyCheckSum (f : StoredFile C) : Bool :=
  f.sha1.isSome && decide (f.sha1 = f.content)

/-- `touch` of a file that does not exist. -/
def touchFile (lib : SettingsLib D C) (f : StoredFile C) : StoredFile C :=
  { f with content := some (f.content.getD lib.emptyFile) }

/-- What `FileConsistencyCheck` decides. -/
structure Selection where
  file : SettingsFile
  state : SettingsState
  metaRead : Option MetaRead
deriving DecidableEq, Repr

/-- `FileConsistencyCheck` after both files exist; `created` tells whether the
main file was created. -/
def selectFile
    (lib : SettingsLib D C) (disk : SettingsDisk C) (created : Bool) :
    Selection :=
  let metamain := readMetaData lib (disk .main).content
  let metabkup := readMetaData lib (disk .backup).content
  match verifyCheckSum (disk .main), verifyCheckSum (disk .backup) with
  | false, false =>
      { file := .backup
        state := if created then .emptyFileDefaultData else .bothFilesCorrupt
        metaRead := none }
  | true, false =>
      { file := .main
        state := if created then .emptyFileDefaultData else .backupFileCorrupt
        metaRead := none }
  | false, true =>
      { file := .backup
        state := if created then .emptyFileDefaultData else .mainFileCorrupt
        metaRead := none }
  | true, true =>
      if metamain.seqCount ≥ metabkup.seqCount then
        { file := .main, state := .okMain, metaRead := some metamain }
      else
        { file := .backup, state := .okBackup, metaRead := some metabkup }

/-- The outcomes of the two `touch` commands. -/
structure TouchEnv where
  mainOk : Bool
  backupOk : Bool
deriving DecidableEq, Repr

/-- `FileConsistencyCheck`. -/
def fileConsistencyCheck
    (lib : SettingsLib D C) (env : TouchEnv) (disk : SettingsDisk C) :
    Option Selection × SettingsDisk C :=
  let created := (disk .main).content.isNone
  if created && !env.mainOk then
    (none, disk)
  else
    let disk' := Function.update disk .main (touchFile lib (disk .main))
    if (disk' .backup).content.isNone && !env.backupOk then
      (none, disk')
    else
      let disk'' :=
        Function.update disk' .backup (touchFile lib (disk' .backup))
      (some (selectFile lib disk'' created), disk'')

/-- One entry in the loop of `Load`. -/
def loadEntry
    (lib : SettingsLib D C) (doc : SettingsDoc) (pEntry : SettingsEntry D) :
    SettingsEntry D :=
  match settingsGet doc .data pEntry.key with
  | none => { pEntry with keyState := .notFound }
  | some text =>
      let result := lib.getValue pEntry.value text
      let resultLocal := lib.getValue pEntry.localValue text
      { pEntry with
        value := result.2
        localValue := resultLocal.2
        keyState := if result.1 && resultLocal.1 then .loaded else .notFound }

/-- A `MetaData` entry in the loop of `Load`, then `ValidateMetaDataEntries`. -/
def loadMeta
    (lib : SettingsLib D C) (doc : SettingsDoc) (key : Bytes)
    (pEntry : MetaEntry) : MetaEntry :=
  let result := settingsGetInt lib doc .metaData key pEntry.value
  let resultLocal := settingsGetInt lib doc .metaData key pEntry.localValue
  if result.1 && resultLocal.1 then
    { value := result.2, localValue := resultLocal.2, keyState := .loaded }
  else
    { value := 0, localValue := resultLocal.2, keyState := .notFound }

/-- What the memory of the three `MetaData` entries and of their copies holds
before a load. -/
structure MetaMemory where
  version : MetaEntry
  seqCount : MetaEntry
  size : MetaEntry
deriving DecidableEq, Repr

/-- The `MetaData` values after `FileConsistencyCheck`. -/
def MetaMemory.select (mem : MetaMemory) : Option MetaRead → MetaMemory
  | none => mem
  | some metaRead =>
      { version := { mem.version with value := metaRead.version }
        seqCount := { mem.seqCount with value := metaRead.seqCount }
        size := { mem.size with value := metaRead.size } }

/-- `Load` of the attached entries; none is a return value of -1. -/
def load
    (lib : SettingsLib D C) (env : TouchEnv) (entries : List (SettingsEntry D))
    (mem : MetaMemory) (disk : SettingsDisk C) :
    Option (ADSettings D) × SettingsDisk C :=
  match fileConsistencyCheck lib env disk with
  | (none, disk') => (none, disk')
  | (some selection, disk') =>
      let mem' := mem.select selection.metaRead
      match (disk' selection.file).content.bind lib.settingsOpen with
      | none => (none, disk')
      | some doc =>
          (some
            { entries := entries.map (loadEntry lib doc)
              version := loadMeta lib doc keyVersion mem'.version
              seqCount := loadMeta lib doc keySeqCount mem'.seqCount
              size := loadMeta lib doc keySize mem'.size
              file := selection.file
              alternateFile := selection.file.other
              filepath := selection.file
              settings := doc
              state := selection.state
              checked := verifyCheckSum (disk' selection.file) },
            disk')

/-- A value differs from its copy; an array of doubles always counts as
changed. -/
def entryChanged (pEntry : SettingsEntry D) : Bool :=
  decide (pEntry.value ≠ pEntry.localValue) ||
    decide (pEntry.value.keyType = .doubleArr)

/-- A `MetaData` value differs from its copy. -/
def metaChanged (pEntry : MetaEntry) : Bool :=
  decide (pEntry.value ≠ pEntry.localValue)

/-- `SettingsChanged` after the loop of `Store`. -/
def settingsChanged (p : ADSettings D) : Bool :=
  p.entries.any entryChanged || metaChanged p.version ||
    metaChanged p.seqCount || metaChanged p.size

/-- The calls of `settings_set` in the loop of `Store`. -/
def storeTexts (lib : SettingsLib D C) (p : ADSettings D) :
    List ((SettingsSection × Bytes) × Bytes) :=
  p.entries.map (fun pEntry =>
      ((.data, pEntry.key), (lib.storeValue pEntry.value).value)) ++
    [((.metaData, keyVersion), decimalText p.version.value),
      ((.metaData, keySeqCount), decimalText p.seqCount.value),
      ((.metaData, keySize), decimalText p.size.value)]

/-- The local copy gets the value. -/
def SettingsEntry.copied (pEntry : SettingsEntry D) : SettingsEntry D :=
  { pEntry with localValue := pEntry.value }

/-- The local copy gets the value. -/
def MetaEntry.copied (pEntry : MetaEntry) : MetaEntry :=
  { pEntry with localValue := pEntry.value }

/-- The loop of `Store`. -/
def storeLoop (lib : SettingsLib D C) (p : ADSettings D) : ADSettings D :=
  { p with
    entries := p.entries.map SettingsEntry.copied
    version := p.version.copied
    seqCount := p.seqCount.copied
    size := p.size.copied
    settings := settingsSetAll p.settings (storeTexts lib p) }

/-- `UpdateSequenceCount`. -/
def updateSequenceCount (p : ADSettings D) : ADSettings D :=
  let count := wrapInt32 (p.seqCount.value + 1)
  { p with
    seqCount := { p.seqCount with value := count, localValue := count }
    settings :=
      settingsSet p.settings .metaData keySeqCount (decimalText count) }

/-- `Store` up to the call of `Save`. -/
def storePrepare (lib : SettingsLib D C) (p : ADSettings D) : ADSettings D :=
  updateSequenceCount { storeLoop lib p with filepath := p.alternateFile }

/-- A file gets a new content; its `.sha1` stays. -/
def writeContent (disk : SettingsDisk C) (f : SettingsFile) (c : C) :
    SettingsDisk C :=
  Function.update disk f { disk f with content := some c }

/-- `Save` to a file that can be opened. -/
def save (lib : SettingsLib D C) (p : ADSettings D) (disk : SettingsDisk C) :
    SettingsDisk C :=
  writeContent disk p.filepath (lib.settingsSave p.settings)

/-- `SwapAlternateFile`. -/
def swapAlternateFile (p : ADSettings D) : ADSettings D :=
  { p with file := p.alternateFile, alternateFile := p.file, checked := true }

/-- `CalculateCheckSum`. -/
def calculateCheckSum (disk : SettingsDisk C) (f : SettingsFile) :
    SettingsDisk C :=
  Function.update disk f { disk f with sha1 := (disk f).content }

/-- The `.sha1` of a file is left without a checksum of anything. -/
def spoilCheckSum (disk : SettingsDisk C) (f : SettingsFile) :
    SettingsDisk C :=
  Function.update disk f { disk f with sha1 := none }

/-- The outcome of the `fopen` in `Save` and the status of `sha1sum`. -/
structure StoreEnv where
  fopenOk : Bool
  sha1Status : Int
deriving DecidableEq, Repr

/-- Nothing fails. -/
def StoreEnv.ok : StoreEnv where
  fopenOk := true
  sha1Status := 0

/-- `Store` with the value it returns; `sha1sum` that fails has emptied the
`.sha1`. -/
def store
    (lib : SettingsLib D C) (env : StoreEnv) (p : ADSettings D)
    (disk : SettingsDisk C) : Int × ADSettings D × SettingsDisk C :=
  if settingsChanged p then
    let q := storePrepare lib p
    if env.fopenOk then
      let disk' := save lib q disk
      let q' := swapAlternateFile q
      if env.sha1Status = 0 then
        (0, q', calculateCheckSum disk' q'.filepath)
      else
        (env.sha1Status, q', spoilCheckSum disk' q'.filepath)
    else
      (-1, q, disk)
  else
    (0, storeLoop lib p, disk)

end Settings

section SettingsTexts

variable {D : Type}
variable {C : Type}

/-- The keys and values of the attached settings. -/
def ADSettings.values (p : ADSettings D) : List (Bytes × SettingsValue D) :=
  p.entries.map fun pEntry => (pEntry.key, pEntry.value)

/-- The keys and the local copies. -/
def ADSettings.localValues (p : ADSettings D) :
    List (Bytes × SettingsValue D) :=
  p.entries.map fun pEntry => (pEntry.key, pEntry.localValue)

/-- A text holds the values of the settings and the sequence count. -/
structure DocHolds
    (lib : SettingsLib D C) (doc : SettingsDoc)
    (values : List (Bytes × SettingsValue D)) (count : Int) : Prop where
  low : -2 ^ 31 ≤ count
  high : count < 2 ^ 31
  values : ∀ kv ∈ values,
    settingsGet doc .data kv.1 = some (lib.print kv.2)
  count : settingsGet doc .metaData keySeqCount = some (decimalText count)

/-- Only the texts of the keys matter. -/
theorem DocHolds.congr
    {lib : SettingsLib D C} {doc doc' : SettingsDoc}
    {values : List (Bytes × SettingsValue D)} {count : Int}
    (hholds : DocHolds lib doc values count)
    (hget : ∀ sec key,
      settingsGet doc' sec key = settingsGet doc sec key) :
    DocHolds lib doc' values count where
  values := by
    intro kv hkv
    rw [hget]
    exact hholds.values kv hkv
  count := by
    rw [hget]
    exact hholds.count
  low := hholds.low
  high := hholds.high

/-- A saved text is read back with what it holds. -/
theorem DocHolds.open_save
    {lib : SettingsLib D C} {scope : SettingsScope D} (hlib : lib.Faithful scope)
    {doc : SettingsDoc} {values : List (Bytes × SettingsValue D)} {count : Int}
    (hdoc : scope.doc doc)
    (hholds : DocHolds lib doc values count) :
    ∃ doc', lib.settingsOpen (lib.settingsSave doc) = some doc' ∧
      DocHolds lib doc' values count := by
  obtain ⟨doc', hopen, hget⟩ := hlib.open_save doc hdoc
  exact ⟨doc', hopen, hholds.congr hget⟩

/-- `ReadMetaData` reads the sequence count of a text. -/
theorem DocHolds.readMetaData_seqCount
    {lib : SettingsLib D C} {scope : SettingsScope D} (hlib : lib.Faithful scope)
    {c : C} {doc : SettingsDoc}
    {values : List (Bytes × SettingsValue D)} {count : Int}
    (hopen : lib.settingsOpen c = some doc)
    (hholds : DocHolds lib doc values count) :
    (readMetaData lib (some c)).seqCount = count := by
  simp only [readMetaData, Option.bind_some, hopen, readMetaInt,
    settingsGetInt, hholds.count, hlib.get_int _ _ hholds.low hholds.high]

/-- `Load` reads the sequence count of a text. -/
theorem DocHolds.loadMeta_seqCount
    {lib : SettingsLib D C} {scope : SettingsScope D} (hlib : lib.Faithful scope)
    {doc : SettingsDoc} {values : List (Bytes × SettingsValue D)} {count : Int}
    (hholds : DocHolds lib doc values count)
    (pEntry : MetaEntry) :
    (loadMeta lib doc keySeqCount pEntry).value = count := by
  simp [loadMeta, settingsGetInt, hholds.count,
    hlib.get_int _ _ hholds.low hholds.high]

/-- The keys that `Store` sets are different. -/
theorem storeTexts_nodup
    (lib : SettingsLib D C) {p : ADSettings D}
    (hkeys : (p.entries.map SettingsEntry.key).Nodup) :
    ((storeTexts lib p).map Prod.fst).Nodup := by
  have hdata : (p.entries.map fun pEntry =>
      (SettingsSection.data, pEntry.key)).Nodup := by
    have hmap : (p.entries.map fun pEntry =>
        (SettingsSection.data, pEntry.key)) =
          (p.entries.map SettingsEntry.key).map
            (Prod.mk SettingsSection.data) := by
      simp
    rw [hmap]
    exact hkeys.map (fun a b h => by simpa using h)
  simp only [storeTexts, List.map_append, List.map_map, List.map_cons,
    List.map_nil]
  refine List.nodup_append.mpr ⟨hdata, by decide, ?_⟩
  intro a ha b hb heq
  subst heq
  simp only [List.mem_map, Function.comp_apply] at ha
  obtain ⟨e, -, rfl⟩ := ha
  simp at hb

/-- What `Store` hands to `Save`: the values and the next sequence count. -/
theorem storePrepare_holds
    (lib : SettingsLib D C) {p : ADSettings D}
    (hkeys : (p.entries.map SettingsEntry.key).Nodup) :
    DocHolds lib (storePrepare lib p).settings p.values
      (wrapInt32 (p.seqCount.value + 1)) where
  values := by
    intro kv hkv
    simp only [ADSettings.values, List.mem_map] at hkv
    obtain ⟨pEntry, hentry, rfl⟩ := hkv
    have hne : (SettingsSection.data, pEntry.key) ≠
        (SettingsSection.metaData, keySeqCount) := by
      simp
    have hmem : ((SettingsSection.data, pEntry.key), lib.print pEntry.value) ∈
        storeTexts lib p := by
      simp only [storeTexts, List.mem_append, List.mem_map]
      exact Or.inl ⟨pEntry, hentry, by rw [SettingsLib.storeValue_value]⟩
    calc
      settingsGet (storePrepare lib p).settings .data pEntry.key
          = settingsGet (storeLoop lib p).settings .data pEntry.key :=
            settingsGet_set_of_ne _ _ hne
      _ = some (lib.print pEntry.value) :=
            settingsGet_setAll _ (storeTexts_nodup lib hkeys) hmem
  count := by
    simp [storePrepare, updateSequenceCount, storeLoop, MetaEntry.copied]
  low := (wrapInt32_range _).1
  high := (wrapInt32_range _).2

end SettingsTexts

/-- `get_converted_tuple`: as many elements as there are in the text. -/
def readTuple (old : List Int) (text : Bytes) : List Int :=
  (tupleValues text).take old.length ++ old.drop (tupleValues text).length

/-- The lines of a settings file: section, key and text. -/
abbrev SettingsLines := List (Sigma fun _ : SettingsSection × Bytes => Bytes)

/-- A file is its lines, or it cannot be read; a double is an integer. -/
def plainSettingsLib : SettingsLib Int (Option SettingsLines) where
  settingsOpen := fun c => c.map List.toAList
  settingsSave := fun doc => some doc.entries
  emptyFile := some []
  printDouble := decimalText
  getValue := fun old text =>
    match old with
    | .string size kept =>
        if text.length < size then
          (true, .string size text)
        else
          (false, .string size kept)
    | .int _ => (true, .int (decimalValue text))
    | .intArr l => (decide (l ≠ []), .intArr (readTuple l text))
    | .long _ => (true, .long (decimalValue text))
    | .longArr l => (decide (l ≠ []), .longArr (readTuple l text))
    | .double _ => (true, .double (decimalValue text))
    | .doubleArr l => (decide (l ≠ []), .doubleArr (readTuple l text))

/-- An array keeps its length. -/
theorem length_readTuple
    (old : List Int) (text : Bytes) :
    (readTuple old text).length = old.length := by
  simp only [readTuple, List.length_append, List.length_take, List.length_drop]
  omega

/-- An array of the same length is read back from its text. -/
theorem readTuple_tupleText
    {old l : List Int}
    (hl : l ≠ [])
    (hlength : old.length = l.length) :
    readTuple old (tupleText (l.map decimalText)) = l := by
  have hdrop : old.drop l.length = [] :=
    List.drop_eq_nil_of_le (by omega)
  unfold readTuple
  rw [tupleValues_tupleText hl, hlength, List.take_length, hdrop,
    List.append_nil]

/-- Its buffers hold everything. -/
def plainScope : SettingsScope Int where
  doc := fun _ => True
  value := fun _ => True

/-- This library reads what it has written. -/
theorem plainSettingsLib_faithful :
    plainSettingsLib.Faithful plainScope where
  open_save := by
    intro doc _
    refine ⟨doc.entries.toAList, rfl, ?_⟩
    intro sec key
    exact List.dlookup_dedupKeys (sec, key) doc.entries
  get_print := by
    rintro old v - hvalid hshape
    refine ⟨v, ?_, rfl, hvalid, rfl⟩
    simp only [SettingsValue.shape, Prod.mk.injEq] at hshape
    obtain ⟨htype, hsize⟩ := hshape
    cases old <;> cases v <;>
      simp only [SettingsValue.keyType, reduceCtorEq] at htype
    case string.string size kept size' text =>
      have hsize' : size = size' := hsize
      have hfits : text.length < size' := hvalid
      simp [plainSettingsLib, SettingsLib.print, hsize', hfits]
    case int.int | long.long | double.double =>
      simp [plainSettingsLib, SettingsLib.print, decimalValue_decimalText]
    case intArr.intArr old l | longArr.longArr old l |
        doubleArr.doubleArr old l =>
      have hne : l ≠ [] := hvalid
      have hlength : old.length = l.length := hsize
      have hold : old ≠ [] := by
        rintro rfl
        exact hne (List.length_eq_zero_iff.mp hlength.symm)
      simp [plainSettingsLib, SettingsLib.print, hold,
        readTuple_tupleText hne hlength]
  get_keeps := by
    intro old text hvalid
    cases old with
    | string size kept =>
        simp only [plainSettingsLib]
        split
        case isTrue hfits =>
          exact ⟨hfits, rfl⟩
        case isFalse =>
          exact ⟨hvalid, rfl⟩
    | int n | long n | double n =>
        exact ⟨trivial, rfl⟩
    | intArr l | longArr l | doubleArr l =>
        have hlength := length_readTuple l text
        refine ⟨?_, congrArg (Prod.mk _) hlength⟩
        intro hnil
        have hl : l ≠ [] := hvalid
        rw [hnil] at hlength
        exact hl (List.length_eq_zero_iff.mp hlength.symm)
  get_int := by
    intro old n _ _
    simp [plainSettingsLib, decimalValue_decimalText]

end Adav
end BrBox
