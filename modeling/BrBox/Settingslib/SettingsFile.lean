import BrBox.Settingslib.SettingsLines
import BrBox.Settingslib.StrMap

/-!
# Writing settings to a file and reading them back

`Settings` is a list of named sections, each with a string map.  `settings_save` writes a
section after the other, the pairs of a section in the order of the buckets;
`settings_open` calls `settings_set` for each pair it reads.  Pairs that are too long are
not written, and a section whose name is too long overflows the buffer of `sprintf`.

* `settings_restored_iff`: what is saved is read back as the same settings if and only if
  each name and each pair is plain and short enough.
* `settings_portable`: so are the answers of settings that are read on another machine.
-/

namespace BrBox
namespace Settingslib

open CText
open CxxText
open HashBuckets
open Adav (pieces maxLineChars maxValueChars isBlankChar trimStr isSectionStr
  getSectionFromStr isKeyValueStr getKeyValueFromStr isKeyWithoutValueStr)

/-- `DEFAULT_STRMAP_CAPACITY`. -/
abbrev defaultStrmapCapacity : Nat := 256

/-- `MAX_KEYCHARS`. -/
def maxKeyChars : Nat := 256

/-- `Section`: a name and its map. -/
abbrev Section (m : Machine) := Bytes × StrMap m defaultStrmapCapacity

/-- `Settings`: sections with different names, each named and with a pair. -/
structure Settings (m : Machine) where
  sections : List (Section m)
  nodup : (sections.map Prod.fst).Nodup
  named : ∀ sec ∈ sections, sec.1 ≠ []
  filled : ∀ sec ∈ sections, sec.2.toList ≠ []

namespace Settings

variable {m : Machine}

@[ext] theorem ext
    {s t : Settings m}
    (hsections : s.sections = t.sections) :
    s = t := by
  obtain ⟨sections, _, _, _⟩ := s
  obtain ⟨sections', _, _, _⟩ := t
  obtain rfl : sections = sections' := hsections
  rfl

end Settings

section Operations

variable {m : Machine}

theorem named_nil :
    ∀ sec ∈ ([] : List (Section m)), sec.1 ≠ [] := by
  simp

theorem filled_nil :
    ∀ sec ∈ ([] : List (Section m)), sec.2.toList ≠ [] := by
  simp

/-- `settings_new`. -/
def settingsNew : Settings m where
  sections := []
  nodup := List.nodup_nil
  named := named_nil
  filled := filled_nil

/-- The map of a section with one pair put, or a new one. -/
def putIn (key value : Bytes) (old : Option (StrMap m defaultStrmapCapacity)) :
    StrMap m defaultStrmapCapacity :=
  smPut (old.getD smNew) key value

theorem toList_putIn_ne_nil
    (key value : Bytes)
    (old : Option (StrMap m defaultStrmapCapacity)) :
    (putIn key value old).toList ≠ [] := by
  have hmem : (key, value) ∈ (putIn key value old).toList := by
    rw [Table.mem_toList_iff, putIn, find_smPut, Function.update_self]
  exact List.ne_nil_of_mem hmem

theorem named_setPair
    (s : Settings m)
    {sec : Bytes}
    (hsec : sec ≠ [])
    (key value : Bytes) :
    ∀ sec' ∈ setPair sec (putIn key value) s.sections, sec'.1 ≠ [] := by
  intro sec' hmem
  rcases mem_setPair _ _ hmem with hold | ⟨old, rfl⟩
  · exact s.named sec' hold
  · exact hsec

theorem filled_setPair
    (s : Settings m)
    (sec key value : Bytes) :
    ∀ sec' ∈ setPair sec (putIn key value) s.sections, sec'.2.toList ≠ [] := by
  intro sec' hmem
  rcases mem_setPair _ _ hmem with hold | ⟨old, rfl⟩
  · exact s.filled sec' hold
  · exact toList_putIn_ne_nil key value old

/-- `settings_set`; none is the answer 0. -/
def settingsSet (s : Settings m) (sec key value : Bytes) : Option (Settings m) :=
  if hsec : sec = [] then
    none
  else
    some
      { sections := setPair sec (putIn key value) s.sections
        nodup := nodup_setPair _ _ s.nodup
        named := named_setPair s hsec key value
        filled := filled_setPair s sec key value }

/-- `get_section`, by its map. -/
def getSection (s : Settings m) (sec : Bytes) : Option (StrMap m defaultStrmapCapacity) :=
  s.sections.lookup sec

/-- `settings_get`. -/
def settingsGet
    (s : Settings m) (sec key : Bytes) (outBuf : Bool) (nOutBuf : Nat) :
    Nat × Option Bytes :=
  match getSection s sec with
  | none => (0, none)
  | some map => smGet map key outBuf nOutBuf

/-- `settings_section_get_count`. -/
def settingsSectionGetCount (s : Settings m) (sec : Bytes) : Nat :=
  match getSection s sec with
  | none => 0
  | some map => smGetCount map

/-- `settings_section_enum`: the answer, and what the function does to the object. -/
def settingsSectionEnum {σ : Type}
    (s : Settings m) (sec : Bytes) (enumFunc : σ → Bytes → Bytes → σ) (obj : σ) : Nat × σ :=
  match getSection s sec with
  | none => (0, obj)
  | some map => (1, smEnum map enumFunc obj)

/-- `enum_map`. -/
def enumMap (stream key value : Bytes) : Bytes :=
  if key.length < maxKeyChars ∧ value.length < maxValueChars then
    stream ++ endLine (pairLine key value)
  else
    stream

/-- The loop of `settings_save`; `sprintf` writes a name to a buffer. -/
def saveSections : Bytes → List (Section m) → Option Bytes
  | stream, [] => some stream
  | stream, sec :: rest =>
      if (endLine (sectionLine sec.1)).length < maxLineChars then
        saveSections
          (smEnum sec.2 enumMap (stream ++ endLine (sectionLine sec.1)) ++ [10]) rest
      else
        none

/-- `settings_save`: the file, or none where the buffer overflows. -/
def settingsSave (s : Settings m) : Option Bytes :=
  saveSections [] s.sections

/-- `ParseState` and the settings it fills; no section is `has_section` 0. -/
structure ParseState (m : Machine) where
  settings : Settings m
  currentSection : Option Bytes

/-- `settings_set` in the current section. -/
def ParseState.set (st : ParseState m) (key value : Bytes) : Option (ParseState m) :=
  match st.currentSection with
  | none => none
  | some sec =>
      (settingsSet st.settings sec key value).map fun settings =>
        { st with settings := settings }

/-- `parse_str`. -/
def parseStr (st : ParseState m) (str : Bytes) : Option (ParseState m) :=
  if str = [] then
    some st
  else if str.all isBlankChar then
    some st
  else if str.head? = some 35 then
    some st
  else if isSectionStr str then
    some { st with currentSection := some (getSectionFromStr str) }
  else if isKeyValueStr str then
    st.set (getKeyValueFromStr str).1 (getKeyValueFromStr str).2
  else if isKeyWithoutValueStr str then
    st.set str []
  else
    none

/-- The loop of `settings_open`. -/
def parsePieces : ParseState m → List Bytes → Option (ParseState m)
  | st, [] => some st
  | st, buf :: rest =>
      match parseStr st (trimStr (cString buf)) with
      | none => none
      | some st' => parsePieces st' rest

/-- `settings_open`. -/
def settingsOpen (m : Machine) (content : Bytes) : Option (Settings m) :=
  (parsePieces { settings := settingsNew, currentSection := none }
    (pieces (maxLineChars - 1) content)).map ParseState.settings

end Operations

section Reading

variable {m : Machine}

/-- The effect of a line. -/
def Line.apply (st : ParseState m) : Line → Option (ParseState m)
  | .skip => some st
  | .sec name => some { st with currentSection := some name }
  | .pair key value => st.set key value
  | .bad => none

/-- A string has the effect of the line that it is. -/
theorem parseStr_eq
    (st : ParseState m)
    (str : Bytes) :
    parseStr st str = (readLine str).apply st := by
  unfold parseStr readLine
  by_cases hskip : str = [] ∨ str.all isBlankChar = true ∨ str.head? = some 35
  · rw [if_pos hskip]
    rcases hskip with hnil | hblank | hcomment
    · simp [hnil, Line.apply]
    · simp [hblank, Line.apply]
    · simp [hcomment, Line.apply]
  · obtain ⟨hnil, hblank, hcomment⟩ : str ≠ [] ∧ ¬ str.all isBlankChar = true ∧
        str.head? ≠ some 35 := by
      simpa only [not_or] using hskip
    rw [if_neg hskip, if_neg hnil, if_neg hblank, if_neg hcomment]
    by_cases hsection : isSectionStr str = true
    · rw [if_pos hsection, if_pos hsection, Line.apply]
    · by_cases hkeyValue : isKeyValueStr str = true
      · rw [if_neg hsection, if_neg hsection, if_pos hkeyValue, if_pos hkeyValue, Line.apply]
      · rw [if_neg hsection, if_neg hsection, if_neg hkeyValue, if_neg hkeyValue]
        by_cases hkeyOnly : isKeyWithoutValueStr str = true
        · rw [if_pos hkeyOnly, if_pos hkeyOnly, Line.apply]
        · rw [if_neg hkeyOnly, if_neg hkeyOnly, Line.apply]

theorem parsePieces_cons
    (st : ParseState m)
    (buf : Bytes)
    (rest : List Bytes) :
    parsePieces st (buf :: rest) =
      ((lineOf buf).apply st).bind fun st' => parsePieces st' rest := by
  rw [parsePieces, parseStr_eq, ← lineOf]
  cases (lineOf buf).apply st with
  | none =>
      rfl
  | some st' =>
      rfl

theorem parsePieces_append
    (st : ParseState m)
    (bufs rest : List Bytes) :
    parsePieces st (bufs ++ rest) =
      (parsePieces st bufs).bind fun st' => parsePieces st' rest := by
  induction bufs generalizing st with
  | nil =>
      rfl
  | cons buf bufs ih =>
      rw [List.cons_append, parsePieces_cons, parsePieces_cons, Option.bind_assoc]
      exact congrArg _ (funext ih)

/-- The value of a key in a section. -/
def Settings.value (s : Settings m) (sec key : Bytes) : Option Bytes :=
  (getSection s sec).bind fun map => map.find key

/-- Each name and each pair is plain. -/
def Plain (s : Settings m) : Prop :=
  ∀ sec key value, s.value sec key = some value → PlainName sec ∧ PlainPair key value

/-- Each name fits in the buffer of `sprintf`, and each pair is one that is written. -/
def Short (s : Settings m) : Prop :=
  ∀ sec key value, s.value sec key = some value →
    (endLine (sectionLine sec)).length < maxLineChars ∧
      key.length < maxKeyChars ∧ value.length < maxValueChars

/-- Settings that a file can hold. -/
structure Storable (s : Settings m) : Prop where
  plain : Plain s
  short : Short s

/-- A name that the line of a section can tell. -/
structure NameFits (name : Bytes) : Prop where
  plain : PlainName name
  short : (endLine (sectionLine name)).length < maxLineChars

/-- A key and a value that a line tells, and that are written. -/
structure PairFits (key value : Bytes) : Prop where
  plain : PlainPair key value
  key_short : key.length < maxKeyChars
  value_short : value.length < maxValueChars

instance decidablePairFits (key value : Bytes) : Decidable (PairFits key value) :=
  decidable_of_iff
    (PlainPair key value ∧ key.length < maxKeyChars ∧ value.length < maxValueChars)
    ⟨fun ⟨h₁, h₂, h₃⟩ => ⟨h₁, h₂, h₃⟩, fun ⟨h₁, h₂, h₃⟩ => ⟨h₁, h₂, h₃⟩⟩

theorem value_of_mem
    {s : Settings m}
    {sec : Section m}
    (hsec : sec ∈ s.sections)
    (key : Bytes) :
    s.value sec.1 key = sec.2.find key := by
  have hlookup : s.sections.lookup sec.1 = some sec.2 :=
    (mem_iff_lookup sec.1 s.nodup sec.2).mp hsec
  rw [Settings.value, getSection, hlookup, Option.bind_some]

/-- What has a value is in a section. -/
theorem exists_mem_of_value
    {s : Settings m}
    {sec key value : Bytes}
    (hvalue : s.value sec key = some value) :
    ∃ map, (sec, map) ∈ s.sections ∧ (key, value) ∈ map.toList := by
  obtain ⟨map, hlookup, hfind⟩ := Option.bind_eq_some_iff.mp hvalue
  exact ⟨map, (mem_iff_lookup sec s.nodup map).mpr hlookup,
    (map.mem_toList_iff key value).mpr hfind⟩

/-- Section by section and pair by pair: a section is never empty. -/
theorem short_iff
    {s : Settings m} :
    Short s ↔
      ∀ sec ∈ s.sections, (endLine (sectionLine sec.1)).length < maxLineChars ∧
        ∀ pair ∈ sec.2.toList, pair.1.length < maxKeyChars ∧ pair.2.length < maxValueChars := by
  constructor
  · intro hshort sec hsec
    have hpair : ∀ pair ∈ sec.2.toList, s.value sec.1 pair.1 = some pair.2 := by
      intro pair hmem
      rw [value_of_mem hsec]
      exact (sec.2.mem_toList_iff pair.1 pair.2).mp hmem
    obtain ⟨first, hfirst⟩ := List.exists_mem_of_ne_nil _ (s.filled sec hsec)
    refine ⟨(hshort _ _ _ (hpair first hfirst)).1, ?_⟩
    intro pair hmem
    exact (hshort _ _ _ (hpair pair hmem)).2
  · intro hall sec key value hvalue
    obtain ⟨map, hsec, hmem⟩ := exists_mem_of_value hvalue
    obtain ⟨hname, hpairs⟩ := hall (sec, map) hsec
    exact ⟨hname, hpairs (key, value) hmem⟩

instance decidableShort (s : Settings m) : Decidable (Short s) :=
  decidable_of_iff _ short_iff.symm

theorem value_settingsSet
    {s s' : Settings m}
    {sec key value : Bytes}
    (hset : settingsSet s sec key value = some s')
    (sec' key' : Bytes) :
    s'.value sec' key' =
      if sec' = sec ∧ key' = key then some value else s.value sec' key' := by
  by_cases hsec : sec = []
  · simp [settingsSet, hsec] at hset
  · rw [settingsSet, dif_neg hsec] at hset
    obtain rfl := Option.some.inj hset
    simp only [Settings.value, getSection, lookup_setPair]
    by_cases hsec' : sec' = sec
    · subst hsec'
      rw [if_pos rfl, Option.bind_some, putIn, find_smPut, Function.update_apply]
      cases s.sections.lookup sec' with
      | none =>
          simp [smNew]
      | some map =>
          simp
    · rw [if_neg hsec', if_neg fun h => hsec' h.1]

theorem storable_settingsNew :
    Storable (settingsNew : Settings m) := by
  constructor
  · intro sec key value hvalue
    simp [Settings.value, getSection, settingsNew] at hvalue
  · intro sec key value hvalue
    simp [Settings.value, getSection, settingsNew] at hvalue

theorem storable_settingsSet
    {s s' : Settings m}
    (hstorable : Storable s)
    {sec key value : Bytes}
    (hname : NameFits sec)
    (hpair : PairFits key value)
    (hset : settingsSet s sec key value = some s') :
    Storable s' := by
  have hnew : ∀ sec' key' value', s'.value sec' key' = some value' →
      (sec' = sec ∧ key' = key ∧ value' = value) ∨ s.value sec' key' = some value' := by
    intro sec' key' value' hvalue
    rw [value_settingsSet hset] at hvalue
    by_cases hsame : sec' = sec ∧ key' = key
    · rw [if_pos hsame] at hvalue
      exact .inl ⟨hsame.1, hsame.2, (Option.some.inj hvalue).symm⟩
    · rw [if_neg hsame] at hvalue
      exact .inr hvalue
  constructor
  · intro sec' key' value' hvalue
    rcases hnew sec' key' value' hvalue with ⟨rfl, rfl, rfl⟩ | hold
    · exact ⟨hname.plain, hpair.plain⟩
    · exact hstorable.plain sec' key' value' hold
  · intro sec' key' value' hvalue
    rcases hnew sec' key' value' hvalue with ⟨rfl, rfl, rfl⟩ | hold
    · exact ⟨hname.short, hpair.key_short, hpair.value_short⟩
    · exact hstorable.short sec' key' value' hold

/-- A line of any file keeps settings plain, and the name of the section it is in. -/
theorem plain_apply
    {st st' : ParseState m}
    {buf : Bytes}
    (hpiece : IsPiece buf)
    (hplain : Plain st.settings)
    (hname : ∀ name ∈ st.currentSection, PlainName name)
    (happly : (lineOf buf).apply st = some st') :
    Plain st'.settings ∧ ∀ name ∈ st'.currentSection, PlainName name := by
  cases hline : lineOf buf with
  | skip =>
      rw [hline] at happly
      obtain rfl := Option.some.inj happly
      exact ⟨hplain, hname⟩
  | sec name =>
      rw [hline] at happly
      obtain rfl := Option.some.inj happly
      refine ⟨hplain, fun name' hname' => ?_⟩
      obtain rfl := Option.mem_some.mp hname'
      exact plainName_of_lineOf hpiece hline
  | pair key value =>
      rw [hline, Line.apply, ParseState.set] at happly
      cases hsec : st.currentSection with
      | none =>
          simp [hsec] at happly
      | some sec =>
          rw [hsec] at happly
          obtain ⟨settings, hset, rfl⟩ := Option.map_eq_some_iff.mp happly
          refine ⟨fun sec' key' value' hvalue => ?_, fun name' hname' => hname name' (hsec ▸ hname')⟩
          rw [value_settingsSet hset] at hvalue
          by_cases hnew : sec' = sec ∧ key' = key
          · rw [if_pos hnew] at hvalue
            obtain ⟨rfl, rfl⟩ := hnew
            obtain rfl := Option.some.inj hvalue
            exact ⟨hname _ hsec, plainPair_of_lineOf hpiece hline⟩
          · rw [if_neg hnew] at hvalue
            exact hplain sec' key' value' hvalue
  | bad =>
      simp [hline, Line.apply] at happly

theorem plain_parsePieces
    {bufs : List Bytes}
    (hpieces : ∀ buf ∈ bufs, IsPiece buf)
    {st st' : ParseState m}
    (hplain : Plain st.settings)
    (hname : ∀ name ∈ st.currentSection, PlainName name)
    (hparse : parsePieces st bufs = some st') :
    Plain st'.settings := by
  induction bufs generalizing st with
  | nil =>
      obtain rfl := Option.some.inj hparse
      exact hplain
  | cons buf bufs ih =>
      rw [parsePieces_cons] at hparse
      obtain ⟨st₁, happly, hrest⟩ := Option.bind_eq_some_iff.mp hparse
      obtain ⟨hplain₁, hname₁⟩ :=
        plain_apply (hpieces buf List.mem_cons_self) hplain hname happly
      exact ih (fun b hb => hpieces b (List.mem_cons_of_mem _ hb)) hplain₁ hname₁ hrest

/-- What is read from any file is plain. -/
theorem plain_settingsOpen
    {content : Bytes}
    {s : Settings m}
    (hopen : settingsOpen m content = some s) :
    Plain s := by
  obtain ⟨st, hparse, rfl⟩ := Option.map_eq_some_iff.mp hopen
  have hstart : ∀ name ∈ (none : Option Bytes), PlainName name := by
    simp
  refine plain_parsePieces (fun buf => isPiece_of_mem_pieces _) ?_ hstart hparse
  intro sec key value hvalue
  simp [Settings.value, getSection, settingsNew] at hvalue

end Reading

section Writing

variable {m : Machine}

/-- The pairs of a map that are written. -/
def written (map : StrMap m defaultStrmapCapacity) : List (Bytes × Bytes) :=
  map.toList.filter fun pair =>
    pair.1.length < maxKeyChars ∧ pair.2.length < maxValueChars

/-- The lines that are written for a section. -/
def sectionLines (sec : Section m) : List Bytes :=
  sectionLine sec.1 :: (written sec.2).map (fun pair => pairLine pair.1 pair.2) ++ [[]]

/-- The file without the bound of the buffer. -/
def savedLines (sections : List (Section m)) : List Bytes :=
  sections.flatMap sectionLines

theorem smEnum_enumMap
    (map : StrMap m defaultStrmapCapacity)
    (stream : Bytes) :
    smEnum map enumMap stream =
      stream ++ ((written map).map fun pair => pairLine pair.1 pair.2).flatMap endLine := by
  rw [smEnum_eq, written]
  induction map.toList generalizing stream with
  | nil =>
      simp
  | cons pair pairs ih =>
      rw [List.foldl_cons, ih, enumMap]
      by_cases hshort : pair.1.length < maxKeyChars ∧ pair.2.length < maxValueChars
      · simp [hshort]
      · rw [if_neg hshort, List.filter_cons_of_neg (by simpa using hshort)]

/-- The file is written if and only if each name fits. -/
theorem saveSections_eq_some_iff
    (stream : Bytes)
    (sections : List (Section m))
    (content : Bytes) :
    saveSections stream sections = some content ↔
      (∀ sec ∈ sections, (endLine (sectionLine sec.1)).length < maxLineChars) ∧
        content = stream ++ (savedLines sections).flatMap endLine := by
  induction sections generalizing stream with
  | nil =>
      simp [saveSections, savedLines, eq_comm]
  | cons sec sections ih =>
      rw [saveSections]
      by_cases hfits : (endLine (sectionLine sec.1)).length < maxLineChars
      · have hlines : smEnum sec.2 enumMap (stream ++ endLine (sectionLine sec.1)) ++ [10] =
            stream ++ (sectionLines sec).flatMap endLine := by
          rw [smEnum_enumMap]
          simp [sectionLines, endLine]
        rw [if_pos hfits, hlines, ih]
        simp only [List.forall_mem_cons, hfits, true_and, savedLines, List.flatMap_cons,
          List.flatMap_append, List.append_assoc]
      · rw [if_neg hfits]
        simp [hfits]

end Writing

section RoundTrip

variable {m m' : Machine}

/-- What is read of the written sections. -/
def restored (m' : Machine) (sections : List (Section m)) : List (Section m') :=
  sections.filterMap fun sec =>
    if written sec.2 = [] then none else some (sec.1, smPutAll smNew (written sec.2))

/-- The pairs of the last section are put in its map. -/
theorem foldl_setPair_append
    {name : Bytes}
    {sections : List (Section m)}
    (hnew : name ∉ sections.map Prod.fst)
    (map : StrMap m defaultStrmapCapacity)
    (pairs : List (Bytes × Bytes)) :
    pairs.foldl (fun secs pair => setPair name (putIn pair.1 pair.2) secs)
        (sections ++ [(name, map)]) =
      sections ++ [(name, smPutAll map pairs)] := by
  induction pairs generalizing map with
  | nil =>
      rfl
  | cons pair pairs ih =>
      rw [List.foldl_cons, setPair_append_self _ _ hnew, putIn, Option.getD_some, ih]
      rfl

/-- The lines of pairs put them in the current section. -/
theorem parsePieces_pairs
    {name : Bytes}
    (hname : name ≠ [])
    {pairs : List (Bytes × Bytes)}
    (hplain : ∀ pair ∈ pairs, PlainPair pair.1 pair.2)
    (s : Settings m) :
    ∃ s' : Settings m,
      parsePieces { settings := s, currentSection := some name }
          ((pairs.map fun pair => pairLine pair.1 pair.2).map endLine) =
        some { settings := s', currentSection := some name } ∧
      s'.sections =
        pairs.foldl (fun secs pair => setPair name (putIn pair.1 pair.2) secs) s.sections := by
  induction pairs generalizing s with
  | nil =>
      exact ⟨s, rfl, rfl⟩
  | cons pair pairs ih =>
      obtain ⟨s₁, hset⟩ : ∃ s₁, settingsSet s name pair.1 pair.2 = some s₁ :=
        ⟨_, dif_neg hname⟩
      obtain ⟨s', hparse, hsections⟩ :=
        ih (fun p hp => hplain p (List.mem_cons_of_mem _ hp)) s₁
      refine ⟨s', ?_, ?_⟩
      · rw [List.map_cons, List.map_cons, parsePieces_cons,
          lineOf_pairLine (hplain pair List.mem_cons_self), Line.apply, ParseState.set]
        simpa only [hset, Option.map_some, Option.bind_some] using hparse
      · rw [hsections, List.foldl_cons]
        rw [settingsSet, dif_neg hname] at hset
        rw [← Option.some.inj hset]

/-- The lines of a section restore it behind the sections before. -/
theorem parsePieces_sectionLines
    {sec : Section m}
    (hname : PlainName sec.1)
    (hnamed : sec.1 ≠ [])
    (hplain : ∀ pair ∈ written sec.2, PlainPair pair.1 pair.2)
    (st : ParseState m')
    (hnew : sec.1 ∉ st.settings.sections.map Prod.fst) :
    ∃ st' : ParseState m',
      parsePieces st ((sectionLines sec).map endLine) = some st' ∧
        st'.settings.sections = st.settings.sections ++ restored m' [sec] := by
  obtain ⟨s', hpairs, hsections⟩ := parsePieces_pairs hnamed hplain st.settings
  refine ⟨{ settings := s', currentSection := some sec.1 }, ?_, ?_⟩
  · rw [sectionLines, List.cons_append, List.map_cons, parsePieces_cons,
      lineOf_sectionLine hname, Line.apply, Option.bind_some, List.map_append,
      parsePieces_append, hpairs, Option.bind_some, List.map_cons, parsePieces_cons,
      lineOf_blank]
    rfl
  · rw [hsections, restored]
    cases hwritten : written sec.2 with
    | nil =>
        simp [hwritten]
    | cons pair pairs =>
        have hfirst := setPair_of_not_mem sec.1 (putIn (m := m') pair.1 pair.2) hnew
        rw [List.foldl_cons, hfirst, foldl_setPair_append hnew]
        simp only [List.filterMap_cons, List.filterMap_nil, hwritten, reduceCtorEq, if_false]
        rfl

theorem mem_map_fst_restored
    {sections : List (Section m)}
    {name : Bytes}
    (hmem : name ∈ (restored m' sections).map Prod.fst) :
    name ∈ sections.map Prod.fst := by
  obtain ⟨sec', hsec', rfl⟩ := List.mem_map.mp hmem
  obtain ⟨sec, hsec, hsome⟩ := List.mem_filterMap.mp hsec'
  by_cases hwritten : written sec.2 = []
  · simp [hwritten] at hsome
  · rw [if_neg hwritten] at hsome
    rw [← Option.some.inj hsome]
    exact List.mem_map_of_mem hsec

/-- The lines of sections restore them. -/
theorem parsePieces_savedLines
    {sections : List (Section m)}
    (hnodup : (sections.map Prod.fst).Nodup)
    (hnamed : ∀ sec ∈ sections, sec.1 ≠ [])
    (hname : ∀ sec ∈ sections, PlainName sec.1)
    (hplain : ∀ sec ∈ sections, ∀ pair ∈ written sec.2, PlainPair pair.1 pair.2)
    (st : ParseState m')
    (hnew : ∀ sec ∈ sections, sec.1 ∉ st.settings.sections.map Prod.fst) :
    ∃ st' : ParseState m',
      parsePieces st ((savedLines sections).map endLine) = some st' ∧
        st'.settings.sections = st.settings.sections ++ restored m' sections := by
  induction sections generalizing st with
  | nil =>
      exact ⟨st, rfl, by simp [restored]⟩
  | cons sec sections ih =>
      rw [List.map_cons, List.nodup_cons] at hnodup
      obtain ⟨st₁, hparse₁, hsections₁⟩ := parsePieces_sectionLines
        (hname sec List.mem_cons_self) (hnamed sec List.mem_cons_self)
        (hplain sec List.mem_cons_self) st (hnew sec List.mem_cons_self)
      have hnew₁ : ∀ sec' ∈ sections, sec'.1 ∉ st₁.settings.sections.map Prod.fst := by
        intro sec' hsec' hmem
        rw [hsections₁, List.map_append, List.mem_append] at hmem
        rcases hmem with hold | hfirst
        · exact hnew sec' (List.mem_cons_of_mem _ hsec') hold
        · have heq : sec'.1 = sec.1 := by simpa using mem_map_fst_restored hfirst
          exact hnodup.1 (heq ▸ List.mem_map_of_mem hsec')
      obtain ⟨st', hparse', hsections'⟩ := ih hnodup.2
        (fun s hs => hnamed s (List.mem_cons_of_mem _ hs))
        (fun s hs => hname s (List.mem_cons_of_mem _ hs))
        (fun s hs => hplain s (List.mem_cons_of_mem _ hs)) st₁ hnew₁
      refine ⟨st', ?_, ?_⟩
      · rw [savedLines, List.flatMap_cons, List.map_append, parsePieces_append, hparse₁]
        exact hparse'
      · rw [hsections', hsections₁, List.append_assoc, restored, restored, restored,
          ← List.filterMap_append, List.singleton_append]

/-- Each line of a file that is written fits in the buffer of the reader. -/
theorem fits_of_mem_savedLines
    {sections : List (Section m)}
    (hfits : ∀ sec ∈ sections, (endLine (sectionLine sec.1)).length < maxLineChars)
    (hname : ∀ sec ∈ sections, PlainName sec.1)
    (hplain : ∀ sec ∈ sections, ∀ pair ∈ written sec.2, PlainPair pair.1 pair.2) :
    ∀ line ∈ savedLines sections, (10 : Byte) ∉ line ∧ line.length < maxLineChars - 1 := by
  intro line hline
  obtain ⟨sec, hsec, hmem⟩ := List.mem_flatMap.mp hline
  rw [sectionLines, List.cons_append, List.mem_cons, List.mem_append] at hmem
  rcases hmem with rfl | hmem | hmem
  · constructor
    · have hnew : (10 : Byte) ∉ sec.1 := fun h => (hname sec hsec 10 h).2.1 rfl
      simp [sectionLine, hnew]
    · have hlen := hfits sec hsec
      rw [endLine, List.length_append, List.length_singleton] at hlen
      omega
  · obtain ⟨pair, hpair, rfl⟩ := List.mem_map.mp hmem
    constructor
    · have hnew : (10 : Byte) ∉ pair.1 ++ pair.2 := fun h =>
        ((hplain sec hsec pair hpair).clean 10 h).2 rfl
      simp only [List.mem_append, not_or] at hnew
      simp [pairLine, hnew.1, hnew.2]
    · have hshort : pair.1.length < 256 ∧ pair.2.length < 256 := by
        exact of_decide_eq_true (List.mem_filter.mp hpair).2
      simp only [pairLine, List.length_append, List.length_cons, List.length_nil,
        maxLineChars, maxValueChars]
      omega
  · obtain rfl := List.mem_singleton.mp hmem
    simp [maxLineChars]

/-- What is read of a file that was written. -/
theorem settingsOpen_savedLines
    (m' : Machine)
    {s : Settings m}
    (hplain : Plain s)
    (hfits : ∀ sec ∈ s.sections, (endLine (sectionLine sec.1)).length < maxLineChars) :
    ∃ s', settingsOpen m' ((savedLines s.sections).flatMap endLine) = some s' ∧
      s'.sections = restored m' s.sections := by
  have hpair : ∀ sec ∈ s.sections, ∀ pair ∈ sec.2.toList,
      PlainName sec.1 ∧ PlainPair pair.1 pair.2 := by
    intro sec hsec pair hmem
    apply hplain
    rw [value_of_mem hsec, ← Table.mem_toList_iff]
    exact hmem
  have hname : ∀ sec ∈ s.sections, PlainName sec.1 := by
    intro sec hsec
    obtain ⟨pair, hmem⟩ := List.exists_mem_of_ne_nil _ (s.filled sec hsec)
    exact (hpair sec hsec pair hmem).1
  have hwritten : ∀ sec ∈ s.sections, ∀ pair ∈ written sec.2, PlainPair pair.1 pair.2 :=
    fun sec hsec pair hmem => (hpair sec hsec pair (List.mem_of_mem_filter hmem)).2
  obtain ⟨st, hparse, hsections⟩ := parsePieces_savedLines s.nodup s.named hname hwritten
    { settings := (settingsNew : Settings m'), currentSection := none } (by simp [settingsNew])
  refine ⟨st.settings, ?_, ?_⟩
  · rw [settingsOpen, pieces_flatMap (fits_of_mem_savedLines hfits hname hwritten), hparse,
      Option.map_some]
  · rw [hsections]
    rfl

/-- Of short settings each pair is written. -/
theorem written_of_short
    {s : Settings m}
    (hshort : Short s)
    {sec : Section m}
    (hsec : sec ∈ s.sections) :
    written sec.2 = sec.2.toList := by
  rw [written, List.filter_eq_self]
  intro pair hmem
  have hvalue : s.value sec.1 pair.1 = some pair.2 := by
    rw [value_of_mem hsec, ← Table.mem_toList_iff]
    exact hmem
  simpa using (hshort sec.1 pair.1 pair.2 hvalue).2

theorem fits_of_short
    {s : Settings m}
    (hshort : Short s) :
    ∀ sec ∈ s.sections, (endLine (sectionLine sec.1)).length < maxLineChars := by
  intro sec hsec
  obtain ⟨pair, hmem⟩ := List.exists_mem_of_ne_nil _ (s.filled sec hsec)
  have hvalue : s.value sec.1 pair.1 = some pair.2 := by
    rw [value_of_mem hsec, ← Table.mem_toList_iff]
    exact hmem
  exact (hshort sec.1 pair.1 pair.2 hvalue).1

/-- Short settings are restored section by section. -/
theorem restored_of_short
    (m' : Machine)
    {s : Settings m}
    (hshort : Short s) :
    restored m' s.sections =
      s.sections.map fun sec => (sec.1, smPutAll smNew sec.2.toList) := by
  rw [restored, ← List.filterMap_eq_map]
  apply List.filterMap_congr
  intro sec hsec
  rw [written_of_short hshort hsec, if_neg (s.filled sec hsec)]
  rfl

/-- A map with other places of the keys finds the same values. -/
theorem find_smPutAll_toList
    (m' : Machine)
    (map : StrMap m defaultStrmapCapacity) :
    (smPutAll smNew map.toList : StrMap m' defaultStrmapCapacity).find = map.find := by
  funext key
  have hfind := Table.find_putAll map.nodup_toList
    (smNew : StrMap m' defaultStrmapCapacity) key
  have hnew : (smNew : StrMap m' defaultStrmapCapacity).find key = none := rfl
  rw [hnew, Option.or_none] at hfind
  rw [smPutAll]
  refine hfind.trans (Option.ext fun value => ?_)
  rw [← mem_iff_lookup key map.nodup_toList, Table.mem_toList_iff]

/-- A pair of a restored section was written. -/
theorem mem_written_of_restored
    {sections : List (Section m)}
    {sec : Section m'}
    (hsec : sec ∈ restored m' sections)
    {key value : Bytes}
    (hfind : sec.2.find key = some value) :
    ∃ map, (sec.1, map) ∈ sections ∧ (key, value) ∈ written map := by
  obtain ⟨⟨name, map⟩, hmem, hsome⟩ := List.mem_filterMap.mp hsec
  by_cases hwritten : written map = []
  · simp [hwritten] at hsome
  · rw [if_neg hwritten] at hsome
    obtain rfl := Option.some.inj hsome
    refine ⟨map, hmem, ?_⟩
    have hnodup : ((written map).map Prod.fst).Nodup :=
      map.nodup_toList.sublist (List.filter_sublist.map _)
    rw [mem_iff_lookup key hnodup]
    have hput := Table.find_putAll hnodup (smNew : StrMap m' defaultStrmapCapacity) key
    have hnew : (smNew : StrMap m' defaultStrmapCapacity).find key = none := rfl
    rw [hnew, Option.or_none] at hput
    exact hput.symm.trans hfind

/-- Storable settings are read back. -/
theorem settingsOpen_settingsSave
    {s : Settings m}
    (hstorable : Storable s) :
    ∃ content, settingsSave s = some content ∧ settingsOpen m content = some s := by
  have hfits := fits_of_short hstorable.short
  obtain ⟨s', hopen, hsections⟩ := settingsOpen_savedLines m hstorable.plain hfits
  refine ⟨_, (saveSections_eq_some_iff [] s.sections _).mpr ⟨hfits, rfl⟩, ?_⟩
  rw [List.nil_append, hopen]
  congr 1
  ext1
  rw [hsections, restored_of_short m hstorable.short]
  conv_rhs => rw [← List.map_id s.sections]
  apply List.map_congr_left
  intro sec hsec
  exact Prod.ext rfl (Table.putAll_toList sec.2)

/-- What is read back as the same settings was short. -/
theorem short_of_settingsOpen
    {s : Settings m}
    {content : Bytes}
    (hsave : settingsSave s = some content)
    (hopen : settingsOpen m content = some s) :
    Short s := by
  obtain ⟨hfits, rfl⟩ := (saveSections_eq_some_iff [] s.sections content).mp hsave
  obtain ⟨s', hopen', hsections⟩ :=
    settingsOpen_savedLines m (plain_settingsOpen hopen) hfits
  rw [List.nil_append, hopen'] at hopen
  obtain rfl := Option.some.inj hopen
  intro sec key value hvalue
  obtain ⟨map, hsec, hmem⟩ := exists_mem_of_value hvalue
  have hrestored : (sec, map) ∈ restored m s'.sections := hsections ▸ hsec
  obtain ⟨map', hsec', hwritten⟩ :=
    mem_written_of_restored hrestored ((map.mem_toList_iff key value).mp hmem)
  exact ⟨hfits _ hsec', by simpa using (List.mem_filter.mp hwritten).2⟩

/-- What is saved is read back as the same settings if and only if each name and each pair is
plain and short. -/
theorem settings_restored_iff
    (s : Settings m) :
    (∃ content, settingsSave s = some content ∧ settingsOpen m content = some s) ↔
      Storable s := by
  constructor
  · rintro ⟨content, hsave, hopen⟩
    exact ⟨plain_settingsOpen hopen, short_of_settingsOpen hsave hopen⟩
  · exact settingsOpen_settingsSave

/-- Settings read from any file are saved without a loss if and only if they are short. -/
theorem settings_resaved_iff
    {content : Bytes}
    {s : Settings m}
    (hopen : settingsOpen m content = some s) :
    (∃ content', settingsSave s = some content' ∧ settingsOpen m content' = some s) ↔
      Short s := by
  constructor
  · rintro ⟨content', hsave, hopen'⟩
    exact short_of_settingsOpen hsave hopen'
  · intro hshort
    exact settingsOpen_settingsSave ⟨plain_settingsOpen hopen, hshort⟩

/-- A little machine. -/
def sampleMachine : Machine where
  longBits := 32
  charSigned := true

/-- Settings with two keys in a section are read, saved and read again. -/
theorem settings_resaved_number :
    ∃ s, settingsOpen sampleMachine (text "[Data]\na=7\n  b = x y\n") = some s ∧
      ∃ content', settingsSave s = some content' ∧
        settingsOpen sampleMachine content' = some s := by
  have hopen :
      ((settingsOpen sampleMachine (text "[Data]\na=7\n  b = x y\n")).any
        fun s => decide (Short s)) = true := by
    decide +kernel
  obtain ⟨s, hs, hshort⟩ := (Option.any_eq_true _ _).mp hopen
  exact ⟨s, hs, (settings_resaved_iff hs).mpr (of_decide_eq_true hshort)⟩

/-- Two settings answer alike; a section is enumerated in an order of its own. -/
structure SameAnswers (s : Settings m) (s' : Settings m') : Prop where
  names : s'.sections.map Prod.fst = s.sections.map Prod.fst
  get : ∀ sec key outBuf nOutBuf,
    settingsGet s' sec key outBuf nOutBuf = settingsGet s sec key outBuf nOutBuf
  count : ∀ sec, settingsSectionGetCount s' sec = settingsSectionGetCount s sec
  enumerated : ∀ sec, ∃ (answer : Nat) (pairs pairs' : List (Bytes × Bytes)),
    (∀ (σ : Type) (enumFunc : σ → Bytes → Bytes → σ) (obj : σ),
      settingsSectionEnum s sec enumFunc obj =
          (answer, pairs.foldl (fun obj pair => enumFunc obj pair.1 pair.2) obj) ∧
        settingsSectionEnum s' sec enumFunc obj =
          (answer, pairs'.foldl (fun obj pair => enumFunc obj pair.1 pair.2) obj)) ∧
    pairs'.Perm pairs

/-- The map of a section of restored settings. -/
theorem lookup_restored
    (m' : Machine)
    (sections : List (Section m))
    (sec : Bytes) :
    (sections.map fun sec =>
        ((sec.1, smPutAll smNew sec.2.toList) : Section m')).lookup sec =
      (sections.lookup sec).map fun map => smPutAll smNew map.toList := by
  induction sections with
  | nil =>
      rfl
  | cons first sections ih =>
      obtain ⟨name, map⟩ := first
      rw [List.map_cons, lookup_pair, lookup_pair, ih]
      by_cases hsec : sec = name
      · rw [if_pos hsec, if_pos hsec, Option.map_some]
      · rw [if_neg hsec, if_neg hsec]

/-- A map that is filled with the pairs of another one lists them, in its own order. -/
theorem toList_smPutAll_perm
    (m' : Machine)
    (map : StrMap m defaultStrmapCapacity) :
    (smPutAll smNew map.toList : StrMap m' defaultStrmapCapacity).toList.Perm map.toList := by
  have hnodup : (smPutAll smNew map.toList :
      StrMap m' defaultStrmapCapacity).toList.Nodup := .of_map _ (Table.nodup_toList _)
  refine (List.perm_ext_iff_of_nodup hnodup (.of_map _ map.nodup_toList)).mpr ?_
  rintro ⟨key, value⟩
  rw [Table.mem_toList_iff, Table.mem_toList_iff, find_smPutAll_toList m' map]

/-- What is saved on one machine answers alike when it is read on another one. -/
theorem settings_portable
    (m' : Machine)
    {s : Settings m}
    (hstorable : Storable s) :
    ∃ content s',
      settingsSave s = some content ∧ settingsOpen m' content = some s' ∧
        SameAnswers s s' := by
  have hfits := fits_of_short hstorable.short
  obtain ⟨s', hopen, hsections⟩ := settingsOpen_savedLines m' hstorable.plain hfits
  rw [restored_of_short m' hstorable.short] at hsections
  refine ⟨_, s', (saveSections_eq_some_iff [] s.sections _).mpr ⟨hfits, rfl⟩, hopen, ?_⟩
  have hsection : ∀ sec, getSection s' sec =
      (getSection s sec).map fun map => smPutAll smNew map.toList := by
    intro sec
    rw [getSection, hsections, lookup_restored, getSection]
  constructor
  · rw [hsections, List.map_map]
    rfl
  · intro sec key outBuf nOutBuf
    rw [settingsGet, hsection, settingsGet]
    cases getSection s sec with
    | none =>
        rfl
    | some map =>
        have hpair : getPair (smPutAll smNew map.toList : StrMap m' defaultStrmapCapacity) key =
            getPair map key := congrFun (find_smPutAll_toList m' map) key
        simp only [Option.map_some, smGet, hpair]
  · intro sec
    rw [settingsSectionGetCount, hsection, settingsSectionGetCount]
    cases getSection s sec with
    | none =>
        rfl
    | some map =>
        simp only [Option.map_some]
        rw [smGetCount_eq, smGetCount_eq, ← ncard_find, ← ncard_find,
          find_smPutAll_toList m' map]
  · intro sec
    simp only [settingsSectionEnum, hsection]
    cases getSection s sec with
    | none =>
        exact ⟨0, [], [], fun σ enumFunc obj => ⟨rfl, rfl⟩, .refl _⟩
    | some map =>
        refine ⟨1, map.toList, _, ?_, toList_smPutAll_perm m' map⟩
        intro σ enumFunc obj
        simp only [Option.map_some, smEnum_eq, and_self]

/-- A key set here is read there. -/
theorem settings_portable_number :
    ∃ s : Settings sampleMachine,
      settingsSet settingsNew (text "Data") (text "a") (text "7") = some s ∧
        ∃ content s', settingsSave s = some content ∧
          settingsOpen { longBits := 64, charSigned := false } content = some s' ∧
            SameAnswers s s' := by
  obtain ⟨s, hset⟩ : ∃ s : Settings sampleMachine,
      settingsSet settingsNew (text "Data") (text "a") (text "7") = some s :=
    ⟨_, dif_neg (by decide)⟩
  have hstorable : Storable s := storable_settingsSet storable_settingsNew
    ⟨by decide, by decide⟩ (by decide) hset
  exact ⟨s, hset, settings_portable { longBits := 64, charSigned := false } hstorable⟩

end RoundTrip

end Settingslib
end BrBox
