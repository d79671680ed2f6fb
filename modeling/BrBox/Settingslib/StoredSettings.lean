import BrBox.Settingslib.SettingsFile

/-!
# The files of ADSettings in lib-settings

`ADSettings` keeps its keys in the sections `Data` and `MetaData`.  What it reads of a file
with `Adav.settingsOpen` is what lib-settings reads in these two sections, and what it stores
is read back.

* `readsAlike`: both readers accept the same files and read the same texts from them.
* `storedFile_holds`: the file of a store holds the values of the attached settings and the
  next sequence count, if their keys and texts are plain and short.
-/

namespace BrBox
namespace Settingslib

open CText
open CxxText
open Adav (SettingsDoc SettingsSection SettingsLib ADSettings DocHolds pieces maxLineChars)

/-- The name of a section. -/
def sectionName : SettingsSection → Bytes
  | .data => text "Data"
  | .metaData => text "MetaData"

/-- The texts of the two sections. -/
def Agrees {m : Machine} (doc : SettingsDoc) (s : Settings m) : Prop :=
  ∀ sec key, Adav.settingsGet doc sec key = s.value (sectionName sec) key

section Readers

variable {m : Machine}

/-- The effect of a line for `ADSettings`. -/
def Line.applyDoc (st : Adav.ParseState) : Line → Option Adav.ParseState
  | .skip => some st
  | .sec name => some { st with currentSection := some name }
  | .pair key value => st.set key value
  | .bad => none

theorem adav_parseStr_eq
    (st : Adav.ParseState)
    (str : Bytes) :
    Adav.parseStr st str = (readLine str).applyDoc st := by
  unfold Adav.parseStr readLine
  by_cases hskip : str = [] ∨ str.all Adav.isBlankChar = true ∨ str.head? = some 35
  · rw [if_pos hskip]
    rcases hskip with hnil | hblank | hcomment
    · simp [hnil, Line.applyDoc]
    · simp [hblank, Line.applyDoc]
    · simp [hcomment, Line.applyDoc]
  · obtain ⟨hnil, hblank, hcomment⟩ : str ≠ [] ∧ ¬ str.all Adav.isBlankChar = true ∧
        str.head? ≠ some 35 := by
      simpa only [not_or] using hskip
    rw [if_neg hskip, if_neg hnil, if_neg hblank, if_neg hcomment]
    by_cases hsection : Adav.isSectionStr str = true
    · rw [if_pos hsection, if_pos hsection, Line.applyDoc]
    · rw [if_neg hsection, if_neg hsection]
      by_cases hkeyValue : Adav.isKeyValueStr str = true
      · rw [if_pos hkeyValue, if_pos hkeyValue, Line.applyDoc]
      · rw [if_neg hkeyValue, if_neg hkeyValue]
        by_cases hkeyOnly : Adav.isKeyWithoutValueStr str = true
        · rw [if_pos hkeyOnly, if_pos hkeyOnly, Line.applyDoc]
        · rw [if_neg hkeyOnly, if_neg hkeyOnly, Line.applyDoc]

/-- Parser states of the two readers in step. -/
structure InStep (st : Adav.ParseState) (st' : ParseState m) : Prop where
  agrees : Agrees st.settings st'.settings
  section_eq : st.currentSection = st'.currentSection

theorem sectionName_ne
    (sec : SettingsSection) :
    sectionName sec ≠ [] := by
  cases sec <;> decide

theorem sectionName_injective
    {sec sec' : SettingsSection}
    (heq : sectionName sec = sectionName sec') :
    sec = sec' := by
  cases sec <;> cases sec' <;> first | rfl | exact absurd heq (by decide)

/-- No text is set at first. -/
theorem agrees_empty :
    Agrees ∅ (settingsNew : Settings m) := by
  intro sec key
  simp [Adav.settingsGet, Settings.value, getSection, settingsNew]

/-- `settings_set` in one of the two sections. -/
theorem agrees_settingsSet
    {doc : SettingsDoc}
    {s s' : Settings m}
    (hagrees : Agrees doc s)
    {sec : SettingsSection}
    {key value : Bytes}
    (hset : settingsSet s (sectionName sec) key value = some s') :
    Agrees (Adav.settingsSet doc sec key value) s' := by
  intro sec' key'
  rw [value_settingsSet hset]
  by_cases hsame : sec' = sec ∧ key' = key
  · obtain ⟨rfl, rfl⟩ := hsame
    rw [if_pos ⟨rfl, rfl⟩, Adav.settingsGet_set_self]
  · have hname : ¬ (sectionName sec' = sectionName sec ∧ key' = key) := fun h =>
      hsame ⟨sectionName_injective h.1, h.2⟩
    rw [if_neg hname, Adav.settingsGet_set_of_ne, hagrees]
    exact fun h => hsame ⟨congrArg Prod.fst h, congrArg Prod.snd h⟩

/-- A named section is set by both. -/
theorem inStep_settingsSet
    {doc : SettingsDoc}
    {s : Settings m}
    (hagrees : Agrees doc s)
    {name : Bytes}
    (hname : name ≠ [])
    (key value : Bytes) :
    ∃ doc' s', Adav.settingsSetNamed doc name key value = some doc' ∧
      settingsSet s name key value = some s' ∧ Agrees doc' s' := by
  obtain ⟨s', hset⟩ : ∃ s', settingsSet s name key value = some s' := ⟨_, dif_neg hname⟩
  by_cases hdata : name = text "Data"
  · subst hdata
    have hagrees' : Agrees (Adav.settingsSet doc .data key value) s' :=
      agrees_settingsSet hagrees hset
    refine ⟨_, s', ?_, hset, hagrees'⟩
    simp [Adav.settingsSetNamed, hname]
  · by_cases hmeta : name = text "MetaData"
    · subst hmeta
      have hagrees' : Agrees (Adav.settingsSet doc .metaData key value) s' :=
        agrees_settingsSet hagrees hset
      refine ⟨_, s', ?_, hset, hagrees'⟩
      simp [Adav.settingsSetNamed, hname, hdata]
    · refine ⟨doc, s', by simp [Adav.settingsSetNamed, hname, hdata, hmeta], hset, ?_⟩
      intro sec key'
      rw [value_settingsSet hset, if_neg, hagrees]
      rintro ⟨hsec, -⟩
      cases sec with
      | data =>
          exact hdata hsec.symm
      | metaData =>
          exact hmeta hsec.symm

/-- A line is accepted by both readers or by none. -/
theorem inStep_apply
    {st : Adav.ParseState}
    {st' : ParseState m}
    (hstep : InStep st st')
    (line : Line) :
    (line.applyDoc st = none ∧ line.apply st' = none) ∨
      ∃ st₁ st₁', line.applyDoc st = some st₁ ∧ line.apply st' = some st₁' ∧
        InStep st₁ st₁' := by
  cases line with
  | skip =>
      exact .inr ⟨st, st', rfl, rfl, hstep⟩
  | sec name =>
      exact .inr ⟨_, _, rfl, rfl, ⟨hstep.agrees, rfl⟩⟩
  | pair key value =>
      have hsection := hstep.section_eq
      simp only [Line.applyDoc, Line.apply, Adav.ParseState.set, ParseState.set]
      cases hcurrent : st'.currentSection with
      | none =>
          rw [hcurrent] at hsection
          simp [hsection]
      | some name =>
          rw [hcurrent] at hsection
          simp only [hsection]
          by_cases hname : name = []
          · exact .inl (by simp [Adav.settingsSetNamed, settingsSet, hname])
          · obtain ⟨doc', s', hdoc, hset, hagrees⟩ :=
              inStep_settingsSet hstep.agrees hname key value
            refine .inr ⟨{ st with settings := doc' }, { st' with settings := s' }, ?_, ?_, ?_⟩
            · rw [hdoc, Option.map_some, hsection]
            · rw [hset, Option.map_some, hcurrent]
            · exact ⟨hagrees, hstep.section_eq⟩
  | bad =>
      exact .inl ⟨rfl, rfl⟩

theorem inStep_parsePieces
    (bufs : List Bytes)
    {st : Adav.ParseState}
    {st' : ParseState m}
    (hstep : InStep st st') :
    (Adav.parsePieces st bufs = none ∧ parsePieces st' bufs = none) ∨
      ∃ st₁ st₁', Adav.parsePieces st bufs = some st₁ ∧ parsePieces st' bufs = some st₁' ∧
        InStep st₁ st₁' := by
  induction bufs generalizing st st' with
  | nil =>
      exact .inr ⟨st, st', rfl, rfl, hstep⟩
  | cons buf bufs ih =>
      rw [Adav.parsePieces, parsePieces_cons, adav_parseStr_eq, ← lineOf]
      rcases inStep_apply hstep (lineOf buf) with ⟨hdoc, hline⟩ | ⟨st₁, st₁', hdoc, hline, hnext⟩
      · rw [hdoc, hline]
        exact .inl ⟨rfl, rfl⟩
      · rw [hdoc, hline, Option.bind_some]
        exact ih hnext

/-- Both readers accept the same files and read the same texts from them. -/
theorem readsAlike
    (m : Machine)
    (content : Bytes) :
    (Adav.settingsOpen content = none ∧ settingsOpen m content = none) ∨
      ∃ doc s, Adav.settingsOpen content = some doc ∧ settingsOpen m content = some s ∧
        Agrees doc s := by
  have hstart : InStep (m := m) { settings := ∅, currentSection := none }
      { settings := settingsNew, currentSection := none } := ⟨agrees_empty, rfl⟩
  rcases inStep_parsePieces (pieces (maxLineChars - 1) content) hstart with
    ⟨hdoc, hparse⟩ | ⟨st, st', hdoc, hparse, hstep⟩
  · exact .inl ⟨by rw [Adav.settingsOpen, hdoc, Option.map_none],
      by rw [settingsOpen, hparse, Option.map_none]⟩
  · exact .inr ⟨st.settings, st'.settings, by rw [Adav.settingsOpen, hdoc, Option.map_some],
      by rw [settingsOpen, hparse, Option.map_some], hstep.agrees⟩

end Readers

section Stores

variable {m : Machine}

/-- A key of a section with its text. -/
abbrev StoredText := (SettingsSection × Bytes) × Bytes

/-- Several calls of `settings_set`, in order. -/
def setTexts (s : Settings m) (texts : List StoredText) : Option (Settings m) :=
  texts.foldlM (fun s kv => settingsSet s (sectionName kv.1.1) kv.1.2 kv.2) s

/-- The calls of `settings_set` in a store, that of `UpdateSequenceCount` last. -/
def storedTexts {D C : Type} (lib : SettingsLib D C) (p : ADSettings D) : List StoredText :=
  Adav.storeTexts lib p ++
    [((.metaData, Adav.keySeqCount), decimalText (wrapInt32 (p.seqCount.value + 1)))]

theorem nameFits_sectionName
    (sec : SettingsSection) :
    NameFits (sectionName sec) := by
  cases sec with
  | data =>
      exact ⟨by decide, by decide⟩
  | metaData =>
      exact ⟨by decide, by decide⟩

/-- Texts that fit are set. -/
theorem exists_setTexts
    {texts : List StoredText}
    (hfits : ∀ kv ∈ texts, PairFits kv.1.2 kv.2)
    {s : Settings m}
    (hstorable : Storable s) :
    ∃ s', setTexts s texts = some s' ∧ Storable s' := by
  induction texts generalizing s with
  | nil =>
      exact ⟨s, rfl, hstorable⟩
  | cons kv texts ih =>
      obtain ⟨s₁, hset⟩ : ∃ s₁, settingsSet s (sectionName kv.1.1) kv.1.2 kv.2 = some s₁ :=
        ⟨_, dif_neg (sectionName_ne kv.1.1)⟩
      obtain ⟨s', htexts, hrest⟩ := ih (fun kv' hkv' => hfits kv' (List.mem_cons_of_mem _ hkv'))
        (storable_settingsSet hstorable (nameFits_sectionName kv.1.1)
          (hfits kv List.mem_cons_self) hset)
      refine ⟨s', ?_, hrest⟩
      rw [setTexts, List.foldlM_cons, hset]
      exact htexts

/-- Both libraries set the same texts. -/
theorem agrees_setTexts
    {texts : List StoredText}
    {doc : SettingsDoc}
    {s s' : Settings m}
    (hagrees : Agrees doc s)
    (hset : setTexts s texts = some s') :
    Agrees (Adav.settingsSetAll doc texts) s' := by
  induction texts generalizing doc s with
  | nil =>
      obtain rfl := Option.some.inj hset
      exact hagrees
  | cons kv texts ih =>
      rw [setTexts, List.foldlM_cons] at hset
      obtain ⟨s₁, hfirst, hrest⟩ := Option.bind_eq_some_iff.mp hset
      exact ih (agrees_settingsSet hagrees hfirst) hrest

theorem storePrepare_settings
    {D C : Type}
    (lib : SettingsLib D C)
    (p : ADSettings D) :
    (Adav.storePrepare lib p).settings =
      Adav.settingsSetAll p.settings (storedTexts lib p) := by
  rw [Adav.settingsSetAll, storedTexts, List.foldl_append]
  rfl

/-- The file of a store is read by `ADSettings` as the texts that were set, among them the
values of the attached settings and the next sequence count. -/
theorem storedFile_holds
    {D C : Type}
    (lib : SettingsLib D C)
    {p : ADSettings D}
    (hkeys : (p.entries.map Adav.SettingsEntry.key).Nodup)
    {s : Settings m}
    (hagrees : Agrees p.settings s)
    (hstorable : Storable s)
    (hfits : ∀ kv ∈ storedTexts lib p, PairFits kv.1.2 kv.2) :
    ∃ s' content doc,
      setTexts s (storedTexts lib p) = some s' ∧ settingsSave s' = some content ∧
        Adav.settingsOpen content = some doc ∧
        (∀ sec key, Adav.settingsGet doc sec key =
          Adav.settingsGet (Adav.storePrepare lib p).settings sec key) ∧
        DocHolds lib doc p.values (wrapInt32 (p.seqCount.value + 1)) := by
  obtain ⟨s', hset, hstorable'⟩ := exists_setTexts hfits hstorable
  have hagrees' := agrees_setTexts hagrees hset
  obtain ⟨content, hsave, hopen⟩ :=
    settingsOpen_settingsSave hstorable'
  rw [← storePrepare_settings] at hagrees'
  rcases readsAlike m content with ⟨-, hnone⟩ | ⟨doc, s'', hdoc, hopen', hread⟩
  · rw [hopen] at hnone
    cases hnone
  · rw [hopen] at hopen'
    obtain rfl := Option.some.inj hopen'
    have hget : ∀ sec key, Adav.settingsGet doc sec key =
        Adav.settingsGet (Adav.storePrepare lib p).settings sec key := fun sec key =>
      (hread sec key).trans (hagrees' sec key).symm
    exact ⟨s', content, doc, hset, hsave, hdoc, hget,
      (Adav.storePrepare_holds lib hkeys).congr hget⟩

/-- Two settings after the load of an empty file. -/
def sampleSettings : ADSettings Int where
  entries := [⟨text "volume", .int 40, .int 7, .notFound⟩,
    ⟨text "name", .string 8 (text "my box"), .string 8 [], .notFound⟩]
  version := ⟨1, 0, .notFound⟩
  seqCount := ⟨5, 0, .notFound⟩
  size := ⟨2, 0, .notFound⟩
  file := .main
  alternateFile := .backup
  filepath := .main
  settings := ∅
  state := .okMain
  checked := true

/-- A number and a name are read from the file they were stored in. -/
theorem storedFile_holds_sample :
    ∃ (s' : Settings sampleMachine) (content : Bytes) (doc : SettingsDoc),
      setTexts settingsNew (storedTexts Adav.plainSettingsLib sampleSettings) = some s' ∧
        settingsSave s' = some content ∧ Adav.settingsOpen content = some doc ∧
        (∀ sec key, Adav.settingsGet doc sec key =
          Adav.settingsGet (Adav.storePrepare Adav.plainSettingsLib sampleSettings).settings
            sec key) ∧
        DocHolds Adav.plainSettingsLib doc sampleSettings.values
          (wrapInt32 (sampleSettings.seqCount.value + 1)) := by
  have hfits : ∀ kv ∈ storedTexts Adav.plainSettingsLib sampleSettings,
      PairFits kv.1.2 kv.2 := by
    decide +kernel
  exact storedFile_holds Adav.plainSettingsLib (by decide) agrees_empty storable_settingsNew
    hfits

/-- A process sets texts, saves, and the next one opens the file. -/
def storeAndOpen (s : Settings m) (texts : List StoredText) : Option (Settings m) :=
  (setTexts s texts).bind fun s' => (settingsSave s').bind (settingsOpen m)

/-- In a run of stores, each followed by a load, the files lose nothing: the settings are those
of one process that sets all texts. -/
theorem storeRun_eq
    {s : Settings m}
    (hstorable : Storable s)
    {stores : List (List StoredText)}
    (hfits : ∀ texts ∈ stores, ∀ kv ∈ texts, PairFits kv.1.2 kv.2) :
    stores.foldlM storeAndOpen s = setTexts s stores.flatten := by
  induction stores generalizing s with
  | nil =>
      rfl
  | cons texts stores ih =>
      obtain ⟨s', hset, hstorable'⟩ :=
        exists_setTexts (hfits texts List.mem_cons_self) hstorable
      obtain ⟨content, hsave, hopen⟩ :=
        settingsOpen_settingsSave hstorable'
      have hstep : storeAndOpen s texts = some s' := by
        rw [storeAndOpen, hset, Option.bind_some, hsave, Option.bind_some, hopen]
      have hrest := ih hstorable' fun texts' htexts' =>
        hfits texts' (List.mem_cons_of_mem _ htexts')
      have hsplit : setTexts s (texts ++ stores.flatten) =
          (setTexts s texts).bind fun s₁ => setTexts s₁ stores.flatten := List.foldlM_append
      rw [List.foldlM_cons, hstep, List.flatten_cons, hsplit, hset]
      exact hrest

/-- Two stores of a number. -/
theorem storeRun_eq_number :
    [[((SettingsSection.data, text "a"), text "7")],
        [((.data, text "a"), text "8"), ((.metaData, text "b"), text "")]].foldlM storeAndOpen
        (settingsNew : Settings sampleMachine) =
      setTexts settingsNew
        [((.data, text "a"), text "7"), ((.data, text "a"), text "8"),
          ((.metaData, text "b"), text "")] := by
  have hfits : ∀ texts ∈ [[((SettingsSection.data, text "a"), text "7")],
      [((.data, text "a"), text "8"), ((.metaData, text "b"), text "")]],
      ∀ kv ∈ texts, PairFits kv.1.2 kv.2 := by
    decide
  exact storeRun_eq storable_settingsNew hfits

end Stores

end Settingslib
end BrBox
