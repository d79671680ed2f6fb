import BrBox.Adav.JsonChecker
import BrBox.Adav.JsonRpcProxy

/-!
# The root of a request that is looked up

`json_process_request` refuses a text whose first character is `[`, has the
checker look at the rest, and then looks up fields in what the JSON library
has parsed.  The checker takes blanks in front of the root.

* `accepted_root`: what the checker accepts starts with blanks and `{` or `[`.
* `rootSafe_iff`: fields of an array are looked up exactly for an accepted
  text with a blank in front of its `[`.
-/

namespace BrBox
namespace Adav

open CText

universe u

/-- Blanks between the tokens of a JSON text. -/
def jsonSpace (c : Byte) : Bool :=
  c = 32 || c = 9 || c = 10 || c = 13

/-- The first byte of the root value of a text. -/
def rootByte (s : Bytes) : Option Byte :=
  (s.dropWhile jsonSpace).head?

/-- The only bytes of the two opening classes, and the blanks. -/
theorem asciiClass_opening :
    ∀ c < 128,
      (asciiClass c = some .lcurb → c = 123) ∧
      (asciiClass c = some .lsqrb → c = 91) ∧
      (asciiClass c = some .space → c = 32) ∧
      (asciiClass c = some .white → c = 9 ∨ c = 10 ∨ c = 13) := by
  decide +kernel

/-- A byte of one of these classes, by its code. -/
theorem charClass_opening
    (c : Byte) :
    (charClass c.toNat = some .lcurb → c = openBrace) ∧
    (charClass c.toNat = some .lsqrb → c = openBracket) ∧
    (charClass c.toNat = some .space → jsonSpace c = true) ∧
    (charClass c.toNat = some .white → jsonSpace c = true) := by
  have hbyte : ∀ n : Nat, n < 128 → c.toNat = n → c = UInt8.ofNat n := by
    intro n hn h
    rw [← h, UInt8.ofNat_toNat]
  have hclass : ∀ cls, charClass c.toNat = some cls → cls ≠ .etc →
      c.toNat < 128 ∧ asciiClass c.toNat = some cls := by
    intro cls h hne
    rw [charClass, if_neg (by omega)] at h
    by_cases hc : 128 ≤ c.toNat
    · rw [if_pos (by omega), Option.some.injEq] at h
      exact absurd h.symm hne
    · rw [if_neg (by omega), Int.toNat_natCast] at h
      exact ⟨Nat.not_le.mp hc, h⟩
  refine ⟨?_, ?_, ?_, ?_⟩
  · intro h
    obtain ⟨hc, hascii⟩ := hclass _ h (by decide)
    exact hbyte 123 (by decide) ((asciiClass_opening _ hc).1 hascii)
  · intro h
    obtain ⟨hc, hascii⟩ := hclass _ h (by decide)
    exact hbyte 91 (by decide) ((asciiClass_opening _ hc).2.1 hascii)
  · intro h
    obtain ⟨hc, hascii⟩ := hclass _ h (by decide)
    rw [hbyte 32 (by decide) ((asciiClass_opening _ hc).2.2.1 hascii)]
    rfl
  · intro h
    obtain ⟨hc, hascii⟩ := hclass _ h (by decide)
    rcases (asciiClass_opening _ hc).2.2.2 hascii with h9 | h10 | h13
    · rw [hbyte 9 (by decide) h9]
      rfl
    · rw [hbyte 10 (by decide) h10]
      rfl
    · rw [hbyte 13 (by decide) h13]
      rfl

/-- At the start the checker takes a blank, or the first byte of the root. -/
theorem jsonCheckerChar_start
    {jc jc' : JsonChecker} {c : Byte}
    (hstart : jc.state = .GO)
    (hstep : jsonCheckerChar jc c.toNat = some jc') :
    (jsonSpace c = true ∧ jc'.state = .GO) ∨ c = openBrace ∨ c = openBracket := by
  obtain ⟨hlcurb, hlsqrb, hspace, hwhite⟩ := charClass_opening c
  unfold jsonCheckerChar at hstep
  cases hclass : charClass c.toNat with
  | none =>
      rw [hclass] at hstep
      cases hstep
  | some cls =>
      simp only [hclass, hstart] at hstep
      cases cls with
      | space =>
          obtain rfl := Option.some.inj hstep
          exact Or.inl ⟨hspace hclass, rfl⟩
      | white =>
          obtain rfl := Option.some.inj hstep
          exact Or.inl ⟨hwhite hclass, rfl⟩
      | lcurb =>
          exact Or.inr (Or.inl (hlcurb hclass))
      | lsqrb =>
          exact Or.inr (Or.inr (hlsqrb hclass))
      | _ =>
          cases hstep

/-- From the start to acceptance there is a root. -/
theorem feed_root
    {jc jc' : JsonChecker} {s : Bytes}
    (hstart : jc.state = .GO)
    (hfeed : feed jc s = some jc')
    (hdone : jsonCheckerDone jc' = true) :
    ∃ w c rest,
      s = w ++ c :: rest ∧
      (∀ d ∈ w, jsonSpace d = true) ∧
      (c = openBrace ∨ c = openBracket) := by
  induction s generalizing jc with
  | nil =>
      obtain rfl := Option.some.inj hfeed
      rw [jsonCheckerDone, hstart] at hdone
      cases hdone
  | cons c s ih =>
      rw [feed_cons] at hfeed
      obtain ⟨jc₁, hstep, hrest⟩ := Option.bind_eq_some_iff.mp hfeed
      rcases jsonCheckerChar_start hstart hstep with ⟨hspace, hgo⟩ | hroot
      · obtain ⟨w, d, rest, rfl, hw, hd⟩ := ih hgo hrest
        refine ⟨c :: w, d, rest, rfl, ?_, hd⟩
        intro e he
        rcases List.mem_cons.mp he with rfl | he
        · exact hspace
        · exact hw e he
      · exact ⟨[], c, s, rfl, by simp, hroot⟩

/-- An accepted text is blanks and then an object or an array. -/
theorem accepted_root
    {s : Bytes}
    (haccepted : Accepted s) :
    ∃ w c rest,
      s = w ++ c :: rest ∧
      (∀ d ∈ w, jsonSpace d = true) ∧
      (c = openBrace ∨ c = openBracket) := by
  obtain ⟨jc, hfeed, hdone⟩ := haccepted
  exact feed_root rfl hfeed hdone

/-- So is a text that `json_checker_function` lets pass. -/
theorem jsonCheckerFunction_root
    {charSigned : Bool} {string : Bytes}
    (hpass : jsonCheckerFunction charSigned string = 0) :
    ∃ w c rest,
      cString string = w ++ c :: rest ∧
      (∀ d ∈ w, jsonSpace d = true) ∧
      (c = openBrace ∨ c = openBracket) := by
  cases charSigned with
  | false =>
      rw [jsonCheckerFunction_unsigned, fullVerdict] at hpass
      split at hpass
      · rename_i haccepted
        exact accepted_root haccepted
      · cases hpass
  | true =>
      rw [jsonCheckerFunction_signed] at hpass
      split at hpass
      · rename_i haccepted
        obtain ⟨w, c, rest, hpart, hw, hc⟩ := accepted_root haccepted
        obtain ⟨more, hmore⟩ :=
          List.takeWhile_prefix (l := cString string) (fun c => decide (c < 128))
        refine ⟨w, c, rest ++ more, ?_, hw, hc⟩
        rw [← hmore]
        rw [asciiPart] at hpart
        rw [hpart, List.append_assoc, List.cons_append]
      · cases hpass

/-- Blanks do not hide the root. -/
theorem rootByte_blanks
    {w : Bytes} {c : Byte}
    (hw : ∀ d ∈ w, jsonSpace d = true)
    (hc : jsonSpace c = false)
    (rest : Bytes) :
    rootByte (w ++ c :: rest) = some c := by
  rw [rootByte, List.dropWhile_append_of_pos hw,
    List.dropWhile_cons_of_neg (by simp [hc])]
  rfl

section Requests

variable {J : Type u}

/-- The JSON library together with the checker of the source. -/
def checkedLib (charSigned : Bool) (lib : JsonLib J) : JsonLib J :=
  { lib with checker := fun s => decide (jsonCheckerFunction charSigned s = 0) }

/--
Fields are looked up in an object only, and an array is answered with an error
before any lookup.
-/
def RootSafe
    (lib : JsonLib J) (charSigned : Bool) (rpcCallList : List RpcCommand)
    (jsonString : Bytes) : Prop :=
  (∀ obj, requestObject (checkedLib charSigned lib) jsonString = some obj →
    rootByte (cString jsonString) = some openBrace) ∧
  (rootByte (cString jsonString) = some openBracket →
    requestObject (checkedLib charSigned lib) jsonString = none ∧
    ∃ err,
      jsonProcessRequest (checkedLib charSigned lib) rpcCallList jsonString =
        pure (.reject err 0))

/-- Blanks, at least one of them, and then a `[`. -/
def BlankedArray (s : Bytes) : Prop :=
  (∃ c ∈ s.head?, jsonSpace c = true) ∧ rootByte s = some openBracket

/-- The first character of the C string is that of the buffer. -/
theorem head?_cString
    {buf : Bytes} {c : Byte}
    (hc : c ≠ 0) :
    buf.head? = some c ↔ (cString buf).head? = some c := by
  cases buf with
  | nil =>
      rfl
  | cons d buf =>
      by_cases hd : d = 0
      · subst hd
        simp [hc.symm]
      · rw [cString_cons_of_ne hd]
        rfl

/-- What is looked up has passed the guard, the checker and the parser. -/
theorem requestObject_eq_some_iff
    {lib : JsonLib J} {charSigned : Bool} {jsonString : Bytes} {obj : J} :
    requestObject (checkedLib charSigned lib) jsonString = some obj ↔
      jsonString.head? ≠ some openBracket ∧
      jsonCheckerFunction charSigned jsonString = 0 ∧
      lib.tokenerParse jsonString = some obj := by
  unfold requestObject
  by_cases hguard : jsonString.head? = some openBracket
  · rw [if_pos hguard]
    simp [hguard]
  · rw [if_neg hguard]
    by_cases hcheck : jsonCheckerFunction charSigned jsonString = 0
    · have hlib : (checkedLib charSigned lib).checker jsonString = true :=
        decide_eq_true hcheck
      simp only [hlib, Bool.true_eq_false, if_false]
      exact ⟨fun h => ⟨hguard, hcheck, h⟩, fun h => h.2.2⟩
    · have hlib : (checkedLib charSigned lib).checker jsonString = false :=
        decide_eq_false hcheck
      simp only [hlib, if_true]
      constructor
      · intro h
        cases h
      · intro h
        exact absurd h.2.1 hcheck

/-- The root of a text that is looked up: an object, or an array behind a blank. -/
theorem root_of_requestObject
    {lib : JsonLib J} {charSigned : Bool} {jsonString : Bytes} {obj : J}
    (hobj : requestObject (checkedLib charSigned lib) jsonString = some obj) :
    rootByte (cString jsonString) = some openBrace ∨ BlankedArray (cString jsonString) := by
  obtain ⟨hguard, hcheck, -⟩ := requestObject_eq_some_iff.mp hobj
  obtain ⟨w, c, rest, hsplit, hw, hc⟩ := jsonCheckerFunction_root hcheck
  rw [Ne, head?_cString (by decide), hsplit] at hguard
  rw [hsplit]
  rcases hc with rfl | rfl
  · exact Or.inl (rootByte_blanks hw rfl rest)
  · -- an array that has passed the guard has a blank in front of it
    cases w with
    | nil =>
        exact absurd rfl hguard
    | cons d w =>
        exact Or.inr ⟨⟨d, rfl, hw d List.mem_cons_self⟩, rootByte_blanks hw rfl rest⟩

/--
For every text, kind of `char`, JSON library and list of methods: only an
object is looked up, unless the text is an array behind a blank that passes
the checker and is parsed.
-/
theorem rootSafe_iff
    (lib : JsonLib J) (charSigned : Bool) (rpcCallList : List RpcCommand)
    (jsonString : Bytes) :
    RootSafe lib charSigned rpcCallList jsonString ↔
      ¬ (BlankedArray (cString jsonString) ∧
        jsonCheckerFunction charSigned jsonString = 0 ∧
        (lib.tokenerParse jsonString).isSome) := by
  constructor
  · rintro ⟨hobject, -⟩ ⟨⟨⟨c, hhead, hspace⟩, hroot⟩, hcheck, hparse⟩
    obtain ⟨obj, hobj⟩ := Option.isSome_iff_exists.mp hparse
    have hguard : jsonString.head? ≠ some openBracket := by
      rw [Ne, head?_cString (by decide), hhead, Option.some.injEq]
      rintro rfl
      cases hspace
    have hbrace := hobject obj (requestObject_eq_some_iff.mpr ⟨hguard, hcheck, hobj⟩)
    rw [hroot] at hbrace
    cases hbrace
  · intro hnot
    have hobject :
        ∀ obj, requestObject (checkedLib charSigned lib) jsonString = some obj →
          rootByte (cString jsonString) = some openBrace := by
      intro obj hobj
      obtain ⟨-, hcheck, hparse⟩ := requestObject_eq_some_iff.mp hobj
      rcases root_of_requestObject hobj with hbrace | harray
      · exact hbrace
      · exact absurd ⟨harray, hcheck, by rw [hparse]; rfl⟩ hnot
    refine ⟨hobject, ?_⟩
    intro hroot
    have hnone : requestObject (checkedLib charSigned lib) jsonString = none := by
      cases hobj : requestObject (checkedLib charSigned lib) jsonString with
      | none =>
          rfl
      | some obj =>
          have hbrace := hobject obj hobj
          rw [hroot] at hbrace
          cases hbrace
    exact ⟨hnone, jsonProcessRequest_of_none _ rpcCallList hnone⟩

end Requests

/-- A JSON library for the text ` []`, which it parses as an array. -/
def arrayLib : JsonLib (List Bytes) where
  checker := fun _ => false
  tokenerParse := fun s => if cString s = [32, 91, 93] then some [] else none
  getString := fun _ _ => none

/-- Fields are looked up in the array of the text ` []`. -/
theorem not_rootSafe_blank :
    ¬ RootSafe arrayLib false [] [32, 91, 93, 0] := by
  rintro ⟨hobject, -⟩
  have hlookup :
      requestObject (checkedLib false arrayLib) [32, 91, 93, 0] = some [] := by
    decide +kernel
  have hroot := hobject [] hlookup
  revert hroot
  decide

end Adav
end BrBox
