import BrBox.Adav.JsonRpcClient

/-!
# Values that survive the connection

The messages of client and server are objects of numbers, plain texts and
objects.  `FaithfulJson` collects what they rely on: such a value is printed and
parsed back, and a field of it is the text that was put in.

`PlainJson.faithful` proves it for the small library: `PlainJson.parse` reads back
what `PlainJson.print` has written, whatever follows it.
-/

namespace BrBox
namespace Adav

open CText
open CxxText

universe u

/-! ## The library as a parameter -/

/-- A text that is printed as it is between its quotes. -/
def PlainText (s : Bytes) : Prop :=
  ∀ c ∈ s, 32 ≤ c ∧ c < 127 ∧ c ≠ 34 ∧ c ≠ 92

instance (s : Bytes) : Decidable (PlainText s) :=
  List.decidableBAll _ s

/-- The values that messages are made of, with the levels of objects in them. -/
inductive Built {J : Type u} (lib : ClientJson J) : Nat → J → Prop
  | int {levels : Nat} (n : Int) :
      -2 ^ 31 ≤ n → n < 2 ^ 31 → Built lib levels (lib.newInt n)
  | string {levels : Nat} (s : Bytes) :
      PlainText s → Built lib levels (lib.newString s)
  | object {levels : Nat} (fields : List (Bytes × J)) :
      (fields.map fun f => f.1).Nodup →
      (∀ f ∈ fields, PlainText f.1) →
      (∀ f ∈ fields, Built lib levels f.2) →
      Built lib (levels + 1) (lib.newObject fields)

/-- A message is an object whose `params` or `result` is an object. -/
def messageLevels : Nat := 2

/-- What client and server rely on for their messages, `json_checker_function`
included. -/
structure FaithfulJson
    {J : Type u} (lib : ClientJson J) (checker : Bytes → Bool) : Prop where
  parse_print : ∀ j, Built lib messageLevels j →
    lib.tokenerParse (lib.toJsonString j) = some j
  checker_print : ∀ j, Built lib messageLevels j →
    checker (lib.toJsonString j) = true
  head_print : ∀ fields, Built lib messageLevels (lib.newObject fields) →
    (lib.toJsonString (lib.newObject fields)).head? = some 123
  objectGet_newObject : ∀ fields name, (fields.map fun f => f.1).Nodup →
    lib.objectGet (lib.newObject fields) name =
      (fields.find? fun f => f.1 = name).map fun f => f.2
  getString_newString : ∀ s, PlainText s → lib.getString (lib.newString s) = s
  getString_newInt : ∀ n, -2 ^ 31 ≤ n → n < 2 ^ 31 →
    lib.getString (lib.newInt n) = decimalText n

/-! ## The small library -/

namespace PlainJson

/-- A value, or the rest of the fields of an object, that is read back. -/
def Printable : Bool → PlainJson → Prop
  | inside, .int _ => inside = false
  | inside, .str s => inside = false ∧ (34 : Byte) ∉ s
  | _, .empty => True
  | _, .field name value rest =>
      (34 : Byte) ∉ name ∧ Printable false value ∧ Printable true rest

/-- The fuel that reading a value back takes. -/
def depth : PlainJson → Nat
  | .int _ => 1
  | .str _ => 1
  | .empty => 2
  | .field _ value rest => 2 + depth value + depth rest

/-- The texts around a field. -/
theorem text_braces :
    text "\x7b \x7d" = [123, 32, 125] ∧ text " \x7d" = [32, 125] ∧
      text "\x7b " = [123, 32] ∧ text ", " = [44, 32] ∧ text ": " = [58, 32] := by
  decide

/-- The length of the text is enough fuel. -/
theorem depth_le_length
    (j : PlainJson) (inside : Bool) :
    j.depth ≤ (print inside j).length := by
  obtain ⟨hempty, hclose, hopen, hcomma, hcolon⟩ := text_braces
  induction j generalizing inside with
  | int n =>
      have hne : decimalText n ≠ [] := by
        unfold decimalText
        split
        · simp
        · exact digitsText_ne_nil _
      exact List.length_pos_iff.mpr hne
  | str s =>
      simp [depth, print, quoted]
  | empty =>
      cases inside <;> simp [depth, print, hempty, hclose]
  | field name value rest ihvalue ihrest =>
      have hvalue := ihvalue false
      have hrest := ihrest true
      cases inside
      all_goals
        simp [depth, print, quoted, hopen, hcomma, hcolon]
        omega

/-- The text behind a number does not go on with a digit. -/
def NoDigit (rest : Bytes) : Prop :=
  ∀ c ∈ rest.head?, isDigit c = false

/-- The digits of a number are told from what follows. -/
theorem digits_append
    {s rest : Bytes} (hs : ∀ c ∈ s, isDigit c = true) (hrest : NoDigit rest) :
    (s ++ rest).takeWhile isDigit = s ∧ (s ++ rest).dropWhile isDigit = rest := by
  rw [List.takeWhile_append_of_pos hs, List.dropWhile_append_of_pos hs]
  cases rest with
  | nil =>
      simp
  | cons c rest =>
      have hc : isDigit c = false := hrest c (by simp)
      simp [hc]

/-- The value of a number does not depend on what follows. -/
theorem digitsValue_append
    (n : Nat) {rest : Bytes} (hrest : NoDigit rest) :
    digitsValue (digitsText n ++ rest) = n := by
  have hall : ∀ c ∈ digitsText n, isDigit c = true :=
    fun c hc => isDigit_of_mem_digitsText hc
  have hvalue := digitsValue_digitsText n
  unfold digitsValue at hvalue ⊢
  rw [List.takeWhile_eq_self_iff.mpr hall] at hvalue
  rw [(digits_append hall hrest).1, hvalue]

/-- A number is read back. -/
theorem parse_int
    (n : Int) (fuel : Nat) {rest : Bytes} (hrest : NoDigit rest) :
    parse (fuel + 1) false (decimalText n ++ rest) = some (.int n, rest) := by
  have hall : ∀ c ∈ digitsText n.natAbs, isDigit c = true :=
    fun c hc => isDigit_of_mem_digitsText hc
  have hvalue := digitsValue_append n.natAbs hrest
  by_cases hneg : n < 0
  · have hdrop : (45 :: (digitsText n.natAbs ++ rest)).dropWhile isSpace =
        45 :: (digitsText n.natAbs ++ rest) := by
      rw [List.dropWhile_cons_of_neg (by decide)]
    have hint : decimalValue (45 :: (digitsText n.natAbs ++ rest)) = n := by
      simp only [decimalValue, hdrop, hvalue, if_true]
      omega
    simp [parse, decimalText, hneg, hdrop, hint, (digits_append hall hrest).2]
  · obtain ⟨c, digits, htext⟩ := List.exists_cons_of_ne_nil
      (digitsText_ne_nil n.natAbs)
    rw [htext] at hall hvalue
    have hc : isDigit c = true := hall c (by simp)
    obtain ⟨hspace, hminus, hplus, -⟩ := isDigit_ne hc
    have hbrace : c ≠ 123 ∧ c ≠ 34 := by
      constructor
      all_goals
        rintro rfl
        exact absurd hc (by decide)
    have hrestDigits := (digits_append
      (fun d hd => hall d (List.mem_cons_of_mem c hd)) hrest).2
    rw [List.cons_append] at hvalue
    have hdrop : (c :: (digits ++ rest)).dropWhile isSpace = c :: (digits ++ rest) := by
      rw [List.dropWhile_cons_of_neg (by simp [hspace])]
    have hint : decimalValue (c :: (digits ++ rest)) = n := by
      simp only [decimalValue, hdrop, hminus, hplus, hvalue, if_false]
      omega
    simp [parse, decimalText, hneg, htext, hdrop, hbrace, hminus, hc, hint, hrestDigits]

/-- A text is read back up to its closing quote. -/
theorem unquote_append
    {s : Bytes} (hs : (34 : Byte) ∉ s) (rest : Bytes) :
    unquote (s ++ 34 :: rest) = some (s, rest) := by
  have hall := ne_of_mem_of_not_mem_delim hs
  unfold unquote
  rw [List.takeWhile_append_of_pos hall, List.dropWhile_append_of_pos hall]
  simp

/-- Blanks and commas before a field are skipped. -/
theorem parse_inside_skip
    (fuel : Nat) {s s' : Bytes}
    (hskip : s.dropWhile (fun c => isSpace c || c == 44) =
      s'.dropWhile (fun c => isSpace c || c == 44)) :
    parse fuel true s = parse fuel true s' := by
  cases fuel with
  | zero =>
      rfl
  | succ fuel =>
      simp only [parse, hskip]

/-- The first byte of a value is no blank and no colon. -/
theorem print_cons
    (j : PlainJson) :
    ∃ c s, print false j = c :: s ∧ isSpace c = false ∧ c ≠ 58 := by
  obtain ⟨hempty, -, hopen, -, -⟩ := text_braces
  cases j with
  | int n =>
      obtain ⟨c, s, htext⟩ := List.exists_cons_of_ne_nil (digitsText_ne_nil n.natAbs)
      by_cases hneg : n < 0
      · exact ⟨45, digitsText n.natAbs, by simp [print, decimalText, hneg], by decide,
          by decide⟩
      · have hc : isDigit c = true :=
          isDigit_of_mem_digitsText (n := n.natAbs) (by simp [htext])
        refine ⟨c, s, by simp [print, decimalText, hneg, htext], (isDigit_ne hc).1, ?_⟩
        rintro rfl
        exact absurd hc (by decide)
  | str s =>
      exact ⟨34, s ++ [34], by simp [print, quoted], by decide, by decide⟩
  | empty =>
      exact ⟨123, [32, 125], by simp [print, hempty], by decide, by decide⟩
  | field name value rest =>
      exact ⟨123, _, by simp only [print, hopen]; rfl, by decide, by decide⟩

/-- A field and those behind it are read back, if this holds of its value and of
the fields behind it. -/
theorem parse_field
    {name : Bytes} (hname : (34 : Byte) ∉ name) {value fields : PlainJson}
    {fuel : Nat} {rest : Bytes}
    (hvalue : parse fuel false (print false value ++ (print true fields ++ rest)) =
      some (value, print true fields ++ rest))
    (hfields : parse fuel true (print true fields ++ rest) = some (fields, rest)) :
    parse (fuel + 1) true
        (34 :: (name ++ 34 :: 58 :: 32 ::
          (print false value ++ (print true fields ++ rest)))) =
      some (.field name value fields, rest) := by
  obtain ⟨c, s, hprint, hspace, hcolon⟩ := print_cons value
  have hdrop : (58 :: 32 :: (print false value ++ (print true fields ++ rest))).dropWhile
      (fun c => isSpace c || c == 58) = print false value ++ (print true fields ++ rest) := by
    have hc : (isSpace c || c == 58) = false := by
      simp [hspace, hcolon]
    rw [List.dropWhile_cons_of_pos (by decide), List.dropWhile_cons_of_pos (by decide),
      hprint, List.cons_append, List.dropWhile_cons_of_neg (by simp [hc])]
  have hquote : (34 :: (name ++ 34 :: 58 :: 32 ::
      (print false value ++ (print true fields ++ rest)))).dropWhile
        (fun c => isSpace c || c == 44) =
      34 :: (name ++ 34 :: 58 :: 32 ::
        (print false value ++ (print true fields ++ rest))) := by
    rw [List.dropWhile_cons_of_neg (by decide)]
  simp [parse, hquote, unquote_append hname, hdrop, hvalue, hfields]

/-- The fields behind a value go on with a comma or a blank. -/
theorem noDigit_print_true
    {j : PlainJson} (hj : Printable true j) (rest : Bytes) :
    NoDigit (print true j ++ rest) := by
  obtain ⟨-, hclose, -, hcomma, -⟩ := text_braces
  intro c hc
  cases j with
  | int n =>
      cases hj
  | str s =>
      cases hj.1
  | empty =>
      simp only [print, hclose, List.cons_append, List.head?_cons, Option.mem_def,
        Option.some.injEq] at hc
      subst hc
      decide
  | field name value fields =>
      simp only [print, if_true, hcomma, List.cons_append, List.head?_cons,
        Option.mem_def, Option.some.injEq] at hc
      subst hc
      decide

/-- What is printed is read back, whatever follows it. -/
theorem parse_print
    {j : PlainJson} {inside : Bool} (hj : Printable inside j)
    {fuel : Nat} (hfuel : j.depth ≤ fuel)
    {rest : Bytes} (hrest : NoDigit rest) :
    parse fuel inside (print inside j ++ rest) = some (j, rest) := by
  obtain ⟨hempty, hclose, hopen, hcomma, hcolon⟩ := text_braces
  induction j generalizing inside fuel rest with
  | int n =>
      obtain rfl : inside = false := hj
      obtain ⟨fuel, rfl⟩ := Nat.exists_eq_add_of_le' hfuel
      exact parse_int n fuel hrest
  | str s =>
      obtain ⟨rfl, hs⟩ := hj
      obtain ⟨fuel, rfl⟩ := Nat.exists_eq_add_of_le' hfuel
      have hdrop : (34 :: (s ++ 34 :: rest)).dropWhile isSpace = 34 :: (s ++ 34 :: rest) := by
        rw [List.dropWhile_cons_of_neg (by decide)]
      simp [depth, parse, print, quoted, hdrop, unquote_append hs]
  | empty =>
      obtain ⟨fuel, rfl⟩ := Nat.exists_eq_add_of_le' hfuel
      have hspace : ∀ s : Bytes, (32 :: 125 :: s).dropWhile
          (fun c => isSpace c || c == 44) = 125 :: s := by
        intro s
        rw [List.dropWhile_cons_of_pos (by decide), List.dropWhile_cons_of_neg (by decide)]
      have hbrace : ∀ s : Bytes, (123 :: s).dropWhile isSpace = 123 :: s := by
        intro s
        rw [List.dropWhile_cons_of_neg (by decide)]
      cases inside <;> simp [depth, parse, print, hempty, hclose, hspace, hbrace]
  | field name value fields ihvalue ihfields =>
      obtain ⟨hname, hv, hf⟩ := hj
      simp only [depth] at hfuel
      obtain ⟨fuel, rfl⟩ := Nat.exists_eq_add_of_le' (show 2 ≤ fuel by omega)
      -- In front of the first field stands the opening brace, in front of the
      -- others a comma.
      have hparsed : ∀ n, value.depth + fields.depth ≤ n →
          parse (n + 1) true (32 :: (quoted name ++ (text ": " ++
            (print false value ++ (print true fields ++ rest))))) =
              some (.field name value fields, rest) := by
        intro n hn
        have hvalue := ihvalue hv (show value.depth ≤ n by omega)
          (noDigit_print_true hf rest)
        have hfields := ihfields hf (show fields.depth ≤ n by omega) hrest
        rw [← parse_field hname hvalue hfields, hcolon]
        apply parse_inside_skip
        rw [List.dropWhile_cons_of_pos (by decide)]
        simp [quoted]
      cases inside with
      | false =>
          have hbrace : ∀ s : Bytes, (123 :: s).dropWhile isSpace = 123 :: s := by
            intro s
            rw [List.dropWhile_cons_of_neg (by decide)]
          have h := hparsed fuel (by omega)
          simpa [parse, print, hopen, hbrace] using h
      | true =>
          rw [← hparsed (fuel + 1) (by omega)]
          simp only [print, if_true, hcomma, List.append_assoc]
          apply parse_inside_skip
          rw [List.cons_append, List.dropWhile_cons_of_pos (by decide)]
          rfl

/-- The fields of an object are printable if their names and values are. -/
theorem printable_newObject
    {fields : List (Bytes × PlainJson)}
    (hnames : ∀ f ∈ fields, PlainText f.1)
    (hvalues : ∀ f ∈ fields, Printable false f.2) (inside : Bool) :
    Printable inside (lib.newObject fields) := by
  induction fields generalizing inside with
  | nil =>
      exact trivial
  | cons f fields ih =>
      refine ⟨?_, hvalues f (by simp), ih ?_ ?_ true⟩
      · intro hquote
        exact (hnames f (by simp) 34 hquote).2.2.1 rfl
      · exact fun g hg => hnames g (List.mem_cons_of_mem f hg)
      · exact fun g hg => hvalues g (List.mem_cons_of_mem f hg)

/-- The values of messages are printable. -/
theorem printable_of_built
    {levels : Nat} {j : PlainJson} (hj : Built lib levels j) :
    Printable false j := by
  induction hj with
  | int n hlow hhigh =>
      rfl
  | string s hs =>
      exact ⟨rfl, fun hquote => (hs 34 hquote).2.2.1 rfl⟩
  | object fields hnodup hnames hvalues ih =>
      exact printable_newObject hnames ih false

/-- A field is found among the fields of an object. -/
theorem get_newObject
    (fields : List (Bytes × PlainJson)) (name : Bytes) :
    lib.objectGet (lib.newObject fields) name =
      (fields.find? fun f => f.1 = name).map fun f => f.2 := by
  induction fields with
  | nil =>
      rfl
  | cons f fields ih =>
      by_cases hname : f.1 = name
      · simp [lib, get, hname]
      · simpa [lib, get, hname] using ih

/-- The small library with a checker that accepts what it can parse. -/
theorem faithful :
    FaithfulJson lib fun s => (lib.tokenerParse s).isSome := by
  have hparse : ∀ j, Built lib messageLevels j → lib.tokenerParse (lib.toJsonString j) = some j := by
    intro j hj
    have hdepth := depth_le_length j false
    have h := parse_print (printable_of_built hj) (Nat.le_succ_of_le hdepth)
      (show NoDigit [] by simp [NoDigit])
    rw [List.append_nil] at h
    simp [lib, h]
  refine ⟨hparse, ?_, ?_, fun fields name _ => get_newObject fields name, ?_, ?_⟩
  · intro j hj
    simp [hparse j hj]
  · obtain ⟨hempty, -, hopen, -, -⟩ := text_braces
    intro fields _
    cases fields with
    | nil =>
        simp [lib, print, hempty]
    | cons f fields =>
        simp [lib, print, hopen]
  · intro s _
    rfl
  · intro n _ _
    rfl

end PlainJson
end Adav
end BrBox
