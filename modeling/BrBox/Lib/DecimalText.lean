import BrBox.Lib.CText

/-!
# Decimal text

What `%d` prints and what `atoi`, `sscanf` and their relatives read back, without
the bound of a machine type or reduced to it, and the comma-separated form of a
list of numbers.  The two directions are inverse to each other.
-/

namespace BrBox
namespace CText

/-- The decimal digits of a natural number. -/
def digitsText (n : Nat) : Bytes :=
  (Nat.toDigits 10 n).map fun c => UInt8.ofNat c.toNat

/-- What `%d` prints. -/
def decimalText (n : Int) : Bytes :=
  if n < 0 then
    45 :: digitsText n.natAbs
  else
    digitsText n.natAbs

/-- Blanks, an optional sign and decimal digits, as a number. -/
def decimalValue (s : Bytes) : Int :=
  match s.dropWhile isSpace with
  | [] => 0
  | c :: rest =>
      if c = 45 then
        -(digitsValue rest : Int)
      else if c = 43 then
        digitsValue rest
      else
        digitsValue (c :: rest)

/-- `sscanf` with `%lu`, for an `unsigned long` of this many bits: blanks, an
optional sign and decimal digits.  A negative number is reduced, a number that is
too large becomes the largest one, and nothing is read if there is no digit. -/
def scanUlong (bits : Nat) (s : Bytes) : Option Nat :=
  match s.dropWhile isSpace with
  | [] => none
  | c :: rest =>
      let digits := if c = 45 ∨ c = 43 then rest else c :: rest
      if digits.takeWhile isDigit = [] then
        none
      else if 2 ^ bits ≤ digitsValue digits then
        some (2 ^ bits - 1)
      else if c = 45 then
        some ((2 ^ bits - digitsValue digits) % 2 ^ bits)
      else
        some (digitsValue digits)

/-- The texts of a list, with a comma and a blank between two of them. -/
def tupleText (texts : List Bytes) : Bytes :=
  List.intercalate [44, 32] texts

/-- The numbers between the commas. -/
def tupleValues (s : Bytes) : List Int :=
  (s.splitOn 44).map decimalValue

/-- A character of a decimal number is a digit byte. -/
theorem digitByte
    {c : Char} (hc : c.isDigit = true) :
    isDigit (UInt8.ofNat c.toNat) = true ∧
      (UInt8.ofNat c.toNat).toNat = c.toNat := by
  have hrange : 48 ≤ c.toNat ∧ c.toNat ≤ 57 := by
    simp only [Char.isDigit, Bool.and_eq_true, decide_eq_true_eq] at hc
    exact ⟨UInt32.le_iff_toNat_le.mp hc.1, UInt32.le_iff_toNat_le.mp hc.2⟩
  have hnat : (UInt8.ofNat c.toNat).toNat = c.toNat := by
    simp only [UInt8.toNat_ofNat']
    omega
  refine ⟨?_, hnat⟩
  simp only [isDigit, Bool.and_eq_true, decide_eq_true_eq, UInt8.le_iff_toNat_le,
    hnat]
  exact hrange

/-- Every byte of `digitsText` is a digit. -/
theorem isDigit_of_mem_digitsText
    {n : Nat} {c : Byte}
    (hc : c ∈ digitsText n) :
    isDigit c = true := by
  simp only [digitsText, List.mem_map] at hc
  obtain ⟨d, hd, rfl⟩ := hc
  exact (digitByte (Nat.isDigit_of_mem_toDigits (by decide) (by decide) hd)).1

theorem digitsText_ne_nil
    (n : Nat) :
    digitsText n ≠ [] := by
  simp [digitsText, Nat.toDigits_ne_nil]

/-- The digits of a number have its value. -/
theorem digitsValue_digitsText
    (n : Nat) :
    digitsValue (digitsText n) = n := by
  have htake : (digitsText n).takeWhile isDigit = digitsText n := by
    rw [List.takeWhile_eq_self_iff]
    intro c hc
    exact isDigit_of_mem_digitsText hc
  unfold digitsValue
  rw [htake]
  unfold digitsText
  rw [List.foldl_map]
  have hfold :
      ∀ (cs : List Char) (m : Nat),
        (∀ c ∈ cs, c.isDigit = true) →
          cs.foldl (fun k c => 10 * k + ((UInt8.ofNat c.toNat).toNat - 48)) m =
            Nat.ofDigitChars 10 cs m := by
    intro cs
    induction cs with
    | nil =>
        intro m _
        rfl
    | cons c cs ih =>
        intro m hcs
        have hc := (digitByte (hcs c (by simp))).2
        rw [List.foldl_cons, Nat.ofDigitChars_cons, hc,
          ih _ (fun d hd => hcs d (List.mem_cons_of_mem _ hd))]
        rfl
  rw [hfold _ _ (fun c hc =>
    Nat.isDigit_of_mem_toDigits (by decide) (by decide) hc)]
  exact Nat.ofDigitChars_ten_toDigits

/-- A digit is neither a blank nor a sign nor a comma. -/
theorem isDigit_ne
    {c : Byte} (hc : isDigit c = true) :
    isSpace c = false ∧ c ≠ 45 ∧ c ≠ 43 ∧ c ≠ 44 := by
  simp only [isDigit, Bool.and_eq_true, decide_eq_true_eq,
    UInt8.le_iff_toNat_le] at hc
  have hlow : 48 ≤ c.toNat := hc.1
  have hne : ∀ d : Byte, d.toNat < 48 → c ≠ d := by
    rintro d hd rfl
    omega
  refine ⟨?_, hne 45 (by decide), hne 43 (by decide), hne 44 (by decide)⟩
  have hspace : c ≠ 32 := hne 32 (by decide)
  have htab : ¬ c ≤ 13 := by
    rw [UInt8.le_iff_toNat_le]
    have h13 : (13 : Byte).toNat = 13 := rfl
    omega
  simp [isSpace, hspace, htab]

/-- What `%d` prints is read back. -/
theorem decimalValue_decimalText
    (n : Int) :
    decimalValue (decimalText n) = n := by
  obtain ⟨c, rest, htext⟩ := List.exists_cons_of_ne_nil
    (digitsText_ne_nil n.natAbs)
  have hvalue := digitsValue_digitsText n.natAbs
  by_cases hneg : n < 0
  · have hdrop : (45 :: digitsText n.natAbs).dropWhile isSpace =
        45 :: digitsText n.natAbs := by
      rw [List.dropWhile_cons_of_neg (by decide)]
    simp only [decimalValue, decimalText, hneg, if_true, hdrop, hvalue]
    omega
  · have hc : isDigit c = true :=
      isDigit_of_mem_digitsText (n := n.natAbs) (by simp [htext])
    obtain ⟨hspace, hminus, hplus, -⟩ := isDigit_ne hc
    have hdrop : (c :: rest).dropWhile isSpace = c :: rest := by
      rw [List.dropWhile_cons_of_neg (by simp [hspace])]
    rw [htext] at hvalue
    simp only [decimalValue, decimalText, hneg, if_false, htext, hdrop, hminus,
      hplus, hvalue]
    omega

/-- `atoi` is the number reduced to an `int`. -/
theorem atoi_eq_wrapInt32
    (s : Bytes) :
    atoi s = wrapInt32 (decimalValue s) := by
  unfold atoi decimalValue
  cases s.dropWhile isSpace with
  | nil =>
      rfl
  | cons c rest =>
      dsimp only
      split
      · rfl
      · split <;> rfl

/-- A number in the range of an `int` is read back. -/
theorem atoi_decimalText
    {n : Int} (hlow : -2 ^ 31 ≤ n) (hhigh : n < 2 ^ 31) :
    atoi (decimalText n) = n := by
  rw [atoi_eq_wrapInt32, decimalValue_decimalText, wrapInt32_of_range hlow hhigh]

/-- `atoi` returns an `int`. -/
theorem atoi_range
    (s : Bytes) :
    -2 ^ 31 ≤ atoi s ∧ atoi s < 2 ^ 31 := by
  rw [atoi_eq_wrapInt32]
  exact wrapInt32_range _

/-- What `%d` prints is read by `%lu` as the number reduced to the type. -/
theorem scanUlong_decimalText
    {bits : Nat} {n : Int} (hn : n.natAbs < 2 ^ bits) :
    scanUlong bits (decimalText n) = some (n % 2 ^ bits).toNat := by
  have hpow : ((2 ^ bits : Nat) : Int) = 2 ^ bits := by
    push_cast
    rfl
  obtain ⟨c, rest, htext⟩ := List.exists_cons_of_ne_nil
    (digitsText_ne_nil n.natAbs)
  have hvalue := digitsValue_digitsText n.natAbs
  have hc : isDigit c = true :=
    isDigit_of_mem_digitsText (n := n.natAbs) (by simp [htext])
  have hdigits : (digitsText n.natAbs).takeWhile isDigit ≠ [] := by
    simp [htext, hc]
  by_cases hneg : n < 0
  · have hdrop : (45 :: digitsText n.natAbs).dropWhile isSpace =
        45 :: digitsText n.natAbs := by
      rw [List.dropWhile_cons_of_neg (by decide)]
    have hmod : n % 2 ^ bits = ((2 ^ bits - n.natAbs) % 2 ^ bits : Nat) := by
      have heq : ((2 ^ bits - n.natAbs : Nat) : Int) = n + 2 ^ bits := by
        omega
      rw [Int.natCast_emod, heq, hpow, Int.add_emod_right]
    simp only [scanUlong, decimalText, hneg, if_true, hdrop, true_or, hdigits, if_false,
      hvalue, Nat.not_le.mpr hn, hmod, Int.toNat_natCast]
  · obtain ⟨hspace, hminus, hplus, -⟩ := isDigit_ne hc
    have hdrop : (c :: rest).dropWhile isSpace = c :: rest := by
      rw [List.dropWhile_cons_of_neg (by simp [hspace])]
    have hmod : n % 2 ^ bits = (n.natAbs : Nat) := by
      rw [Int.emod_eq_of_lt (by omega) (by omega)]
      omega
    rw [htext] at hvalue hdigits
    simp only [scanUlong, decimalText, hneg, if_false, htext, hdrop, hminus, hplus,
      or_self, hdigits, hvalue, Nat.not_le.mpr hn, hmod, Int.toNat_natCast]

/-- There is no blank in a number. -/
theorem isSpace_of_mem_decimalText
    {n : Int} {c : Byte} (hc : c ∈ decimalText n) :
    isSpace c = false := by
  unfold decimalText at hc
  split at hc
  · rcases List.mem_cons.mp hc with rfl | hc
    · decide
    · exact (isDigit_ne (isDigit_of_mem_digitsText hc)).1
  · exact (isDigit_ne (isDigit_of_mem_digitsText hc)).1

/-- A blank before a number is skipped. -/
theorem decimalValue_blank
    (s : Bytes) :
    decimalValue (32 :: s) = decimalValue s := by
  unfold decimalValue
  rw [List.dropWhile_cons_of_pos (by decide)]

/-- There is no comma in a number. -/
theorem comma_not_mem_decimalText
    (n : Int) :
    (44 : Byte) ∉ decimalText n := by
  have hdigits : (44 : Byte) ∉ digitsText n.natAbs := by
    intro hmem
    exact (isDigit_ne (isDigit_of_mem_digitsText hmem)).2.2.2 rfl
  unfold decimalText
  split
  · simp [hdigits]
  · exact hdigits

/-- A text without a comma is one number. -/
theorem tupleValues_single
    {s : Bytes} (hs : (44 : Byte) ∉ s) :
    tupleValues s = [decimalValue s] := by
  simp [tupleValues, List.splitOn_eq_singleton hs]

/-- The number before the first comma. -/
theorem tupleValues_comma
    {s : Bytes} (hs : (44 : Byte) ∉ s) (rest : Bytes) :
    tupleValues (s ++ 44 :: rest) = decimalValue s :: tupleValues rest := by
  simp [tupleValues, List.splitOn_append_cons_self,
    List.splitOn_eq_singleton hs]

/-- A list of numbers is read back from its text, also after a blank. -/
theorem tupleValues_blank_tupleText
    (l : List Int) (hl : l ≠ []) :
    tupleValues (tupleText (l.map decimalText)) = l ∧
      tupleValues (32 :: tupleText (l.map decimalText)) = l := by
  induction l with
  | nil =>
      exact absurd rfl hl
  | cons n rest ih =>
      have hcomma := comma_not_mem_decimalText n
      have hcomma' : (44 : Byte) ∉ 32 :: decimalText n := by
        simp [hcomma]
      cases rest with
      | nil =>
          simp [tupleText, tupleValues_single hcomma,
            tupleValues_single hcomma', decimalValue_decimalText,
            decimalValue_blank]
      | cons m rest =>
          obtain ⟨-, hrest⟩ := ih (by simp)
          have hsplit :
              tupleText ((n :: m :: rest).map decimalText) =
                decimalText n ++ 44 :: 32 ::
                  tupleText ((m :: rest).map decimalText) := by
            simp [tupleText, List.intercalate_cons_cons]
          have hfirst := tupleValues_comma hcomma
            (32 :: tupleText ((m :: rest).map decimalText))
          have hblank := tupleValues_comma hcomma'
            (32 :: tupleText ((m :: rest).map decimalText))
          rw [hrest, decimalValue_decimalText] at hfirst
          rw [hrest, decimalValue_blank, decimalValue_decimalText] at hblank
          rw [hsplit]
          exact ⟨hfirst, hblank⟩

/-- A list of numbers is read back from its text. -/
theorem tupleValues_tupleText
    {l : List Int} (hl : l ≠ []) :
    tupleValues (tupleText (l.map decimalText)) = l :=
  (tupleValues_blank_tupleText l hl).1

end CText
end BrBox
