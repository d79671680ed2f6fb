import BrBox.Adav.TaskWorker
import BrBox.Lib.DecimalText
import BrBox.Lib.InputStream

/-!
# Node strings of a bus

`I2CBusAccess::is_it_network_node` takes a port, a port and an address, or an
address and a port, with a colon between the two.

* `isItNetworkNode_success_iff`: what it accepts, and what it makes of it.
* `nodeRead_iff`: when that is what its comment says.
-/

namespace BrBox
namespace Adav

open CText
open InputStream

/-- `I2CBusAccess::is_number`. -/
def isNumber (s : Bytes) : Bool :=
  !s.isEmpty && s.all isDigit

/-- An octet of an address: a number up to 255 without a leading zero. -/
def isOctet (s : Bytes) : Bool :=
  isNumber s && (s.length == 1 || s.head? != some 48) && decide (digitsValue s ≤ 255)

/-- `inet_pton` with `AF_INET`: four octets with dots between them. -/
def inetPton (s : Bytes) : Bool :=
  (s.splitOn 46).length == 4 && (s.splitOn 46).all isOctet

/-- `I2CBusAccess::validateIpAddress`. -/
def validateIpAddress (ipAddress : Bytes) : Bool :=
  inetPton (cString ipAddress)

/-- `"127.0.0.1"` -/
def localIp : Bytes :=
  [49, 50, 55, 46, 48, 46, 48, 46, 49]

/-- `"none"` -/
def noIp : Bytes :=
  [110, 111, 110, 101]

/-- The strings that `getline` reads up to each `':'`. -/
def nodeFields (devnode : Bytes) : List Bytes :=
  foldReads 58 (fun strings s => strings ++ [s]) (Stream.ofText devnode) []

/-- The result of `is_it_network_node`, and its port and address. -/
structure NodeResult where
  result : RpcSrvResult
  port : Int
  ip : Bytes
deriving DecidableEq, Repr

/-- The address, once the port has been found. -/
def nodeIp (port : Int) (str1 str2 : Bytes) : NodeResult :=
  if validateIpAddress str1 then
    { result := .success, port := port, ip := str1 }
  else if validateIpAddress str2 then
    { result := .success, port := port, ip := str2 }
  else
    { result := .fail, port := port, ip := noIp }

/-- `is_it_network_node` from its two strings on. -/
def nodeOfStrings (str1 str2 : Bytes) : NodeResult :=
  if isNumber str1 then
    nodeIp (atoi (cString str1)) str1 str2
  else if isNumber str2 then
    nodeIp (atoi (cString str2)) str1 str2
  else
    { result := .fail, port := -1, ip := noIp }

/-- `I2CBusAccess::is_it_network_node`. -/
def isItNetworkNode (devnode : Bytes) : NodeResult :=
  match nodeFields devnode with
  | [str1, str2] => nodeOfStrings str1 str2
  | [str1] => nodeOfStrings str1 localIp
  | _ => { result := .fail, port := -1, ip := noIp }

/-- A decimal number that is a port. -/
def IsPort (s : Bytes) : Prop :=
  isNumber s = true ∧ 1 ≤ digitsValue s ∧ digitsValue s ≤ 65535

/-- What the comment on `is_it_network_node` describes, with port and address. -/
inductive NodeString : Bytes → Nat → Bytes → Prop
  | port {p : Bytes} :
      IsPort p → NodeString p (digitsValue p) localIp
  | portAddress {p a : Bytes} :
      IsPort p → inetPton a = true → NodeString (p ++ 58 :: a) (digitsValue p) a
  | addressPort {p a : Bytes} :
      IsPort p → inetPton a = true → NodeString (a ++ 58 :: p) (digitsValue p) a

/-- The call succeeds on just these strings, with their port and address. -/
structure NodeRead (s : Bytes) : Prop where
  accepts : (isItNetworkNode s).result = .success ↔ ∃ port ip, NodeString s port ip
  reads : ∀ port ip, NodeString s port ip →
    (isItNetworkNode s).port = port ∧ (isItNetworkNode s).ip = ip

/--
The same forms as the code tells them apart: any number, and an address up to
its first NUL.
-/
inductive NodeBody : Bytes → Bytes → Bytes → Prop
  | port {p : Bytes} :
      isNumber p = true → NodeBody p p localIp
  | portAddress {p a : Bytes} :
      isNumber p = true → validateIpAddress a = true → 58 ∉ a →
      NodeBody (p ++ 58 :: a) p a
  | addressPort {p a : Bytes} :
      isNumber p = true → validateIpAddress a = true → 58 ∉ a →
      NodeBody (a ++ 58 :: p) p a

/-- A number has only digits. -/
theorem isNumber_iff
    (s : Bytes) :
    isNumber s = true ↔ s ≠ [] ∧ ∀ c ∈ s, isDigit c = true := by
  simp [isNumber]

/-- A byte that is no digit is not in a number. -/
theorem not_mem_of_isNumber
    {s : Bytes} {c : Byte}
    (hs : isNumber s = true)
    (hc : isDigit c = false) :
    c ∉ s := by
  intro hmem
  rw [((isNumber_iff s).mp hs).2 c hmem] at hc
  cases hc

/-- Each byte of a text is a delimiter or in one of its fields. -/
theorem mem_splitOn
    {delim c : Byte} {s : Bytes}
    (hc : c ∈ s) :
    c = delim ∨ ∃ field ∈ s.splitOn delim, c ∈ field := by
  induction hlen : s.length using Nat.strongRecOn generalizing s with
  | ind n ih =>
      subst hlen
      rcases eq_line_or_append delim s with hline | ⟨line, rest, hline, rfl⟩
      · rw [List.splitOn_eq_singleton hline]
        exact Or.inr ⟨s, List.mem_singleton_self s, hc⟩
      · rw [List.splitOn_append_cons_self_of_not_mem hline]
        rcases List.mem_append.mp hc with hmem | hmem
        · exact Or.inr ⟨line, List.mem_cons_self, hmem⟩
        · rcases List.mem_cons.mp hmem with heq | hmem
          · exact Or.inl heq
          · have hless : rest.length < (line ++ delim :: rest).length := by
              rw [List.length_append, List.length_cons]
              omega
            rcases ih rest.length hless hmem rfl with heq | ⟨field, hfield, hin⟩
            · exact Or.inl heq
            · exact Or.inr ⟨field, List.mem_cons_of_mem line hfield, hin⟩

/-- An address has digits and dots only. -/
theorem mem_of_inetPton
    {a : Bytes} {c : Byte}
    (ha : inetPton a = true)
    (hc : c ∈ a) :
    c = 46 ∨ isDigit c = true := by
  simp only [inetPton, Bool.and_eq_true, List.all_eq_true] at ha
  rcases @mem_splitOn 46 c a hc with heq | ⟨field, hfield, hin⟩
  · exact Or.inl heq
  · have hoctet := ha.2 field hfield
    simp only [isOctet, Bool.and_eq_true] at hoctet
    exact Or.inr (((isNumber_iff field).mp hoctet.1.1).2 c hin)

/-- An address has a dot. -/
theorem dot_mem_of_inetPton
    {a : Bytes}
    (ha : inetPton a = true) :
    46 ∈ a := by
  by_contra hmem
  rw [inetPton, List.splitOn_eq_singleton hmem] at ha
  simp at ha

/-- An address is its own C string and holds no colon. -/
theorem address_of_inetPton
    {a : Bytes}
    (ha : inetPton a = true) :
    (0 : Byte) ∉ a ∧ 58 ∉ a ∧ validateIpAddress a = true := by
  have hout : ∀ c : Byte, c ≠ 46 → isDigit c = false → c ∉ a := by
    intro c hdot hdigit hmem
    rcases mem_of_inetPton ha hmem with h | h
    · exact hdot h
    · rw [hdigit] at h
      cases h
  have hzero := hout 0 (by decide) (by decide)
  exact ⟨hzero, hout 58 (by decide) (by decide), by
    rw [validateIpAddress, cString_of_zero_not_mem hzero, ha]⟩

/-- An address without NUL that is accepted is an address. -/
theorem inetPton_of_validate
    {a : Bytes}
    (ha : validateIpAddress a = true)
    (hzero : (0 : Byte) ∉ a) :
    inetPton a = true := by
  rwa [validateIpAddress, cString_of_zero_not_mem hzero] at ha

/-- A number is not accepted as an address. -/
theorem validate_of_isNumber
    {s : Bytes}
    (hs : isNumber s = true) :
    validateIpAddress s = false := by
  rw [Bool.eq_false_iff]
  intro ha
  have hdot := dot_mem_of_inetPton
    (inetPton_of_validate ha (not_mem_of_isNumber hs (by decide)))
  exact not_mem_of_isNumber hs (by decide) hdot

theorem ne_nil_of_validate
    {a : Bytes}
    (ha : validateIpAddress a = true) :
    a ≠ [] := by
  rintro rfl
  exact absurd ha (by decide)

/-- `atoi` of a number, digit by digit. -/
theorem atoi_of_isNumber
    {s : Bytes}
    (hs : isNumber s = true) :
    atoi (cString s) = wrapInt32 (digitsValue s) := by
  obtain ⟨hne, hdigits⟩ := (isNumber_iff s).mp hs
  obtain ⟨c, rest, rfl⟩ := List.exists_cons_of_ne_nil hne
  obtain ⟨hspace, hminus, hplus, -⟩ := isDigit_ne (hdigits c List.mem_cons_self)
  rw [cString_of_zero_not_mem (not_mem_of_isNumber hs (by decide)), atoi,
    List.dropWhile_cons_of_neg (by simp [hspace])]
  simp only [hminus, hplus, if_false]

/-! ## The strings between the colons -/

theorem foldReads_push
    (s : Bytes) (acc : List Bytes) :
    foldReads 58 (fun strings s => strings ++ [s]) (Stream.ofText s) acc =
      acc ++ nodeFields s := by
  induction hlen : s.length using Nat.strongRecOn generalizing s acc with
  | ind n ih =>
      subst hlen
      unfold nodeFields
      rcases eq_line_or_append 58 s with hline | ⟨line, rest, hline, rfl⟩
      · by_cases hne : s = []
        · subst hne
          rw [foldReads_nil, foldReads_nil, List.append_nil]
        · rw [foldReads_of_not_mem hline hne, foldReads_of_not_mem hline hne,
            List.nil_append]
      · have hless : rest.length < (line ++ 58 :: rest).length := by
          rw [List.length_append, List.length_cons]
          omega
        rw [foldReads_append_cons hline, foldReads_append_cons hline,
          ih rest.length hless rest _ rfl, ih rest.length hless rest _ rfl,
          List.nil_append, List.append_assoc]

theorem nodeFields_nil :
    nodeFields [] = [] :=
  foldReads_nil _ _

theorem nodeFields_of_not_mem
    {s : Bytes}
    (hcolon : 58 ∉ s)
    (hne : s ≠ []) :
    nodeFields s = [s] :=
  foldReads_of_not_mem hcolon hne _ _

theorem nodeFields_append_cons
    {s : Bytes}
    (hcolon : 58 ∉ s)
    (rest : Bytes) :
    nodeFields (s ++ 58 :: rest) = s :: nodeFields rest := by
  rw [nodeFields, foldReads_append_cons hcolon, foldReads_push]
  rfl

/-- A text has no field only if it is empty. -/
theorem nodeFields_ne_nil
    {s : Bytes}
    (hne : s ≠ []) :
    nodeFields s ≠ [] := by
  rcases eq_line_or_append 58 s with hcolon | ⟨line, rest, hcolon, rfl⟩
  · rw [nodeFields_of_not_mem hcolon hne]
    exact List.cons_ne_nil _ _
  · rw [nodeFields_append_cons hcolon]
    exact List.cons_ne_nil _ _

/-! ## What is accepted -/

/-- What is made of a number and an address. -/
def nodeFound (p a : Bytes) : NodeResult where
  result := .success
  port := wrapInt32 (digitsValue p)
  ip := a

theorem nodeOfStrings_portAddress
    {str1 str2 : Bytes}
    (hport : isNumber str1 = true)
    (haddress : validateIpAddress str2 = true) :
    nodeOfStrings str1 str2 = nodeFound str1 str2 := by
  have hnot := validate_of_isNumber hport
  simp [nodeOfStrings, nodeIp, hport, haddress, hnot, atoi_of_isNumber hport, nodeFound]

theorem nodeOfStrings_addressPort
    {str1 str2 : Bytes}
    (hport : isNumber str2 = true)
    (haddress : validateIpAddress str1 = true) :
    nodeOfStrings str1 str2 = nodeFound str2 str1 := by
  have hnot : isNumber str1 = false := by
    rw [Bool.eq_false_iff]
    intro h
    rw [validate_of_isNumber h] at haddress
    cases haddress
  simp [nodeOfStrings, nodeIp, hport, haddress, hnot, atoi_of_isNumber hport, nodeFound]

/-- One of the two strings is the port and the other one the address. -/
theorem nodeOfStrings_success
    {str1 str2 : Bytes}
    (hresult : (nodeOfStrings str1 str2).result = .success) :
    (isNumber str1 = true ∧ validateIpAddress str2 = true) ∨
      (isNumber str2 = true ∧ validateIpAddress str1 = true) := by
  unfold nodeOfStrings nodeIp at hresult
  cases h1 : isNumber str1 with
  | true =>
      rw [h1, if_pos rfl, validate_of_isNumber h1] at hresult
      cases h2 : validateIpAddress str2 with
      | true =>
          exact Or.inl ⟨rfl, rfl⟩
      | false =>
          rw [h2] at hresult
          cases hresult
  | false =>
      rw [h1] at hresult
      cases h2 : isNumber str2 with
      | true =>
          rw [h2, validate_of_isNumber h2] at hresult
          cases h3 : validateIpAddress str1 with
          | true =>
              exact Or.inr ⟨rfl, rfl⟩
          | false =>
              rw [h3] at hresult
              cases hresult
      | false =>
          rw [h2] at hresult
          cases hresult

theorem validate_localIp :
    validateIpAddress localIp = true := by
  decide

/-- Each of the forms is accepted, with a colon behind it as well. -/
theorem isItNetworkNode_of_body
    {s p a : Bytes}
    (hbody : NodeBody s p a) :
    isItNetworkNode s = nodeFound p a ∧ isItNetworkNode (s ++ [58]) = nodeFound p a := by
  cases hbody with
  | port hport =>
      have hcolon := not_mem_of_isNumber hport (c := 58) (by decide)
      have hne := ((isNumber_iff _).mp hport).1
      rw [isItNetworkNode, isItNetworkNode, nodeFields_of_not_mem hcolon hne,
        nodeFields_append_cons hcolon, nodeFields_nil]
      exact ⟨nodeOfStrings_portAddress hport validate_localIp,
        nodeOfStrings_portAddress hport validate_localIp⟩
  | portAddress hport haddress hin =>
      have hcolon := not_mem_of_isNumber hport (c := 58) (by decide)
      rw [List.append_assoc, List.cons_append, isItNetworkNode, isItNetworkNode,
        nodeFields_append_cons hcolon, nodeFields_append_cons hcolon,
        nodeFields_of_not_mem hin (ne_nil_of_validate haddress),
        nodeFields_append_cons hin, nodeFields_nil]
      exact ⟨nodeOfStrings_portAddress hport haddress,
        nodeOfStrings_portAddress hport haddress⟩
  | addressPort hport haddress hin =>
      have hcolon := not_mem_of_isNumber hport (c := 58) (by decide)
      have hne := ((isNumber_iff _).mp hport).1
      rw [List.append_assoc, List.cons_append, isItNetworkNode, isItNetworkNode,
        nodeFields_append_cons hin, nodeFields_append_cons hin,
        nodeFields_of_not_mem hcolon hne, nodeFields_append_cons hcolon, nodeFields_nil]
      exact ⟨nodeOfStrings_addressPort hport haddress,
        nodeOfStrings_addressPort hport haddress⟩

/-- The two strings of a node that is accepted. -/
theorem body_of_strings
    {str1 str2 : Bytes}
    (hcolon1 : 58 ∉ str1)
    (hcolon2 : 58 ∉ str2)
    (hresult : (nodeOfStrings str1 str2).result = .success) :
    ∃ p a, NodeBody (str1 ++ 58 :: str2) p a := by
  rcases nodeOfStrings_success hresult with ⟨hport, haddress⟩ | ⟨hport, haddress⟩
  · exact ⟨str1, str2, .portAddress hport haddress hcolon2⟩
  · exact ⟨str2, str1, .addressPort hport haddress hcolon1⟩

/-- A single string that is accepted is a port. -/
theorem body_of_string
    {str1 : Bytes}
    (hresult : (nodeOfStrings str1 localIp).result = .success) :
    ∃ p a, NodeBody str1 p a := by
  rcases nodeOfStrings_success hresult with ⟨hport, -⟩ | ⟨hport, -⟩
  · exact ⟨str1, localIp, .port hport⟩
  · exact absurd hport (by decide)

/-- What is accepted is one of the forms, or one of them and a colon. -/
theorem isItNetworkNode_success_iff
    (s : Bytes) :
    (isItNetworkNode s).result = .success ↔
      ∃ p a, NodeBody s p a ∨ ∃ body, NodeBody body p a ∧ s = body ++ [58] := by
  constructor
  · intro hresult
    rw [isItNetworkNode] at hresult
    rcases eq_line_or_append 58 s with hcolon | ⟨str1, rest, hcolon1, rfl⟩
    · by_cases hne : s = []
      · rw [hne, nodeFields_nil] at hresult
        cases hresult
      · rw [nodeFields_of_not_mem hcolon hne] at hresult
        obtain ⟨p, a, hbody⟩ := body_of_string hresult
        exact ⟨p, a, Or.inl hbody⟩
    · rw [nodeFields_append_cons hcolon1] at hresult
      rcases eq_line_or_append 58 rest with hcolon2 | ⟨str2, more, hcolon2, rfl⟩
      · by_cases hne : rest = []
        · subst hne
          rw [nodeFields_nil] at hresult
          obtain ⟨p, a, hbody⟩ := body_of_string hresult
          exact ⟨p, a, Or.inr ⟨str1, hbody, rfl⟩⟩
        · rw [nodeFields_of_not_mem hcolon2 hne] at hresult
          obtain ⟨p, a, hbody⟩ := body_of_strings hcolon1 hcolon2 hresult
          exact ⟨p, a, Or.inl hbody⟩
      · rw [nodeFields_append_cons hcolon2] at hresult
        by_cases hne : more = []
        · subst hne
          rw [nodeFields_nil] at hresult
          obtain ⟨p, a, hbody⟩ := body_of_strings hcolon1 hcolon2 hresult
          exact ⟨p, a, Or.inr ⟨_, hbody, by simp⟩⟩
        · obtain ⟨field, fields, hfields⟩ :=
            List.exists_cons_of_ne_nil (nodeFields_ne_nil hne)
          rw [hfields] at hresult
          cases hresult
  · rintro ⟨p, a, hbody | ⟨body, hbody, rfl⟩⟩
    · rw [(isItNetworkNode_of_body hbody).1]
      rfl
    · rw [(isItNetworkNode_of_body hbody).2]
      rfl

/-- A form does not end with a colon. -/
theorem NodeBody.getLast?_ne
    {s p a : Bytes}
    (hbody : NodeBody s p a) :
    s.getLast? ≠ some 58 := by
  have hlast : ∀ t : Bytes, 58 ∉ t → t.getLast? ≠ some 58 := by
    intro t ht hsome
    exact ht (List.mem_of_getLast? hsome)
  have htail :
      ∀ front t : Bytes, t ≠ [] → 58 ∉ t → (front ++ 58 :: t).getLast? ≠ some 58 := by
    intro front t hne ht
    obtain ⟨c, rest, rfl⟩ := List.exists_cons_of_ne_nil hne
    rw [List.getLast?_append, List.getLast?_cons_cons]
    rw [List.getLast?_eq_some_getLast (List.cons_ne_nil c rest), Option.some_or]
    rw [← List.getLast?_eq_some_getLast]
    exact hlast _ ht
  cases hbody with
  | port hport =>
      exact hlast _ (not_mem_of_isNumber hport (by decide))
  | portAddress hport haddress hin =>
      exact htail _ _ (ne_nil_of_validate haddress) hin
  | addressPort hport haddress hin =>
      exact htail _ _ ((isNumber_iff _).mp hport).1 (not_mem_of_isNumber hport (by decide))

/-- The strings of a form are its number and its address in some order. -/
theorem NodeBody.fields
    {s p a : Bytes}
    (hbody : NodeBody s p a) :
    (nodeFields s = [p] ∧ a = localIp) ∨
      nodeFields s = [p, a] ∨ nodeFields s = [a, p] := by
  cases hbody with
  | port hport =>
      exact Or.inl ⟨nodeFields_of_not_mem (not_mem_of_isNumber hport (by decide))
        ((isNumber_iff _).mp hport).1, rfl⟩
  | portAddress hport haddress hin =>
      refine Or.inr (Or.inl ?_)
      rw [nodeFields_append_cons (not_mem_of_isNumber hport (by decide)),
        nodeFields_of_not_mem hin (ne_nil_of_validate haddress)]
  | addressPort hport haddress hin =>
      refine Or.inr (Or.inr ?_)
      rw [nodeFields_append_cons hin,
        nodeFields_of_not_mem (not_mem_of_isNumber hport (by decide))
          ((isNumber_iff _).mp hport).1]

theorem NodeBody.number
    {s p a : Bytes}
    (hbody : NodeBody s p a) :
    isNumber p = true := by
  cases hbody with
  | port hport =>
      exact hport
  | portAddress hport haddress hin =>
      exact hport
  | addressPort hport haddress hin =>
      exact hport

theorem NodeBody.address
    {s p a : Bytes}
    (hbody : NodeBody s p a) :
    validateIpAddress a = true := by
  cases hbody with
  | port hport =>
      exact validate_localIp
  | portAddress hport haddress hin =>
      exact haddress
  | addressPort hport haddress hin =>
      exact haddress

/-- A text has one number and one address. -/
theorem NodeBody.unique
    {s p a p' a' : Bytes}
    (hbody : NodeBody s p a)
    (hbody' : NodeBody s p' a') :
    p = p' ∧ a = a' := by
  -- a number in the other's place would be an address as well
  have hcross : ∀ t : Bytes, isNumber t = true → validateIpAddress t = true → False := by
    intro t hnumber haddress
    rw [validate_of_isNumber hnumber] at haddress
    cases haddress
  rcases hbody.fields with ⟨hs, ha⟩ | hs | hs
  · rcases hbody'.fields with ⟨hs', ha'⟩ | hs' | hs'
    · rw [hs] at hs'
      simp only [List.cons.injEq, and_true] at hs'
      exact ⟨hs', ha.trans ha'.symm⟩
    · simp [hs] at hs'
    · simp [hs] at hs'
  · rcases hbody'.fields with ⟨hs', ha'⟩ | hs' | hs'
    · simp [hs] at hs'
    · simpa [hs] using hs'
    · simp only [hs, List.cons.injEq, and_true] at hs'
      exact (hcross p hbody.number (hs'.1 ▸ hbody'.address)).elim
  · rcases hbody'.fields with ⟨hs', ha'⟩ | hs' | hs'
    · simp [hs] at hs'
    · simp only [hs, List.cons.injEq, and_true] at hs'
      exact (hcross p hbody.number (hs'.2 ▸ hbody'.address)).elim
    · simp only [hs, List.cons.injEq, and_true] at hs'
      exact ⟨hs'.2, hs'.1⟩

/-- The comment describes the forms with a port and an address without NUL. -/
theorem nodeString_iff
    (s : Bytes) (port : Nat) (ip : Bytes) :
    NodeString s port ip ↔
      ∃ p, NodeBody s p ip ∧ port = digitsValue p ∧
        1 ≤ digitsValue p ∧ digitsValue p ≤ 65535 ∧ (0 : Byte) ∉ ip := by
  constructor
  · intro hstring
    cases hstring with
    | port hport =>
        exact ⟨s, .port hport.1, rfl, hport.2.1, hport.2.2, by decide⟩
    | portAddress hport haddress =>
        obtain ⟨hzero, hcolon, hvalid⟩ := address_of_inetPton haddress
        exact ⟨_, .portAddress hport.1 hvalid hcolon, rfl, hport.2.1, hport.2.2, hzero⟩
    | addressPort hport haddress =>
        obtain ⟨hzero, hcolon, hvalid⟩ := address_of_inetPton haddress
        exact ⟨_, .addressPort hport.1 hvalid hcolon, rfl, hport.2.1, hport.2.2, hzero⟩
  · rintro ⟨p, hbody, rfl, hlow, hhigh, hzero⟩
    cases hbody with
    | port hport =>
        exact .port ⟨hport, hlow, hhigh⟩
    | portAddress hport haddress hin =>
        exact .portAddress ⟨hport, hlow, hhigh⟩ (inetPton_of_validate haddress hzero)
    | addressPort hport haddress hin =>
        exact .addressPort ⟨hport, hlow, hhigh⟩ (inetPton_of_validate haddress hzero)

/--
A text is read as the comment says exactly if it is not a form with a colon
behind it and, being a form, has a port and an address without NUL.
-/
theorem nodeRead_iff
    (s : Bytes) :
    NodeRead s ↔
      (∀ body p a, NodeBody body p a → s ≠ body ++ [58]) ∧
        ∀ p a, NodeBody s p a →
          1 ≤ digitsValue p ∧ digitsValue p ≤ 65535 ∧ (0 : Byte) ∉ a := by
  constructor
  · intro hread
    have hform :
        (isItNetworkNode s).result = .success →
          ∃ p a, NodeBody s p a ∧
            1 ≤ digitsValue p ∧ digitsValue p ≤ 65535 ∧ (0 : Byte) ∉ a := by
      intro hsuccess
      obtain ⟨port, a, hstring⟩ := hread.accepts.mp hsuccess
      obtain ⟨p, hbody, -, hlow, hhigh, hzero⟩ := (nodeString_iff s port a).mp hstring
      exact ⟨p, a, hbody, hlow, hhigh, hzero⟩
    refine ⟨?_, ?_⟩
    · intro body p a hbody hs
      have hsuccess := (isItNetworkNode_success_iff s).mpr
        ⟨p, a, Or.inr ⟨body, hbody, hs⟩⟩
      obtain ⟨p', a', hbody', -⟩ := hform hsuccess
      exact hbody'.getLast?_ne (by simp [hs])
    · intro p a hbody
      have hsuccess := (isItNetworkNode_success_iff s).mpr ⟨p, a, Or.inl hbody⟩
      obtain ⟨p', a', hbody', hrange⟩ := hform hsuccess
      obtain ⟨rfl, rfl⟩ := hbody.unique hbody'
      exact hrange
  · rintro ⟨hcolon, hrange⟩
    refine ⟨⟨?_, ?_⟩, ?_⟩
    · intro hsuccess
      obtain ⟨p, a, hbody | ⟨body, hbody, hs⟩⟩ := (isItNetworkNode_success_iff s).mp hsuccess
      · obtain ⟨hlow, hhigh, hzero⟩ := hrange p a hbody
        exact ⟨digitsValue p, a,
          (nodeString_iff s _ a).mpr ⟨p, hbody, rfl, hlow, hhigh, hzero⟩⟩
      · exact absurd hs (hcolon body p a hbody)
    · rintro ⟨port, ip, hstring⟩
      obtain ⟨p, hbody, -⟩ := (nodeString_iff s port ip).mp hstring
      exact (isItNetworkNode_success_iff s).mpr ⟨p, ip, Or.inl hbody⟩
    · intro port ip hstring
      obtain ⟨p, hbody, rfl, hlow, hhigh, -⟩ := (nodeString_iff s port ip).mp hstring
      have hkept : wrapInt32 (digitsValue p : Int) = digitsValue p := by
        apply wrapInt32_of_range <;> omega
      rw [(isItNetworkNode_of_body hbody).1]
      simp only [nodeFound, hkept, and_self]

/--
`"40007:"`, `"0"` and `"127.0.0.1:70000"` are accepted, and so is a port behind
`"127.0.0.1"`, a NUL and a blank.
-/
theorem not_nodeRead_colon :
    ¬ NodeRead [52, 48, 48, 48, 55, 58] ∧
    ¬ NodeRead [48] ∧
    ¬ NodeRead (localIp ++ [58, 55, 48, 48, 48, 48]) ∧
    ¬ NodeRead (localIp ++ [0, 32, 58, 56, 48]) := by
  refine ⟨?_, ?_, ?_, ?_⟩
  · intro h
    exact ((nodeRead_iff _).mp h).1 [52, 48, 48, 48, 55] _ _ (.port (by decide)) rfl
  · intro h
    have hrange := ((nodeRead_iff _).mp h).2 [48] _ (.port (by decide))
    exact absurd hrange.1 (by decide)
  · intro h
    have hrange := ((nodeRead_iff _).mp h).2 [55, 48, 48, 48, 48] localIp
      (.addressPort (by decide) (by decide) (by decide))
    exact absurd hrange.2.1 (by decide)
  · intro h
    have hbody : NodeBody (localIp ++ [0, 32] ++ 58 :: [56, 48]) [56, 48] (localIp ++ [0, 32]) :=
      .addressPort (by decide) (by decide) (by decide)
    have hrange := ((nodeRead_iff _).mp h).2 _ _ hbody
    exact absurd hrange.2.2 (by decide)

end Adav
end BrBox
