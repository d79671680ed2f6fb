import BrBox.Lib.CxxText
import BrBox.Lib.DecimalText

/-!
# The table of network interfaces

`ADSysInfo::probe_eth_interface_details` asks the kernel for its interfaces and
writes those of the family `AF_INET` one after the other into an array of the
caller; `read_network_info` has such an array and looks for one interface in it.
The array is memory behind its start, so that an element behind its end can be
written; the writes and reads are noted.

* `probeLoop_total`, `probeLoop_all`: how the loop over the interfaces ends.
* `tableKept_iff`: when the array, the count and the lookup are right.
-/

namespace BrBox
namespace Adav

open CText
open CxxText

/-- `MAX_IFS`. -/
def maxIfs : Nat := 64

/-- `MAX_ALLOWED_INTERFACES`. -/
def maxAllowedInterfaces : Nat := 8

/-- `AF_INET`. -/
def afInet : UInt16 := 2

/-- `ifr_name`: a C string in `IFNAMSIZ` bytes. -/
structure IfName where
  chars : Bytes
  noNul : (0 : Byte) ∉ chars
  fits : chars.length < 16

/-- An entry of the list, with what the kernel answers to the ioctls with its name. -/
structure IfReq where
  ifrName : IfName
  saFamily : UInt16
  /-- `sin_addr` -/
  sinAddr : Vector Byte 4
  /-- `SIOCGIFHWADDR`, none if it fails. -/
  hwAddr : Option (Vector Byte 6)
  /-- `SIOCGIFNETMASK`, none if it fails. -/
  netMask : Option (Vector Byte 4)

/-- What `SIOCGIFCONF` leaves in the `MAX_IFS` entries. -/
structure IfConf where
  entries : List IfReq
  fits : entries.length ≤ maxIfs

/-- `eth_name_ip_str`, each field as its C string. -/
structure EthNameIpStr where
  dev : Bytes
  ip : Bytes
  mac : Bytes
  netmask : Bytes
deriving DecidableEq, Repr

/-- `inet_ntoa`. -/
def inetNtoa (addr : Vector Byte 4) : Bytes :=
  [46].intercalate (addr.toList.map fun b => digitsText b.toNat)

/-- A digit of `%X`. -/
def hexDigitUpper (n : Nat) : Byte :=
  UInt8.ofNat (if n < 10 then 48 + n else 55 + n)

/-- `"%02X:%02X:%02X:%02X:%02X:%02X"`. -/
def macText (addr : Vector Byte 6) : Bytes :=
  [58].intercalate
    (addr.toList.map fun b => [hexDigitUpper (b.toNat / 16), hexDigitUpper (b.toNat % 16)])

/-- What is written into an element. -/
def IfReq.record (ifr : IfReq) (mac : Vector Byte 6) : EthNameIpStr where
  dev := ifr.ifrName.chars
  ip := inetNtoa ifr.sinAddr
  mac := macText mac
  netmask := match ifr.netMask with
    | none => text "not_available"
    | some mask => inetNtoa mask

/-- What `probe_eth_interface_details` returns and leaves in memory. -/
structure Probe where
  ret : Int
  totalDetected : Nat
  /-- The elements from the start of the array on, none where nothing was written. -/
  list : Nat → Option EthNameIpStr
  /-- The elements that have been written; no function looks at them. -/
  writes : List Nat

/-- The loop over the entries, with `i` elements written. -/
def probeLoop :
    List IfReq → (i : Nat) → (Nat → Option EthNameIpStr) → List Nat → Probe
  | [], i, list, writes =>
      { ret := 0, totalDetected := i, list := list, writes := writes }
  | ifr :: rest, i, list, writes =>
      if ifr.saFamily = afInet then
        match ifr.hwAddr with
        | none => { ret := -1, totalDetected := 0, list := list, writes := writes }
        | some mac =>
            if maxAllowedInterfaces < i then
              { ret := 0, totalDetected := i, list := list, writes := writes }
            else
              probeLoop rest (i + 1) (Function.update list i (some (ifr.record mac)))
                (writes ++ [i])
      else
        probeLoop rest i list writes

/-- `probe_eth_interface_details`; `SIOCGIFCONF` fails if there is no answer. -/
def probeEthInterfaceDetails (conf : Option IfConf) : Probe :=
  match conf with
  | none => { ret := -1, totalDetected := 0, list := fun _ => none, writes := [] }
  | some conf => probeLoop conf.entries 0 (fun _ => none) []

/-- What `read_network_info` returns, and the elements that it has read. -/
structure NetworkInfo where
  ret : Int
  mac : Bytes
  ip : Bytes
  netmask : Bytes
  reads : List Nat
deriving DecidableEq, Repr

/-- Nothing has been found, after reading these elements. -/
def NetworkInfo.unknown (reads : List Nat) : NetworkInfo where
  ret := -1
  mac := text "unknown"
  ip := text "unknown"
  netmask := text "unknown"
  reads := reads

/--
The loop of `read_network_info` from element `i` on, with `n` to go.  None is the
read of an element that was never written.
-/
def readLoop (list : Nat → Option EthNameIpStr) (eth : Bytes) :
    (n i : Nat) → List Nat → Option NetworkInfo
  | 0, _, reads => some (.unknown reads)
  | n + 1, i, reads =>
      match list i with
      | none => none
      | some element =>
          if element.dev = text "lo" then
            readLoop list eth n (i + 1) (reads ++ [i])
          else if element.dev = cString eth then
            some
              { ret := 0
                mac := element.mac
                ip := element.ip
                netmask := element.netmask
                reads := reads ++ [i] }
          else
            readLoop list eth n (i + 1) (reads ++ [i])

/-- `read_network_info`. -/
def readNetworkInfo (conf : Option IfConf) (eth : Bytes) : Option NetworkInfo :=
  let probe := probeEthInterfaceDetails conf
  if probe.ret ≠ 0 then
    some (.unknown [])
  else
    readLoop probe.list eth probe.totalDetected 0 []

/-- The entries of the family `AF_INET`. -/
def inetEntries (conf : Option IfConf) : List IfReq :=
  match conf with
  | none => []
  | some conf => conf.entries.filter fun ifr => ifr.saFamily = afInet

/-- The first entry with this name among those that the array is meant for. -/
def reported (conf : Option IfConf) (eth : Bytes) : Option IfReq :=
  ((inetEntries conf).take maxAllowedInterfaces).find? fun ifr =>
    ifr.ifrName.chars = cString eth

/-- The array, the count and the lookup are as they should be. -/
structure TableKept (conf : Option IfConf) : Prop where
  inside :
    ∀ i ∈ (probeEthInterfaceDetails conf).writes, i < maxAllowedInterfaces
  counted :
    (probeEthInterfaceDetails conf).totalDetected =
      (probeEthInterfaceDetails conf).writes.length
  bounded :
    (probeEthInterfaceDetails conf).totalDetected ≤ maxAllowedInterfaces
  /-- Only elements are read that have been written. -/
  readsWritten :
    ∀ eth, ∃ info, readNetworkInfo conf eth = some info ∧
      ∀ i ∈ info.reads, i ∈ (probeEthInterfaceDetails conf).writes
  found :
    ∀ eth ifr, cString eth ≠ text "lo" → reported conf eth = some ifr →
      ∃ info, readNetworkInfo conf eth = some info ∧
        info.ret = 0 ∧ info.ip = inetNtoa ifr.sinAddr

/--
There are eight entries at most and all have a hardware address; or the first one
has none and only the loopback device is among the first eight.
-/
def HasRoom (conf : Option IfConf) : Prop :=
  ((inetEntries conf).length ≤ maxAllowedInterfaces ∧
      ∀ ifr ∈ inetEntries conf, ifr.hwAddr ≠ none) ∨
    ((∃ ifr ∈ (inetEntries conf).head?, ifr.hwAddr = none) ∧
      ∀ ifr ∈ (inetEntries conf).take maxAllowedInterfaces,
        ifr.ifrName.chars = text "lo")

/-! ## How the loops end -/

/-- Entries of other families are passed over. -/
theorem probeLoop_filter
    (entries : List IfReq)
    (i : Nat)
    (list : Nat → Option EthNameIpStr)
    (writes : List Nat) :
    probeLoop entries i list writes =
      probeLoop (entries.filter fun ifr => ifr.saFamily = afInet) i list writes := by
  induction entries generalizing i list writes with
  | nil => rfl
  | cons ifr rest ih =>
      by_cases hfamily : ifr.saFamily = afInet
      · rw [List.filter_cons_of_pos (by simpa using hfamily)]
        simp only [probeLoop, if_pos hfamily]
        cases ifr.hwAddr with
        | none => rfl
        | some mac =>
            simp only [ih]
      · rw [List.filter_cons_of_neg (by simpa using hfamily)]
        simp only [probeLoop, if_neg hfamily]
        exact ih i list writes

theorem probe_some
    (conf : IfConf) :
    probeEthInterfaceDetails (some conf) =
      probeLoop (inetEntries (some conf)) 0 (fun _ => none) [] :=
  probeLoop_filter conf.entries 0 (fun _ => none) []

theorem mem_inetEntries
    (conf : Option IfConf)
    {ifr : IfReq}
    (hmem : ifr ∈ inetEntries conf) :
    ifr.saFamily = afInet := by
  cases conf with
  | none => simp [inetEntries] at hmem
  | some conf => simpa [inetEntries] using (List.mem_filter.mp hmem).2

/-- What has been written stays written. -/
theorem writes_prefix
    (entries : List IfReq)
    (i : Nat)
    (list : Nat → Option EthNameIpStr)
    (writes : List Nat) :
    writes <+: (probeLoop entries i list writes).writes := by
  induction entries generalizing i list writes with
  | nil => exact List.prefix_refl writes
  | cons ifr rest ih =>
      unfold probeLoop
      split
      · split
        · exact List.prefix_refl writes
        · split
          · exact List.prefix_refl writes
          · exact (List.prefix_append writes [i]).trans (ih _ _ _)
      · exact ih i list writes

/--
How many are counted: none after a failed ioctl, all if they have an address and
there are nine at most, and nine otherwise.
-/
theorem probeLoop_total
    (entries : List IfReq)
    (hinet : ∀ ifr ∈ entries, ifr.saFamily = afInet)
    (i : Nat)
    (hi : i ≤ maxAllowedInterfaces + 1)
    (list : Nat → Option EthNameIpStr)
    (writes : List Nat) :
    (probeLoop entries i list writes).totalDetected = 0 ∨
      ((probeLoop entries i list writes).totalDetected = i + entries.length ∧
        ∀ ifr ∈ entries, ifr.hwAddr ≠ none) ∨
      (probeLoop entries i list writes).totalDetected = maxAllowedInterfaces + 1 := by
  induction entries generalizing i list writes with
  | nil => exact .inr (.inl ⟨rfl, by simp⟩)
  | cons ifr rest ih =>
      have hrest : ∀ ifr ∈ rest, ifr.saFamily = afInet :=
        fun ifr hmem => hinet ifr (List.mem_cons_of_mem _ hmem)
      simp only [probeLoop, if_pos (hinet ifr List.mem_cons_self)]
      cases haddr : ifr.hwAddr with
      | none => exact .inl rfl
      | some mac =>
          by_cases hfull : maxAllowedInterfaces < i
          · have hlast : i = maxAllowedInterfaces + 1 := by omega
            simp [hlast]
          · simp only [if_neg hfull]
            rcases ih hrest (i + 1) (by omega) _ (writes ++ [i]) with
              hnone | ⟨htotal, hall⟩ | hnine
            · exact .inl hnone
            · refine .inr (.inl ⟨?_, ?_⟩)
              · rw [htotal, List.length_cons]
                omega
              · intro other hmem
                rcases List.mem_cons.mp hmem with rfl | hmem
                · simp [haddr]
                · exact hall other hmem
            · exact .inr (.inr hnine)

/-- The element that an entry becomes, if it has a hardware address. -/
def IfReq.element (ifr : IfReq) : Option EthNameIpStr :=
  ifr.hwAddr.map ifr.record

/-- If all entries have an address and there is room, each has its element. -/
theorem probeLoop_all
    (entries : List IfReq)
    (hinet : ∀ ifr ∈ entries, ifr.saFamily = afInet)
    (haddr : ∀ ifr ∈ entries, ifr.hwAddr ≠ none)
    (i : Nat)
    (hroom : i + entries.length ≤ maxAllowedInterfaces + 1)
    (list : Nat → Option EthNameIpStr)
    (writes : List Nat) :
    (probeLoop entries i list writes).ret = 0 ∧
      (probeLoop entries i list writes).totalDetected = i + entries.length ∧
      (probeLoop entries i list writes).writes =
        writes ++ List.range' i entries.length ∧
      (∀ k < i, (probeLoop entries i list writes).list k = list k) ∧
      ∀ k ifr, entries[k]? = some ifr →
        (probeLoop entries i list writes).list (i + k) = ifr.element := by
  induction entries generalizing i list writes with
  | nil => simp [probeLoop]
  | cons ifr rest ih =>
      rw [List.length_cons] at hroom
      obtain ⟨mac, hmac⟩ := Option.ne_none_iff_exists'.mp (haddr ifr List.mem_cons_self)
      have hspace : ¬maxAllowedInterfaces < i := by omega
      simp only [probeLoop, if_pos (hinet ifr List.mem_cons_self), hmac, if_neg hspace]
      obtain ⟨hret, htotal, hwrites, hkept, hlist⟩ :=
        ih (fun ifr hmem => hinet ifr (List.mem_cons_of_mem _ hmem))
          (fun ifr hmem => haddr ifr (List.mem_cons_of_mem _ hmem))
          (i + 1) (by omega)
          (Function.update list i (some (ifr.record mac))) (writes ++ [i])
      refine ⟨hret, ?_, ?_, ?_, ?_⟩
      · rw [htotal, List.length_cons]
        omega
      · rw [hwrites, List.length_cons, List.range'_succ]
        simp
      · intro k hk
        rw [hkept k (by omega), Function.update_of_ne (by omega)]
      · intro k other hk
        cases k with
        | zero =>
            -- the element written in this round is kept by the later ones
            obtain rfl : ifr = other := by simpa using hk
            rw [Nat.add_zero i, hkept i (by omega), Function.update_self]
            simp [IfReq.element, hmac]
        | succ k =>
            have hshift : i + (k + 1) = i + 1 + k := by omega
            rw [hshift]
            exact hlist k other (by simpa using hk)

theorem element_dev
    {ifr : IfReq}
    {element : EthNameIpStr}
    (helement : ifr.element = some element) :
    element.dev = ifr.ifrName.chars ∧ element.ip = inetNtoa ifr.sinAddr := by
  obtain ⟨mac, hmac, rfl⟩ := Option.map_eq_some_iff.mp helement
  exact ⟨rfl, rfl⟩

/-- The lookup reads elements of the table only, and finds the first with the name. -/
theorem readLoop_table
    (entries : List IfReq)
    (list : Nat → Option EthNameIpStr)
    (eth : Bytes)
    (i : Nat)
    (hlist :
      ∀ k ifr, entries[k]? = some ifr → ∃ element,
        list (i + k) = some element ∧ ifr.element = some element)
    (reads : List Nat) :
    ∃ info, readLoop list eth entries.length i reads = some info ∧
      (∀ k ∈ info.reads, k ∈ reads ∨ i ≤ k ∧ k < i + entries.length) ∧
      ∀ ifr, cString eth ≠ text "lo" →
        (entries.find? fun ifr => ifr.ifrName.chars = cString eth) = some ifr →
          info.ret = 0 ∧ info.ip = inetNtoa ifr.sinAddr := by
  induction entries generalizing i reads with
  | nil => exact ⟨.unknown reads, rfl, fun k hk => .inl hk, by simp⟩
  | cons ifr rest ih =>
      obtain ⟨element, hthis, helement⟩ := hlist 0 ifr rfl
      obtain ⟨hdev, hip⟩ := element_dev helement
      obtain ⟨info, hinfo, hreads, hfound⟩ :=
        ih (i + 1)
          (fun k other hk => by
            have hshift : i + (k + 1) = i + 1 + k := by omega
            rw [← hshift]
            exact hlist (k + 1) other (by simpa using hk))
          (reads ++ [i])
      have hlater :
          ∀ k ∈ info.reads, k ∈ reads ∨ i ≤ k ∧ k < i + (rest.length + 1) := by
        intro k hk
        rcases hreads k hk with hbefore | hbetween
        · rcases List.mem_append.mp hbefore with hbefore | hthis
          · exact .inl hbefore
          · exact .inr (by rw [List.mem_singleton.mp hthis]; omega)
        · exact .inr (by omega)
      rw [Nat.add_zero] at hthis
      simp only [List.length_cons, readLoop, hthis]
      by_cases hlo : element.dev = text "lo"
      · refine ⟨info, by rw [if_pos hlo]; exact hinfo, hlater, ?_⟩
        intro other hname hfind
        rw [List.find?_cons_of_neg (by simpa [← hdev, hlo] using hname.symm)] at hfind
        exact hfound other hname hfind
      · by_cases heth : element.dev = cString eth
        · rw [if_neg hlo, if_pos heth]
          refine ⟨_, rfl, ?_, ?_⟩
          · intro k hk
            rcases List.mem_append.mp hk with hbefore | hthis
            · exact .inl hbefore
            · exact .inr (by rw [List.mem_singleton.mp hthis]; omega)
          · intro other hname hfind
            rw [List.find?_cons_of_pos (by simpa [← hdev] using heth)] at hfind
            obtain rfl := Option.some.inj hfind
            exact ⟨rfl, hip⟩
        · refine ⟨info, by rw [if_neg hlo, if_neg heth]; exact hinfo, hlater, ?_⟩
          intro other hname hfind
          rw [List.find?_cons_of_neg (by simpa [← hdev] using heth)] at hfind
          exact hfound other hname hfind

/-! ## When the table is kept -/

/-- A first entry without an address ends the loop before anything is written. -/
theorem probe_head
    {conf : Option IfConf}
    (hhead : ∃ ifr ∈ (inetEntries conf).head?, ifr.hwAddr = none) :
    probeEthInterfaceDetails conf =
      { ret := -1, totalDetected := 0, list := fun _ => none, writes := [] } := by
  cases conf with
  | none => rfl
  | some conf =>
      obtain ⟨ifr, hifr, haddr⟩ := hhead
      obtain ⟨rest, hentries⟩ := List.head?_eq_some_iff.mp hifr
      have hinet : ifr.saFamily = afInet :=
        mem_inetEntries (some conf) (by rw [hentries]; exact List.mem_cons_self)
      rw [probe_some, hentries]
      simp only [probeLoop, if_pos hinet, haddr]

theorem reported_spec
    {conf : Option IfConf}
    {eth : Bytes}
    {ifr : IfReq}
    (hreported : reported conf eth = some ifr) :
    ifr ∈ (inetEntries conf).take maxAllowedInterfaces ∧
      ifr.ifrName.chars = cString eth :=
  ⟨List.mem_of_find?_eq_some hreported, by simpa using List.find?_some hreported⟩

/-- With room for all entries the table is right. -/
theorem tableKept_of_room
    {conf : Option IfConf}
    (hroom : (inetEntries conf).length ≤ maxAllowedInterfaces)
    (haddr : ∀ ifr ∈ inetEntries conf, ifr.hwAddr ≠ none) :
    TableKept conf := by
  cases conf with
  | none =>
      refine ⟨by simp [probeEthInterfaceDetails], rfl, Nat.zero_le _, ?_, ?_⟩
      · exact fun eth => ⟨.unknown [], rfl, by simp [NetworkInfo.unknown]⟩
      · intro eth ifr _ hreported
        simp [reported, inetEntries] at hreported
  | some conf =>
      obtain ⟨hret, htotal, hwrites, -, hlist⟩ :=
        probeLoop_all (inetEntries (some conf)) (fun ifr => mem_inetEntries _) haddr 0
          (by omega) (fun _ => none) []
      rw [← probe_some] at hret htotal hwrites hlist
      simp only [Nat.zero_add] at htotal hlist
      rw [List.nil_append] at hwrites
      have hread :
          ∀ eth, readNetworkInfo (some conf) eth =
            readLoop (probeEthInterfaceDetails (some conf)).list eth
              (inetEntries (some conf)).length 0 [] := by
        intro eth
        simp [readNetworkInfo, hret, htotal]
      have htable :=
        fun eth =>
          readLoop_table (inetEntries (some conf))
            (probeEthInterfaceDetails (some conf)).list eth 0
            (fun k ifr hk => by
              obtain ⟨mac, hmac⟩ :=
                Option.ne_none_iff_exists'.mp (haddr ifr (List.mem_of_getElem? hk))
              refine ⟨ifr.record mac, ?_, by simp [IfReq.element, hmac]⟩
              rw [Nat.zero_add, hlist k ifr hk]
              simp [IfReq.element, hmac])
            []
      refine ⟨?_, ?_, ?_, ?_, ?_⟩
      · intro i hi
        rw [hwrites, List.mem_range'_1] at hi
        omega
      · rw [htotal, hwrites, List.length_range']
      · rw [htotal]
        exact hroom
      · intro eth
        obtain ⟨info, hinfo, hreads, -⟩ := htable eth
        refine ⟨info, (hread eth).trans hinfo, ?_⟩
        intro i hi
        rw [hwrites, List.mem_range'_1]
        rcases hreads i hi with hnil | hbetween
        · simp at hnil
        · exact hbetween
      · intro eth ifr hname hreported
        obtain ⟨info, hinfo, -, hfound⟩ := htable eth
        rw [reported, List.take_of_length_le hroom] at hreported
        exact ⟨info, (hread eth).trans hinfo, hfound ifr hname hreported⟩

/-- If the first entry has no address, nothing can be looked up. -/
theorem tableKept_head_iff
    {conf : Option IfConf}
    (hhead : ∃ ifr ∈ (inetEntries conf).head?, ifr.hwAddr = none) :
    TableKept conf ↔
      ∀ ifr ∈ (inetEntries conf).take maxAllowedInterfaces,
        ifr.ifrName.chars = text "lo" := by
  have hprobe := probe_head hhead
  have hread : ∀ eth, readNetworkInfo conf eth = some (.unknown []) := by
    intro eth
    simp [readNetworkInfo, hprobe]
  constructor
  · intro hkept ifr hmem
    by_contra hname
    have hchars : cString ifr.ifrName.chars = ifr.ifrName.chars :=
      cString_of_zero_not_mem ifr.ifrName.noNul
    have hexists : (reported conf ifr.ifrName.chars).isSome := by
      rw [reported, List.find?_isSome]
      exact ⟨ifr, hmem, by simp [hchars]⟩
    obtain ⟨other, hother⟩ := Option.isSome_iff_exists.mp hexists
    obtain ⟨info, hinfo, hret, -⟩ :=
      hkept.found ifr.ifrName.chars other (by rwa [hchars]) hother
    rw [hread] at hinfo
    obtain rfl := Option.some.inj hinfo
    simp [NetworkInfo.unknown] at hret
  · intro hlo
    refine ⟨by simp [hprobe], by simp [hprobe], by simp [hprobe], ?_, ?_⟩
    · exact fun eth => ⟨_, hread eth, by simp [NetworkInfo.unknown]⟩
    · intro eth ifr hname hreported
      obtain ⟨hmem, hchars⟩ := reported_spec hreported
      exact absurd (hchars.symm.trans (hlo ifr hmem)) hname

/-- A table that is right had room for all entries, and all had an address. -/
theorem room_of_tableKept
    {conf : Option IfConf}
    (hhead : ¬∃ ifr ∈ (inetEntries conf).head?, ifr.hwAddr = none)
    (hkept : TableKept conf) :
    (inetEntries conf).length ≤ maxAllowedInterfaces ∧
      ∀ ifr ∈ inetEntries conf, ifr.hwAddr ≠ none := by
  cases conf with
  | none => simp [inetEntries]
  | some conf =>
      cases hentries : inetEntries (some conf) with
      | nil => simp
      | cons ifr rest =>
          have hsome : ifr.hwAddr ≠ none := by
            intro hnone
            exact hhead ⟨ifr, by rw [hentries]; rfl, hnone⟩
          obtain ⟨mac, hmac⟩ := Option.ne_none_iff_exists'.mp hsome
          have hinet : ∀ ifr' ∈ ifr :: rest, ifr'.saFamily = afInet :=
            fun ifr' hmem => mem_inetEntries (some conf) (by rw [hentries]; exact hmem)
          have hprobe := probe_some conf
          rw [hentries] at hprobe
          have hfirst : [0] <+: (probeEthInterfaceDetails (some conf)).writes := by
            rw [hprobe]
            simp only [probeLoop, if_pos (hinet ifr List.mem_cons_self), hmac]
            exact writes_prefix rest 1 _ [0]
          have hpositive : 0 < (probeEthInterfaceDetails (some conf)).totalDetected := by
            rw [hkept.counted]
            exact hfirst.length_le
          have hbounded := hkept.bounded
          have htotal := probeLoop_total (ifr :: rest) hinet 0 (Nat.zero_le _)
            (fun _ => none) []
          rw [← hprobe] at htotal
          rcases htotal with hnone | ⟨htotal, hall⟩ | hnine
          · omega
          · exact ⟨by omega, hall⟩
          · omega

/-- The table, the count and the lookup are right if and only if there is room. -/
theorem tableKept_iff
    (conf : Option IfConf) :
    TableKept conf ↔ HasRoom conf := by
  by_cases hhead : ∃ ifr ∈ (inetEntries conf).head?, ifr.hwAddr = none
  · rw [tableKept_head_iff hhead, HasRoom]
    constructor
    · exact fun hlo => .inr ⟨hhead, hlo⟩
    · rintro (⟨-, haddr⟩ | ⟨-, hlo⟩)
      · obtain ⟨ifr, hifr, hnone⟩ := hhead
        exact absurd hnone (haddr ifr (List.mem_of_mem_head? hifr))
      · exact hlo
  · constructor
    · exact fun hkept => .inl (room_of_tableKept hhead hkept)
    · rintro (⟨hroom, haddr⟩ | ⟨hnone, -⟩)
      · exact tableKept_of_room hroom haddr
      · exact absurd hnone hhead

theorem eth0_noNul :
    (0 : Byte) ∉ text "eth0" := by
  decide

theorem eth0_fits :
    (text "eth0").length < 16 := by
  decide

/-- One of the addresses of `eth0`. -/
def eth0Address (n : Byte) : IfReq where
  ifrName := ⟨text "eth0", eth0_noNul, eth0_fits⟩
  saFamily := afInet
  sinAddr := #v[10, 0, 0, n]
  hwAddr := some #v[2, 0, 0, 0, 0, 1]
  netMask := some #v[255, 255, 255, 0]

theorem nineAddresses_fits :
    ([1, 2, 3, 4, 5, 6, 7, 8, 9].map eth0Address).length ≤ maxIfs := by
  decide

/-- An interface with nine addresses. -/
def nineAddresses : IfConf where
  entries := [1, 2, 3, 4, 5, 6, 7, 8, 9].map eth0Address
  fits := nineAddresses_fits

/-- The ninth address is written behind the end of the array. -/
theorem not_tableKept_nine :
    ¬TableKept (some nineAddresses) := by
  intro hkept
  have hninth : 8 ∈ (probeEthInterfaceDetails (some nineAddresses)).writes := by
    decide
  exact absurd (hkept.inside 8 hninth) (by decide)

end Adav
end BrBox
