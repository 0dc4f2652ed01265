import Mathlib.Data.List.Induction
import Mathlib.Tactic.Ring

namespace VpnTunnel.Foundation

/-! Addresses and networks as the `ipaddress` module of Python reads them. -/

inductive IpVersion
  | v4
  | v6
  deriving DecidableEq, Repr

/-- `_max_prefixlen` -/
def IpVersion.width : IpVersion → ℕ
  | .v4 => 32
  | .v6 => 128

structure IpAddress where
  version : IpVersion
  value : ℕ
  fits : value < 2 ^ version.width
  deriving DecidableEq, Repr

/-- A network as it is written: an address, whose host bits may be set, and the
length of the prefix. -/
structure IpInterface where
  address : IpAddress
  prefixLen : ℕ
  short : prefixLen ≤ address.version.width
  deriving DecidableEq, Repr

structure IpNetwork where
  version : IpVersion
  networkAddress : ℕ
  prefixLen : ℕ
  deriving DecidableEq, Repr

/-! Numbers. -/

def decimalValue (digits : List Char) : ℕ :=
  digits.foldl (fun value digit => value * 10 + (digit.toNat - '0'.toNat)) 0

/-- `isascii() and isdigit()` -/
def isDecimal (text : List Char) : Bool :=
  decide (text ≠ []) && text.all Char.isDigit

/-- One octet: no leading zeros, at most 255. -/
def parseOctet (text : List Char) : Option ℕ :=
  if ¬ isDecimal text then none
  else if 3 < text.length then none
  else if text ≠ ['0'] ∧ text.head? = some '0' then none
  else if 255 < decimalValue text then none
  else some (decimalValue text)

/-- Digits of a number in a base, the leading one first. -/
def positional (base : ℕ) (digits : List ℕ) : ℕ :=
  digits.foldl (fun value digit => value * base + digit) 0

def ipv4FromString (text : List Char) : Option ℕ :=
  let octets := text.splitOn '.'
  if octets.length ≠ 4 then none
  else (octets.mapM parseOctet).map (positional 256)

def isHexDigit (char : Char) : Bool :=
  char.isDigit || decide ('a' ≤ char ∧ char ≤ 'f') ||
    decide ('A' ≤ char ∧ char ≤ 'F')

def hexDigitValue (char : Char) : ℕ :=
  if char.isDigit then char.toNat - '0'.toNat
  else if char ≤ 'F' then char.toNat - 'A'.toNat + 10
  else char.toNat - 'a'.toNat + 10

def parseHextet (text : List Char) : Option ℕ :=
  if text = [] ∨ 4 < text.length ∨ ¬ text.all isHexDigit then none
  else some (positional 16 (text.map hexDigitValue))

/-- The numbers of the parts, where a last part like `1.2.3.4` stands for two. -/
def parseParts (parts : List (List Char)) : Option (List (List Char × Option ℕ)) :=
  let number (part : List Char) := (part, parseHextet part)
  match parts.getLast? with
  | none => none
  | some last =>
      if '.' ∈ last then do
        let value ← ipv4FromString last
        return parts.dropLast.map number ++
          [(last, some (value / 2 ^ 16)), (last, some (value % 2 ^ 16))]
      else some (parts.map number)

def hextetCount : ℕ := 8

/-- The places of `::` among the inner parts. -/
def skips (parts : List (List Char × Option ℕ)) : List ℕ :=
  (List.range parts.length).filter fun index =>
    decide (0 < index ∧ index + 1 < parts.length) &&
      (parts[index]?.map Prod.fst == some [])

/-- `parts_hi` or `parts_lo`: an empty part at the end is allowed next to `::`
only, and is not counted. -/
def endParts (count : ℕ) (last : Option (List Char)) : Option ℕ :=
  if last = some [] then if count = 1 then some 0 else none else some count

/-- The numbers before `::`, as many zeros as are left out, and those after it. -/
def expandSkip (parts : List (List Char × Option ℕ)) (high low : ℕ) :
    Option (List ℕ) := do
  let highValues ← ((parts.take high).map Prod.snd).mapM id
  let lowValues ← ((parts.drop (parts.length - low)).map Prod.snd).mapM id
  return highValues ++ List.replicate (hextetCount - (high + low)) 0 ++ lowValues

def hextets (parts : List (List Char × Option ℕ)) : Option (List ℕ) :=
  let first := parts.head?.map Prod.fst
  let last := parts.getLast?.map Prod.fst
  match skips parts with
  | _ :: _ :: _ => none
  | [skip] => do
      let high ← endParts skip first
      let low ← endParts (parts.length - skip - 1) last
      if high + low < hextetCount then expandSkip parts high low else none
  | [] =>
      if parts.length ≠ hextetCount ∨ first = some [] ∨ last = some [] then none
      else (parts.map Prod.snd).mapM id

def ipv6FromString (text : List Char) : Option ℕ :=
  let texts := text.splitOn ':'
  if texts.length < 3 then none
  else do
    let parts ← parseParts texts
    if hextetCount + 1 < parts.length then none
    else (hextets parts).map (positional (2 ^ 16))

/-! What is read fits into the width of its version. -/

theorem positional_append (base : ℕ) (digits : List ℕ) (digit : ℕ) :
    positional base (digits ++ [digit]) = positional base digits * base + digit := by
  simp [positional]

theorem positional_lt {base : ℕ} {digits : List ℕ}
    (small : ∀ digit ∈ digits, digit < base) :
    positional base digits < base ^ digits.length := by
  induction digits using List.reverseRecOn with
  | nil => simp [positional]
  | append_singleton digits digit ih =>
      have before := ih fun earlier member =>
        small earlier (List.mem_append_left _ member)
      have last := small digit (by simp)
      rw [positional_append, List.length_append, List.length_singleton, pow_succ]
      calc positional base digits * base + digit
          < positional base digits * base + base := Nat.add_lt_add_left last _
        _ = (positional base digits + 1) * base := by ring
        _ ≤ base ^ digits.length * base := Nat.mul_le_mul_right base before

theorem parseOctet_lt {text : List Char} {value : ℕ}
    (parsed : parseOctet text = some value) : value < 256 := by
  unfold parseOctet at parsed
  split_ifs at parsed
  cases parsed
  omega

theorem mapM_option_eq_some {α β : Type*} {f : α → Option β} {items : List α}
    {results : List β} (mapped : items.mapM f = some results) :
    results.length = items.length ∧
      ∀ result ∈ results, ∃ item ∈ items, f item = some result := by
  induction items generalizing results with
  | nil =>
      cases mapped
      exact ⟨rfl, nofun⟩
  | cons item rest ih =>
      rw [List.mapM_cons] at mapped
      obtain ⟨first, here, mapped⟩ := Option.bind_eq_some_iff.mp mapped
      obtain ⟨tail, there, same⟩ := Option.bind_eq_some_iff.mp mapped
      cases same
      obtain ⟨length, members⟩ := ih there
      refine ⟨by simp [length], ?_⟩
      intro result member
      rcases List.mem_cons.mp member with rfl | later
      · exact ⟨item, List.mem_cons_self, here⟩
      · obtain ⟨source, inside, parsed⟩ := members result later
        exact ⟨source, List.mem_cons_of_mem _ inside, parsed⟩

theorem ipv4FromString_lt {text : List Char} {value : ℕ}
    (parsed : ipv4FromString text = some value) : value < 2 ^ 32 := by
  unfold ipv4FromString at parsed
  dsimp only at parsed
  split at parsed
  · cases parsed
  · rename_i four
    obtain ⟨octets, mapped, rfl⟩ := Option.map_eq_some_iff.mp parsed
    obtain ⟨length, members⟩ := mapM_option_eq_some mapped
    have small : positional 256 octets < 256 ^ octets.length := by
      apply positional_lt
      intro octet member
      obtain ⟨text, -, parsed⟩ := members octet member
      exact parseOctet_lt parsed
    rw [length, not_not.mp four] at small
    exact small

theorem hexDigitValue_lt {char : Char} (digit : isHexDigit char = true) :
    hexDigitValue char < 16 := by
  simp only [isHexDigit, Bool.or_eq_true, decide_eq_true_eq, Char.isDigit,
    Bool.and_eq_true, Char.le_def, UInt32.le_iff_toNat_le] at digit
  simp only [hexDigitValue, Char.isDigit, Bool.and_eq_true, decide_eq_true_eq,
    Char.le_def, UInt32.le_iff_toNat_le, Char.toNat, ge_iff_le] at digit ⊢
  change (48 ≤ char.val.toNat ∧ char.val.toNat ≤ 57 ∨
    97 ≤ char.val.toNat ∧ char.val.toNat ≤ 102) ∨
    65 ≤ char.val.toNat ∧ char.val.toNat ≤ 70 at digit
  change (if 48 ≤ char.val.toNat ∧ char.val.toNat ≤ 57 then char.val.toNat - 48
    else if char.val.toNat ≤ 70 then char.val.toNat - 65 + 10
    else char.val.toNat - 97 + 10) < 16
  split_ifs <;> omega

theorem parseHextet_lt {text : List Char} {value : ℕ}
    (parsed : parseHextet text = some value) : value < 2 ^ 16 := by
  unfold parseHextet at parsed
  split at parsed
  · cases parsed
  · rename_i proper
    simp only [not_or, not_lt, not_not, List.all_eq_true] at proper
    cases parsed
    have small : positional 16 (text.map hexDigitValue) <
        16 ^ (text.map hexDigitValue).length := by
      apply positional_lt
      intro digit member
      obtain ⟨char, inside, rfl⟩ := List.mem_map.mp member
      exact hexDigitValue_lt (proper.2.2 char inside)
    rw [List.length_map] at small
    exact small.trans_le (Nat.pow_le_pow_right (by decide) proper.2.1)

theorem parseParts_lt {texts : List (List Char)}
    {parts : List (List Char × Option ℕ)} (parsed : parseParts texts = some parts)
    {part : List Char × Option ℕ} (member : part ∈ parts) {value : ℕ}
    (found : part.2 = some value) : value < 2 ^ 16 := by
  have numbered {some : List (List Char)}
      (inside : part ∈ some.map fun text => (text, parseHextet text)) :
      value < 2 ^ 16 := by
    obtain ⟨text, -, rfl⟩ := List.mem_map.mp inside
    exact parseHextet_lt found
  unfold parseParts at parsed
  dsimp only at parsed
  split at parsed
  · cases parsed
  · split at parsed
    · obtain ⟨address, read, same⟩ := Option.bind_eq_some_iff.mp parsed
      cases same
      have small := ipv4FromString_lt read
      rcases List.mem_append.mp member with inside | inside
      · exact numbered inside
      · simp only [List.mem_cons, List.not_mem_nil, or_false] at inside
        rcases inside with rfl | rfl <;> cases found <;> omega
    · cases parsed
      exact numbered member

theorem mapM_parts_lt {texts : List (List Char)}
    {parts chosen : List (List Char × Option ℕ)}
    (parsed : parseParts texts = some parts) (from_ : ∀ part ∈ chosen, part ∈ parts)
    {values : List ℕ} (read : (chosen.map Prod.snd).mapM id = some values) :
    values.length = chosen.length ∧ ∀ value ∈ values, value < 2 ^ 16 := by
  obtain ⟨length, members⟩ := mapM_option_eq_some read
  rw [List.length_map] at length
  refine ⟨length, fun value member => ?_⟩
  obtain ⟨source, inside, found⟩ := members value member
  obtain ⟨part, present, rfl⟩ := List.mem_map.mp inside
  exact parseParts_lt parsed (from_ part present) found

theorem positional_hextets_lt {values : List ℕ}
    (small : ∀ value ∈ values, value < 2 ^ 16) (few : values.length ≤ hextetCount) :
    positional (2 ^ 16) values < 2 ^ 128 :=
  calc positional (2 ^ 16) values
      < (2 ^ 16) ^ values.length := positional_lt small
    _ ≤ (2 ^ 16) ^ hextetCount := Nat.pow_le_pow_right (by decide) few
    _ = 2 ^ 128 := by decide

theorem hextets_cases {parts : List (List Char × Option ℕ)} {values : List ℕ}
    (expanded : hextets parts = some values) :
    (∃ high low, high + low < hextetCount ∧
      expandSkip parts high low = some values) ∨
    parts.length = hextetCount ∧ (parts.map Prod.snd).mapM id = some values := by
  unfold hextets at expanded
  dsimp only at expanded
  split at expanded
  case h_1 => cases expanded
  case h_2 skip _ =>
    obtain ⟨high, -, expanded⟩ := Option.bind_eq_some_iff.mp expanded
    obtain ⟨low, -, expanded⟩ := Option.bind_eq_some_iff.mp expanded
    split at expanded
    · exact .inl ⟨high, low, ‹_›, expanded⟩
    · cases expanded
  case h_3 =>
    split at expanded
    · cases expanded
    · rename_i whole
      exact .inr ⟨by omega, expanded⟩

theorem expandSkip_lt {texts : List (List Char)}
    {parts : List (List Char × Option ℕ)} (parsed : parseParts texts = some parts)
    {high low : ℕ} (room : high + low < hextetCount) {values : List ℕ}
    (expanded : expandSkip parts high low = some values) :
    values.length ≤ hextetCount ∧ ∀ value ∈ values, value < 2 ^ 16 := by
  obtain ⟨highValues, highRead, expanded⟩ := Option.bind_eq_some_iff.mp expanded
  obtain ⟨lowValues, lowRead, same⟩ := Option.bind_eq_some_iff.mp expanded
  cases same
  obtain ⟨highLength, highSmall⟩ :=
    mapM_parts_lt parsed (fun part => List.mem_of_mem_take) highRead
  obtain ⟨lowLength, lowSmall⟩ :=
    mapM_parts_lt parsed (fun part => List.mem_of_mem_drop) lowRead
  rw [List.length_take] at highLength
  rw [List.length_drop] at lowLength
  constructor
  · simp only [List.length_append, List.length_replicate]
    omega
  · intro value member
    rcases List.mem_append.mp member with member | inside
    · rcases List.mem_append.mp member with inside | zero
      · exact highSmall value inside
      · rw [List.eq_of_mem_replicate zero]
        decide
    · exact lowSmall value inside

theorem ipv6FromString_lt {text : List Char} {value : ℕ}
    (parsed : ipv6FromString text = some value) : value < 2 ^ 128 := by
  unfold ipv6FromString at parsed
  dsimp only at parsed
  split at parsed
  · cases parsed
  · obtain ⟨parts, read, parsed⟩ := Option.bind_eq_some_iff.mp parsed
    split at parsed
    · cases parsed
    · obtain ⟨values, expanded, rfl⟩ := Option.map_eq_some_iff.mp parsed
      rcases hextets_cases expanded with ⟨high, low, room, filled⟩ | ⟨whole, all⟩
      · obtain ⟨few, small⟩ := expandSkip_lt read room filled
        exact positional_hextets_lt small few
      · obtain ⟨length, small⟩ := mapM_parts_lt read (fun _ member => member) all
        exact positional_hextets_lt small (length.trans whole).le

/-! Addresses. -/

/-- `_split_scope_id`, without the scope. -/
def withoutScope (text : List Char) : Option (List Char) :=
  match text.dropWhile (· ≠ '%') with
  | [] => some text
  | _ :: scope =>
      if scope = [] ∨ '%' ∈ scope then none
      else some (text.takeWhile (· ≠ '%'))

def ipv4Address (text : List Char) : Option IpAddress :=
  if '/' ∈ text then none
  else
    match parsed : ipv4FromString text with
    | none => none
    | some value => some ⟨.v4, value, ipv4FromString_lt parsed⟩

def ipv6Address (text : List Char) : Option IpAddress :=
  if '/' ∈ text then none
  else
    match withoutScope text with
    | none => none
    | some address =>
        match parsed : ipv6FromString address with
        | none => none
        | some value => some ⟨.v6, value, ipv6FromString_lt parsed⟩

/-- `ip_address`; `none` stands for its `ValueError`. -/
def ipAddress (text : List Char) : Option IpAddress :=
  (ipv4Address text).or (ipv6Address text)

/-! Networks. -/

def allOnes (version : IpVersion) : ℕ := 2 ^ version.width - 1

def ipIntFromPrefix (version : IpVersion) (prefixLen : ℕ) : ℕ :=
  allOnes version ^^^ (allOnes version >>> prefixLen)

def prefixFromString (version : IpVersion) (text : List Char) : Option ℕ :=
  if isDecimal text ∧ decimalValue text ≤ version.width then
    some (decimalValue text)
  else none

def countRighthandZeroBits : (bits number : ℕ) → ℕ
  | 0, _ => 0
  | bits + 1, number =>
      if number % 2 = 0 then countRighthandZeroBits bits (number / 2) + 1 else 0

/-- `_prefix_from_ip_int` of a mask `1…10…0`. -/
def prefixFromIpInt (value : ℕ) : Option ℕ :=
  let trailingZeroes := countRighthandZeroBits 32 value
  let prefixLen := 32 - trailingZeroes
  if value >>> trailingZeroes = 2 ^ prefixLen - 1 then some prefixLen else none

/-- `_prefix_from_ip_string`: a netmask, or else a hostmask. -/
def prefixFromIpString (text : List Char) : Option ℕ := do
  let value ← ipv4FromString text
  (prefixFromIpInt value).or (prefixFromIpInt (value ^^^ allOnes .v4))

/-- The prefix length that `_make_netmask` finds in the part after `/`. -/
def maskLength (version : IpVersion) (text : List Char) : Option ℕ :=
  match version with
  | .v4 => (prefixFromString .v4 text).or (prefixFromIpString text)
  | .v6 => prefixFromString .v6 text

theorem prefixFromString_le {version : IpVersion} {text : List Char} {length : ℕ}
    (read : prefixFromString version text = some length) :
    length ≤ version.width := by
  unfold prefixFromString at read
  split at read
  · cases read
    exact And.right ‹_›
  · cases read

theorem prefixFromIpInt_le {value length : ℕ}
    (read : prefixFromIpInt value = some length) : length ≤ 32 := by
  unfold prefixFromIpInt at read
  dsimp only at read
  split at read
  · cases read
    exact Nat.sub_le 32 _
  · cases read

theorem maskLength_le {version : IpVersion} {text : List Char} {length : ℕ}
    (read : maskLength version text = some length) : length ≤ version.width := by
  cases version with
  | v6 => exact prefixFromString_le read
  | v4 =>
      rcases Option.or_eq_some_iff.mp read with direct | ⟨-, mask⟩
      · exact prefixFromString_le direct
      · obtain ⟨value, -, mask⟩ := Option.bind_eq_some_iff.mp mask
        rcases Option.or_eq_some_iff.mp mask with netmask | ⟨-, hostmask⟩
        · exact prefixFromIpInt_le netmask
        · exact prefixFromIpInt_le hostmask

/-- An address alone has the prefix of its full length. -/
def ipInterfaceOf (address : IpAddress) : List (List Char) → Option IpInterface
  | [] => some ⟨address, address.version.width, le_rfl⟩
  | [mask] =>
      match read : maskLength address.version mask with
      | none => none
      | some length => some ⟨address, length, maskLength_le read⟩
  | _ => none

/-- What is written before and after `/`. -/
def ipInterface (text : List Char) : Option IpInterface := do
  match text.splitOn '/' with
  | [] => none
  | address :: masks =>
      ((ipv4Address address).bind (ipInterfaceOf · masks)).or
        ((ipv6Address address).bind (ipInterfaceOf · masks))

namespace IpNetwork

def netmask (net : IpNetwork) : ℕ := ipIntFromPrefix net.version net.prefixLen

/-- `address in net` -/
def contains (net : IpNetwork) (address : IpAddress) : Bool :=
  if address.version ≠ net.version then false
  else decide (address.value &&& net.netmask = net.networkAddress)

end IpNetwork

def IpInterface.network (entry : IpInterface) : IpNetwork where
  version := entry.address.version
  networkAddress :=
    entry.address.value &&& ipIntFromPrefix entry.address.version entry.prefixLen
  prefixLen := entry.prefixLen

/-- `ip_network(text, strict=False)`; `none` stands for its `ValueError`. -/
def ipNetwork (text : List Char) : Option IpNetwork :=
  (ipInterface text).map IpInterface.network

/-- Same version, and the leading bits agree over the length of the prefix. -/
def IpInterface.Covers (entry : IpInterface) (address : IpAddress) : Prop :=
  address.version = entry.address.version ∧
    ∀ place < entry.prefixLen,
      address.value.testBit (entry.address.version.width - 1 - place) =
        entry.address.value.testBit (entry.address.version.width - 1 - place)

instance (entry : IpInterface) (address : IpAddress) :
    Decidable (entry.Covers address) :=
  inferInstanceAs (Decidable (_ ∧ _))

theorem testBit_ipIntFromPrefix {version : IpVersion} {prefixLen : ℕ}
    (short : prefixLen ≤ version.width) (place : ℕ) :
    (ipIntFromPrefix version prefixLen).testBit place =
      decide (version.width - prefixLen ≤ place ∧ place < version.width) := by
  simp only [ipIntFromPrefix, allOnes, Nat.testBit_xor, Nat.testBit_shiftRight,
    Nat.testBit_two_pow_sub_one]
  by_cases inside : place < version.width
  · by_cases host : prefixLen + place < version.width
    · have below : ¬ version.width - prefixLen ≤ place := by omega
      simp [inside, host, below]
    · have above : version.width - prefixLen ≤ place := by omega
      simp [inside, host, above]
  · have beyond : ¬ prefixLen + place < version.width := by omega
    simp [inside, beyond]

/-- Masking both sides compares the bits of the prefix. -/
theorem contains_network (entry : IpInterface) (address : IpAddress) :
    entry.network.contains address = true ↔ entry.Covers address := by
  unfold IpNetwork.contains IpInterface.Covers
  have short := entry.short
  by_cases same : address.version = entry.address.version
  · have version : address.version = entry.network.version := same
    simp only [version, ne_eq, not_true_eq_false, if_false, decide_eq_true_eq]
    change address.value &&& ipIntFromPrefix entry.address.version entry.prefixLen =
      entry.address.value &&& ipIntFromPrefix entry.address.version entry.prefixLen ↔
        entry.address.version = entry.address.version ∧ _
    rw [Nat.eq_iff_testBit_eq, eq_self_iff_true, true_and]
    simp only [Nat.testBit_and, testBit_ipIntFromPrefix short]
    constructor
    · intro agree place inside
      have bit := agree (entry.address.version.width - 1 - place)
      have masked : entry.address.version.width - entry.prefixLen ≤
          entry.address.version.width - 1 - place ∧
          entry.address.version.width - 1 - place < entry.address.version.width := by
        omega
      simpa [masked] using bit
    · intro agree place
      by_cases masked : entry.address.version.width - entry.prefixLen ≤ place ∧
          place < entry.address.version.width
      · have bit := agree (entry.address.version.width - 1 - place) (by omega)
        have back : entry.address.version.width - 1 -
            (entry.address.version.width - 1 - place) = place := by omega
        rw [back] at bit
        rw [bit]
      · rw [decide_eq_false masked, Bool.and_false, Bool.and_false]
  · have version : ¬ address.version = entry.network.version := same
    simp [version, same]

end VpnTunnel.Foundation
