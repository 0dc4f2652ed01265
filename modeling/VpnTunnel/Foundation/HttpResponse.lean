import VpnTunnel.Foundation.HttpFields

namespace VpnTunnel.Foundation

/-! Responses of HTTP/1.1 as a browser parses them. -/

def decimal (bytes : List UInt8) : Option ℕ :=
  let chars := asciiChars bytes
  if chars ≠ [] ∧ chars.all Char.isDigit = true then
    some (Nat.ofDigitChars 10 chars 0)
  else none

def version : List UInt8 := [0x48, 0x54, 0x54, 0x50, 0x2F, 0x31, 0x2E, 0x31]

/-- The version, three digits, and what follows them behind a blank. -/
def statusOf (line : List UInt8) : Option ℕ :=
  match splitAll [0x20] line with
  | first :: code :: _ :: _ =>
      if first = version ∧ code.length = 3 then decimal code else none
  | _ => none

/-- A field line with a proper name. -/
def responseField (line : List UInt8) : Option Field :=
  match partitionAt colon line with
  | some (name, value) => if isToken name then some (name, trim isBlank value) else none
  | none => none

structure HttpResponse where
  status : ℕ
  fields : List Field
  body : List UInt8

/-- The head ends at the first empty line. -/
def parseResponse (bytes : List UInt8) : Option HttpResponse := do
  let (head, body) ← partitionAt (lineEnd ++ lineEnd) bytes
  let lines := splitAll lineEnd head
  let status ← statusOf (lines.headD [])
  let fields ← (lines.drop 1).mapM responseField
  return { status, fields, body }

/-! The lines of a head come back. -/

/-- A line that can be told from its end. -/
def IsLine (line : List UInt8) : Prop := line ≠ [] ∧ (0x0D : UInt8) ∉ line

def printLines (lines : List (List UInt8)) : List UInt8 :=
  lines.flatMap fun line => line ++ lineEnd

theorem printLines_cons (line : List UInt8) (lines : List (List UInt8)) :
    printLines (line :: lines) = line ++ (lineEnd ++ printLines lines) := by
  rw [printLines, List.flatMap_cons, List.append_assoc]
  rfl

theorem partitionAt_lineEnd {rest : List UInt8}
    (follows : ∀ byte ∈ rest.head?, byte ≠ 0x0D) :
    partitionAt (lineEnd ++ lineEnd) (lineEnd ++ rest) =
      (partitionAt (lineEnd ++ lineEnd) rest).map fun parts =>
        (lineEnd ++ parts.1, parts.2) := by
  have first : ¬lineEnd ++ lineEnd <+: 0x0D :: 0x0A :: rest := by
    rintro ⟨after, same⟩
    have behind : rest = 0x0D :: 0x0A :: after :=
      (List.cons.inj (List.cons.inj same).2).2.symm
    rw [behind] at follows
    exact follows 0x0D rfl rfl
  have second : ¬lineEnd ++ lineEnd <+: 0x0A :: rest := by
    rintro ⟨after, same⟩
    exact absurd (List.cons.inj same).1 (by decide)
  change partitionAt _ (0x0D :: 0x0A :: rest) = _
  rw [partitionAt_cons_of_other first, partitionAt_cons_of_other second,
    Option.map_map]
  rfl

theorem partitionAt_line {line : List UInt8} (own : IsLine line) (rest : List UInt8) :
    partitionAt (lineEnd ++ lineEnd) (line ++ rest) =
      (partitionAt (lineEnd ++ lineEnd) rest).map fun parts =>
        (line ++ parts.1, parts.2) :=
  partitionAt_clear own.2 rest

theorem partitionAt_printLines {line : List UInt8} {lines : List (List UInt8)}
    (proper : ∀ other ∈ line :: lines, IsLine other) (body : List UInt8) :
    partitionAt (lineEnd ++ lineEnd) (printLines (line :: lines) ++ (lineEnd ++ body)) =
      some (lineEnd.intercalate (line :: lines), body) := by
  have own := proper line List.mem_cons_self
  induction lines generalizing line with
  | nil =>
      have text : printLines [line] ++ (lineEnd ++ body) =
          line ++ (lineEnd ++ lineEnd ++ body) := by
        simp [printLines]
      rw [text, List.intercalate_singleton, partitionAt_line own, partitionAt_self,
        Option.map_some, List.append_nil]
  | cons next lines ih =>
      have later := proper next (List.mem_cons_of_mem _ List.mem_cons_self)
      have rest := ih (fun other member => proper other (List.mem_cons_of_mem _ member))
        later
      have text : printLines (line :: next :: lines) ++ (lineEnd ++ body) =
          line ++ (lineEnd ++ (printLines (next :: lines) ++ (lineEnd ++ body))) := by
        rw [printLines_cons line, List.append_assoc, List.append_assoc]
      have follows : ∀ byte ∈ (printLines (next :: lines) ++ (lineEnd ++ body)).head?,
          byte ≠ 0x0D := by
        obtain ⟨head, tail, rfl⟩ := List.exists_cons_of_ne_nil later.1
        rintro byte same rfl
        exact later.2 (Option.some.inj same ▸ List.mem_cons_self)
      rw [text, partitionAt_line own, partitionAt_lineEnd follows, rest,
        Option.map_some, Option.map_some, List.intercalate_cons_cons, List.append_assoc]

theorem splitAll_intercalate {line : List UInt8} {lines : List (List UInt8)}
    (proper : ∀ other ∈ line :: lines, IsLine other) :
    splitAll lineEnd (lineEnd.intercalate (line :: lines)) = line :: lines := by
  have clear : (0x0D : UInt8) ∉ [(0x0A : UInt8)] := by decide
  induction lines generalizing line with
  | nil =>
      rw [List.intercalate_singleton]
      exact splitAll_clear (proper line List.mem_cons_self).2
  | cons next lines ih =>
      have rest := ih fun other member => proper other (List.mem_cons_of_mem _ member)
      have own : splitAll lineEnd line = [line] :=
        splitAll_clear (proper line List.mem_cons_self).2
      rw [List.intercalate_cons_cons, List.append_assoc]
      refine (splitAll_append clear line _).trans ?_
      change splitAll lineEnd line ++ splitAll lineEnd _ = _
      rw [own, rest, List.singleton_append]

/-- A printed response parses line by line. -/
theorem parseResponse_printLines {line : List UInt8} {lines : List (List UInt8)}
    (proper : ∀ other ∈ line :: lines, IsLine other) (body : List UInt8) :
    parseResponse (printLines (line :: lines) ++ (lineEnd ++ body)) =
      (statusOf line).bind fun status =>
        (lines.mapM responseField).map fun fields => { status, fields, body } := by
  unfold parseResponse
  rw [partitionAt_printLines proper]
  change (statusOf ((splitAll lineEnd _).headD [])).bind _ = _
  rw [splitAll_intercalate proper, List.headD_cons, List.drop_succ_cons, List.drop_zero]
  cases statusOf line with
  | none => rfl
  | some status =>
      change (lines.mapM responseField).bind _ = (lines.mapM responseField).map _
      cases lines.mapM responseField with
      | none => rfl
      | some fields => rfl

/-! Numbers and field lines come back. -/

theorem toNat_ofNat_ascii {code : ℕ} (ascii : code < 0x80) :
    (UInt8.ofNat code).toNat = code :=
  UInt8.toNat_ofNat_of_lt (Nat.lt_trans ascii (by decide))

theorem encode_ascii {char : Char} (ascii : char.toNat < 0x80) :
    String.utf8EncodeChar char = [UInt8.ofNat char.toNat] := by
  have small := toNat_ofNat_ascii ascii
  have encoded : String.utf8EncodeChar (Char.ofNat (UInt8.ofNat char.toNat).toNat) =
      [UInt8.ofNat char.toNat] :=
    encode_codePoint (continuations_one (by rw [small]; exact ascii)) .nil
  rwa [small, Char.ofNat_toNat] at encoded

theorem asciiChars_flatMap {chars : List Char} (ascii : ∀ char ∈ chars, char.toNat < 0x80) :
    asciiChars (chars.flatMap String.utf8EncodeChar) = chars := by
  induction chars with
  | nil => rfl
  | cons char chars ih =>
      have small := toNat_ofNat_ascii (ascii char List.mem_cons_self)
      have rest := ih fun other member => ascii other (List.mem_cons_of_mem _ member)
      rw [List.flatMap_cons, encode_ascii (ascii char List.mem_cons_self)]
      rw [asciiChars] at rest ⊢
      rw [List.singleton_append, List.map_cons, rest, small, Char.ofNat_toNat]

theorem isDigit_ascii {char : Char} (digit : char.isDigit = true) : char.toNat < 0x80 := by
  have last : char.toNat ≤ 0x39 := (Char.isDigit_iff_toNat.mp digit).2
  omega

theorem ascii_toDigits (number : ℕ) :
    ∀ char ∈ Nat.toDigits 10 number, char.toNat < 0x80 := fun _ member =>
  isDigit_ascii (Nat.isDigit_of_mem_toDigits (by decide) (by decide) member)

theorem length_encode_toDigits (number : ℕ) :
    ((Nat.toDigits 10 number).flatMap String.utf8EncodeChar).length =
      (Nat.toDigits 10 number).length := by
  have size := congrArg List.length (asciiChars_flatMap (ascii_toDigits number))
  rwa [asciiChars, List.length_map] at size

theorem decimal_toDigits (number : ℕ) :
    decimal ((Nat.toDigits 10 number).flatMap String.utf8EncodeChar) = some number := by
  have digits : ∀ char ∈ Nat.toDigits 10 number, char.isDigit = true :=
    fun _ member => Nat.isDigit_of_mem_toDigits (by decide) (by decide) member
  have some_ : Nat.toDigits 10 number ≠ [] := by
    rw [← List.length_pos_iff]
    exact Nat.length_toDigits_pos
  rw [decimal, asciiChars_flatMap (ascii_toDigits number),
    if_pos ⟨some_, List.all_eq_true.mpr digits⟩, Nat.ofDigitChars_ten_toDigits]

theorem byte_of_toDigits {number : ℕ} {byte : UInt8}
    (digit : byte ∈ (Nat.toDigits 10 number).flatMap String.utf8EncodeChar) :
    0x30 ≤ byte.toNat ∧ byte.toNat ≤ 0x39 := by
  obtain ⟨char, member, inside⟩ := List.mem_flatMap.mp digit
  have range := Char.isDigit_iff_toNat.mp
    (Nat.isDigit_of_mem_toDigits (by decide) (by decide) member)
  change 0x30 ≤ char.toNat ∧ char.toNat ≤ 0x39 at range
  rw [encode_ascii (by omega), List.mem_singleton] at inside
  rw [inside, toNat_ofNat_ascii (by omega)]
  exact range

theorem partitionAt_name {name : List UInt8} (token : isToken name = true)
    (value : List UInt8) :
    partitionAt colon (name ++ (colon ++ value)) = some (name, value) := by
  have clear : (0x3A : UInt8) ∉ name := not_mem_token token rfl
  refine (partitionAt_clear clear _).trans ?_
  change (partitionAt colon (colon ++ value)).map _ = _
  rw [partitionAt_self, Option.map_some, List.append_nil]

theorem responseField_print {name : List UInt8} (token : isToken name = true)
    (value : List UInt8) :
    responseField (name ++ (colon ++ (0x20 :: value))) =
      some (name, trim isBlank value) := by
  have blank : ∀ byte ∈ [(0x20 : UInt8)], isBlank byte = true := by
    intro byte member
    rw [List.mem_singleton.mp member]
    rfl
  have nothing : ∀ byte ∈ ([] : List UInt8), isBlank byte = true :=
    fun _ member => absurd member List.not_mem_nil
  have trimmed := trim_append blank nothing value
  rw [List.append_nil] at trimmed
  unfold responseField
  rw [partitionAt_name token]
  change (if isToken name = true then some (name, trim isBlank ([0x20] ++ value)) else none) = _
  rw [if_pos token, trimmed]

theorem mapM_of_forall {α β : Type*} {parse : α → Option β} {value : α → β}
    {items : List α} (parses : ∀ item ∈ items, parse item = some (value item)) :
    items.mapM parse = some (items.map value) := by
  induction items with
  | nil => rfl
  | cons item items ih =>
      rw [List.mapM_cons, parses item List.mem_cons_self,
        ih fun other member => parses other (List.mem_cons_of_mem _ member)]
      rfl

end VpnTunnel.Foundation
