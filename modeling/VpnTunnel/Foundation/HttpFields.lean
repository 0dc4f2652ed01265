import VpnTunnel.Foundation.Lines

namespace VpnTunnel.Foundation

/-! The head of an HTTP message: a first line and the field lines. -/

def lineEnd : List UInt8 := [0x0D, 0x0A]

def colon : List UInt8 := [0x3A]

abbrev Field := List UInt8 × List UInt8

/-- The bytes that HTTP allows around a value. -/
def isBlank (byte : UInt8) : Bool := byte = 0x20 ∨ byte = 0x09

def fieldOf (line : List UInt8) : Option Field :=
  (partitionAt colon line).map fun parts => (trim isBlank parts.1, trim isBlank parts.2)

def headFields (head : List UInt8) : List Field :=
  ((splitAll lineEnd head).drop 1).filterMap fieldOf

def lowerByte (byte : UInt8) : UInt8 :=
  if 0x41 ≤ byte ∧ byte ≤ 0x5A then byte + 0x20 else byte

/-- Names are compared without regard to the case of their letters. -/
def sameName (first second : List UInt8) : Bool :=
  first.map lowerByte = second.map lowerByte

theorem ascii_lineEnd : ∀ byte ∈ lineEnd, byte.toNat < 0x80 := by simp [lineEnd]

theorem ascii_colon : ∀ byte ∈ colon, byte.toNat < 0x80 := by simp [colon]

theorem isBlank_ascii (byte : UInt8) (blank : isBlank byte = true) :
    byte.toNat < 0x80 ∧ isSpace (Char.ofNat byte.toNat) = true := by
  rcases of_decide_eq_true blank with rfl | rfl
  · decide +kernel
  · decide +kernel

def isTokenByte (byte : UInt8) : Bool :=
  byte ∈ [0x21, 0x23, 0x24, 0x25, 0x26, 0x27, 0x2A, 0x2B, 0x2D, 0x2E, 0x5E, 0x5F, 0x60,
      0x7C, 0x7E] ∨
    (0x30 ≤ byte ∧ byte ≤ 0x39) ∨ (0x41 ≤ byte ∧ byte ≤ 0x5A) ∨
      (0x61 ≤ byte ∧ byte ≤ 0x7A)

def isToken (name : List UInt8) : Bool := !name.isEmpty && name.all isTokenByte

theorem isToken_iff {name : List UInt8} :
    isToken name = true ↔ name ≠ [] ∧ ∀ byte ∈ name, isTokenByte byte = true := by
  simp [isToken]

theorem tokenByte_table : ∀ n < 256,
    (isTokenByte (UInt8.ofNat n) = true → n < 0x80 ∧ isSpace (Char.ofNat n) = false) ∧
      (isTokenByte (lowerByte (UInt8.ofNat n)) = true →
        isTokenByte (UInt8.ofNat n) = true) := by
  decide +kernel

theorem solid_of_token {name : List UInt8} (token : isToken name = true) :
    ∀ byte ∈ name, byte.toNat < 0x80 ∧ isSpace (Char.ofNat byte.toNat) = false := by
  intro byte member
  apply (tokenByte_table byte.toNat byte.toNat_lt).1
  rw [UInt8.ofNat_toNat]
  exact (isToken_iff.mp token).2 byte member

theorem not_mem_token {name : List UInt8} {byte : UInt8} (token : isToken name = true)
    (other : isTokenByte byte = false) : byte ∉ name := by
  intro member
  rw [(isToken_iff.mp token).2 byte member] at other
  cases other

theorem token_of_sameName {name other : List UInt8} (same : sameName name other = true)
    (lower : isToken (other.map lowerByte) = true) : isToken name = true := by
  rw [← (of_decide_eq_true same : name.map lowerByte = other.map lowerByte)] at lower
  obtain ⟨some_, all⟩ := isToken_iff.mp lower
  apply isToken_iff.mpr
  refine ⟨fun none => some_ (by rw [none]; rfl), fun byte member => ?_⟩
  have raised := (tokenByte_table byte.toNat byte.toNat_lt).2
  rw [UInt8.ofNat_toNat] at raised
  exact raised (all _ (List.mem_map_of_mem member))

/-! A head that is cut off has the first of the names. -/

theorem partitionAt_of_prefix {α : Type*} [DecidableEq α]
    {separator items before after other : List α}
    (found : partitionAt separator items = some (before, after))
    (start : before ++ separator <+: other) :
    ∃ later, partitionAt separator other = some (before, later) := by
  obtain ⟨later, rfl⟩ := start
  obtain ⟨whole, least⟩ := partitionAt_eq_some.mp found
  have first : partitionAt separator (before ++ separator) = some (before, []) := by
    rw [partitionAt_eq_some]
    refine ⟨by rw [List.append_nil], ?_⟩
    intro front rear same
    apply least front (rear ++ after)
    rw [whole, ← List.append_assoc, same]
    simp
  exact ⟨later, partitionAt_append first later⟩

/-- What stands before an item that is no separator stands in the first line. -/
theorem prefix_first_line {α : Type*} [DecidableEq α]
    {separator front rear line rest : List α} {item : α}
    (some_ : separator ≠ []) (other : item ∉ separator)
    (absent : partitionAt separator (front ++ [item]) = none)
    (whole : front ++ ([item] ++ rear) = line ++ (separator ++ rest)) :
    front ++ [item] <+: line := by
  rcases List.append_eq_append_iff.mp whole with ⟨gap, rfl, same⟩ | ⟨gap, rfl, same⟩
  · cases gap with
    | nil =>
        obtain ⟨head, tail, rfl⟩ := List.exists_cons_of_ne_nil some_
        obtain ⟨rfl, -⟩ := List.cons.inj same
        exact absurd List.mem_cons_self other
    | cons head gap =>
        obtain ⟨rfl, -⟩ := List.cons.inj same
        exact ⟨gap, by simp⟩
  · have inside : ∀ later, gap ≠ separator ++ later := by
      rintro later rfl
      exact partitionAt_eq_none.mp absent line (later ++ [item]) (by simp)
    rcases List.append_eq_append_iff.mp same with ⟨later, same', -⟩ | ⟨later, same', also⟩
    · exact absurd same' (inside later)
    · cases later with
      | nil => exact absurd (by rw [same']; simp) (inside [])
      | cons head later =>
          obtain ⟨rfl, -⟩ := List.cons.inj also
          exact absurd (by rw [same']; simp) other

theorem partitionAt_none_of_append {α : Type*} [DecidableEq α]
    {separator items more : List α}
    (absent : partitionAt separator (items ++ more) = none) :
    partitionAt separator items = none := by
  rw [partitionAt_eq_none] at absent ⊢
  intro before after same
  exact absent before (after ++ more) (by rw [same]; simp)

def fieldNames (lines : List (List UInt8)) : List (List UInt8) :=
  (lines.filterMap fieldOf).map Prod.fst

theorem fieldNames_cons (line : List UInt8) (lines : List (List UInt8)) :
    fieldNames (line :: lines) = fieldNames [line] ++ fieldNames lines := by
  rw [fieldNames, fieldNames, fieldNames, ← List.map_append, ← List.filterMap_append,
    List.singleton_append]

theorem fieldNames_of_colon {line name value : List UInt8}
    (found : partitionAt colon line = some (name, value)) :
    fieldNames [line] = [trim isBlank name] := by
  rw [fieldNames, List.filterMap_cons, fieldOf, found]
  rfl

theorem lineEnd_ne_nil : lineEnd ≠ [] := List.cons_ne_nil _ _

theorem colon_not_mem_lineEnd : (0x3A : UInt8) ∉ lineEnd := by decide

theorem fieldNames_prefix (bytes more : List UInt8) :
    fieldNames (splitAll lineEnd bytes) <+:
      fieldNames (splitAll lineEnd (bytes ++ more)) := by
  induction bytes using split_induction lineEnd_ne_nil with
  | last bytes absent =>
      rw [splitAll_of_none absent]
      cases found : partitionAt colon bytes with
      | none =>
          have empty : fieldNames [bytes] = [] := by
            rw [fieldNames, List.filterMap_cons, fieldOf, found]
            rfl
          rw [empty]
          exact List.nil_prefix
      | some parts =>
          obtain ⟨name, value⟩ := parts
          obtain ⟨whole, -⟩ := partitionAt_eq_some.mp found
          rw [fieldNames_of_colon found]
          cases cut : partitionAt lineEnd (bytes ++ more) with
          | none =>
              have same : fieldNames (splitAll lineEnd (bytes ++ more)) =
                  [trim isBlank name] := by
                rw [splitAll_of_none cut,
                  fieldNames_of_colon (partitionAt_append found more)]
              exact ⟨[], (List.append_nil _).trans same.symm⟩
          | some parts =>
              obtain ⟨line, rest⟩ := parts
              have joined : name ++ ([0x3A] ++ (value ++ more)) =
                  line ++ (lineEnd ++ rest) := by
                rw [← (partitionAt_eq_some.mp cut).1, whole]
                simp [colon]
              rw [whole, ← List.append_assoc] at absent
              have start : name ++ colon <+: line :=
                prefix_first_line lineEnd_ne_nil colon_not_mem_lineEnd
                  (partitionAt_none_of_append absent) joined
              obtain ⟨later, again⟩ := partitionAt_of_prefix found start
              rw [splitAll_of_some lineEnd_ne_nil cut, fieldNames_cons,
                fieldNames_of_colon again]
              exact List.prefix_append _ _
  | cut bytes before after found ih =>
      rw [splitAll_of_some lineEnd_ne_nil found,
        splitAll_of_some lineEnd_ne_nil (partitionAt_append found more),
        fieldNames_cons before (splitAll lineEnd after),
        fieldNames_cons before (splitAll lineEnd (after ++ more))]
      exact (List.prefix_append_right_inj _).mpr ih

theorem names_headFields (head : List UInt8) :
    (headFields head).map Prod.fst = fieldNames ((splitAll lineEnd head).drop 1) := rfl

theorem headFields_prefix (head more : List UInt8) :
    (headFields head).map Prod.fst <+: (headFields (head ++ more)).map Prod.fst := by
  rw [names_headFields, names_headFields]
  cases found : partitionAt lineEnd head with
  | none =>
      rw [splitAll_of_none found]
      exact List.nil_prefix
  | some parts =>
      rw [splitAll_of_some lineEnd_ne_nil found,
        splitAll_of_some lineEnd_ne_nil (partitionAt_append found more)]
      exact fieldNames_prefix parts.2 more

theorem headFields_append (head line : List UInt8)
    (absent : partitionAt lineEnd line = none)
    (plain : partitionAt colon line = none) :
    headFields (head ++ (lineEnd ++ line)) = headFields head := by
  have clear : (0x0D : UInt8) ∉ [(0x0A : UInt8)] := by decide
  have lines : splitAll lineEnd (head ++ (lineEnd ++ line)) =
      splitAll lineEnd head ++ [line] := by
    rw [← splitAll_of_none absent]
    exact splitAll_append clear head line
  obtain ⟨first, rest, same⟩ :=
    List.exists_cons_of_ne_nil (splitAll_ne_nil lineEnd_ne_nil head)
  rw [headFields, headFields, lines, same, List.cons_append, List.drop_succ_cons,
    List.drop_succ_cons, List.drop_zero, List.drop_zero, List.filterMap_append,
    List.filterMap_cons, fieldOf, plain]
  exact List.append_nil _

/-! What is left of bytes that are decoded, stripped and encoded again. -/

def reencode (bytes : List UInt8) : List UInt8 :=
  (strip (decodeAll bytes)).flatMap String.utf8EncodeChar

def Field.reencode (field : Field) : Field :=
  (Foundation.reencode field.1, Foundation.reencode field.2)

theorem decodeAll_flatMap (chars : List Char) :
    decodeAll (chars.flatMap String.utf8EncodeChar) = chars := by
  have decoded := decodeAll_encode chars []
  rwa [List.append_nil, decodeAll_nil, List.append_nil] at decoded

theorem flatMap_utf8_injective :
    Function.Injective fun chars : List Char => chars.flatMap String.utf8EncodeChar := by
  intro first second same
  rw [← decodeAll_flatMap first, ← decodeAll_flatMap second]
  exact congrArg decodeAll same

theorem encodeUtf8_eq (text : String) :
    encodeUtf8 text = text.toList.flatMap String.utf8EncodeChar := by
  rw [← encodeUtf8_ofList, String.ofList_toList]

theorem reencode_of_stripped {text : String} (stripped : strip text.toList = text.toList) :
    reencode (encodeUtf8 text) = encodeUtf8 text := by
  rw [encodeUtf8_eq, reencode, decodeAll_flatMap, stripped]

theorem reencode_reencode (bytes : List UInt8) :
    reencode (reencode bytes) = reencode bytes := by
  rw [reencode, reencode, decodeAll_flatMap]
  exact congrArg (List.flatMap String.utf8EncodeChar) (trim_trim (decodeAll bytes))

theorem Field.reencode_reencode (field : Field) :
    field.reencode.reencode = field.reencode := by
  rw [reencode, reencode, Foundation.reencode_reencode, Foundation.reencode_reencode]

theorem encode_asciiChars {bytes : List UInt8}
    (ascii : ∀ byte ∈ bytes, byte.toNat < 0x80) :
    (asciiChars bytes).flatMap String.utf8EncodeChar = bytes := by
  induction bytes with
  | nil => rfl
  | cons byte bytes ih =>
      have one : String.utf8EncodeChar (Char.ofNat byte.toNat) = [byte] :=
        encode_codePoint (continuations_one (ascii byte List.mem_cons_self)) .nil
      have rest := ih fun other member => ascii other (List.mem_cons_of_mem _ member)
      rw [asciiChars] at rest ⊢
      rw [List.map_cons, List.flatMap_cons, one, rest, List.singleton_append]

theorem reencode_of_solid {bytes : List UInt8}
    (solid : ∀ byte ∈ bytes,
      byte.toNat < 0x80 ∧ isSpace (Char.ofNat byte.toNat) = false) :
    reencode bytes = bytes := by
  have ascii : ∀ byte ∈ bytes, byte.toNat < 0x80 :=
    fun byte member => (solid byte member).1
  have decoded : decodeAll bytes = asciiChars bytes := by
    have parted := decodeAll_asciiChars ascii []
    rwa [List.append_nil, decodeAll_nil, List.append_nil] at parted
  have stripped : strip (asciiChars bytes) = asciiChars bytes := by
    apply trim_of_forall
    intro char member
    obtain ⟨byte, inside, rfl⟩ := List.mem_map.mp member
    exact (solid byte inside).2
  rw [reencode, decoded, stripped, encode_asciiChars ascii]

end VpnTunnel.Foundation
