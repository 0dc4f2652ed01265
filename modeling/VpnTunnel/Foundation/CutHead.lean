import VpnTunnel.Foundation.HttpFields

namespace VpnTunnel.Foundation

/-! The field lines of a head that is cut off, line by line. -/

/-- Each line with the number of its bytes among the first `size`. -/
def shares : ℕ → List (List UInt8) → List (List UInt8 × ℕ)
  | _, [] => []
  | size, line :: lines =>
      (line, min size line.length) :: shares (size - (line.length + 2)) lines

/-- A field line that is decoded, stripped and encoded again. -/
def readField (line : List UInt8) : Option Field := (fieldOf line).map Field.reencode

/-- What is read of the start of a line. -/
def readShare (share : List UInt8 × ℕ) : Option Field :=
  readField (share.1.take share.2)

theorem reencode_trim (bytes : List UInt8) :
    reencode (trim isBlank bytes) = reencode bytes :=
  congrArg (List.flatMap String.utf8EncodeChar) (strip_decodeAll_trim isBlank_ascii bytes)

theorem readField_of_colon {line name value : List UInt8}
    (found : partitionAt colon line = some (name, value)) :
    readField line = some (reencode name, reencode value) := by
  rw [readField, fieldOf, found, Option.map_some, Option.map_some, Field.reencode,
    reencode_trim, reencode_trim]

theorem readField_of_clear {line : List UInt8} (clear : (0x3A : UInt8) ∉ line) :
    readField line = none := by
  rw [readField, fieldOf, colon, partitionAt_item_none.mpr clear]
  rfl

section

variable {rest : List UInt8} (space : ∀ byte ∈ rest,
  byte.toNat < 0x80 ∧ isSpace (Char.ofNat byte.toNat) = true)

include space

theorem reencode_append_space (bytes : List UInt8) :
    reencode (bytes ++ rest) = reencode bytes := by
  have ascii : ∀ byte ∈ rest, byte.toNat < 0x80 := fun byte member => (space byte member).1
  by_cases none : rest = []
  · rw [none, List.append_nil]
  · have decoded := decodeAll_separator ascii none bytes []
    rw [List.append_nil, decodeAll_nil, List.append_nil] at decoded
    have blanks : ∀ char ∈ asciiChars rest, isSpace char = true := by
      intro char member
      obtain ⟨byte, inside, rfl⟩ := List.mem_map.mp member
      exact (space byte inside).2
    have nothing : ∀ char ∈ ([] : List Char), isSpace char = true := nofun
    have stripped := trim_append nothing blanks (decodeAll bytes)
    rw [reencode, decoded]
    exact congrArg (List.flatMap String.utf8EncodeChar) stripped

theorem readField_append_space (line : List UInt8) :
    readField (line ++ rest) = readField line := by
  have clear : (0x3A : UInt8) ∉ rest := fun inside => absurd (space _ inside).2 (by decide)
  cases found : partitionAt colon line with
  | none =>
      have absent := partitionAt_item_none.mp found
      rw [readField_of_clear absent, readField_of_clear]
      exact fun inside => (List.mem_append.mp inside).elim absent clear
  | some parts =>
      rw [readField_of_colon found, readField_of_colon (partitionAt_append found rest),
        reencode_append_space space]

end

theorem readShare_of_clear {share : List UInt8 × ℕ}
    (clear : (0x3A : UInt8) ∉ share.1.take share.2) : readShare share = none :=
  readField_of_clear clear

theorem readShare_of_colon {share : List UInt8 × ℕ}
    (inside : (0x3A : UInt8) ∈ share.1.take share.2) :
    ∃ field value, fieldOf share.1 = some field ∧
      readShare share = some (reencode field.1, reencode value) := by
  cases found : partitionAt colon (share.1.take share.2) with
  | none => exact absurd inside (partitionAt_item_none.mp found)
  | some parts =>
      have whole := partitionAt_append found (share.1.drop share.2)
      rw [List.take_append_drop] at whole
      refine ⟨_, parts.2, by rw [fieldOf, whole]; rfl, ?_⟩
      rw [readShare, readField_of_colon found, reencode_trim]

theorem partitionAt_take_none {α : Type*} [DecidableEq α] {separator items : List α}
    (absent : partitionAt separator items = none) (size : ℕ) :
    partitionAt separator (items.take size) = none := by
  rw [← List.take_append_drop size items] at absent
  exact partitionAt_none_of_append absent

theorem space_lineEnd : ∀ byte ∈ lineEnd,
    byte.toNat < 0x80 ∧ isSpace (Char.ofNat byte.toNat) = true := by
  decide +kernel

theorem filterMap_shares_zero (lines : List (List UInt8)) :
    (shares 0 lines).filterMap readShare = [] := by
  induction lines with
  | nil => rfl
  | cons line lines ih =>
      rw [shares, Nat.zero_min, Nat.zero_sub, List.filterMap_cons, ih]
      rfl

theorem le_of_mem_shares {size : ℕ} {lines : List (List UInt8)} {share : List UInt8 × ℕ}
    (member : share ∈ shares size lines) : share.2 ≤ share.1.length := by
  induction lines generalizing size with
  | nil => cases member
  | cons line lines ih =>
      rcases List.mem_cons.mp member with rfl | inside
      · exact Nat.min_le_right _ _
      · exact ih inside

theorem map_fst_shares (size : ℕ) (lines : List (List UInt8)) :
    (shares size lines).map Prod.fst = lines := by
  induction lines generalizing size with
  | nil => rfl
  | cons line lines ih => rw [shares, List.map_cons, ih]

theorem shares_append (size : ℕ) (lines : List (List UInt8)) (last : List UInt8) :
    ∃ count, shares size (lines ++ [last]) = shares size lines ++ [(last, count)] := by
  induction lines generalizing size with
  | nil => exact ⟨_, rfl⟩
  | cons line lines ih =>
      obtain ⟨count, same⟩ := ih (size - (line.length + 2))
      exact ⟨count, congrArg (List.cons _) same⟩

theorem filterMap_shares (size : ℕ) (bytes : List UInt8) :
    (splitAll lineEnd (bytes.take size)).filterMap readField =
      (shares size (splitAll lineEnd bytes)).filterMap readShare := by
  induction bytes using split_induction lineEnd_ne_nil generalizing size with
  | last bytes absent =>
      rw [splitAll_of_none absent, splitAll_of_none (partitionAt_take_none absent size), shares, shares,
        List.filterMap_cons, List.filterMap_cons, readShare, ← List.take_eq_take_min]
      rfl
  | cut bytes before after found ih =>
      have cut := partitionAt_take found size
      have two : lineEnd.length = 2 := rfl
      rw [splitAll_of_some lineEnd_ne_nil found, shares]
      split at cut
      case isTrue inside =>
        have short : before.length ≤ size := by omega
        rw [splitAll_of_some lineEnd_ne_nil cut, List.filterMap_cons, List.filterMap_cons,
          ih, readShare, Nat.min_eq_right short, List.take_length]
        rfl
      case isFalse outside =>
        have spaces : ∀ byte ∈ lineEnd.take (size - before.length),
            byte.toNat < 0x80 ∧ isSpace (Char.ofNat byte.toNat) = true := by
          intro byte member
          exact space_lineEnd byte (List.mem_of_mem_take member)
        have none : size - (before.length + 2) = 0 := by omega
        have part : bytes.take size =
            before.take size ++ lineEnd.take (size - before.length) := by
          rw [(partitionAt_eq_some.mp found).1, List.take_append,
            List.take_append_of_le_length (by omega)]
        rw [splitAll_of_none cut, List.filterMap_cons, List.filterMap_cons, none,
          filterMap_shares_zero, part, readField_append_space spaces, readShare,
          ← List.take_eq_take_min]
        rfl

/-- What is read of the fields of a head that is cut off. -/
theorem headFields_take (head : List UInt8) (size : ℕ) :
    (headFields (head.take size)).map Field.reencode =
      ((shares size (splitAll lineEnd head)).drop 1).filterMap readShare := by
  have read : (headFields (head.take size)).map Field.reencode =
      ((splitAll lineEnd (head.take size)).drop 1).filterMap readField :=
    List.map_filterMap
  rw [read]
  cases found : partitionAt lineEnd head with
  | none =>
      rw [splitAll_of_none found, splitAll_of_none (partitionAt_take_none found size)]
      rfl
  | some parts =>
      have cut := partitionAt_take found size
      rw [splitAll_of_some lineEnd_ne_nil found, shares, List.drop_succ_cons, List.drop_zero]
      split at cut
      case isTrue inside =>
        rw [splitAll_of_some lineEnd_ne_nil cut, List.drop_succ_cons, List.drop_zero,
          filterMap_shares]
        rfl
      case isFalse outside =>
        have two : lineEnd.length = 2 := rfl
        have none : size - (parts.1.length + 2) = 0 := by omega
        rw [splitAll_of_none cut, none, filterMap_shares_zero]
        rfl

/-! Which lines a cut does not change. -/

/-- UTF-8 without white space at its ends. -/
def IsStripped (bytes : List UInt8) : Prop :=
  ∃ text : String, bytes = encodeUtf8 text ∧ strip text.toList = text.toList

/-- What is cut off the line is blank, or it is the end of a U+FFFD that has only
blanks behind it. -/
def Spared (line : List UInt8) (count : ℕ) : Prop :=
  (∀ byte ∈ line.drop count, isBlank byte = true) ∨
    ∃ front blanks, line = front ++ ([0xEF, 0xBF, 0xBD] ++ blanks) ∧
      (∀ byte ∈ blanks, isBlank byte = true) ∧
      (count = front.length + 1 ∨ count = front.length + 2)

theorem reencode_eq_self_iff {bytes : List UInt8} :
    reencode bytes = bytes ↔ IsStripped bytes := by
  constructor
  · intro same
    refine ⟨String.ofList (strip (decodeAll bytes)), ?_, ?_⟩
    · rw [encodeUtf8_ofList]
      exact same.symm
    · rw [String.toList_ofList]
      exact trim_trim (decodeAll bytes)
  · rintro ⟨text, rfl, stripped⟩
    exact reencode_of_stripped stripped

theorem readField_of_cut (front : List UInt8) {cut : List UInt8}
    (short : cut = [0xEF] ∨ cut = [0xEF, 0xBF]) :
    readField (front ++ cut) = readField (front ++ [0xEF, 0xBF, 0xBD]) := by
  have same (value : List UInt8) :
      reencode (value ++ cut) = reencode (value ++ [0xEF, 0xBF, 0xBD]) := by
    have lead : (0xEF : UInt8).toNat < 0x80 ∨ 0xBF < (0xEF : UInt8).toNat := .inr (by decide)
    rw [reencode, reencode, decodeAll_stop lead value [0xBF, 0xBD]]
    rcases short with rfl | rfl
    · rw [decodeAll_stop lead value []]
      rfl
    · rw [decodeAll_stop lead value [0xBF]]
      rfl
  have clear : (0x3A : UInt8) ∉ cut := by
    rcases short with rfl | rfl
    · decide
    · decide
  cases found : partitionAt colon front with
  | none =>
      have absent := partitionAt_item_none.mp found
      rw [readField_of_clear, readField_of_clear]
      · exact fun inside => (List.mem_append.mp inside).elim absent (by decide)
      · exact fun inside => (List.mem_append.mp inside).elim absent clear
  | some parts =>
      rw [readField_of_colon (partitionAt_append found cut),
        readField_of_colon (partitionAt_append found _), same]

theorem space_of_blank {bytes : List UInt8} (blank : ∀ byte ∈ bytes, isBlank byte = true) :
    ∀ byte ∈ bytes, byte.toNat < 0x80 ∧ isSpace (Char.ofNat byte.toNat) = true :=
  fun byte member => isBlank_ascii byte (blank byte member)

theorem readField_of_spared {line : List UInt8} {count : ℕ} (spared : Spared line count) :
    readField (line.take count) = readField line := by
  rcases spared with blank | ⟨front, blanks, rfl, blank, short⟩
  · conv_rhs => rw [← List.take_append_drop count line]
    exact (readField_append_space (space_of_blank blank) _).symm
  · rw [← List.append_assoc, readField_append_space (space_of_blank blank)]
    rcases short with rfl | rfl
    · rw [List.append_assoc, List.take_length_add_append]
      exact readField_of_cut front (.inl rfl)
    · rw [List.append_assoc, List.take_length_add_append]
      exact readField_of_cut front (.inr rfl)

theorem reencode_blanks_append {blanks : List UInt8}
    (blank : ∀ byte ∈ blanks, isBlank byte = true) (bytes : List UInt8) :
    reencode (blanks ++ bytes) = reencode bytes := by
  have spaces : ∀ char ∈ asciiChars blanks, isSpace char = true := by
    intro char member
    obtain ⟨byte, inside, rfl⟩ := List.mem_map.mp member
    exact (space_of_blank blank byte inside).2
  have nothing : ∀ char ∈ ([] : List Char), isSpace char = true := nofun
  have stripped := trim_append spaces nothing (decodeAll bytes)
  rw [List.append_nil] at stripped
  rw [reencode, decodeAll_asciiChars fun byte member => (space_of_blank blank byte member).1]
  exact congrArg (List.flatMap String.utf8EncodeChar) stripped

theorem strip_eq_self {text : List Char} (long : text.length ≤ (strip text).length) :
    strip text = text := by
  obtain ⟨front, rear, whole, -, -⟩ := exists_trim isSpace text
  have size := congrArg List.length whole
  rw [List.length_append, List.length_append] at size
  change text.length ≤ (trim isSpace text).length at long
  obtain rfl : front = [] := List.eq_nil_of_length_eq_zero (by omega)
  obtain rfl : rear = [] := List.eq_nil_of_length_eq_zero (by omega)
  rw [List.nil_append, List.append_nil] at whole
  exact whole.symm

/-- The start of a text that has a U+FFFD in place of its end has it for a part of
that. -/
theorem cut_of_reencode {taken rest : List UInt8} (same : reencode taken = taken ++ rest) :
    rest = [] ∨ ∃ front, taken ++ rest = front ++ [0xEF, 0xBF, 0xBD] ∧
      (taken.length = front.length + 1 ∨ taken.length = front.length + 2) := by
  have decoded : decodeAll (taken ++ rest) = strip (decodeAll taken) := by
    rw [← same]
    exact decodeAll_flatMap _
  have shorter := length_decodeAll_take (taken ++ rest) taken.length
  rw [List.take_left, decoded] at shorter
  rw [reencode, strip_eq_self shorter] at same
  rcases reencode_eq same with none | ⟨chars, covers, short⟩
  · exact .inl none
  · refine .inr ⟨_, covers, ?_⟩
    have size := congrArg List.length covers
    rw [List.length_append, List.length_append] at size
    rcases short with rfl | rfl
    · right
      simp only [List.length_cons, List.length_nil] at size
      omega
    · left
      simp only [List.length_cons, List.length_nil] at size
      omega

theorem spared_value {taken dropped : List UInt8}
    (same : reencode taken = trim isBlank (taken ++ dropped)) :
    (∀ byte ∈ dropped, isBlank byte = true) ∨
      ∃ front blanks, taken ++ dropped = front ++ ([0xEF, 0xBF, 0xBD] ++ blanks) ∧
        (∀ byte ∈ blanks, isBlank byte = true) ∧
        (taken.length = front.length + 1 ∨ taken.length = front.length + 2) := by
  obtain ⟨lead, rear, whole, before, after⟩ := exists_trim isBlank (taken ++ dropped)
  generalize trim isBlank (taken ++ dropped) = value at same whole
  rw [← List.append_assoc] at whole
  rcases List.append_eq_append_iff.mp whole with ⟨gap, sent, rfl⟩ | ⟨gap, rfl, rfl⟩
  · rcases List.append_eq_append_iff.mp sent with ⟨rest, rfl, rfl⟩ | ⟨rest, rfl, rfl⟩
    · -- The cut is inside the value.
      rw [reencode_blanks_append before] at same
      rcases cut_of_reencode same with rfl | ⟨front, covers, short⟩
      · exact .inl after
      · refine .inr ⟨lead ++ front, rear, ?_, after, ?_⟩
        · rw [List.append_assoc, ← List.append_assoc rest, covers]
          simp
        · rw [List.length_append, List.length_append]
          omega
    · -- The cut is before the value, which is empty then.
      have blank : ∀ byte ∈ taken, isBlank byte = true :=
        fun byte member => before byte (List.mem_append_left rest member)
      have empty : value = [] := by
        rw [← same, ← List.append_nil taken, reencode_blanks_append blank]
        rfl
      rw [empty, List.append_nil]
      refine .inl fun byte member => ?_
      rcases List.mem_append.mp member with inside | behind
      · exact before byte (List.mem_append_right taken inside)
      · exact after byte behind
  · exact .inl fun byte member => after byte (List.mem_append_right gap member)

theorem spared_of_readField {line : List UInt8} {count : ℕ} {field : Field}
    (within : count ≤ line.length) (sent : fieldOf line = some field)
    (read : readField (line.take count) = some field) : Spared line count := by
  cases found : partitionAt colon (line.take count) with
  | none =>
      rw [readField_of_clear (partitionAt_item_none.mp found)] at read
      cases read
  | some parts =>
      obtain ⟨name, taken⟩ := parts
      have whole := partitionAt_append found (line.drop count)
      rw [List.take_append_drop] at whole
      rw [fieldOf, whole, Option.map_some, Option.some.injEq] at sent
      rw [readField_of_colon found, ← sent] at read
      have cut := (partitionAt_eq_some.mp found).1
      have size := congrArg List.length cut
      rw [List.length_take, Nat.min_eq_left within, List.length_append,
        List.length_append] at size
      rcases spared_value (Prod.mk.inj (Option.some.inj read)).2 with
        blank | ⟨front, blanks, covers, blank, short⟩
      · exact .inl blank
      · refine .inr ⟨name ++ (colon ++ front), blanks, ?_, blank, ?_⟩
        · rw [(partitionAt_eq_some.mp whole).1, covers]
          simp
        · rw [List.length_append, List.length_append]
          omega

end VpnTunnel.Foundation
