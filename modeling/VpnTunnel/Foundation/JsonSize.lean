import VpnTunnel.Foundation.Dict
import VpnTunnel.Foundation.JsonRoundTrip
import VpnTunnel.Foundation.Lines

namespace VpnTunnel.Foundation

/-! How long a text becomes: cut into pieces, written as JSON, and encoded. -/

theorem flatMap_length_le {α β : Type*} {f : α → List β} {most : ℕ}
    (small : ∀ item, (f item).length ≤ most) (items : List α) :
    (items.flatMap f).length ≤ most * items.length := by
  induction items with
  | nil => exact Nat.le_refl 0
  | cons item rest ih =>
      have first := small item
      rw [List.flatMap_cons, List.length_append, List.length_cons, Nat.mul_succ]
      omega

theorem flatMap_utf8_length (chars : List Char) :
    (chars.flatMap String.utf8EncodeChar).length ≤ 4 * chars.length := by
  apply flatMap_length_le
  intro char
  rw [String.length_utf8EncodeChar]
  exact char.utf8Size_le_four

theorem toHex_length (bytes : List UInt8) :
    (toHex bytes).toList.length = 2 * bytes.length := by
  rw [toHex, String.toList_ofList]
  induction bytes with
  | nil => rfl
  | cons byte rest ih =>
      simp only [List.flatMap_cons, List.length_append, ih, List.length_cons,
        List.length_nil]
      omega

theorem escapePoint_length (point : Fin 0x110000) : (escapePoint point).length ≤ 12 := by
  unfold escapePoint
  split
  · exact Nat.le_add_left 2 10
  · split
    · exact Nat.le_add_left 1 11
    · split <;> simp [escapeUnit]

theorem dumpsText_length (text : PyText) : (dumpsText text).length ≤ 2 + 12 * text.length := by
  have body := flatMap_length_le escapePoint_length text
  simp only [dumpsText, List.length_cons, List.length_append, List.length_nil]
  omega

/-! Under `ensure_ascii` a string has one byte for each character. -/

theorem hexDigit_ascii : ∀ n < 16, (hexDigit n).toNat < 0x80 := by decide

theorem escapeUnit_ascii (unit : ℕ) : ∀ char ∈ escapeUnit unit, char.toNat < 0x80 := by
  intro char member
  have digit (value : ℕ) : (hexDigit (value % 16)).toNat < 0x80 :=
    hexDigit_ascii _ (Nat.mod_lt _ (by decide))
  simp only [escapeUnit, List.mem_cons, List.not_mem_nil, or_false] at member
  rcases member with rfl | rfl | rfl | rfl | rfl | rfl
  · decide
  · decide
  all_goals exact digit _

theorem escapePoint_ascii (point : Fin 0x110000) :
    ∀ char ∈ escapePoint point, char.toNat < 0x80 := by
  have short : ∀ entry ∈ shortEscapes, entry.2.toNat < 0x80 := by decide
  intro char member
  unfold escapePoint at member
  split at member
  case h_1 letter found =>
    rcases List.mem_cons.mp member with rfl | letter
    · decide
    · rw [List.mem_singleton.mp letter]
      exact short _ (mem_of_lookup found)
  case h_2 =>
    split at member
    case isTrue plain =>
      rw [List.mem_singleton.mp member]
      have valid : point.val.isValidChar := .inl (by omega)
      change (Char.ofNat point.val).val.toNat < 0x80
      rw [toNat_val_ofNat valid]
      omega
    case isFalse =>
      split at member
      case isTrue => exact escapeUnit_ascii _ char member
      case isFalse =>
        rcases List.mem_append.mp member with first | second
        · exact escapeUnit_ascii _ char first
        · exact escapeUnit_ascii _ char second

def encodedSize (chars : List Char) : ℕ := (chars.flatMap String.utf8EncodeChar).length

theorem encodedSize_append (first second : List Char) :
    encodedSize (first ++ second) = encodedSize first + encodedSize second := by
  rw [encodedSize, List.flatMap_append, List.length_append]
  rfl

theorem encodedSize_cons (char : Char) (rest : List Char) :
    encodedSize (char :: rest) = char.utf8Size + encodedSize rest := by
  rw [encodedSize, List.flatMap_cons, List.length_append, String.length_utf8EncodeChar]
  rfl

theorem encodedSize_of_ascii {chars : List Char}
    (ascii : ∀ char ∈ chars, char.toNat < 0x80) : encodedSize chars = chars.length := by
  induction chars with
  | nil => rfl
  | cons char rest ih =>
      have one : char.utf8Size = 1 := by
        rw [Char.utf8Size_eq_one_iff, UInt32.le_iff_toNat_le]
        exact Nat.le_of_lt_succ (ascii char List.mem_cons_self)
      rw [encodedSize_cons, one, Nat.add_comm, List.length_cons,
        ih fun other member => ascii other (List.mem_cons_of_mem _ member)]

theorem encodedSize_dumpsText (text : PyText) :
    encodedSize (dumpsText text) ≤ 2 + 12 * text.length := by
  have ascii : ∀ char ∈ dumpsText text, char.toNat < 0x80 := by
    intro char member
    rcases List.mem_cons.mp member with rfl | inside
    · decide
    rcases List.mem_append.mp inside with escaped | last
    · obtain ⟨point, -, own⟩ := List.mem_flatMap.mp escaped
      exact escapePoint_ascii point char own
    · rw [List.mem_singleton.mp last]
      decide
  rw [encodedSize_of_ascii ascii]
  exact dumpsText_length text

/-! A dictionary. -/

/-- A member with the comma, the colon and the blanks. -/
def memberSize (member : PyText × JsonTree) : ℕ :=
  4 + encodedSize (dumpsText member.1) + encodedSize (dumpsTree member.2)

theorem memberSize_text (key value : PyText) :
    memberSize (key, .str value) ≤ 8 + 12 * (key.length + value.length) := by
  have name := encodedSize_dumpsText key
  have text := encodedSize_dumpsText value
  change 4 + encodedSize (dumpsText key) + encodedSize (dumpsText value) ≤ _
  omega

theorem encodedSize_dumpsMembers (members : List (PyText × JsonTree)) :
    encodedSize (dumpsMembers members) = (members.map memberSize).sum + 1 := by
  induction members with
  | nil => rfl
  | cons member members ih =>
      obtain ⟨key, value⟩ := member
      have comma : (',' : Char).utf8Size = 1 := rfl
      have space : (' ' : Char).utf8Size = 1 := rfl
      have mark : (':' : Char).utf8Size = 1 := rfl
      simp only [dumpsMembers, encodedSize_cons, encodedSize_append, ih, List.map_cons,
        List.sum_cons, memberSize, comma, space, mark]
      omega

theorem encodedSize_object (members : List (PyText × JsonTree)) :
    encodedSize (dumpsTree (.object members)) ≤ (members.map memberSize).sum + 2 := by
  cases members with
  | nil => exact Nat.le_refl 2
  | cons member members =>
      obtain ⟨key, value⟩ := member
      have brace : ('\x7b' : Char).utf8Size = 1 := rfl
      have space : (' ' : Char).utf8Size = 1 := rfl
      have mark : (':' : Char).utf8Size = 1 := rfl
      simp only [dumpsTree, encodedSize_cons, encodedSize_append,
        encodedSize_dumpsMembers, List.map_cons, List.sum_cons, memberSize, brace, space,
        mark]
      omega

/-! The pieces of a text. -/

section

variable {α : Type*} [DecidableEq α] {separator : List α}

theorem sum_length_splitAll (some_ : separator ≠ []) (items : List α) :
    ((splitAll separator items).map List.length).sum ≤ items.length := by
  induction items using split_induction some_ with
  | last items absent =>
      rw [splitAll_of_none absent]
      exact Nat.le_of_eq (List.sum_singleton)
  | cut items before after found ih =>
      have whole := congrArg List.length (partitionAt_eq_some.mp found).1
      rw [List.length_append, List.length_append] at whole
      rw [splitAll_of_some some_ found, List.map_cons, List.sum_cons]
      omega

theorem length_of_mem_splitAll (some_ : separator ≠ []) {items piece : List α}
    (member : piece ∈ splitAll separator items) : piece.length ≤ items.length := by
  have total := sum_length_splitAll some_ items
  rw [← List.length_flatten] at total
  exact (List.sublist_flatten_of_mem member).length_le.trans total

theorem length_intercalate_drop (some_ : separator ≠ []) (items : List α) :
    (separator.intercalate ((splitAll separator items).drop 1)).length ≤
      items.length := by
  cases found : partitionAt separator items with
  | none =>
      rw [splitAll_of_none found]
      exact Nat.zero_le _
  | some parts =>
      rw [splitAll_of_some some_ found, List.drop_succ_cons, List.drop_zero,
        intercalate_splitAll some_]
      exact (length_of_partitionAt some_ found).le

end

theorem length_strip (text : List Char) : (strip text).length ≤ text.length := by
  obtain ⟨front, rear, whole, -, -⟩ := exists_trim isSpace text
  have size := congrArg List.length whole
  rw [List.length_append, List.length_append] at size
  change (trim isSpace text).length ≤ _
  omega

theorem length_decodeAll (bytes : List UInt8) : (decodeAll bytes).length ≤ bytes.length := by
  induction size : bytes.length using Nat.strongRecOn generalizing bytes with
  | _ size ih =>
      cases bytes with
      | nil => exact Nat.zero_le _
      | cons lead rest =>
          have shorter : (rest.drop (pieceSize lead rest)).length ≤ rest.length := by
            rw [List.length_drop]
            exact Nat.sub_le _ _
          rw [List.length_cons] at size
          have tail := ih _ (by omega) (rest.drop (pieceSize lead rest)) rfl
          rw [decodeAll_cons, List.length_cons]
          omega

end VpnTunnel.Foundation
