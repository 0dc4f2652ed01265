import Mathlib.Data.List.Forall2
import VpnTunnel.Foundation.Text

namespace VpnTunnel.Foundation

/-! UTF-8 both ways.  A text decodes to itself from its encoding, and what a
well-formed piece decodes to encodes to that piece. -/

theorem toList_loop_eq (bytes : ByteArray) (i : ℕ) (done : List UInt8) :
    ByteArray.toList.loop bytes i done =
      done.reverse ++ bytes.data.toList.drop i := by
  induction i, done using ByteArray.toList.loop.induct bytes with
  | case1 i done inside ih =>
      have bound : i < bytes.data.toList.length := inside
      have here : bytes.get! i = bytes.data.toList[i] := by
        rw [ByteArray.get!]
        exact getElem!_pos bytes.data i inside
      rw [ByteArray.toList.loop, if_pos inside, ih, List.reverse_cons, here,
        List.append_assoc, List.singleton_append, ← List.drop_eq_getElem_cons bound]
  | case2 i done outside =>
      have bound : bytes.data.toList.length ≤ i := Nat.le_of_not_lt outside
      rw [ByteArray.toList.loop, if_neg outside, List.drop_eq_nil_of_le bound,
        List.append_nil]

theorem encodeUtf8_ofList (chars : List Char) :
    encodeUtf8 (String.ofList chars) = chars.flatMap String.utf8EncodeChar := by
  rw [encodeUtf8, String.toUTF8_eq_toByteArray, String.toByteArray_ofList,
    ByteArray.toList, toList_loop_eq]
  exact List.toList_data_toByteArray

/-! The pieces that decoding takes off. -/

def pieceSize (lead : UInt8) (rest : List UInt8) : ℕ :=
  match continuations lead with
  | none => 0
  | some ranges => matching ranges rest

def isWellFormed (lead : UInt8) (rest : List UInt8) : Bool :=
  match continuations lead with
  | none => false
  | some ranges => decide (matching ranges rest = ranges.length)

def pieceChar (lead : UInt8) (rest : List UInt8) : Char :=
  if isWellFormed lead rest then
    codePoint lead (rest.take (pieceSize lead rest))
  else '\uFFFD'

def decodeAll (bytes : List UInt8) : List Char := decodeChars bytes.length bytes

theorem decodeChars_cons (fuel : ℕ) (lead : UInt8) (rest : List UInt8) :
    decodeChars (fuel + 1) (lead :: rest) =
      pieceChar lead rest ::
        decodeChars fuel (rest.drop (pieceSize lead rest)) := by
  rw [decodeChars, pieceChar, isWellFormed, pieceSize]
  cases continuations lead with
  | none => rfl
  | some ranges =>
      by_cases full : matching ranges rest = ranges.length
      · simp [full]
      · simp [full]

theorem decodeChars_eq {fuel : ℕ} {bytes : List UInt8}
    (enough : bytes.length ≤ fuel) : decodeChars fuel bytes = decodeAll bytes := by
  induction fuel using Nat.strongRecOn generalizing bytes with
  | _ fuel ih =>
      cases bytes with
      | nil => cases fuel <;> rfl
      | cons lead rest =>
          obtain ⟨fuel, rfl⟩ : ∃ less, fuel = less + 1 :=
            Nat.exists_eq_add_one.mpr (Nat.lt_of_lt_of_le (Nat.succ_pos _) enough)
          have shorter : (rest.drop (pieceSize lead rest)).length ≤ rest.length := by
            rw [List.length_drop]
            exact Nat.sub_le _ _
          have bound : rest.length ≤ fuel := Nat.le_of_succ_le_succ enough
          rw [decodeAll, List.length_cons, decodeChars_cons, decodeChars_cons,
            ih fuel (Nat.lt_succ_self _) (Nat.le_trans shorter bound)]
          by_cases same : rest.length = fuel
          · rw [same, ih fuel (Nat.lt_succ_self _) (same ▸ shorter)]
          · rw [ih rest.length (by omega) shorter]

@[simp] theorem decodeAll_nil : decodeAll [] = [] := rfl

theorem decodeAll_cons (lead : UInt8) (rest : List UInt8) :
    decodeAll (lead :: rest) =
      pieceChar lead rest :: decodeAll (rest.drop (pieceSize lead rest)) := by
  rw [decodeAll, List.length_cons, decodeChars_cons, decodeChars_eq]
  rw [List.length_drop]
  exact Nat.sub_le _ _

theorem decodeReplace_eq (bytes : List UInt8) :
    decodeReplace bytes = String.ofList (decodeAll bytes) := rfl

/-! One character's encoding. -/

theorem toNat_val_ofNat {value : ℕ} (valid : value.isValidChar) :
    (Char.ofNat value).val.toNat = value := by
  rw [Char.ofNat, dif_pos valid]
  rfl

theorem encode_two {a b : ℕ} (low : 0xC2 ≤ a) (high : a < 0xE0) (b₁ : 0x80 ≤ b)
    (b₂ : b ≤ 0xBF) :
    String.utf8EncodeChar (Char.ofNat ((a - 0xC0) * 64 + (b - 0x80))) =
      [UInt8.ofNat a, UInt8.ofNat b] := by
  have valid : ((a - 0xC0) * 64 + (b - 0x80)).isValidChar := .inl (by omega)
  rw [String.utf8EncodeChar, toNat_val_ofNat valid, if_neg (by omega),
    if_pos (by omega)]
  have first : ((a - 0xC0) * 64 + (b - 0x80)) / 64 % 0x20 + 0xC0 = a := by omega
  have second : ((a - 0xC0) * 64 + (b - 0x80)) % 0x40 + 0x80 = b := by omega
  rw [first, second]

theorem encode_three {a b c : ℕ} (low : 0xE0 ≤ a) (high : a < 0xF0)
    (b₁ : 0x80 ≤ b) (b₂ : b ≤ 0xBF) (c₁ : 0x80 ≤ c) (c₂ : c ≤ 0xBF)
    (full : a = 0xE0 → 0xA0 ≤ b) (scalar : a = 0xED → b ≤ 0x9F) :
    String.utf8EncodeChar
      (Char.ofNat (((a - 0xE0) * 64 + (b - 0x80)) * 64 + (c - 0x80))) =
      [UInt8.ofNat a, UInt8.ofNat b, UInt8.ofNat c] := by
  generalize value : ((a - 0xE0) * 64 + (b - 0x80)) * 64 + (c - 0x80) = v
  have valid : v.isValidChar := by
    unfold Nat.isValidChar
    omega
  rw [String.utf8EncodeChar, toNat_val_ofNat valid, if_neg (by omega),
    if_neg (by omega), if_pos (by omega)]
  have first : v / 4096 % 0x10 + 0xE0 = a := by omega
  have second : v / 64 % 0x40 + 0x80 = b := by omega
  have third : v % 0x40 + 0x80 = c := by omega
  rw [first, second, third]

theorem encode_four {a b c d : ℕ} (low : 0xF0 ≤ a) (high : a < 0xF5)
    (b₁ : 0x80 ≤ b) (b₂ : b ≤ 0xBF) (c₁ : 0x80 ≤ c) (c₂ : c ≤ 0xBF)
    (d₁ : 0x80 ≤ d) (d₂ : d ≤ 0xBF)
    (full : a = 0xF0 → 0x90 ≤ b) (scalar : a = 0xF4 → b ≤ 0x8F) :
    String.utf8EncodeChar (Char.ofNat
      ((((a - 0xF0) * 64 + (b - 0x80)) * 64 + (c - 0x80)) * 64 + (d - 0x80))) =
      [UInt8.ofNat a, UInt8.ofNat b, UInt8.ofNat c, UInt8.ofNat d] := by
  generalize value :
    (((a - 0xF0) * 64 + (b - 0x80)) * 64 + (c - 0x80)) * 64 + (d - 0x80) = v
  have valid : v.isValidChar := by
    unfold Nat.isValidChar
    omega
  rw [String.utf8EncodeChar, toNat_val_ofNat valid, if_neg (by omega),
    if_neg (by omega), if_neg (by omega)]
  have first : v / 262144 % 0x08 + 0xF0 = a := by omega
  have second : v / 4096 % 0x40 + 0x80 = b := by omega
  have third : v / 64 % 0x40 + 0x80 = c := by omega
  have fourth : v % 0x40 + 0x80 = d := by omega
  rw [first, second, third, fourth]

def InRange (range : UInt8 × UInt8) (byte : UInt8) : Prop :=
  range.1 ≤ byte ∧ byte ≤ range.2

theorem inRange_iff {low high byte : UInt8} :
    InRange (low, high) byte ↔
      low.toNat ≤ byte.toNat ∧ byte.toNat ≤ high.toNat := by
  rw [InRange, UInt8.le_iff_toNat_le, UInt8.le_iff_toNat_le]

/-- A range that is narrower at its lower end for one lead byte, and at its upper
end for another. -/
theorem inRange_ite_iff {lead first last low high byte : UInt8}
    (above : 0x80 ≤ low.toNat) (below : high.toNat ≤ 0xBF) :
    InRange (if lead = first then low else 0x80, if lead = last then high else 0xBF)
        byte ↔
      (0x80 ≤ byte.toNat ∧ byte.toNat ≤ 0xBF) ∧
        (lead.toNat = first.toNat → low.toNat ≤ byte.toNat) ∧
        (lead.toNat = last.toNat → byte.toNat ≤ high.toNat) := by
  rw [inRange_iff, UInt8.toNat_inj, UInt8.toNat_inj]
  have least : (0x80 : UInt8).toNat = 0x80 := rfl
  have most : (0xBF : UInt8).toNat = 0xBF := rfl
  by_cases atFirst : lead = first
  · by_cases atLast : lead = last
    · rw [if_pos atFirst, if_pos atLast]
      simp only [eq_true atFirst, eq_true atLast, true_implies]
      omega
    · rw [if_pos atFirst, if_neg atLast]
      simp only [eq_true atFirst, eq_false atLast, true_implies, false_implies,
        and_true]
      omega
  · by_cases atLast : lead = last
    · rw [if_neg atFirst, if_pos atLast]
      simp only [eq_false atFirst, eq_true atLast, true_implies, false_implies,
        true_and]
      omega
    · rw [if_neg atFirst, if_neg atLast]
      simp only [eq_false atFirst, eq_false atLast, false_implies, and_true]
      omega

/-! The lead bytes by what may follow them. -/

section

variable {lead : UInt8}

theorem continuations_one (ascii : lead.toNat < 0x80) :
    continuations lead = some [] := by
  rw [continuations, if_pos (UInt8.lt_iff_toNat_lt.mpr ascii)]

theorem continuations_two (low : 0xC2 ≤ lead.toNat) (high : lead.toNat < 0xE0) :
    continuations lead = some [(0x80, 0xBF)] := by
  have ascii : ¬ lead < 0x80 := by
    rw [UInt8.lt_iff_toNat_lt]
    exact Nat.not_lt.mpr (Nat.le_trans (by decide) low)
  have short : ¬ lead < 0xC2 := by
    rw [UInt8.lt_iff_toNat_lt]
    exact Nat.not_lt.mpr low
  rw [continuations, if_neg ascii, if_neg short,
    if_pos (UInt8.lt_iff_toNat_lt.mpr high)]

theorem continuations_three (low : 0xE0 ≤ lead.toNat) (high : lead.toNat < 0xF0) :
    continuations lead =
      some [(if lead = 0xE0 then 0xA0 else 0x80,
        if lead = 0xED then 0x9F else 0xBF), (0x80, 0xBF)] := by
  have least : ∀ bound : UInt8, bound.toNat ≤ 0xE0 → ¬ lead < bound := by
    intro bound small
    rw [UInt8.lt_iff_toNat_lt]
    exact Nat.not_lt.mpr (Nat.le_trans small low)
  rw [continuations, if_neg (least _ (by decide)), if_neg (least _ (by decide)),
    if_neg (least _ (by decide))]
  by_cases first : lead = 0xE0
  · subst first
    rfl
  · rw [if_neg first, if_neg first]
    by_cases surrogates : lead = 0xED
    · subst surrogates
      rfl
    · rw [if_neg surrogates, if_neg surrogates,
        if_pos (UInt8.lt_iff_toNat_lt.mpr high)]

theorem continuations_four (low : 0xF0 ≤ lead.toNat) (high : lead.toNat < 0xF5) :
    continuations lead =
      some [(if lead = 0xF0 then 0x90 else 0x80,
        if lead = 0xF4 then 0x8F else 0xBF), (0x80, 0xBF), (0x80, 0xBF)] := by
  have least : ∀ bound : UInt8, bound.toNat ≤ 0xF0 → ¬ lead < bound := by
    intro bound small
    rw [UInt8.lt_iff_toNat_lt]
    exact Nat.not_lt.mpr (Nat.le_trans small low)
  have three : lead ≠ 0xE0 ∧ lead ≠ 0xED := by
    constructor
    · rintro rfl
      exact absurd low (by decide)
    · rintro rfl
      exact absurd low (by decide)
  rw [continuations, if_neg (least _ (by decide)), if_neg (least _ (by decide)),
    if_neg (least _ (by decide)), if_neg three.1, if_neg three.2,
    if_neg (least _ (by decide))]
  by_cases first : lead = 0xF0
  · subst first
    rfl
  · rw [if_neg first, if_neg first]
    by_cases last : lead = 0xF4
    · subst last
      rfl
    · have below : lead < 0xF4 := by
        rw [UInt8.lt_iff_toNat_lt]
        have other : lead.toNat ≠ 0xF4 := fun same => last (UInt8.toNat_inj.mp same)
        change lead.toNat < 0xF4
        omega
      rw [if_pos below, if_neg last]

theorem continuations_none (bad : 0x80 ≤ lead.toNat ∧ lead.toNat < 0xC2 ∨
    0xF5 ≤ lead.toNat) : continuations lead = none := by
  rcases bad with ⟨low, high⟩ | high
  · have ascii : ¬ lead < 0x80 := by
      rw [UInt8.lt_iff_toNat_lt]
      exact Nat.not_lt.mpr low
    rw [continuations, if_neg ascii, if_pos (UInt8.lt_iff_toNat_lt.mpr high)]
  · have least : ∀ bound : UInt8, bound.toNat ≤ 0xF5 → ¬ lead < bound := by
      intro bound small
      rw [UInt8.lt_iff_toNat_lt]
      exact Nat.not_lt.mpr (Nat.le_trans small high)
    have other : ∀ value : UInt8, value.toNat < 0xF5 → lead ≠ value := by
      rintro value small rfl
      exact Nat.not_lt.mpr high small
    rw [continuations, if_neg (least _ (by decide)), if_neg (least _ (by decide)),
      if_neg (least _ (by decide)), if_neg (other _ (by decide)),
      if_neg (other _ (by decide)), if_neg (least _ (by decide)),
      if_neg (other _ (by decide)), if_neg (least _ (by decide)),
      if_neg (other _ (by decide))]

theorem matching_full {ranges : List (UInt8 × UInt8)} {rest : List UInt8}
    (full : matching ranges rest = ranges.length) :
    ∃ tail after, rest = tail ++ after ∧ List.Forall₂ InRange ranges tail := by
  induction ranges generalizing rest with
  | nil => exact ⟨[], rest, rfl, .nil⟩
  | cons range ranges ih =>
      cases rest with
      | nil => cases full
      | cons byte rest =>
          rw [matching] at full
          split at full
          case isTrue fits =>
            obtain ⟨tail, after, rfl, all⟩ := ih (Nat.succ.inj full)
            exact ⟨byte :: tail, after, rfl, .cons fits all⟩
          case isFalse => cases full

theorem matching_append {ranges : List (UInt8 × UInt8)} {tail : List UInt8}
    (all : List.Forall₂ InRange ranges tail) (after : List UInt8) :
    matching ranges (tail ++ after) = ranges.length := by
  induction all with
  | nil => cases after <;> rfl
  | cons fits _ ih =>
      rw [List.cons_append, matching, if_pos (show _ ∧ _ from fits), ih,
        List.length_cons]

theorem encode_codePoint {ranges : List (UInt8 × UInt8)} {tail : List UInt8}
    (found : continuations lead = some ranges)
    (all : List.Forall₂ InRange ranges tail) :
    String.utf8EncodeChar (codePoint lead tail) = lead :: tail := by
  have self : UInt8.ofNat lead.toNat = lead := UInt8.ofNat_toNat
  by_cases ascii : lead.toNat < 0x80
  · rw [continuations_one ascii] at found
    cases found
    cases all
    have valid : lead.toNat.isValidChar := .inl (by omega)
    change String.utf8EncodeChar (Char.ofNat lead.toNat) = _
    rw [String.utf8EncodeChar, toNat_val_ofNat valid, if_pos (by omega), self]
  by_cases short : lead.toNat < 0xC2
  · rw [continuations_none (.inl ⟨by omega, short⟩)] at found
    cases found
  by_cases two : lead.toNat < 0xE0
  · rw [continuations_two (by omega) two] at found
    cases found
    rcases all with _ | @⟨_, b, _, _, first, _ | _⟩
    obtain ⟨b₁, b₂⟩ := inRange_iff.mp first
    have encoded := encode_two (Nat.not_lt.mp short) two b₁ b₂
    rw [self, UInt8.ofNat_toNat] at encoded
    exact encoded
  by_cases three : lead.toNat < 0xF0
  · rw [continuations_three (by omega) three] at found
    cases found
    rcases all with _ | @⟨_, b, _, _, first, _ | @⟨_, c, _, _, second, _ | _⟩⟩
    obtain ⟨⟨b₁, b₂⟩, full, scalar⟩ :=
      (inRange_ite_iff (by decide) (by decide)).mp first
    obtain ⟨c₁, c₂⟩ := inRange_iff.mp second
    have encoded := encode_three (Nat.not_lt.mp two) three b₁ b₂ c₁ c₂ full scalar
    rw [self, UInt8.ofNat_toNat, UInt8.ofNat_toNat] at encoded
    exact encoded
  by_cases four : lead.toNat < 0xF5
  · rw [continuations_four (by omega) four] at found
    cases found
    rcases all with _ | @⟨_, b, _, _, first, _ |
      @⟨_, c, _, _, second, _ | @⟨_, d, _, _, third, _ | _⟩⟩⟩
    obtain ⟨⟨b₁, b₂⟩, full, scalar⟩ :=
      (inRange_ite_iff (by decide) (by decide)).mp first
    obtain ⟨c₁, c₂⟩ := inRange_iff.mp second
    obtain ⟨d₁, d₂⟩ := inRange_iff.mp third
    have encoded := encode_four (Nat.not_lt.mp three) four b₁ b₂ c₁ c₂ d₁ d₂ full
      scalar
    rw [self, UInt8.ofNat_toNat, UInt8.ofNat_toNat, UInt8.ofNat_toNat] at encoded
    exact encoded
  · rw [continuations_none (.inr (Nat.not_lt.mp four))] at found
    cases found

theorem encode_piece (char : Char) :
    ∃ lead ranges tail, String.utf8EncodeChar char = lead :: tail ∧
      continuations lead = some ranges ∧ List.Forall₂ InRange ranges tail := by
  have valid : char.val.toNat < 0xD800 ∨
      0xDFFF < char.val.toNat ∧ char.val.toNat < 0x110000 := char.valid
  have small : ∀ n, n < 256 → (UInt8.ofNat n).toNat = n := by
    intro n bound
    rw [UInt8.toNat_ofNat']
    exact Nat.mod_eq_of_lt bound
  have follows : ∀ n, InRange (0x80, 0xBF) (UInt8.ofNat (n % 0x40 + 0x80)) := by
    intro n
    rw [inRange_iff, small _ (by omega)]
    have least : (0x80 : UInt8).toNat = 0x80 := rfl
    have most : (0xBF : UInt8).toNat = 0xBF := rfl
    omega
  rw [String.utf8EncodeChar]
  generalize char.val.toNat = v at valid
  by_cases one : v ≤ 0x7F
  · rw [if_pos one]
    exact ⟨_, _, _, rfl, continuations_one (by rw [small _ (by omega)]; omega), .nil⟩
  by_cases two : v ≤ 0x7FF
  · rw [if_neg one, if_pos two]
    have lead := small (v / 64 % 0x20 + 0xC0) (by omega)
    exact ⟨_, _, _, rfl, continuations_two (by omega) (by omega),
      .cons (follows _) .nil⟩
  by_cases three : v ≤ 0xFFFF
  · rw [if_neg one, if_neg two, if_pos three]
    have lead := small (v / 4096 % 0x10 + 0xE0) (by omega)
    refine ⟨_, _, _, rfl, continuations_three (by omega) (by omega),
      .cons ?_ (.cons (follows _) .nil)⟩
    rw [inRange_ite_iff (by decide) (by decide), lead, small _ (by omega)]
    have least : (0xA0 : UInt8).toNat = 0xA0 := rfl
    have most : (0x9F : UInt8).toNat = 0x9F := rfl
    have first : (0xE0 : UInt8).toNat = 0xE0 := rfl
    have last : (0xED : UInt8).toNat = 0xED := rfl
    omega
  · rw [if_neg one, if_neg two, if_neg three]
    have lead := small (v / 262144 % 0x08 + 0xF0) (by omega)
    refine ⟨_, _, _, rfl, continuations_four (by omega) (by omega),
      .cons ?_ (.cons (follows _) (.cons (follows _) .nil))⟩
    rw [inRange_ite_iff (by decide) (by decide), lead, small _ (by omega)]
    have least : (0x90 : UInt8).toNat = 0x90 := rfl
    have most : (0x8F : UInt8).toNat = 0x8F := rfl
    have first : (0xF0 : UInt8).toNat = 0xF0 := rfl
    have last : (0xF4 : UInt8).toNat = 0xF4 := rfl
    omega

theorem utf8EncodeChar_injective : Function.Injective String.utf8EncodeChar := by
  intro first second same
  have encoded : [first].utf8Encode = [second].utf8Encode := by
    simp [List.utf8Encode, same]
  have texts : String.ofList [first] = String.ofList [second] := by
    apply String.toByteArray_inj.mp
    rw [String.toByteArray_ofList, String.toByteArray_ofList, encoded]
  exact (List.cons.inj (String.ofList_injective texts)).1

end

/-! Whole texts. -/

theorem pieceSize_append {lead : UInt8} {ranges : List (UInt8 × UInt8)}
    {tail : List UInt8} (found : continuations lead = some ranges)
    (all : List.Forall₂ InRange ranges tail) (after : List UInt8) :
    pieceSize lead (tail ++ after) = tail.length := by
  rw [pieceSize, found, all.length_eq.symm]
  exact matching_append all after

theorem pieceChar_append {lead : UInt8} {ranges : List (UInt8 × UInt8)}
    {tail : List UInt8} (found : continuations lead = some ranges)
    (all : List.Forall₂ InRange ranges tail) (after : List UInt8) :
    pieceChar lead (tail ++ after) = codePoint lead tail := by
  have full : isWellFormed lead (tail ++ after) = true := by
    rw [isWellFormed, found]
    exact decide_eq_true (matching_append all after)
  rw [pieceChar, if_pos full, pieceSize_append found all, List.take_left]

theorem decodeAll_append {lead : UInt8} {ranges : List (UInt8 × UInt8)}
    {tail : List UInt8} (found : continuations lead = some ranges)
    (all : List.Forall₂ InRange ranges tail) (after : List UInt8) :
    decodeAll (lead :: (tail ++ after)) = codePoint lead tail :: decodeAll after := by
  rw [decodeAll_cons, pieceChar_append found all, pieceSize_append found all,
    List.drop_left]

theorem decodeAll_encodeChar (char : Char) (after : List UInt8) :
    decodeAll (String.utf8EncodeChar char ++ after) = char :: decodeAll after := by
  obtain ⟨lead, ranges, tail, encoded, found, all⟩ := encode_piece char
  have same : codePoint lead tail = char := by
    apply utf8EncodeChar_injective
    rw [encode_codePoint found all, encoded]
  rw [encoded, List.cons_append, decodeAll_append found all, same]

theorem decodeAll_encode (chars : List Char) (after : List UInt8) :
    decodeAll (chars.flatMap String.utf8EncodeChar ++ after) =
      chars ++ decodeAll after := by
  induction chars with
  | nil => rfl
  | cons char rest ih =>
      rw [List.flatMap_cons, List.append_assoc, decodeAll_encodeChar, ih,
        List.cons_append]

theorem decodeReplace_encodeUtf8 (text : String) :
    decodeReplace (encodeUtf8 text) = text := by
  obtain ⟨chars, rfl⟩ : ∃ chars, text = String.ofList chars :=
    ⟨text.toList, String.ofList_toList.symm⟩
  have decoded := decodeAll_encode chars []
  rw [List.append_nil, decodeAll_nil, List.append_nil] at decoded
  rw [encodeUtf8_ofList, decodeReplace_eq, decoded]

/-- A piece is the encoding of its character, or it is ill-formed. -/
theorem piece_cases (lead : UInt8) (rest : List UInt8) :
    (∃ tail after, rest = tail ++ after ∧
      decodeAll (lead :: rest) = codePoint lead tail :: decodeAll after ∧
      String.utf8EncodeChar (codePoint lead tail) = lead :: tail) ∨
    isWellFormed lead rest = false ∧
      decodeAll (lead :: rest) =
        '\uFFFD' :: decodeAll (rest.drop (pieceSize lead rest)) := by
  cases form : isWellFormed lead rest with
  | false =>
      right
      rw [decodeAll_cons, pieceChar, form]
      exact ⟨rfl, rfl⟩
  | true =>
      left
      rw [isWellFormed] at form
      cases found : continuations lead with
      | none =>
          rw [found] at form
          cases form
      | some ranges =>
          rw [found] at form
          obtain ⟨tail, after, rfl, all⟩ := matching_full (of_decide_eq_true form)
          exact ⟨tail, after, rfl, decodeAll_append found all after,
            encode_codePoint found all⟩

theorem encode_replacement :
    String.utf8EncodeChar '\uFFFD' = [0xEF, 0xBF, 0xBD] := by
  decide +kernel

/-- The start of the bytes is decoded and encoded again.  That gives all of them
if none is left out, or if what is left out is the end of a last U+FFFD. -/
theorem reencode_eq {taken rest : List UInt8}
    (same : (decodeAll taken).flatMap String.utf8EncodeChar = taken ++ rest) :
    rest = [] ∨ ∃ chars : List Char,
      taken ++ rest =
        chars.flatMap String.utf8EncodeChar ++ [0xEF, 0xBF, 0xBD] ∧
      (rest = [0xBD] ∨ rest = [0xBF, 0xBD]) := by
  induction count : taken.length using Nat.strongRecOn generalizing taken with
  | _ size ih =>
      cases taken with
      | nil => exact .inl same.symm
      | cons lead bytes =>
          rcases piece_cases lead bytes with
            ⟨tail, after, rfl, decoded, encoded⟩ | ⟨broken, decoded⟩
          · rw [decoded, List.flatMap_cons, encoded, List.cons_append,
              List.cons_append, List.append_assoc] at same
            replace same := List.append_cancel_left (List.cons.inj same).2
            have shorter : after.length < size := by
              rw [← count, List.length_cons, List.length_append]
              omega
            rcases ih after.length shorter same rfl with all | ⟨chars, covers, cut⟩
            · exact .inl all
            · refine .inr ⟨codePoint lead tail :: chars, ?_, cut⟩
              rw [List.flatMap_cons, encoded, List.cons_append, List.append_assoc,
                covers]
              simp
          · rw [decoded, List.flatMap_cons, encode_replacement] at same
            obtain ⟨rfl, same⟩ := List.cons.inj same
            refine .inr ⟨[], ?_⟩
            -- The bytes start like U+FFFD, so they end before it does.
            cases bytes with
            | nil =>
                obtain rfl : rest = [0xBF, 0xBD] := same.symm
                exact ⟨rfl, .inr rfl⟩
            | cons second bytes =>
                obtain ⟨rfl, same⟩ := List.cons.inj same
                cases bytes with
                | nil =>
                    obtain rfl : rest = [0xBD] := same.symm
                    exact ⟨rfl, .inl rfl⟩
                | cons third bytes =>
                    obtain ⟨rfl, -⟩ := List.cons.inj same
                    cases broken

theorem decodeAll_cut (chars : List Char) {cut : List UInt8}
    (short : cut = [0xEF] ∨ cut = [0xEF, 0xBF]) :
    decodeAll (chars.flatMap String.utf8EncodeChar ++ cut) = chars ++ ['\uFFFD'] := by
  rw [decodeAll_encode]
  rcases short with rfl | rfl
  · rfl
  · rfl

/-! What comes before a byte that continues nothing is decoded by itself. -/

theorem matching_stop {ranges : List (UInt8 × UInt8)}
    (within : ∀ range ∈ ranges, 0x80 ≤ range.1.toNat ∧ range.2.toNat ≤ 0xBF)
    {byte : UInt8} (outside : byte.toNat < 0x80 ∨ 0xBF < byte.toNat)
    (first after : List UInt8) :
    matching ranges (first ++ byte :: after) = matching ranges first := by
  induction ranges generalizing first with
  | nil => cases first <;> rfl
  | cons range ranges ih =>
      obtain ⟨low, most⟩ := range
      cases first with
      | nil =>
          have other : ¬ (low ≤ byte ∧ byte ≤ most) := by
            rintro ⟨above, below⟩
            have bounds : 0x80 ≤ low.toNat ∧ most.toNat ≤ 0xBF :=
              within (low, most) List.mem_cons_self
            rw [UInt8.le_iff_toNat_le] at above below
            omega
          exact if_neg other
      | cons other first =>
          rw [List.cons_append, matching, matching,
            ih (fun range member => within range (List.mem_cons_of_mem _ member))]

theorem matching_le (ranges : List (UInt8 × UInt8)) (bytes : List UInt8) :
    matching ranges bytes ≤ bytes.length := by
  induction ranges generalizing bytes with
  | nil => cases bytes <;> exact Nat.zero_le _
  | cons range ranges ih =>
      cases bytes with
      | nil => exact Nat.le_refl _
      | cons byte bytes =>
          rw [matching]
          split
          case isTrue => exact Nat.succ_le_succ (ih bytes)
          case isFalse => exact Nat.zero_le _

theorem matching_take (ranges : List (UInt8 × UInt8)) (bytes : List UInt8) (size : ℕ) :
    matching ranges (bytes.take size) = min (matching ranges bytes) size := by
  induction ranges generalizing bytes size with
  | nil => cases bytes <;> cases size <;> exact (Nat.zero_min _).symm
  | cons range ranges ih =>
      cases size with
      | zero => exact (Nat.min_zero _).symm
      | succ size =>
          cases bytes with
          | nil => exact (Nat.zero_min _).symm
          | cons byte bytes =>
              rw [List.take_succ_cons, matching, matching]
              split
              case isTrue => rw [ih, Nat.succ_min_succ]
              case isFalse => exact (Nat.zero_min _).symm

theorem pieceSize_take (lead : UInt8) (rest : List UInt8) (size : ℕ) :
    pieceSize lead (rest.take size) = min (pieceSize lead rest) size := by
  rw [pieceSize, pieceSize]
  cases continuations lead with
  | none => exact (Nat.zero_min _).symm
  | some ranges => exact matching_take ranges rest size

/-- A piece that is cut off is one character all the same. -/
theorem length_decodeAll_take (bytes : List UInt8) (size : ℕ) :
    (decodeAll (bytes.take size)).length ≤ (decodeAll bytes).length := by
  induction count : bytes.length using Nat.strongRecOn generalizing bytes size with
  | _ total ih =>
      cases size with
      | zero => exact Nat.zero_le _
      | succ size =>
          cases bytes with
          | nil => exact Nat.le_refl _
          | cons lead rest =>
              rw [List.take_succ_cons, decodeAll_cons, decodeAll_cons, pieceSize_take,
                List.length_cons, List.length_cons]
              apply Nat.succ_le_succ
              rcases Nat.le_total (pieceSize lead rest) size with inside | cut
              · have shorter : (rest.drop (pieceSize lead rest)).length < total := by
                  rw [← count, List.length_drop, List.length_cons]
                  omega
                rw [Nat.min_eq_left inside, List.drop_take]
                exact ih _ shorter _ _ rfl
              · rw [Nat.min_eq_right cut, List.drop_take, Nat.sub_self, List.take_zero]
                exact Nat.zero_le _

theorem continuations_within {lead : UInt8} {ranges : List (UInt8 × UInt8)}
    (found : continuations lead = some ranges) :
    ∀ range ∈ ranges, 0x80 ≤ range.1.toNat ∧ range.2.toNat ≤ 0xBF := by
  unfold continuations at found
  repeat' split at found
  all_goals cases found
  all_goals simp

theorem decodeAll_stop {byte : UInt8} (outside : byte.toNat < 0x80 ∨ 0xBF < byte.toNat)
    (first after : List UInt8) :
    decodeAll (first ++ byte :: after) = decodeAll first ++ decodeAll (byte :: after) := by
  induction count : first.length using Nat.strongRecOn generalizing first with
  | _ size ih =>
      cases first with
      | nil => rfl
      | cons lead first =>
          have sameSize : pieceSize lead (first ++ byte :: after) =
              pieceSize lead first := by
            rw [pieceSize, pieceSize]
            cases found : continuations lead with
            | none => rfl
            | some ranges =>
                exact matching_stop (continuations_within found) outside first after
          have bound : pieceSize lead first ≤ first.length := by
            rw [pieceSize]
            cases continuations lead with
            | none => exact Nat.zero_le _
            | some ranges => exact matching_le ranges first
          have sameForm : isWellFormed lead (first ++ byte :: after) =
              isWellFormed lead first := by
            rw [isWellFormed, isWellFormed]
            cases found : continuations lead with
            | none => rfl
            | some ranges =>
                change decide (_ = _) = decide (_ = _)
                rw [matching_stop (continuations_within found) outside]
          have sameChar : pieceChar lead (first ++ byte :: after) =
              pieceChar lead first := by
            rw [pieceChar, pieceChar, sameForm, sameSize,
              List.take_append_of_le_length bound]
          have shorter : (first.drop (pieceSize lead first)).length < size := by
            rw [← count, List.length_drop, List.length_cons]
            omega
          rw [List.cons_append, decodeAll_cons, decodeAll_cons, sameChar, sameSize,
            List.drop_append_of_le_length bound,
            ih _ shorter (first.drop (pieceSize lead first)) rfl, List.cons_append]

/-! Bytes below 0x80 stand for themselves. -/

theorem decodeAll_ascii (byte : UInt8) (ascii : byte.toNat < 0x80)
    (first after : List UInt8) :
    decodeAll (first ++ byte :: after) =
      decodeAll first ++ Char.ofNat byte.toNat :: decodeAll after := by
  have alone : decodeAll (byte :: after) = Char.ofNat byte.toNat :: decodeAll after :=
    decodeAll_append (continuations_one ascii) .nil after
  rw [decodeAll_stop (.inl ascii), alone]

end VpnTunnel.Foundation
