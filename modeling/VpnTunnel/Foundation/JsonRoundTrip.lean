import VpnTunnel.Foundation.Dict
import VpnTunnel.Foundation.Json

namespace VpnTunnel.Foundation

/-! What is written is read back. -/

theorem hexValue_hexDigit : ∀ n < 16, hexValue (hexDigit n) = some n := by
  decide

theorem ofNat_val (point : Fin 0x110000) : Fin.ofNat 0x110000 point.val = point :=
  Fin.ext (Nat.mod_eq_of_lt point.isLt)

theorem scanUnits_escapeUnit {unit : ℕ} (small : unit < 0x10000) (rest : List Char) :
    scanUnits (escapeUnit unit ++ rest) =
      (scanUnits rest).map fun scanned =>
        (Fin.ofNat 0x110000 unit :: scanned.1, scanned.2) := by
  have digit : ∀ n, hexValue (hexDigit (n % 16)) = some (n % 16) := fun n =>
    hexValue_hexDigit _ (Nat.mod_lt _ (by decide))
  have whole : ((unit / 0x1000 % 16 * 16 + unit / 0x100 % 16) * 16 +
      unit / 0x10 % 16) * 16 + unit % 16 = unit := by
    omega
  have scanned : hexUnit (hexDigit (unit / 0x1000 % 16))
      (hexDigit (unit / 0x100 % 16)) (hexDigit (unit / 0x10 % 16))
      (hexDigit (unit % 16)) = some (Fin.ofNat 0x110000 unit) := by
    simp only [hexUnit, digit, Option.bind_eq_bind, Option.bind_some,
      Option.pure_def, whole]
  rw [escapeUnit]
  simp only [List.cons_append, List.nil_append, scanUnits, scanned,
    Option.bind_eq_bind, Option.bind_some]
  cases scanUnits rest <;> rfl

/-- The UTF-16 units that stand for a character. -/
def unitsOf (point : Fin 0x110000) : PyText :=
  if point.val < 0x10000 then [point]
  else
    [Fin.ofNat 0x110000 (0xD800 + (point.val - 0x10000) / 0x400),
      Fin.ofNat 0x110000 (0xDC00 + (point.val - 0x10000) % 0x400)]

theorem scanUnits_unescape {char : Char} {point : Fin 0x110000}
    (plain : char ≠ 'u') (known : unescape char = some point) (rest : List Char) :
    scanUnits ('\\' :: char :: rest) =
      (scanUnits rest).map fun scanned => (point :: scanned.1, scanned.2) := by
  rw [scanUnits.eq_def]
  split
  case h_1 => contradiction
  case h_2 same => exact absurd (List.cons.inj same).1 (by decide)
  case h_3 same => exact absurd (List.cons.inj (List.cons.inj same).2).1 plain
  case h_4 same =>
    obtain ⟨rfl, rfl⟩ := List.cons.inj (List.cons.inj same).2
    rw [known]
    cases scanUnits rest <;> rfl
  case h_5 other same =>
    obtain ⟨rfl, rfl⟩ := List.cons.inj same
    exact absurd rfl (other _ _ rfl)

theorem scanUnits_plain {char : Char} (quote : char ≠ '\x22') (slash : char ≠ '\\')
    (printable : 0x20 ≤ char.toNat) (rest : List Char) :
    scanUnits (char :: rest) =
      (scanUnits rest).map fun scanned =>
        (Fin.ofNat 0x110000 char.toNat :: scanned.1, scanned.2) := by
  rw [scanUnits.eq_def]
  split
  case h_1 => contradiction
  case h_2 same => exact absurd (List.cons.inj same).1 quote
  case h_3 same => exact absurd (List.cons.inj same).1 slash
  case h_4 same => exact absurd (List.cons.inj same).1 slash
  case h_5 same =>
    obtain ⟨rfl, rfl⟩ := List.cons.inj same
    rw [if_neg (by simp [slash]; omega)]
    cases scanUnits rest <;> rfl

theorem mem_of_lookup {α β : Type*} [BEq α] [LawfulBEq α] {key : α} {value : β}
    {entries : List (α × β)} (found : entries.lookup key = some value) :
    (key, value) ∈ entries := by
  obtain ⟨before, after, rfl, -⟩ := List.lookup_eq_some_iff.mp found
  exact List.mem_append_right _ List.mem_cons_self

theorem unescape_shortEscapes : ∀ entry ∈ shortEscapes,
    entry.2 ≠ 'u' ∧ unescape entry.2 = some entry.1 := by
  decide

theorem scanUnits_escapePoint (point : Fin 0x110000) (rest : List Char) :
    scanUnits (escapePoint point ++ rest) =
      (scanUnits rest).map fun scanned =>
        (unitsOf point ++ scanned.1, scanned.2) := by
  have bound := point.isLt
  rw [escapePoint]
  split
  case h_1 char short =>
    obtain ⟨plain, known⟩ := unescape_shortEscapes _ (mem_of_lookup short)
    have small : point.val < 0x10000 := by
      have listed : ∀ entry ∈ shortEscapes, entry.1.val < 0x10000 := by decide
      exact listed _ (mem_of_lookup short)
    rw [unitsOf, if_pos small]
    exact scanUnits_unescape plain known rest
  case h_2 long =>
    by_cases printable : 0x20 ≤ point.val ∧ point.val ≤ 0x7E
    · rw [if_pos printable, unitsOf, if_pos (by omega)]
      have value : (Char.ofNat point.val).toNat = point.val :=
        toNat_val_ofNat (.inl (by omega))
      have other : ∀ unit : Fin 0x110000, shortEscapes.lookup unit ≠ none →
          point.val ≠ unit.val := by
        intro unit listed same
        exact listed (Fin.ext same ▸ long)
      have plain : ∀ char : Char, point.val ≠ char.toNat →
          Char.ofNat point.val ≠ char := by
        rintro char different rfl
        exact different value.symm
      have scanned := scanUnits_plain
        (plain '\x22' (other 0x22 (by decide))) (plain '\\' (other 0x5C (by decide)))
        (by rw [value]; exact printable.1) rest
      rw [value, ofNat_val] at scanned
      exact scanned
    · rw [if_neg printable]
      by_cases small : point.val < 0x10000
      · rw [if_pos small, unitsOf, if_pos small, scanUnits_escapeUnit small,
          ofNat_val]
        rfl
      · rw [if_neg small, unitsOf, if_neg small, List.append_assoc,
          scanUnits_escapeUnit (by omega), scanUnits_escapeUnit (by omega),
          Option.map_map]
        rfl

theorem scanUnits_text (text : PyText) (rest : List Char) :
    scanUnits (text.flatMap escapePoint ++ '\x22' :: rest) =
      some (text.flatMap unitsOf, rest) := by
  induction text with
  | nil => simp [scanUnits]
  | cons point text ih =>
      rw [List.flatMap_cons, List.append_assoc, scanUnits_escapePoint, ih,
        List.flatMap_cons]
      rfl

/-- No surrogates. -/
def IsText (text : PyText) : Prop :=
  ∀ point ∈ text, point.val < 0xD800 ∨ 0xDFFF < point.val

theorem joinSurrogates_unitsOf {point : Fin 0x110000}
    (scalar : point.val < 0xD800 ∨ 0xDFFF < point.val) (rest : PyText) :
    joinSurrogates (unitsOf point ++ rest) = point :: joinSurrogates rest := by
  have bound := point.isLt
  rw [unitsOf]
  by_cases small : point.val < 0x10000
  · rw [if_pos small, List.singleton_append]
    cases rest with
    | nil => rfl
    | cons next rest =>
        have high : isHigh point = false := by
          rw [isHigh, decide_eq_false_iff_not]
          omega
        rw [joinSurrogates, if_neg]
        rw [high]
        exact fun both => Bool.false_ne_true both.1
  · rw [if_neg small]
    have first : (Fin.ofNat 0x110000 (0xD800 + (point.val - 0x10000) / 0x400)).val =
        0xD800 + (point.val - 0x10000) / 0x400 := Nat.mod_eq_of_lt (by omega)
    have second : (Fin.ofNat 0x110000 (0xDC00 + (point.val - 0x10000) % 0x400)).val =
        0xDC00 + (point.val - 0x10000) % 0x400 := Nat.mod_eq_of_lt (by omega)
    have high : isHigh
        (Fin.ofNat 0x110000 (0xD800 + (point.val - 0x10000) / 0x400)) = true := by
      rw [isHigh, first, decide_eq_true_iff]
      omega
    have low : isLow
        (Fin.ofNat 0x110000 (0xDC00 + (point.val - 0x10000) % 0x400)) = true := by
      rw [isLow, second, decide_eq_true_iff]
      omega
    rw [List.cons_append, List.singleton_append, joinSurrogates,
      if_pos ⟨high, low⟩, first, second]
    have whole : 0x10000 + (0xD800 + (point.val - 0x10000) / 0x400 - 0xD800) * 0x400 +
        (0xDC00 + (point.val - 0x10000) % 0x400 - 0xDC00) = point.val := by
      omega
    rw [whole, ofNat_val]

theorem scanText_dumps {text : PyText} (scalars : IsText text) (rest : List Char) :
    scanText (text.flatMap escapePoint ++ '\x22' :: rest) = some (text, rest) := by
  have joined : joinSurrogates (text.flatMap unitsOf) = text := by
    induction text with
    | nil => rfl
    | cons point text ih =>
        rw [List.flatMap_cons, joinSurrogates_unitsOf
          (scalars point List.mem_cons_self),
          ih fun other member => scalars other (List.mem_cons_of_mem _ member)]
  rw [scanText, scanUnits_text]
  simp [joined]

/-! Numbers. -/

/-- No number goes on here. -/
def Stops (rest : List Char) : Prop :=
  ∀ char ∈ rest.head?, char = ',' ∨ char = ']' ∨ char = '}'

theorem scanDigits_append {digits rest : List Char}
    (all : ∀ char ∈ digits, char.isDigit = true)
    (stop : ∀ char ∈ rest.head?, char.isDigit = false) :
    scanDigits (digits ++ rest) = (digits, rest) := by
  have nothing : rest.takeWhile Char.isDigit = [] ∧
      rest.dropWhile Char.isDigit = rest := by
    cases rest with
    | nil => exact ⟨rfl, rfl⟩
    | cons char tail =>
        have beyond : ¬ char.isDigit = true := by
          rw [stop char rfl]
          exact Bool.false_ne_true
        exact ⟨List.takeWhile_cons_of_neg beyond, List.dropWhile_cons_of_neg beyond⟩
  rw [scanDigits, List.takeWhile_append_of_pos all, List.dropWhile_append_of_pos all,
    nothing.1, nothing.2, List.append_nil]

theorem toDigits_head {number : ℕ} (positive : 0 < number) :
    ∃ digit rest, 0 < digit ∧ digit < 10 ∧
      Nat.toDigits 10 number = Nat.digitChar digit :: rest := by
  induction number using Nat.strongRecOn with
  | _ number ih =>
      rw [Nat.toDigits_eq_if (by decide)]
      by_cases small : number < 10
      · rw [if_pos small]
        exact ⟨number, [], positive, small, rfl⟩
      · rw [if_neg small]
        obtain ⟨digit, rest, above, below, same⟩ :=
          ih (number / 10) (by omega) (by omega)
        exact ⟨digit, _, above, below, by rw [same]; rfl⟩

theorem isDigit_toDigits (number : ℕ) :
    ∀ char ∈ Nat.toDigits 10 number, char.isDigit = true := fun _ member =>
  Nat.isDigit_of_mem_toDigits (by decide) (by decide) member

theorem scanWhole_toDigits (number : ℕ) {rest : List Char}
    (stop : ∀ char ∈ rest.head?, char.isDigit = false) :
    scanWhole (Nat.toDigits 10 number ++ rest) = some (number, rest) := by
  by_cases zero : number = 0
  · subst zero
    rw [Nat.toDigits_zero]
    rfl
  · have scanned := scanDigits_append (isDigit_toDigits number) stop
    obtain ⟨digit, more, above, below, same⟩ :=
      toDigits_head (Nat.pos_of_ne_zero zero)
    have other : Nat.digitChar digit ≠ '0' := by
      have all : ∀ d < 10, 0 < d → Nat.digitChar d ≠ '0' := by decide
      exact all digit below above
    have value := Nat.ofDigitChars_ten_toDigits (n := number)
    rw [same] at scanned value ⊢
    rw [List.cons_append] at scanned ⊢
    rw [scanWhole.eq_def]
    split
    case h_1 first => exact absurd (List.cons.inj first).1 other
    case h_2 =>
      rw [scanned]
      simp only [value]

theorem isDigit_digitChars (digits : List (Fin 10)) :
    ∀ char ∈ digitChars digits, char.isDigit = true := by
  have all : ∀ digit : Fin 10, (Nat.digitChar digit.val).isDigit = true := by decide
  intro char member
  obtain ⟨digit, -, rfl⟩ := List.mem_map.mp member
  exact all digit

theorem map_digitOf (digits : List (Fin 10)) :
    (digitChars digits).map digitOf = digits := by
  have all : ∀ digit : Fin 10, digitOf (Nat.digitChar digit.val) = digit := by
    decide
  rw [digitChars, List.map_map]
  exact List.map_id'' all digits

theorem scanFraction_dumps (fraction : Option (Fin 10 × List (Fin 10)))
    {rest : List Char}
    (stop : ∀ char ∈ rest.head?, char.isDigit = false ∧ char ≠ '.') :
    scanFraction (dumpsFraction fraction ++ rest) = (fraction, rest) := by
  cases fraction with
  | none =>
      rw [dumpsFraction, List.nil_append, scanFraction.eq_def]
      split
      case h_1 tail => exact absurd rfl (stop '.' rfl).2
      case h_2 => rfl
  | some digits =>
      obtain ⟨first, more⟩ := digits
      have scanned := scanDigits_append (isDigit_digitChars (first :: more))
        fun char head => (stop char head).1
      have digits := map_digitOf (first :: more)
      rw [dumpsFraction, List.cons_append, scanFraction, scanned]
      obtain ⟨same, others⟩ := List.cons.inj digits
      change (some (digitOf _, (digitChars more).map digitOf), rest) = _
      rw [same]
      rw [show (digitChars more).map digitOf = more from others]

theorem scanDigits_power (exponent : ℤ) {rest : List Char}
    (stop : ∀ char ∈ rest.head?, char.isDigit = false) :
    scanDigits (powerDigits exponent ++ rest) = (powerDigits exponent, rest) := by
  refine scanDigits_append ?_ stop
  intro char member
  rw [powerDigits] at member
  split at member
  case isTrue =>
    rcases List.mem_cons.mp member with rfl | later
    · rfl
    · exact isDigit_toDigits _ char later
  case isFalse => exact isDigit_toDigits _ char member

theorem ofDigitChars_power (exponent : ℤ) :
    Nat.ofDigitChars 10 (powerDigits exponent) 0 = exponent.natAbs := by
  rw [powerDigits]
  split
  case isTrue =>
    rw [Nat.ofDigitChars_cons]
    exact Nat.ofDigitChars_ten_toDigits
  case isFalse => exact Nat.ofDigitChars_ten_toDigits

theorem scanPower_dumps (negative : Bool) (chars : List Char) (exponent : ℤ)
    {rest : List Char} (stop : ∀ char ∈ rest.head?, char.isDigit = false) :
    scanPower negative chars (powerDigits exponent ++ rest) =
      (some (if negative then -(exponent.natAbs : ℤ) else exponent.natAbs), rest) := by
  have value := ofDigitChars_power exponent
  rw [scanPower, scanDigits_power exponent stop]
  split
  case h_1 none =>
    have long : 0 < (powerDigits exponent).length := by
      rw [powerDigits]
      split
      case isTrue => exact Nat.succ_pos _
      case isFalse => exact Nat.length_toDigits_pos
    rw [(Prod.mk.inj none).1] at long
    exact absurd long (Nat.lt_irrefl 0)
  case h_2 digits same =>
    obtain ⟨rfl, rfl⟩ := Prod.mk.inj same
    rw [value]

theorem scanExponent_dumps (exponent : Option ℤ) {rest : List Char}
    (stop : ∀ char ∈ rest.head?, char.isDigit = false ∧ char ≠ 'e' ∧ char ≠ 'E') :
    scanExponent (dumpsExponent exponent ++ rest) = (exponent, rest) := by
  cases exponent with
  | none =>
      rw [dumpsExponent, List.nil_append]
      cases rest with
      | nil => rfl
      | cons char tail =>
          obtain ⟨-, small, large⟩ := stop char rfl
          have other : ¬ (char = 'e' ∨ char = 'E') := not_or.mpr ⟨small, large⟩
          exact if_neg other
  | some exponent =>
      have halt : ∀ char ∈ rest.head?, char.isDigit = false := fun char head =>
        (stop char head).1
      rw [dumpsExponent, List.cons_append, List.cons_append]
      by_cases negative : exponent < 0
      · rw [if_pos negative, scanExponent, if_pos (.inl rfl)]
        change scanPower true _ _ = _
        rw [scanPower_dumps true _ exponent halt, if_pos rfl]
        have same : -(exponent.natAbs : ℤ) = exponent := by omega
        rw [same]
      · rw [if_neg negative, scanExponent, if_pos (.inl rfl)]
        change scanPower false _ _ = _
        rw [scanPower_dumps false _ exponent halt, if_neg Bool.false_ne_true]
        have same : (exponent.natAbs : ℤ) = exponent := by omega
        rw [same]

theorem scanNumber_dumps (number : NumberText) {rest : List Char}
    (stops : Stops rest) :
    scanNumber (dumpsNumber number ++ rest) = some (.number number, rest) := by
  obtain ⟨negative, whole, fraction, exponent⟩ := number
  have stop : ∀ char ∈ rest.head?, char.isDigit = false ∧ char ≠ 'e' ∧
      char ≠ 'E' ∧ char ≠ '.' := by
    intro char head
    rcases stops char head with rfl | rfl | rfl <;> decide
  have powers := scanExponent_dumps exponent fun char head =>
    ⟨(stop char head).1, (stop char head).2.1, (stop char head).2.2.1⟩
  have afterFraction : ∀ char ∈ (dumpsExponent exponent ++ rest).head?,
      char.isDigit = false ∧ char ≠ '.' := by
    cases exponent with
    | none => exact fun char head => ⟨(stop char head).1, (stop char head).2.2.2⟩
    | some exponent =>
        intro char head
        cases head
        decide
  have fractions := scanFraction_dumps fraction afterFraction
  have afterWhole : ∀ char ∈ (dumpsFraction fraction ++
      (dumpsExponent exponent ++ rest)).head?, char.isDigit = false := by
    cases fraction with
    | none => exact fun char head => (afterFraction char head).1
    | some fraction =>
        intro char head
        cases head
        decide
  have wholes := scanWhole_toDigits whole afterWhole
  have unsigned : scanUnsigned negative (Nat.toDigits 10 whole ++
      (dumpsFraction fraction ++ (dumpsExponent exponent ++ rest))) =
        some (.number { negative, whole, fraction, exponent }, rest) := by
    rw [scanUnsigned, wholes]
    simp only [Option.bind_eq_bind, Option.bind_some, fractions, powers,
      Option.pure_def]
  rw [dumpsNumber, List.append_assoc, List.append_assoc, List.append_assoc]
  cases negative with
  | true => exact unsigned
  | false =>
      change scanNumber (Nat.toDigits 10 whole ++ _) = _
      rw [scanNumber.eq_def]
      split
      case h_1 tail same =>
        have digit := isDigit_toDigits whole
        cases digits : Nat.toDigits 10 whole with
        | nil => exact absurd digits Nat.toDigits_ne_nil
        | cons first more =>
            rw [digits] at same digit
            rw [(List.cons.inj same).1] at digit
            exact absurd (digit '-' List.mem_cons_self) (by decide)
      case h_2 => exact unsigned

theorem dumpsNumber_head (number : NumberText) (rest : List Char) :
    ∃ char tail, char.isDigit = true ∧
      (dumpsNumber number ++ rest = char :: tail ∨
        dumpsNumber number ++ rest = '-' :: char :: tail) := by
  have digit := isDigit_toDigits number.whole
  rw [dumpsNumber]
  cases digits : Nat.toDigits 10 number.whole with
  | nil => exact absurd digits Nat.toDigits_ne_nil
  | cons first more =>
      rw [digits] at digit
      refine ⟨first, more ++ (dumpsFraction number.fraction ++
        dumpsExponent number.exponent) ++ rest, digit first List.mem_cons_self, ?_⟩
      cases number.negative with
      | true => exact .inr rfl
      | false => exact .inl rfl

theorem ne_of_isDigit {char : Char} (digit : char.isDigit = true) (other : Char)
    (plain : other.isDigit = false) : other ≠ char := by
  rintro rfl
  cases digit.symm.trans plain

theorem scanWord_number (number : NumberText) (rest : List Char) :
    scanWord (dumpsNumber number ++ rest) = none := by
  obtain ⟨char, tail, digit, same | same⟩ := dumpsNumber_head number rest
  · have other := ne_of_isDigit digit
    rw [same]
    simp [scanWord, jsonWords, dumpsTree, other 'n' rfl, other 't' rfl, other 'f' rfl,
      other 'N' rfl, other 'I' rfl, other '-' rfl]
  · have other := ne_of_isDigit digit
    rw [same]
    simp [scanWord, jsonWords, dumpsTree, other 'I' rfl]

/-! Trees. -/

theorem dumpsTree_head (tree : JsonTree) :
    ∃ char tail, dumpsTree tree = char :: tail ∧ isJsonSpace char = false ∧
      char ≠ ']' := by
  cases tree with
  | null => exact ⟨_, _, rfl, by decide, by decide⟩
  | bool value => cases value <;> exact ⟨_, _, rfl, by decide, by decide⟩
  | number number =>
      obtain ⟨char, tail, digit, same | same⟩ := dumpsNumber_head number []
      · rw [List.append_nil] at same
        refine ⟨char, tail, same, ?_, (ne_of_isDigit digit ']' rfl).symm⟩
        have other := ne_of_isDigit digit
        simp [isJsonSpace, (other ' ' rfl).symm, (other '\t' rfl).symm,
          (other '\n' rfl).symm, (other '\r' rfl).symm]
      · rw [List.append_nil] at same
        exact ⟨_, _, same, by decide, by decide⟩
  | nan => exact ⟨_, _, rfl, by decide, by decide⟩
  | infinity negative => cases negative <;> exact ⟨_, _, rfl, by decide, by decide⟩
  | str text => exact ⟨_, _, rfl, by decide, by decide⟩
  | array items => cases items <;> exact ⟨_, _, rfl, by decide, by decide⟩
  | object members =>
      cases members with
      | nil => exact ⟨_, _, rfl, by decide, by decide⟩
      | cons member members => exact ⟨_, _, rfl, by decide, by decide⟩

theorem skipSpace_dumps (tree : JsonTree) (rest : List Char) :
    skipSpace (dumpsTree tree ++ rest) = dumpsTree tree ++ rest := by
  obtain ⟨char, tail, same, visible, -⟩ := dumpsTree_head tree
  rw [same, List.cons_append, skipSpace]
  exact List.dropWhile_cons_of_neg (ne_true_of_eq_false visible)

theorem skipSpace_cons_space (rest : List Char) :
    skipSpace (' ' :: rest) = skipSpace rest := rfl

mutual

/-- No string of the tree has a surrogate, and no object a key twice. -/
def JsonTree.Plain : JsonTree → Prop
  | .str text => IsText text
  | .array items => JsonTree.PlainItems items
  | .object members =>
      (members.map Prod.fst).Nodup ∧ JsonTree.PlainMembers members
  | _ => True

def JsonTree.PlainItems : List JsonTree → Prop
  | [] => True
  | item :: items => item.Plain ∧ JsonTree.PlainItems items

def JsonTree.PlainMembers : List (PyText × JsonTree) → Prop
  | [] => True
  | (key, value) :: members =>
      IsText key ∧ value.Plain ∧ JsonTree.PlainMembers members

end

theorem setMember_eq_assign (members : List (PyText × JsonTree)) (key : PyText)
    (value : JsonTree) : setMember members key value = assign members key value := by
  rw [setMember, assign]
  congr

theorem dictOf_of_nodup {members : List (PyText × JsonTree)}
    (distinct : (members.map Prod.fst).Nodup) : dictOf members = members := by
  have same : dictOf members = ofPairs members := by
    rw [dictOf, ofPairs]
    congr
    funext entries pair
    exact setMember_eq_assign entries pair.1 pair.2
  rw [same, ofPairs_of_nodup distinct]

theorem scanTree_scalar {chars : List Char} (fuel : ℕ)
    (first : ∀ char ∈ chars.head?, char ≠ '\x22' ∧ char ≠ '[' ∧ char ≠ '{') :
    scanTree (fuel + 1) chars = (scanWord chars).or (scanNumber chars) := by
  rw [scanTree.eq_def]
  split
  case h_1 none => cases none
  case h_2 => exact absurd rfl (first _ rfl).1
  case h_3 => exact absurd rfl (first _ rfl).2.1
  case h_4 => exact absurd rfl (first _ rfl).2.2
  case h_5 => rfl

theorem scanWord_dumps {word : JsonTree} (listed : word ∈ jsonWords)
    (rest : List Char) :
    scanWord (dumpsTree word ++ rest) = some (word, rest) := by
  simp only [jsonWords, List.mem_cons, List.not_mem_nil, or_false] at listed
  rcases listed with rfl | rfl | rfl | rfl | rfl | rfl <;>
    simp [scanWord, jsonWords, dumpsTree]

theorem scanTree_word {word : JsonTree} (listed : word ∈ jsonWords) (fuel : ℕ)
    (rest : List Char) :
    scanTree (fuel + 1) (dumpsTree word ++ rest) = some (word, rest) := by
  rw [scanTree_scalar, scanWord_dumps listed, Option.some_or]
  simp only [jsonWords, List.mem_cons, List.not_mem_nil, or_false] at listed
  rcases listed with rfl | rfl | rfl | rfl | rfl | rfl <;> simp [dumpsTree]

theorem scanTree_number (number : NumberText) (fuel : ℕ) {rest : List Char}
    (stops : Stops rest) :
    scanTree (fuel + 1) (dumpsNumber number ++ rest) =
      some (.number number, rest) := by
  rw [scanTree_scalar, scanWord_number, scanNumber_dumps number stops, Option.none_or]
  obtain ⟨char, tail, digit, same | same⟩ := dumpsNumber_head number rest
  · rw [same]
    intro head here
    cases here
    exact ⟨(ne_of_isDigit digit _ rfl).symm, (ne_of_isDigit digit _ rfl).symm,
      (ne_of_isDigit digit _ rfl).symm⟩
  · rw [same]
    intro head here
    cases here
    decide

theorem scanTree_text {text : PyText} (scalars : IsText text) (fuel : ℕ)
    (rest : List Char) :
    scanTree (fuel + 1) (dumpsText text ++ rest) = some (.str text, rest) := by
  rw [dumpsText, List.cons_append, List.append_assoc, List.singleton_append, scanTree,
    scanText_dumps scalars]
  rfl

theorem stops_items (items : List JsonTree) (rest : List Char) :
    Stops (dumpsItems items ++ rest) := by
  intro char head
  cases items with
  | nil =>
      cases head
      exact .inr (.inl rfl)
  | cons item items =>
      cases head
      exact .inl rfl

theorem stops_members (members : List (PyText × JsonTree)) (rest : List Char) :
    Stops (dumpsMembers members ++ rest) := by
  intro char head
  cases members with
  | nil =>
      cases head
      exact .inr (.inr rfl)
  | cons member members =>
      cases head
      exact .inl rfl

theorem dumpsItems_length (items : List JsonTree) : 0 < (dumpsItems items).length := by
  cases items <;> exact Nat.succ_pos _

theorem dumpsMembers_length (members : List (PyText × JsonTree)) :
    0 < (dumpsMembers members).length := by
  cases members <;> exact Nat.succ_pos _

/-- With this much fuel, what is written in no more characters is read back. -/
structure Scans (fuel : ℕ) : Prop where
  tree : ∀ tree : JsonTree, tree.Plain → (dumpsTree tree).length ≤ fuel →
    ∀ rest, Stops rest → scanTree fuel (dumpsTree tree ++ rest) = some (tree, rest)
  items : ∀ (item : JsonTree) items, item.Plain → JsonTree.PlainItems items →
    (dumpsTree item ++ dumpsItems items).length ≤ fuel →
    ∀ rest, scanItems fuel (dumpsTree item ++ (dumpsItems items ++ rest)) =
      some (item :: items, rest)
  members : ∀ key (value : JsonTree) members, IsText key → value.Plain →
    JsonTree.PlainMembers members →
    (dumpsText key ++ ':' :: ' ' :: (dumpsTree value ++
      dumpsMembers members)).length ≤ fuel →
    ∀ rest, scanMembers fuel (dumpsText key ++ ':' :: ' ' :: (dumpsTree value ++
      dumpsMembers members) ++ rest) = some ((key, value) :: members, rest)

section

variable {fuel : ℕ}

theorem Scans.array (scans : Scans fuel) {items : List JsonTree}
    (plain : JsonTree.PlainItems items)
    (enough : (dumpsTree (.array items)).length ≤ fuel + 1) (rest : List Char) :
    scanTree (fuel + 1) (dumpsTree (.array items) ++ rest) =
      some (.array items, rest) := by
  cases items with
  | nil => rfl
  | cons item items =>
      rw [dumpsTree, List.length_cons] at enough
      have scanned := scans.items item items plain.1 plain.2
        (Nat.le_of_succ_le_succ enough) rest
      have visible := skipSpace_dumps item (dumpsItems items ++ rest)
      obtain ⟨char, tail, same, -, open_⟩ := dumpsTree_head item
      rw [dumpsTree, List.cons_append, List.append_assoc, scanTree, visible]
      rw [same] at scanned ⊢
      split
      case h_1 closed => exact absurd (List.cons.inj closed).1 open_
      case h_2 =>
        rw [scanned]
        rfl

theorem Scans.object (scans : Scans fuel) {members : List (PyText × JsonTree)}
    (distinct : (members.map Prod.fst).Nodup) (plain : JsonTree.PlainMembers members)
    (enough : (dumpsTree (.object members)).length ≤ fuel + 1) (rest : List Char) :
    scanTree (fuel + 1) (dumpsTree (.object members) ++ rest) =
      some (.object members, rest) := by
  cases members with
  | nil => rfl
  | cons member members =>
      obtain ⟨key, value⟩ := member
      rw [dumpsTree, List.length_cons] at enough
      have scanned := scans.members key value members plain.1 plain.2.1 plain.2.2
        (Nat.le_of_succ_le_succ enough) rest
      have once := dictOf_of_nodup distinct
      rw [dumpsTree, List.cons_append, scanTree]
      rw [dumpsText, List.cons_append, List.cons_append] at scanned ⊢
      change (scanMembers fuel ('\x22' :: _)).bind _ = _
      rw [scanned]
      simp only [Option.bind_some, once, Option.pure_def]

theorem Scans.treeStep (scans : Scans fuel) {tree : JsonTree} (plain : tree.Plain)
    (enough : (dumpsTree tree).length ≤ fuel + 1) {rest : List Char}
    (stops : Stops rest) :
    scanTree (fuel + 1) (dumpsTree tree ++ rest) = some (tree, rest) := by
  cases tree with
  | null => exact scanTree_word (by simp [jsonWords]) fuel rest
  | bool value => exact scanTree_word (by cases value <;> simp [jsonWords]) fuel rest
  | number text => exact scanTree_number text fuel stops
  | nan => exact scanTree_word (by simp [jsonWords]) fuel rest
  | infinity negative =>
      exact scanTree_word (by cases negative <;> simp [jsonWords]) fuel rest
  | str text => exact scanTree_text plain fuel rest
  | array items => exact scans.array plain enough rest
  | object members => exact scans.object plain.1 plain.2 enough rest

theorem Scans.itemsStep (scans : Scans fuel) {item : JsonTree}
    {items : List JsonTree} (plain : item.Plain)
    (others : JsonTree.PlainItems items)
    (enough : (dumpsTree item ++ dumpsItems items).length ≤ fuel + 1)
    (rest : List Char) :
    scanItems (fuel + 1) (dumpsTree item ++ (dumpsItems items ++ rest)) =
      some (item :: items, rest) := by
  have long := dumpsItems_length items
  rw [List.length_append] at enough
  have scanned := scans.tree item plain (by omega) _ (stops_items items rest)
  rw [scanItems, scanned]
  cases items with
  | nil => rfl
  | cons next items =>
      rw [dumpsItems, List.length_cons, List.length_cons] at enough
      have more := scans.items next items others.1 others.2 (by omega) rest
      change ((scanItems fuel (skipSpace (' ' :: (dumpsTree next ++ dumpsItems items ++
        rest)))).bind _) = _
      rw [skipSpace_cons_space, List.append_assoc, skipSpace_dumps, more]
      rfl

theorem Scans.membersStep (scans : Scans fuel) {key : PyText} {value : JsonTree}
    {members : List (PyText × JsonTree)} (named : IsText key) (plain : value.Plain)
    (others : JsonTree.PlainMembers members)
    (enough : (dumpsText key ++ ':' :: ' ' :: (dumpsTree value ++
      dumpsMembers members)).length ≤ fuel + 1) (rest : List Char) :
    scanMembers (fuel + 1) (dumpsText key ++ ':' :: ' ' :: (dumpsTree value ++
      dumpsMembers members) ++ rest) = some ((key, value) :: members, rest) := by
  have long := dumpsMembers_length members
  rw [List.length_append, List.length_cons, List.length_cons, List.length_append]
    at enough
  have keyed := scanText_dumps named
    (':' :: ' ' :: (dumpsTree value ++ (dumpsMembers members ++ rest)))
  have scanned := scans.tree value plain (by omega) _ (stops_members members rest)
  have shape : dumpsText key ++ ':' :: ' ' :: (dumpsTree value ++
      dumpsMembers members) ++ rest =
      '\x22' :: (key.flatMap escapePoint ++ '\x22' ::
        ':' :: ' ' :: (dumpsTree value ++ (dumpsMembers members ++ rest))) := by
    simp [dumpsText]
  rw [shape, scanMembers, keyed]
  change ((scanTree fuel (skipSpace (' ' :: (dumpsTree value ++
    (dumpsMembers members ++ rest))))).bind _) = _
  rw [skipSpace_cons_space, skipSpace_dumps, scanned]
  cases members with
  | nil => rfl
  | cons next members =>
      obtain ⟨nextKey, nextValue⟩ := next
      have shorter : (dumpsText nextKey ++ ':' :: ' ' :: (dumpsTree nextValue ++
          dumpsMembers members)).length ≤ fuel := by
        rw [dumpsMembers, List.length_cons, List.length_cons] at enough
        omega
      have more := scans.members nextKey nextValue members others.1 others.2.1
        others.2.2 shorter rest
      have visible : skipSpace (dumpsText nextKey ++ ':' :: ' ' ::
          (dumpsTree nextValue ++ dumpsMembers members) ++ rest) =
          dumpsText nextKey ++ ':' :: ' ' ::
            (dumpsTree nextValue ++ dumpsMembers members) ++ rest := rfl
      change ((scanMembers fuel (skipSpace (' ' :: (dumpsText nextKey ++ ':' :: ' ' ::
        (dumpsTree nextValue ++ dumpsMembers members) ++ rest)))).bind _) = _
      rw [skipSpace_cons_space, visible, more]
      rfl

end

theorem scans (fuel : ℕ) : Scans fuel := by
  induction fuel with
  | zero =>
      have nonempty : ∀ tree, ¬ (dumpsTree tree).length ≤ 0 := by
        intro tree
        obtain ⟨char, tail, same, -⟩ := dumpsTree_head tree
        rw [same]
        exact Nat.not_succ_le_zero _
      refine ⟨fun tree _ enough => absurd enough (nonempty tree), ?_, ?_⟩
      · intro item items _ _ enough
        rw [List.length_append] at enough
        exact absurd (Nat.le_trans (Nat.le_add_right _ _) enough) (nonempty item)
      · intro key value members _ _ _ enough
        rw [dumpsText] at enough
        exact absurd enough (Nat.not_succ_le_zero _)
  | succ fuel ih =>
      exact
        { tree := fun _ plain enough _ stops => ih.treeStep plain enough stops
          items := fun _ _ plain others enough rest =>
            ih.itemsStep plain others enough rest
          members := fun _ _ _ named plain others enough rest =>
            ih.membersStep named plain others enough rest }

theorem loads_dumpsTree {tree : JsonTree} (plain : tree.Plain) :
    loads (dumpsTree tree) = some tree := by
  have scanned := (scans ((dumpsTree tree).length + 1)).tree tree plain
    (Nat.le_succ _) [] nofun
  have visible := skipSpace_dumps tree []
  rw [List.append_nil] at scanned visible
  rw [loads, visible, scanned]
  rfl

theorem decodeStrict_encode (chars : List Char) :
    decodeStrict (chars.flatMap String.utf8EncodeChar) = some chars := by
  have decoded := decodeAll_encode chars []
  rw [List.append_nil, decodeAll_nil, List.append_nil] at decoded
  rw [decodeStrict, decoded]
  exact if_pos rfl

theorem loadsBytes_dumpsBytes {tree : JsonTree} (plain : tree.Plain) :
    loadsBytes (dumpsBytes tree) = some tree := by
  rw [loadsBytes, dumpsBytes, decodeStrict_encode]
  exact loads_dumpsTree plain

theorem toNat_lt_pointLimit (char : Char) : char.toNat < 0x110000 := by
  rcases char.valid with small | large
  · exact Nat.lt_trans small (by decide)
  · exact large.2

theorem isText_pyText (chars : List Char) : IsText (pyText chars) := by
  intro point member
  obtain ⟨char, -, rfl⟩ := List.mem_map.mp member
  have value : (Fin.ofNat 0x110000 char.toNat).val = char.toNat :=
    Nat.mod_eq_of_lt (toNat_lt_pointLimit char)
  rw [value]
  rcases char.valid with small | large
  · exact .inl small
  · exact .inr large.1

theorem map_val_pyText (chars : List Char) :
    (pyText chars).map (fun point => Char.ofNat point.val) = chars := by
  rw [pyText, List.map_map]
  conv_rhs => rw [← List.map_id chars]
  apply List.map_congr_left
  intro char _
  change Char.ofNat (char.toNat % 0x110000) = char
  rw [Nat.mod_eq_of_lt (toNat_lt_pointLimit char), Char.ofNat_toNat]

theorem pyText_eq_iff {first second : List Char} :
    pyText first = pyText second ↔ first = second := by
  constructor
  · intro same
    rw [← map_val_pyText first, same, map_val_pyText]
  · intro same
    rw [same]

/-! Hexadecimal texts. -/

theorem pyText_beq (first second : List Char) (apart : first ≠ second) :
    (pyText first == pyText second) = false :=
  beq_eq_false_iff_ne.mpr (mt pyText_eq_iff.mp apart)

theorem isAsciiSpace_hexDigit : ∀ n < 16, isAsciiSpace (hexDigit n) = false := by
  decide

theorem fromHexChars_toHex (bytes : List UInt8) :
    fromHexChars (toHex bytes).toList = some bytes := by
  rw [toHex, String.toList_ofList]
  induction bytes with
  | nil => rfl
  | cons byte rest ih =>
      have high : byte.toNat / 16 < 16 := by
        have bound := byte.toNat_lt
        omega
      have low : byte.toNat % 16 < 16 := Nat.mod_lt _ (by decide)
      have whole : 16 * (byte.toNat / 16) + byte.toNat % 16 = byte.toNat :=
        Nat.div_add_mod _ _
      rw [List.flatMap_cons, List.cons_append, List.cons_append, List.nil_append,
        fromHexChars, isAsciiSpace_hexDigit _ high]
      simp only [hexValue_hexDigit _ high, hexValue_hexDigit _ low, ih, whole,
        Option.bind_eq_bind, Option.bind_some, Option.pure_def, UInt8.ofNat_toNat,
        Bool.false_eq_true, if_false]

end VpnTunnel.Foundation
