import Mathlib.Data.Int.Log
import Mathlib.Data.List.Induction
import Mathlib.Data.Nat.Digits.Defs
import Mathlib.Data.Rat.Floor
import VpnTunnel.Foundation.Json

namespace VpnTunnel.Foundation

/-! Python's floats, as the rationals that they are, and the literals that `repr`
writes for them. -/

def digitsValue (digits : List (Fin 10)) : ℕ :=
  digits.foldl (fun value digit => value * 10 + digit.val) 0

def fractionDigits : Option (Fin 10 × List (Fin 10)) → List (Fin 10)
  | none => []
  | some (first, rest) => first :: rest

/-- The rational that a literal denotes, before it is rounded. -/
def NumberText.value (text : NumberText) : ℚ :=
  let digits := fractionDigits text.fraction
  let size : ℚ :=
    (text.whole + digitsValue digits / 10 ^ digits.length) *
      10 ^ text.exponent.getD 0
  if text.negative then -size else size

def roundHalfEven (value : ℚ) : ℤ :=
  let rest := value - ⌊value⌋
  if rest < 1 / 2 ∨ (rest = 1 / 2 ∧ ⌊value⌋ % 2 = 0) then ⌊value⌋
  else ⌊value⌋ + 1

/-- The exponent of the last binary place of a double of this size. -/
def lastPlace (value : ℚ) : ℤ := max (Int.log 2 |value| - 52) (-1074)

def toDouble (value : ℚ) : ℚ :=
  roundHalfEven (value / 2 ^ lastPlace value) * 2 ^ lastPlace value

/-- From here on a number rounds to an infinity. -/
def doubleLimit : ℚ := 2 ^ 1024 - 2 ^ 970

/-- `float(text)`, if that is finite. -/
def NumberText.toFloat (text : NumberText) : Option ℚ :=
  if doubleLimit ≤ |text.value| then none else some (toDouble text.value)

/-- A finite float; a negative zero is not told from zero. -/
structure IsDouble (value : ℚ) : Prop where
  rounded : toDouble value = value
  finite : |value| < doubleLimit

/-! `repr` tries more and more significant digits, until the literal reads back
as the float. -/

def significandDigits (number : ℕ) : List (Fin 10) :=
  (Nat.toDigits 10 number).map digitOf

/-- The digits with the decimal point behind the first `point` of them; far out
there is an exponent instead. -/
def layout (negative : Bool) (digits : List (Fin 10)) (point : ℤ) : NumberText :=
  if -4 < point ∧ point ≤ 16 then
    let whole := digits.take point.toNat ++
      List.replicate (point.toNat - digits.length) 0
    let rest := List.replicate (-point).toNat 0 ++ digits.drop point.toNat
    { negative
      whole := digitsValue whole
      fraction := some (rest.headD 0, rest.tail)
      exponent := none }
  else
    { negative
      whole := digitsValue (digits.take 1)
      fraction := digits.tail.head?.map fun first => (first, digits.drop 2)
      exponent := some (point - 1) }

def nearest (value : ℚ) (count : ℕ) : NumberText :=
  let power := Int.log 10 |value| + 1 - count
  let digits := significandDigits (roundHalfEven (|value| / 10 ^ power)).toNat
  layout (decide (value < 0)) digits (digits.length + power)

/-- All the decimal digits of a double. -/
def expansion (value : ℚ) : NumberText :=
  { negative := decide (value < 0)
    whole := (|value| * 10 ^ 1074).num.toNat
    fraction := none
    exponent := some (-1074) }

/-- `float.__repr__`; seventeen digits are enough for any double. -/
def reprFloat (value : ℚ) : NumberText :=
  (((List.range' 1 17).map (nearest value)).find? fun text =>
    decide (text.toFloat = some value)).getD (expansion value)

section

variable {value : ℚ}

theorem lastPlace_le (value : ℚ) : -1074 ≤ lastPlace value := le_max_right _ _

theorem abs_dyadic_mul_ten_pow (count : ℤ) (up down : ℕ) :
    |(count * (2 ^ up / 2 ^ down) : ℚ)| * 10 ^ down =
      (count.natAbs * (2 ^ up * 5 ^ down) : ℕ) := by
  have unit : (0 : ℚ) ≤ 2 ^ up / 2 ^ down := by positivity
  have tens : (10 : ℚ) ^ down = 2 ^ down * 5 ^ down := by
    rw [← mul_pow]
    norm_num
  rw [abs_mul, abs_of_nonneg unit, tens, Nat.cast_mul, Nat.cast_natAbs, Int.cast_abs]
  push_cast
  field_simp

theorem natural_of_double (double : toDouble value = value) :
    ∃ number : ℕ, |value| * 10 ^ 1074 = number := by
  obtain ⟨places, exact_⟩ :=
    Int.eq_ofNat_of_zero_le (show 0 ≤ lastPlace value + 1074 by
      have := lastPlace_le value
      omega)
  have place : lastPlace value = places - (1074 : ℕ) := by omega
  rw [toDouble, place, zpow_sub₀ two_ne_zero, zpow_natCast, zpow_natCast] at double
  rw [← double]
  exact ⟨_, abs_dyadic_mul_ten_pow _ places 1074⟩

theorem value_expansion (double : toDouble value = value) :
    (expansion value).value = value := by
  obtain ⟨number, same⟩ := natural_of_double double
  have size : |value| = number * 10 ^ (-1074 : ℤ) := by
    rw [← same, zpow_neg, mul_assoc]
    norm_cast
    rw [mul_inv_cancel₀ (by positivity), mul_one]
  rw [expansion, same, NumberText.value]
  simp only [fractionDigits, digitsValue, List.foldl_nil, Nat.cast_zero, zero_div,
    add_zero, Option.getD_some, Rat.num_natCast, Int.toNat_natCast, ← size,
    decide_eq_true_eq]
  split
  next below => rw [abs_of_neg below, neg_neg]
  next above => exact abs_of_nonneg (not_lt.mp above)

theorem toFloat_reprFloat (double : IsDouble value) :
    (reprFloat value).toFloat = some value := by
  unfold reprFloat
  cases found : ((List.range' 1 17).map (nearest value)).find? fun text =>
      decide (text.toFloat = some value) with
  | none =>
      rw [Option.getD_none, NumberText.toFloat, value_expansion double.rounded,
        if_neg (not_le.mpr double.finite), double.rounded]
  | some text =>
      have reads := List.find?_some found
      exact of_decide_eq_true reads

theorem reprFloat_not_int (value : ℚ) :
    ¬ ((reprFloat value).fraction = none ∧ (reprFloat value).exponent = none) := by
  have laid : ∀ negative digits point, ¬ ((layout negative digits point).fraction = none ∧
      (layout negative digits point).exponent = none) := by
    intro negative digits point
    unfold layout
    split
    · exact fun none => nomatch none.1
    · exact fun none => nomatch none.2
  unfold reprFloat
  cases found : ((List.range' 1 17).map (nearest value)).find? fun text =>
      decide (text.toFloat = some value) with
  | none => exact fun none => nomatch none.2
  | some text =>
      obtain ⟨count, -, rfl⟩ := List.mem_map.mp (List.mem_of_find?_eq_some found)
      exact laid _ _ _

theorem roundHalfEven_le {value : ℚ} {bound : ℤ} (below : value ≤ bound) :
    roundHalfEven value ≤ bound := by
  simp only [roundHalfEven]
  have floored : ⌊value⌋ ≤ bound := Int.floor_le_iff.mpr (by linarith)
  split
  next => exact floored
  next up =>
    by_contra beyond
    have whole : ⌊value⌋ = bound := by omega
    have exact_ : value - ⌊value⌋ = 0 := by
      have := Int.floor_le value
      rw [whole] at this ⊢
      linarith
    exact up (.inl (by rw [exact_]; norm_num))

theorem digitsValue_lt (digits : List (Fin 10)) :
    digitsValue digits < 10 ^ digits.length := by
  induction digits using List.reverseRecOn with
  | nil => decide
  | append_singleton digits last ih =>
      have := last.isLt
      simp only [digitsValue, List.foldl_append, List.foldl_cons, List.foldl_nil,
        List.length_append, List.length_singleton, Nat.pow_succ] at ih ⊢
      omega

theorem dumpsNumber_length {text : NumberText} {whole fraction power : ℕ}
    (some_ : 0 < whole) (wholeBelow : text.whole < 10 ^ whole)
    (fractionBelow : (fractionDigits text.fraction).length ≤ fraction)
    (two : 2 ≤ power)
    (powerBelow : ∀ exponent ∈ text.exponent, exponent.natAbs < 10 ^ power) :
    (dumpsNumber text).length ≤ whole + fraction + power + 4 := by
  have first : (Nat.toDigits 10 text.whole).length ≤ whole :=
    Nat.toDigits_length 10 text.whole whole some_ wholeBelow
  have second : (dumpsFraction text.fraction).length ≤ fraction + 1 := by
    cases same : text.fraction with
    | none => exact Nat.zero_le _
    | some pair =>
        obtain ⟨head, rest⟩ := pair
        rw [same] at fractionBelow
        simpa [dumpsFraction, digitChars, fractionDigits] using fractionBelow
  have third : (dumpsExponent text.exponent).length ≤ power + 2 := by
    cases same : text.exponent with
    | none => exact Nat.zero_le _
    | some exponent =>
        have digits : (Nat.toDigits 10 exponent.natAbs).length ≤ power :=
          Nat.toDigits_length 10 _ power (by omega) (powerBelow exponent same)
        simp only [dumpsExponent, powerDigits, List.length_cons]
        split
        · simp only [List.length_cons]
          omega
        · omega
  have sign : (if text.negative then ['-'] else []).length ≤ 1 := by
    split <;> decide
  simp only [dumpsNumber, List.length_append]
  omega

theorem significandDigits_length {number count : ℕ} (some_ : 0 < count)
    (below : number < 10 ^ count) : (significandDigits number).length ≤ count := by
  rw [significandDigits, List.length_map]
  exact Nat.toDigits_length 10 number count some_ below

theorem layout_length {negative : Bool} {digits : List (Fin 10)} {point : ℤ}
    (short : digits.length ≤ 18) (near : point.natAbs < 9999) :
    (dumpsNumber (layout negative digits point)).length ≤ 64 := by
  unfold layout
  split
  next fixed =>
    have whole : (digits.take point.toNat ++
        List.replicate (point.toNat - digits.length) 0).length ≤ 16 := by
      simp only [List.length_append, List.length_take, List.length_replicate]
      omega
    refine (@dumpsNumber_length _ 17 22 2 (by decide) ?_ ?_ (by decide) ?_).trans
      (by decide)
    · exact (digitsValue_lt _).trans_le (Nat.pow_le_pow_right (by decide) (by omega))
    · simp only [fractionDigits, List.length_cons, List.length_tail,
        List.length_append, List.length_replicate, List.length_drop]
      omega
    · nofun
  next =>
    have whole : (digits.take 1).length ≤ 1 := List.length_take_le 1 digits
    refine (@dumpsNumber_length _ 2 18 4 (by decide) ?_ ?_ (by decide) ?_).trans
      (by decide)
    · exact (digitsValue_lt _).trans_le (Nat.pow_le_pow_right (by decide) (by omega))
    · match digits with
      | [] | [_] => exact Nat.zero_le _
      | _ :: _ :: rest =>
          simp only [List.length_cons] at short
          simp only [List.tail_cons, List.head?_cons, Option.map_some, fractionDigits,
            List.drop_succ_cons, List.drop_zero, List.length_cons]
          omega
    · rintro exponent ⟨⟩
      omega

theorem IsDouble.abs_lt (double : IsDouble value) : |value| < 10 ^ 1024 := by
  have limit : doubleLimit ≤ 2 ^ 1024 :=
    sub_le_self _ (pow_nonneg (show (0 : ℚ) ≤ 2 by norm_num) 970)
  exact double.finite.trans_le
    (limit.trans (pow_le_pow_left₀ (by norm_num) (by norm_num) 1024))

theorem zpow_neg_le {down : ℕ} (unit : 1 ≤ value * 10 ^ down) :
    ((10 : ℕ) : ℚ) ^ (-(down : ℤ)) ≤ value := by
  rw [Nat.cast_ofNat, zpow_neg, zpow_natCast, inv_le_iff_one_le_mul₀ (by positivity)]
  exact unit

theorem log_near (double : IsDouble value) : (Int.log 10 |value|).natAbs ≤ 1074 := by
  obtain ⟨number, natural⟩ := natural_of_double double.rounded
  rcases Nat.eq_zero_or_pos number with rfl | positive
  · rw [Nat.cast_zero] at natural
    have zero : |value| = 0 :=
      (mul_eq_zero.mp natural).resolve_right (pow_ne_zero 1074 (by norm_num))
    rw [zero, Int.log_zero_right]
    exact Nat.zero_le _
  · have unit : (1 : ℚ) ≤ |value| * 10 ^ 1074 := by
      rw [natural, Nat.one_le_cast]
      exact positive
    have above := zpow_neg_le unit
    have below : |value| < ((10 : ℕ) : ℚ) ^ ((1024 : ℕ) : ℤ) := by
      rw [zpow_natCast, Nat.cast_ofNat]
      exact double.abs_lt
    have some_ : 0 < |value| := (zpow_pos (by norm_num) _).trans_le above
    have low := (Int.zpow_le_iff_le_log (by decide) some_).mp above
    have high := (Int.lt_zpow_iff_log_lt (by decide) some_).mp below
    omega

theorem nearest_length (double : IsDouble value) {count : ℕ} (some_ : 0 < count)
    (few : count ≤ 17) : (dumpsNumber (nearest value count)).length ≤ 64 := by
  have near := log_near double
  have scaled : |value| / 10 ^ (Int.log 10 |value| + 1 - count) ≤ ((10 ^ count : ℕ) : ℤ) := by
    have below := Int.lt_zpow_succ_log_self (b := 10) (by decide) |value|
    rw [div_le_iff₀ (zpow_pos (by norm_num) _)]
    refine below.le.trans (le_of_eq ?_)
    push_cast
    rw [← zpow_natCast, ← zpow_add₀ (by norm_num)]
    congr 1
    omega
  have digits := significandDigits_length (Nat.succ_pos count)
    (show (roundHalfEven (|value| / 10 ^ (Int.log 10 |value| + 1 - count))).toNat <
        10 ^ (count + 1) by
      have rounded := roundHalfEven_le scaled
      have grows : 10 ^ count < 10 ^ (count + 1) := Nat.pow_lt_pow_succ (by decide)
      omega)
  exact layout_length (by omega) (by omega)

theorem expansion_length (double : IsDouble value) :
    (dumpsNumber (expansion value)).length ≤ 2200 := by
  obtain ⟨number, natural⟩ := natural_of_double double.rounded
  have below : number < 10 ^ (1024 + 1074) := by
    have scaled : (number : ℚ) < 10 ^ 1024 * 10 ^ 1074 := by
      rw [← natural]
      exact mul_lt_mul_of_pos_right double.abs_lt (pow_pos (by norm_num) 1074)
    rw [← pow_add] at scaled
    exact_mod_cast scaled
  refine (@dumpsNumber_length _ (1024 + 1074) 0 4 (by decide) ?_ ?_ (by decide) ?_).trans
    (by decide)
  · rw [expansion, natural, Rat.num_natCast, Int.toNat_natCast]
    exact below
  · exact Nat.le_refl 0
  · rintro exponent ⟨⟩
    decide

theorem reprFloat_length (double : IsDouble value) :
    (dumpsNumber (reprFloat value)).length ≤ 2200 := by
  unfold reprFloat
  cases found : ((List.range' 1 17).map (nearest value)).find? fun text =>
      decide (text.toFloat = some value) with
  | none => exact expansion_length double
  | some text =>
      obtain ⟨count, within, rfl⟩ := List.mem_map.mp (List.mem_of_find?_eq_some found)
      have range := List.mem_range'_1.mp within
      exact (nearest_length double (by omega) (by omega)).trans (by decide)

end

end VpnTunnel.Foundation
