import Mathlib.Algebra.GroupWithZero.Nat
import Mathlib.Data.Int.Notation
import VpnTunnel.Foundation.Utf8

namespace VpnTunnel.Foundation

/-! `json.dumps` in its default form, and `json.loads`. -/

instance neZeroTen : NeZero 10 := ⟨by decide⟩

/-- A number as it is written; the fraction has a first digit if there is one. -/
structure NumberText where
  negative : Bool
  whole : ℕ
  fraction : Option (Fin 10 × List (Fin 10))
  exponent : Option ℤ
  deriving DecidableEq, Repr

inductive JsonTree
  | null
  | bool (value : Bool)
  | number (text : NumberText)
  | nan
  | infinity (negative : Bool)
  | str (text : PyText)
  | array (items : List JsonTree)
  | object (members : List (PyText × JsonTree))

def pyText (text : List Char) : PyText :=
  text.map fun char => Fin.ofNat 0x110000 char.toNat

/-! Writing. -/

def escapeUnit (unit : ℕ) : List Char :=
  ['\\', 'u', hexDigit (unit / 0x1000 % 16), hexDigit (unit / 0x100 % 16),
    hexDigit (unit / 0x10 % 16), hexDigit (unit % 16)]

def shortEscapes : List (Fin 0x110000 × Char) :=
  [(0x22, '\x22'), (0x5C, '\\'), (0x0A, 'n'), (0x0D, 'r'), (0x09, 't'), (0x0C, 'f'),
    (0x08, 'b')]

/-- One character of a string, under `ensure_ascii`. -/
def escapePoint (point : Fin 0x110000) : List Char :=
  match shortEscapes.lookup point with
  | some char => ['\\', char]
  | none =>
      if 0x20 ≤ point.val ∧ point.val ≤ 0x7E then [Char.ofNat point.val]
      else if point.val < 0x10000 then escapeUnit point.val
      else
        escapeUnit (0xD800 + (point.val - 0x10000) / 0x400) ++
          escapeUnit (0xDC00 + (point.val - 0x10000) % 0x400)

def dumpsText (text : PyText) : List Char :=
  '\x22' :: (text.flatMap escapePoint ++ ['\x22'])

def digitChars (digits : List (Fin 10)) : List Char :=
  digits.map fun digit => Nat.digitChar digit.val

def dumpsFraction : Option (Fin 10 × List (Fin 10)) → List Char
  | none => []
  | some (first, rest) => '.' :: digitChars (first :: rest)

/-- The digits of an exponent, two of them at least. -/
def powerDigits (exponent : ℤ) : List Char :=
  let digits := Nat.toDigits 10 exponent.natAbs
  if digits.length < 2 then '0' :: digits else digits

/-- The exponent as `repr` writes it. -/
def dumpsExponent : Option ℤ → List Char
  | none => []
  | some exponent =>
      'e' :: (if exponent < 0 then '-' else '+') :: powerDigits exponent

def dumpsNumber (number : NumberText) : List Char :=
  (if number.negative then ['-'] else []) ++
    (Nat.toDigits 10 number.whole ++
      (dumpsFraction number.fraction ++ dumpsExponent number.exponent))

mutual

def dumpsTree : JsonTree → List Char
  | .null => ['n', 'u', 'l', 'l']
  | .bool true => ['t', 'r', 'u', 'e']
  | .bool false => ['f', 'a', 'l', 's', 'e']
  | .number text => dumpsNumber text
  | .nan => ['N', 'a', 'N']
  | .infinity false => ['I', 'n', 'f', 'i', 'n', 'i', 't', 'y']
  | .infinity true => ['-', 'I', 'n', 'f', 'i', 'n', 'i', 't', 'y']
  | .str text => dumpsText text
  | .array [] => ['[', ']']
  | .array (item :: items) => '[' :: (dumpsTree item ++ dumpsItems items)
  | .object [] => ['{', '}']
  | .object ((key, value) :: members) =>
      '{' :: (dumpsText key ++ ':' :: ' ' :: (dumpsTree value ++
        dumpsMembers members))

/-- The items after the first, and the end of the array. -/
def dumpsItems : List JsonTree → List Char
  | [] => [']']
  | item :: items => ',' :: ' ' :: (dumpsTree item ++ dumpsItems items)

def dumpsMembers : List (PyText × JsonTree) → List Char
  | [] => ['}']
  | (key, value) :: members =>
      ',' :: ' ' :: (dumpsText key ++ ':' :: ' ' :: (dumpsTree value ++
        dumpsMembers members))

end

/-! Reading. -/

def isJsonSpace (char : Char) : Bool :=
  char = ' ' ∨ char = '\t' ∨ char = '\n' ∨ char = '\r'

def skipSpace (chars : List Char) : List Char := chars.dropWhile isJsonSpace

def hexUnit (a b c d : Char) : Option (Fin 0x110000) := do
  let a ← hexValue a
  let b ← hexValue b
  let c ← hexValue c
  let d ← hexValue d
  return Fin.ofNat 0x110000 (((a * 16 + b) * 16 + c) * 16 + d)

def unescape (char : Char) : Option (Fin 0x110000) :=
  match char with
  | '\x22' => some 0x22
  | '\\' => some 0x5C
  | '/' => some 0x2F
  | 'b' => some 0x08
  | 'f' => some 0x0C
  | 'n' => some 0x0A
  | 'r' => some 0x0D
  | 't' => some 0x09
  | _ => none

/-- A string behind its opening quote, an escaped surrogate still on its own. -/
def scanUnits : List Char → Option (PyText × List Char)
  | [] => none
  | '\x22' :: rest => some ([], rest)
  | '\\' :: 'u' :: a :: b :: c :: d :: rest => do
      let unit ← hexUnit a b c d
      let (units, rest) ← scanUnits rest
      return (unit :: units, rest)
  | '\\' :: char :: rest => do
      let unit ← unescape char
      let (units, rest) ← scanUnits rest
      return (unit :: units, rest)
  | char :: rest =>
      if char.toNat < 0x20 ∨ char = '\\' then none
      else do
        let (units, rest) ← scanUnits rest
        return (Fin.ofNat 0x110000 char.toNat :: units, rest)

def isHigh (unit : Fin 0x110000) : Bool := 0xD800 ≤ unit.val ∧ unit.val < 0xDC00
def isLow (unit : Fin 0x110000) : Bool := 0xDC00 ≤ unit.val ∧ unit.val < 0xE000

def joinSurrogates : PyText → PyText
  | high :: low :: rest =>
      if isHigh high ∧ isLow low then
        Fin.ofNat 0x110000
          (0x10000 + (high.val - 0xD800) * 0x400 + (low.val - 0xDC00)) ::
          joinSurrogates rest
      else high :: joinSurrogates (low :: rest)
  | short => short

def scanText (chars : List Char) : Option (PyText × List Char) := do
  let (units, rest) ← scanUnits chars
  return (joinSurrogates units, rest)

def scanDigits (chars : List Char) : List Char × List Char :=
  (chars.takeWhile Char.isDigit, chars.dropWhile Char.isDigit)

def scanWhole : List Char → Option (ℕ × List Char)
  | '0' :: rest => some (0, rest)
  | chars =>
      match scanDigits chars with
      | ([], _) => none
      | (digits, rest) => some (Nat.ofDigitChars 10 digits 0, rest)

def digitOf (char : Char) : Fin 10 := Fin.ofNat 10 (char.toNat - '0'.toNat)

def scanFraction : List Char → Option (Fin 10 × List (Fin 10)) × List Char
  | '.' :: rest =>
      match scanDigits rest with
      | (first :: more, rest) => (some (digitOf first, more.map digitOf), rest)
      | ([], _) => (none, '.' :: rest)
  | rest => (none, rest)

/-- The digits behind the sign of an exponent; without any there is none. -/
def scanPower (negative : Bool) (chars rest : List Char) :
    Option ℤ × List Char :=
  match scanDigits rest with
  | ([], _) => (none, chars)
  | (digits, rest) =>
      let size : ℤ := Nat.ofDigitChars 10 digits 0
      (some (if negative then -size else size), rest)

def scanExponent (chars : List Char) : Option ℤ × List Char :=
  match chars with
  | letter :: rest =>
      if letter = 'e' ∨ letter = 'E' then
        match rest with
        | '-' :: rest => scanPower true chars rest
        | '+' :: rest => scanPower false chars rest
        | rest => scanPower false chars rest
      else (none, chars)
  | [] => (none, [])

def scanUnsigned (negative : Bool) (chars : List Char) :
    Option (JsonTree × List Char) := do
  let (whole, rest) ← scanWhole chars
  let (fraction, rest) := scanFraction rest
  let (exponent, rest) := scanExponent rest
  return (.number { negative, whole, fraction, exponent }, rest)

def scanNumber : List Char → Option (JsonTree × List Char)
  | '-' :: rest => scanUnsigned true rest
  | rest => scanUnsigned false rest

def jsonWords : List JsonTree :=
  [.null, .bool true, .bool false, .nan, .infinity false, .infinity true]

def scanWord (chars : List Char) : Option (JsonTree × List Char) :=
  jsonWords.findSome? fun word =>
    if dumpsTree word <+: chars then
      some (word, chars.drop (dumpsTree word).length)
    else none

/-- `dict[key] = value` -/
def setMember (members : List (PyText × JsonTree)) (key : PyText)
    (value : JsonTree) : List (PyText × JsonTree) :=
  if key ∈ members.map Prod.fst then
    members.map fun member => if member.1 = key then (key, value) else member
  else members ++ [(key, value)]

def dictOf (pairs : List (PyText × JsonTree)) : List (PyText × JsonTree) :=
  pairs.foldl (fun members pair => setMember members pair.1 pair.2) []

mutual

def scanTree : (fuel : ℕ) → List Char → Option (JsonTree × List Char)
  | 0, _ => none
  | _ + 1, '\x22' :: rest => do
      let (text, rest) ← scanText rest
      return (.str text, rest)
  | fuel + 1, '[' :: rest =>
      match skipSpace rest with
      | ']' :: rest => some (.array [], rest)
      | rest => do
          let (items, rest) ← scanItems fuel rest
          return (.array items, rest)
  | fuel + 1, '{' :: rest =>
      match skipSpace rest with
      | '}' :: rest => some (.object [], rest)
      | rest => do
          let (pairs, rest) ← scanMembers fuel rest
          return (.object (dictOf pairs), rest)
  | _ + 1, chars => (scanWord chars).or (scanNumber chars)

def scanItems : (fuel : ℕ) → List Char → Option (List JsonTree × List Char)
  | 0, _ => none
  | fuel + 1, chars => do
      let (item, rest) ← scanTree fuel chars
      match skipSpace rest with
      | ']' :: rest => return ([item], rest)
      | ',' :: rest => do
          let (items, rest) ← scanItems fuel (skipSpace rest)
          return (item :: items, rest)
      | _ => none

def scanMembers : (fuel : ℕ) → List Char →
    Option (List (PyText × JsonTree) × List Char)
  | fuel + 1, '\x22' :: rest => do
      let (key, rest) ← scanText rest
      match skipSpace rest with
      | ':' :: rest => do
          let (value, rest) ← scanTree fuel (skipSpace rest)
          match skipSpace rest with
          | '}' :: rest => return ([(key, value)], rest)
          | ',' :: rest => do
              let (members, rest) ← scanMembers fuel (skipSpace rest)
              return ((key, value) :: members, rest)
          | _ => none
      | _ => none
  | _, _ => none

end

/-- Python's limits on nesting and on the length of an integer are left out. -/
def loads (chars : List Char) : Option JsonTree :=
  match scanTree (chars.length + 1) (skipSpace chars) with
  | some (tree, rest) => if skipSpace rest = [] then some tree else none
  | none => none

/-- `bytes.decode("utf-8")`: bytes that are not UTF-8 do not come back. -/
def decodeStrict (bytes : List UInt8) : Option (List Char) :=
  let chars := decodeAll bytes
  if chars.flatMap String.utf8EncodeChar = bytes then some chars else none

/-- `json.dumps(tree).encode("utf-8")` -/
def dumpsBytes (tree : JsonTree) : List UInt8 :=
  (dumpsTree tree).flatMap String.utf8EncodeChar

/-- `json.loads(bytes.decode("utf-8"))` -/
def loadsBytes (bytes : List UInt8) : Option JsonTree := do
  loads (← decodeStrict bytes)

end VpnTunnel.Foundation
