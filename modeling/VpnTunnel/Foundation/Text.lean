import Mathlib.Algebra.GroupWithZero.Nat

namespace VpnTunnel.Foundation

/-! Texts as bytes. -/

def hexDigit (n : Nat) : Char := "0123456789abcdef".toList.getD n '0'

def toHex (bytes : List UInt8) : String :=
  String.ofList (bytes.flatMap fun byte =>
    [hexDigit (byte.toNat / 16), hexDigit (byte.toNat % 16)])

def hexValue (char : Char) : Option Nat :=
  if '0' ≤ char ∧ char ≤ '9' then some (char.toNat - '0'.toNat)
  else if 'a' ≤ char ∧ char ≤ 'f' then some (char.toNat - 'a'.toNat + 10)
  else if 'A' ≤ char ∧ char ≤ 'F' then some (char.toNat - 'A'.toNat + 10)
  else none

def isAsciiSpace (char : Char) : Bool :=
  char = ' ' ∨ ('\t' ≤ char ∧ char ≤ '\r')

/-- `bytes.fromhex`, which skips white space between the bytes. -/
def fromHexChars : List Char → Option (List UInt8)
  | [] => some []
  | [char] => if isAsciiSpace char then some [] else none
  | high :: low :: rest =>
      if isAsciiSpace high then fromHexChars (low :: rest)
      else do
        let highValue ← hexValue high
        let lowValue ← hexValue low
        let bytes ← fromHexChars rest
        return UInt8.ofNat (16 * highValue + lowValue) :: bytes

def encodeUtf8 (text : String) : List UInt8 := text.toUTF8.toList

instance neZeroPoints : NeZero 0x110000 := ⟨by decide⟩

/-- A Python `str`: any code points, lone surrogates among them. -/
abbrev PyText := List (Fin 0x110000)

/-- The text that `encode("utf-8")` encodes; a surrogate makes it raise. -/
def PyText.scalars (text : PyText) : Option String :=
  if text.any fun point => decide (0xD800 ≤ point.val ∧ point.val ≤ 0xDFFF) then
    none
  else some (String.ofList (text.map fun point => Char.ofNat point.val))

/-! Decoding UTF-8 with replacement: each maximal ill-formed piece becomes one
U+FFFD. -/

/-- The ranges that the continuation bytes after `lead` must lie in. -/
def continuations (lead : UInt8) : Option (List (UInt8 × UInt8)) :=
  if lead < 0x80 then some []
  else if lead < 0xC2 then none
  else if lead < 0xE0 then some [(0x80, 0xBF)]
  else if lead = 0xE0 then some [(0xA0, 0xBF), (0x80, 0xBF)]
  else if lead = 0xED then some [(0x80, 0x9F), (0x80, 0xBF)]
  else if lead < 0xF0 then some [(0x80, 0xBF), (0x80, 0xBF)]
  else if lead = 0xF0 then some [(0x90, 0xBF), (0x80, 0xBF), (0x80, 0xBF)]
  else if lead < 0xF4 then some [(0x80, 0xBF), (0x80, 0xBF), (0x80, 0xBF)]
  else if lead = 0xF4 then some [(0x80, 0x8F), (0x80, 0xBF), (0x80, 0xBF)]
  else none

def matching : List (UInt8 × UInt8) → List UInt8 → Nat
  | (low, high) :: ranges, byte :: rest =>
      if low ≤ byte ∧ byte ≤ high then matching ranges rest + 1 else 0
  | _, _ => 0

def codePoint (lead : UInt8) (tail : List UInt8) : Char :=
  let top := match tail.length with
    | 0 => lead.toNat
    | 1 => lead.toNat - 0xC0
    | 2 => lead.toNat - 0xE0
    | _ => lead.toNat - 0xF0
  Char.ofNat (tail.foldl (fun value byte => value * 64 + (byte.toNat - 0x80)) top)

def decodeChars : (fuel : Nat) → List UInt8 → List Char
  | fuel + 1, lead :: rest =>
      match continuations lead with
      | none => '\uFFFD' :: decodeChars fuel rest
      | some ranges =>
          let size := matching ranges rest
          let char :=
            if size = ranges.length then codePoint lead (rest.take size)
            else '\uFFFD'
          char :: decodeChars fuel (rest.drop size)
  | _, _ => []

def decodeReplace (bytes : List UInt8) : String :=
  String.ofList (decodeChars bytes.length bytes)

/-! Lines of a text, and white space around them. -/

/-- The characters at which `str.splitlines` cuts. -/
def isLineBreak (char : Char) : Bool :=
  char ∈ ['\n', '\r', '\x0b', '\x0c', '\x1c', '\x1d', '\x1e', '\u0085',
    '\u2028', '\u2029']

/-- `str.splitlines`, with `line` what the current line has so far. -/
def splitLines (line : List Char) : List Char → List (List Char)
  | [] => if line = [] then [] else [line]
  | '\r' :: '\n' :: rest => line :: splitLines [] rest
  | char :: rest =>
      if isLineBreak char then line :: splitLines [] rest
      else splitLines (line ++ [char]) rest

def isSpace (char : Char) : Bool :=
  char ∈ ['\t', '\n', '\x0b', '\x0c', '\r', '\x1c', '\x1d', '\x1e', '\x1f',
    ' ', '\u0085', '\u00a0', '\u1680', '\u2028', '\u2029', '\u202f', '\u205f',
    '\u3000'] || decide ('\u2000' ≤ char ∧ char ≤ '\u200a')

def strip (text : List Char) : List Char :=
  ((text.dropWhile isSpace).reverse.dropWhile isSpace).reverse

end VpnTunnel.Foundation
