import VpnTunnel.Tunnel.BrowserAnswer
import VpnTunnel.Tunnel.RequestBody

namespace VpnTunnel.Tunnel

open VpnTunnel.Client
open VpnTunnel.Crypto
open VpnTunnel.Foundation
open VpnTunnel.Server

/-! The answer as the browser parses it. -/

def hopNames : List Bytes :=
  [encodeUtf8 "Transfer-Encoding", encodeUtf8 "Connection", encodeUtf8 "Keep-Alive"]

def isLengthName (name : Bytes) : Bool := sameName name lengthName

/-- The headers that frame a message on one connection. -/
def isFramingName (name : Bytes) : Bool :=
  isLengthName name || hopNames.any (sameName name)

def TargetResponse.fields (response : TargetResponse) : List Field :=
  response.texts.map textField

/-- The headers can be told from each other and from the body: no proper name is
missing, no value has blanks around it, and a length is the length. -/
def TargetResponse.Consistent (response : TargetResponse) : Prop :=
  ∀ field ∈ response.fields,
    (isFramingName field.1 = false →
      isToken field.1 = true ∧ trim isBlank field.2 = field.2) ∧
    (isLengthName field.1 = true →
      decimal (trim isBlank field.2) = some response.content.length)

/-! Names in ASCII, as text and as bytes. -/

def pointOf (byte : UInt8) : Fin 0x110000 := Fin.ofNat 0x110000 byte.toNat

theorem pyText_of_ascii {name : List Char}
    (ascii : ∀ byte ∈ name.flatMap String.utf8EncodeChar, byte.toNat < 0x80) :
    pyText name = (name.flatMap String.utf8EncodeChar).map pointOf := by
  have decoded := decodeAll_asciiChars ascii []
  rw [List.append_nil, decodeAll_nil, List.append_nil, decodeAll_flatMap] at decoded
  conv_lhs => rw [decoded]
  rw [pyText, asciiChars, List.map_map]
  apply List.map_congr_left
  intro byte member
  have small := ascii byte member
  exact congrArg (Fin.ofNat 0x110000) (toNat_val_ofNat (.inl (by omega)))

theorem lowerPoint_pointOf (byte : UInt8) :
    lowerPoint (pointOf byte) = pointOf (lowerByte byte) := by
  have all : ∀ n < 256, lowerPoint (pointOf (UInt8.ofNat n)) =
      pointOf (lowerByte (UInt8.ofNat n)) := by
    decide +kernel
  have own := all byte.toNat byte.toNat_lt
  rwa [UInt8.ofNat_toNat] at own

theorem pointOf_injective : Function.Injective pointOf := by
  intro first second same
  have codes := congrArg Fin.val same
  change first.toNat % 0x110000 = second.toNat % 0x110000 at codes
  have small := first.toNat_lt
  have small' := second.toNat_lt
  exact UInt8.toNat_inj.mp (by omega)

/-- A name of ASCII is compared with a word as HTTP does it. -/
theorem lowers_iff_sameName {name : List Char} {word : String} (other : Bytes)
    (ascii : ∀ byte ∈ name.flatMap String.utf8EncodeChar, byte.toNat < 0x80)
    (spelled : pyText word.toList = (other.map lowerByte).map pointOf) :
    decide ((pyText name).map lowerPoint = pyText word.toList) =
      sameName (name.flatMap String.utf8EncodeChar) other := by
  have lowered : (pyText name).map lowerPoint =
      ((name.flatMap String.utf8EncodeChar).map lowerByte).map pointOf := by
    rw [pyText_of_ascii ascii, List.map_map, List.map_map]
    apply List.map_congr_left
    exact fun byte _ => lowerPoint_pointOf byte
  rw [lowered, spelled, sameName, decide_eq_decide,
    (List.map_injective_iff.mpr pointOf_injective).eq_iff]

theorem isHopByHop_of_ascii {name : List Char}
    (ascii : ∀ byte ∈ name.flatMap String.utf8EncodeChar, byte.toNat < 0x80) :
    isHopByHop (pyText name) =
      hopNames.any (sameName (name.flatMap String.utf8EncodeChar)) := by
  rw [isHopByHop, hopByHopNames, hopNames]
  simp only [List.any_cons, List.any_nil]
  rw [lowers_iff_sameName (encodeUtf8 "Transfer-Encoding") ascii
      (by rw [encodeUtf8_eq]; rfl),
    lowers_iff_sameName (encodeUtf8 "Connection") ascii (by rw [encodeUtf8_eq]; rfl),
    lowers_iff_sameName (encodeUtf8 "Keep-Alive") ascii (by rw [encodeUtf8_eq]; rfl)]

theorem ascii_of_token {name : Bytes} (token : isToken name = true) :
    ∀ byte ∈ name, byte.toNat < 0x80 := fun byte member =>
  (solid_of_token token byte member).1

theorem token_of_isLengthName {name : Bytes} (length : isLengthName name = true) :
    isToken name = true := by
  apply token_of_sameName length
  rw [lengthName, encodeUtf8_eq]
  rfl

theorem token_of_hopNames {name : Bytes} (hop : hopNames.any (sameName name) = true) :
    isToken name = true := by
  have lower : (hopNames.all fun other => isToken (other.map lowerByte)) = true := by
    rw [hopNames, encodeUtf8_eq, encodeUtf8_eq, encodeUtf8_eq]
    rfl
  obtain ⟨other, member, same⟩ := List.any_eq_true.mp hop
  exact token_of_sameName same (List.all_eq_true.mp lower other member)

theorem hop_connectionField : hopNames.any (sameName connectionField.1) = true :=
  List.any_eq_true.mpr ⟨encodeUtf8 "Connection",
    List.mem_cons_of_mem _ List.mem_cons_self, sameName_refl _⟩

/-! The lines of the answer. -/

theorem not_mem_flatMap {byte : UInt8} (ascii : byte.toNat < 0x80) {chars : List Char}
    (other : Char.ofNat byte.toNat ∉ chars) :
    byte ∉ chars.flatMap String.utf8EncodeChar := by
  intro inside
  obtain ⟨before, after, same⟩ := List.append_of_mem inside
  have decoded := decodeAll_ascii byte ascii before after
  rw [← same, decodeAll_flatMap] at decoded
  exact other (decoded ▸ List.mem_append_right _ List.mem_cons_self)

theorem isLine_fieldLine {field : Field} (name : (0x0D : UInt8) ∉ field.1)
    (value : (0x0D : UInt8) ∉ field.2) : IsLine (fieldLine field) := by
  constructor
  · exact List.append_ne_nil_of_right_ne_nil _
      (List.append_ne_nil_of_left_ne_nil (List.cons_ne_nil _ _) _)
  · simp [fieldLine, colon, name, value]

theorem not_mem_toDigits {number : ℕ} {byte : UInt8} (other : byte.toNat < 0x30) :
    byte ∉ (Nat.toDigits 10 number).flatMap String.utf8EncodeChar := by
  intro digit
  have range := byte_of_toDigits digit
  omega

theorem isLine_statusLine (statusCode : ℕ) : IsLine (statusLine statusCode) := by
  constructor
  · exact List.append_ne_nil_of_left_ne_nil (List.cons_ne_nil _ _) _
  · have digits : (0x0D : UInt8) ∉
        (Nat.toDigits 10 statusCode).flatMap String.utf8EncodeChar :=
      not_mem_toDigits (by decide)
    simp [statusLine, version, digits]

theorem statusOf_statusLine {statusCode : ℕ}
    (three : 100 ≤ statusCode ∧ statusCode < 1000) :
    statusOf (statusLine statusCode) = some statusCode := by
  have long : ((Nat.toDigits 10 statusCode).flatMap String.utf8EncodeChar).length = 3 := by
    have most : (Nat.toDigits 10 statusCode).length ≤ 3 :=
      (Nat.length_toDigits_le_iff (by decide) (by decide)).mpr three.2
    have least : ¬(Nat.toDigits 10 statusCode).length ≤ 2 := by
      rw [Nat.length_toDigits_le_iff (by decide) (by decide)]
      omega
    rw [length_encode_toDigits]
    omega
  have clear : (0x20 : UInt8) ∉ ([] : Bytes) := List.not_mem_nil
  have digits : splitAll [0x20]
      ((Nat.toDigits 10 statusCode).flatMap String.utf8EncodeChar) =
        [(Nat.toDigits 10 statusCode).flatMap String.utf8EncodeChar] :=
    splitAll_clear (not_mem_toDigits (by decide))
  have cuts : splitAll [0x20] (statusLine statusCode) =
      [version, (Nat.toDigits 10 statusCode).flatMap String.utf8EncodeChar,
        [0x4F, 0x4B]] := by
    change splitAll [0x20] (version ++ ([0x20] ++
      ((Nat.toDigits 10 statusCode).flatMap String.utf8EncodeChar ++
        ([0x20] ++ [0x4F, 0x4B])))) = _
    rw [splitAll_append clear, splitAll_append clear, digits]
    rfl
  unfold statusOf
  rw [cuts]
  change (if version = version ∧ _ then decimal _ else none) = _
  rw [if_pos ⟨rfl, long⟩, decimal_toDigits]

section

variable (response : TargetResponse)

theorem oneLine_texts {text : List Char × List Char} (member : text ∈ response.texts) :
    '\r' ∉ text.1 ∧ '\r' ∉ text.2 := by
  obtain ⟨header, inside, rfl⟩ := List.mem_map.mp member
  have oneLine := response.oneLine header inside
  constructor
  · exact fun held => (oneLine _ (List.mem_append_left _ held)).1 rfl
  · exact fun held => (oneLine _ (List.mem_append_right _ held)).1 rfl

theorem mem_written {field : Field} :
    field ∈ response.written ↔
      (∃ text ∈ response.texts, isHopByHop (pyText text.1) = false ∧
        textField text = field) ∨
      field = lengthField response.content.length ∨ field = connectionField := by
  rw [TargetResponse.written, List.mem_append, List.mem_map, List.mem_cons,
    List.mem_singleton]
  constructor
  · rintro (⟨text, member, rfl⟩ | own)
    · obtain ⟨inside, kept⟩ := List.mem_filter.mp member
      exact .inl ⟨text, inside, Bool.not_eq_true' _ ▸ kept, rfl⟩
    · exact .inr own
  · rintro (⟨text, inside, kept, rfl⟩ | own)
    · exact .inl ⟨text, List.mem_filter.mpr ⟨inside, by rw [kept]; rfl⟩, rfl⟩
    · exact .inr own

theorem isLine_written : ∀ line ∈ statusLine response.statusCode ::
    response.written.map fieldLine, IsLine line := by
  intro line member
  rcases List.mem_cons.mp member with rfl | inside
  · exact isLine_statusLine response.statusCode
  · obtain ⟨field, held, rfl⟩ := List.mem_map.mp inside
    rcases (mem_written response).mp held with ⟨text, listed, -, rfl⟩ | rfl | rfl
    · obtain ⟨name, value⟩ := oneLine_texts response listed
      exact isLine_fieldLine (not_mem_flatMap (by decide) name)
        (not_mem_flatMap (by decide) value)
    · exact isLine_fieldLine
        (not_mem_token (token_of_isLengthName (sameName_refl lengthName)) rfl)
        (not_mem_toDigits (by decide))
    · have value : isToken connectionField.2 = true := by
        rw [connectionField, encodeUtf8_eq, encodeUtf8_eq]
        rfl
      exact isLine_fieldLine (not_mem_token (token_of_hopNames hop_connectionField) rfl)
        (not_mem_token value rfl)

theorem parseResponse_answer :
    parseResponse response.answer =
      ((response.written.map fieldLine).mapM responseField).map fun fields =>
        { status := response.statusCode, fields, body := response.content } := by
  rw [TargetResponse.answer, parseResponse_printLines (isLine_written response),
    statusOf_statusLine response.three, Option.bind_some]

def trimmed (field : Field) : Field := (field.1, trim isBlank field.2)

theorem responseField_fieldLine {field : Field} (token : isToken field.1 = true) :
    responseField (fieldLine field) = some (trimmed field) :=
  responseField_print token field.2

theorem trimmed_lengthField (size : ℕ) : trimmed (lengthField size) = lengthField size := by
  have solid : ∀ byte ∈ (Nat.toDigits 10 size).flatMap String.utf8EncodeChar,
      isBlank byte = false := by
    intro byte digit
    have range := byte_of_toDigits digit
    apply decide_eq_false
    rintro (rfl | rfl)
    · exact absurd range.1 (by decide)
    · exact absurd range.1 (by decide)
  rw [trimmed, lengthField, trim_of_forall solid]

theorem isHopByHop_of_token {text : List Char × List Char}
    (token : isToken (textField text).1 = true) :
    isHopByHop (pyText text.1) = hopNames.any (sameName (textField text).1) :=
  isHopByHop_of_ascii (ascii_of_token token)

section

variable {response} (consistent : response.Consistent)

include consistent

theorem token_of_written {field : Field} (held : field ∈ response.written) :
    isToken field.1 = true := by
  rcases (mem_written response).mp held with ⟨text, listed, kept, rfl⟩ | rfl | rfl
  · have member : textField text ∈ response.fields := List.mem_map_of_mem listed
    cases framing : isFramingName (textField text).1 with
    | false => exact ((consistent _ member).1 framing).1
    | true =>
        rcases Bool.or_eq_true_iff.mp framing with length | hop
        · exact token_of_isLengthName length
        · rw [isHopByHop_of_token (token_of_hopNames hop)] at kept
          exact absurd (hop.symm.trans kept) (by decide)
  · exact token_of_isLengthName (sameName_refl lengthName)
  · exact token_of_hopNames hop_connectionField

end

theorem parseResponse_of_consistent (consistent : response.Consistent) :
    parseResponse response.answer =
      some {
        status := response.statusCode
        fields := response.written.map trimmed
        body := response.content } := by
  have lines : (response.written.map fieldLine).mapM responseField =
      some (response.written.map trimmed) := by
    rw [List.mapM_map]
    exact mapM_of_forall fun field held =>
      responseField_fieldLine (token_of_written consistent held)
  rw [parseResponse_answer, lines]
  rfl

end

/-! A page that comes as it is, and one that the library has unpacked. -/

theorem oneLine_of_all {headers : List (String × String)}
    (plain : (headers.all fun header => (header.1.toList ++ header.2.toList).all
      fun char => char != '\r' && char != '\n') = true) :
    ∀ header ∈ headers, ∀ char ∈ header.1.toList ++ header.2.toList,
      char ≠ '\r' ∧ char ≠ '\n' := by
  intro header member char inside
  have own := List.all_eq_true.mp (List.all_eq_true.mp plain header member) char inside
  simpa using own

end VpnTunnel.Tunnel
