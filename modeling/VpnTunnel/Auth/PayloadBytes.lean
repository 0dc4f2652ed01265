import Mathlib.Data.List.Nodup
import VpnTunnel.Auth.Handshake
import VpnTunnel.Crypto.FrameImage
import VpnTunnel.Foundation.JsonSize
import VpnTunnel.Foundation.PyFloat

namespace VpnTunnel.Auth

open VpnTunnel.Crypto
open VpnTunnel.Foundation

/-! The payloads of the handshake as bytes. -/

def intText (value : ℤ) : NumberText :=
  { negative := decide (value < 0)
    whole := value.natAbs
    fraction := none
    exponent := none }

def JsonValue.tree : JsonValue UInt8 → JsonTree
  | .null => .null
  | .bool value => .bool value
  | .number (.int value) => .number (intText value)
  | .number (.float value) => .number (reprFloat value)
  | .number .nan => .nan
  | .number .infinity => .infinity false
  | .str text => .str (pyText text.toList)
  | .hex bytes => .str (pyText (toHex bytes).toList)
  | .array => .array []
  | .object => .object []

def Json.tree : Json UInt8 → JsonTree
  | .dict fields =>
      .object (fields.map fun field => (pyText field.1.toList, field.2.tree))
  | .other => .null

def encodeHs (json : Json UInt8) : Bytes := dumpsBytes json.tree

/-- Neither side sends bytes that are not UTF-8; these are some. -/
def Payload.encode : Payload UInt8 → Bytes
  | .json value => encodeHs value
  | .text message => encodeUtf8 message
  | .binary => [0xFF]

/-- A lone surrogate becomes a NUL; no field has such a name. -/
def pyString (text : PyText) : String :=
  String.ofList (text.map fun point => Char.ofNat point.val)

/-- An integer literal is an `int`; one too large for a float is infinite. -/
def numberOf (text : NumberText) : PyNumber :=
  if text.fraction = none ∧ text.exponent = none then
    .int (if text.negative then -text.whole else text.whole)
  else
    match text.toFloat with
    | some value => .float value
    | none => .infinity

def valueOf : JsonTree → JsonValue UInt8
  | .null => .null
  | .bool value => .bool value
  | .number text => .number (numberOf text)
  | .nan => .number .nan
  | .infinity _ => .number .infinity
  | .str text => .str (pyString text)
  | .array _ => .array
  | .object _ => .object

def jsonOf : JsonTree → Json UInt8
  | .object members =>
      .dict (members.map fun member => (pyString member.1, valueOf member.2))
  | _ => .other

/-- What `_decode_hs` makes of the bytes, or that it raises. -/
def decodePayload (bytes : Bytes) : Payload UInt8 :=
  match decodeStrict bytes with
  | none => .binary
  | some chars =>
      match loads chars with
      | some tree => .json (jsonOf tree)
      | none => .text (String.ofList chars)

/-! What either side sends: byte strings in hexadecimal, and floats. -/

def JsonValue.Sendable : JsonValue UInt8 → Prop
  | .hex bytes => bytes.length ≤ 2048
  | .number (.float value) => IsDouble value
  | _ => False

structure SendableFields (fields : List (String × JsonValue UInt8)) : Prop where
  values : ∀ field ∈ fields, field.2.Sendable
  keys : (fields.map Prod.fst).Nodup
  short : ∀ field ∈ fields, field.1.length ≤ 32
  few : fields.length ≤ 4

/-- What arrives of a value. -/
def JsonValue.carried : JsonValue UInt8 → JsonValue UInt8
  | .hex bytes => .str (toHex bytes)
  | value => value

theorem pyString_pyText (text : String) : pyString (pyText text.toList) = text := by
  rw [pyString, map_val_pyText, String.ofList_toList]

theorem pyText_injective {first second : String}
    (same : pyText first.toList = pyText second.toList) : first = second := by
  rw [← pyString_pyText first, same, pyString_pyText]

section

variable {value : JsonValue UInt8} {fields : List (String × JsonValue UInt8)}

theorem valueOf_tree (sendable : value.Sendable) : valueOf value.tree = value.carried := by
  match value, sendable with
  | .hex bytes, _ => exact congrArg JsonValue.str (pyString_pyText _)
  | .number (.float number), double =>
      change JsonValue.number (numberOf (reprFloat number)) = _
      rw [numberOf, if_neg (reprFloat_not_int number), toFloat_reprFloat double]
      rfl

theorem plain_tree (sendable : value.Sendable) : value.tree.Plain := by
  match value, sendable with
  | .hex _, _ => exact isText_pyText _
  | .number (.float _), _ => exact trivial

theorem SendableFields.plain (sendable : SendableFields fields) :
    (Json.dict fields).tree.Plain := by
  obtain ⟨values, keys, -, -⟩ := sendable
  refine ⟨?_, ?_⟩
  · rw [List.map_map]
    change (fields.map ((fun text : String => pyText text.toList) ∘ Prod.fst)).Nodup
    rw [← List.map_map]
    exact List.Nodup.map (fun _ _ => pyText_injective) keys
  · clear keys
    induction fields with
    | nil => exact trivial
    | cons field rest ih =>
        exact ⟨isText_pyText _, plain_tree (values field List.mem_cons_self),
          ih fun other member => values other (List.mem_cons_of_mem _ member)⟩

theorem SendableFields.jsonOf_tree (sendable : SendableFields fields) :
    jsonOf (Json.dict fields).tree =
      .dict (fields.map fun field => (field.1, field.2.carried)) := by
  change Json.dict (List.map _ (List.map _ fields)) = _
  rw [List.map_map]
  congr 1
  apply List.map_congr_left
  intro field member
  exact Prod.ext (pyString_pyText field.1) (valueOf_tree (sendable.values field member))

/-- A payload arrives as it was sent, its byte strings still in hexadecimal. -/
theorem SendableFields.decodePayload_encode (sendable : SendableFields fields) :
    decodePayload (Payload.json (.dict fields)).encode =
      .json (.dict (fields.map fun field => (field.1, field.2.carried))) := by
  change decodePayload (dumpsBytes _) = _
  rw [decodePayload, dumpsBytes, decodeStrict_encode]
  simp only [loads_dumpsTree sendable.plain, sendable.jsonOf_tree]

end

/-! Sizes. -/

section

variable {value : JsonValue UInt8} {fields : List (String × JsonValue UInt8)}

theorem dumpsTree_tree_length (sendable : value.Sendable) :
    (dumpsTree value.tree).length ≤ 50000 := by
  match value, sendable with
  | .hex bytes, short =>
      have short : bytes.length ≤ 2048 := short
      have text := dumpsText_length (pyText (toHex bytes).toList)
      rw [pyText, List.length_map, toHex_length] at text
      exact text.trans (by omega)
  | .number (.float number), double =>
      exact (reprFloat_length double).trans (by decide)

theorem dumpsMembers_tree_length
    (values : ∀ field ∈ fields, field.2.Sendable)
    (short : ∀ field ∈ fields, field.1.length ≤ 32) :
    (dumpsMembers (fields.map fun field =>
      (pyText field.1.toList, field.2.tree))).length ≤ 1 + 51000 * fields.length := by
  induction fields with
  | nil => decide
  | cons field rest ih =>
      have others := ih (fun other member => values other (List.mem_cons_of_mem _ member))
        fun other member => short other (List.mem_cons_of_mem _ member)
      have value := dumpsTree_tree_length (values field List.mem_cons_self)
      have key := dumpsText_length (pyText field.1.toList)
      have named := short field List.mem_cons_self
      rw [pyText, List.length_map, String.length_toList] at key
      simp only [List.map_cons, dumpsMembers, List.length_cons, List.length_append,
        pyText] at others ⊢
      omega

theorem SendableFields.encode_length (sendable : SendableFields fields) :
    (Payload.json (.dict fields)).encode.length ≤ 1000000 := by
  have inner : (dumpsTree (Json.dict fields).tree).length ≤ 2 + 51000 * fields.length := by
    have whole := dumpsMembers_tree_length sendable.values sendable.short
    cases fields with
    | nil => decide
    | cons field rest =>
        -- The first member stands without the comma and the space of the others.
        simp only [List.map_cons, dumpsMembers, Json.tree, dumpsTree, List.length_cons,
          List.length_append] at whole ⊢
        omega
  have outer := flatMap_utf8_length (dumpsTree (Json.dict fields).tree)
  have few := sendable.few
  change (List.flatMap _ _).length ≤ _
  omega

end

/-! Frames. -/

/-- `_NULL_SID` -/
def nullSid : Bytes := List.replicate sessionIdSize 0

/-- `send_frame` as the handshake calls it, up to the bytes of the frame. -/
def handshakeFrame (P : Primitives) (frame : Frame UInt8) : Except PyError Bytes :=
  buildFrame P frame.msgType nullSid frame.payload.encode none none zeroNonce

theorem handshakeFrame_of_short (P : Primitives) {frame : Frame UInt8}
    (short : frame.payload.encode.length ≤ 1000000) :
    ∃ bytes, handshakeFrame P frame = .ok bytes ∧ bytes ≠ [] ∧
      bytes.length ≤ headerSize + maxFrameSize := by
  have size : (frameBody frame.msgType nullSid (List.replicate gcmNonceSize 0)
      frame.payload.encode).length + hmacDigestSize ≤ maxFrameSize := by
    rw [frameBody_length, nullSid, List.length_replicate, List.length_replicate]
    simp only [sessionIdSize, gcmNonceSize, hmacDigestSize, maxFrameSize]
    omega
  refine ⟨_, buildFrame_eq_ok.mpr ⟨List.length_replicate, _, _, rfl, size, rfl⟩,
    List.cons_ne_nil _ _, ?_⟩
  simp only [List.length_append, packHeader_length, computeHmac_length]
  omega

end VpnTunnel.Auth
