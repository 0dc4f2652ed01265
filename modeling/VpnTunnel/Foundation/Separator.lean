import VpnTunnel.Foundation.Utf8

namespace VpnTunnel.Foundation

/-! Cutting a list at a separator, and how that goes with decoding. -/

section

variable {α : Type*} [DecidableEq α]

/-- What stands before and after the first place where the separator is. -/
def partitionAt (separator : List α) : List α → Option (List α × List α)
  | [] => if separator = [] then some ([], []) else none
  | item :: rest =>
      if separator <+: item :: rest then
        some ([], (item :: rest).drop separator.length)
      else (partitionAt separator rest).map fun parts => (item :: parts.1, parts.2)

/-- `str.split(separator, most)` -/
def splitAt (separator : List α) : (most : ℕ) → List α → List (List α)
  | 0, items => [items]
  | most + 1, items =>
      match partitionAt separator items with
      | none => [items]
      | some (before, after) => before :: splitAt separator most after

/-- `str.split(separator)` -/
def splitAll (separator items : List α) : List (List α) :=
  splitAt separator items.length items

theorem partitionAt_eq_some {separator items before after : List α} :
    partitionAt separator items = some (before, after) ↔
      items = before ++ (separator ++ after) ∧
        ∀ first last, items = first ++ (separator ++ last) →
          before.length ≤ first.length := by
  induction items generalizing before with
  | nil =>
      rw [partitionAt]
      by_cases empty : separator = []
      · simp only [empty, if_true, Option.some.injEq, Prod.mk.injEq,
          List.nil_append, List.nil_eq_append_iff]
        constructor
        · rintro ⟨rfl, rfl⟩
          exact ⟨⟨rfl, rfl⟩, fun _ _ _ => Nat.zero_le _⟩
        · rintro ⟨⟨rfl, rfl⟩, -⟩
          exact ⟨rfl, rfl⟩
      · simp [empty]
  | cons item rest ih =>
      rw [partitionAt]
      by_cases here : separator <+: item :: rest
      · rw [if_pos here]
        obtain ⟨last, whole⟩ := here
        rw [← whole, List.drop_left, Option.some.injEq, Prod.mk.injEq]
        constructor
        · rintro ⟨rfl, rfl⟩
          exact ⟨rfl, fun _ _ _ => Nat.zero_le _⟩
        · rintro ⟨same, first⟩
          have none : before.length = 0 := Nat.le_zero.mp (first [] last rfl)
          obtain rfl := List.eq_nil_of_length_eq_zero none
          exact ⟨rfl, List.append_cancel_left same⟩
      · rw [if_neg here]
        have inside : ∀ first last, item :: rest = first ++ (separator ++ last) →
            ∃ tail, first = item :: tail ∧ rest = tail ++ (separator ++ last) := by
          intro first last whole
          cases first with
          | nil => exact absurd ⟨last, whole.symm⟩ here
          | cons head tail =>
              obtain ⟨rfl, same⟩ := List.cons.inj whole
              exact ⟨tail, rfl, same⟩
        rw [Option.map_eq_some_iff]
        constructor
        · rintro ⟨⟨tail, rear⟩, found, same⟩
          cases same
          obtain ⟨whole, first⟩ := ih.mp found
          refine ⟨by rw [whole]; rfl, ?_⟩
          intro front last other
          obtain ⟨other', rfl, same⟩ := inside front last other
          exact Nat.succ_le_succ (first other' last same)
        · rintro ⟨whole, first⟩
          obtain ⟨tail, rfl, same⟩ := inside before after whole
          refine ⟨(tail, after), ih.mpr ⟨same, ?_⟩, rfl⟩
          intro front last other
          exact Nat.le_of_succ_le_succ
            (first (item :: front) last (by rw [other]; rfl))

theorem partitionAt_eq_none {separator items : List α} :
    partitionAt separator items = none ↔
      ∀ before after, items ≠ before ++ (separator ++ after) := by
  induction items with
  | nil =>
      rw [partitionAt]
      by_cases empty : separator = []
      · simp [empty]
      · simp [empty]
  | cons item rest ih =>
      rw [partitionAt]
      by_cases here : separator <+: item :: rest
      · obtain ⟨after, whole⟩ := here
        rw [if_pos ⟨after, whole⟩]
        constructor
        · nofun
        · intro absent
          exact absurd whole.symm (absent [] after)
      · rw [if_neg here, Option.map_eq_none_iff, ih]
        constructor
        · intro absent before after whole
          cases before with
          | nil => exact here ⟨after, whole.symm⟩
          | cons head tail =>
              exact absent tail after (List.cons.inj whole).2
        · intro absent before after whole
          exact absent (item :: before) after (by rw [whole]; rfl)

end

/-! Separators of bytes below 0x80 are found in the bytes where they are found in
the text. -/

def asciiChars (bytes : List UInt8) : List Char :=
  bytes.map fun byte => Char.ofNat byte.toNat

section

variable {separator : List UInt8}

theorem decodeAll_asciiChars (ascii : ∀ byte ∈ separator, byte.toNat < 0x80)
    (last : List UInt8) :
    decodeAll (separator ++ last) = asciiChars separator ++ decodeAll last := by
  induction separator with
  | nil => rfl
  | cons byte rest ih =>
      have decoded := decodeAll_ascii byte (ascii byte List.mem_cons_self) []
        (rest ++ last)
      rw [ih fun other member => ascii other (List.mem_cons_of_mem _ member)]
        at decoded
      exact decoded

theorem decodeAll_separator (ascii : ∀ byte ∈ separator, byte.toNat < 0x80)
    (some_ : separator ≠ []) (first last : List UInt8) :
    decodeAll (first ++ (separator ++ last)) =
      decodeAll first ++ (asciiChars separator ++ decodeAll last) := by
  cases separator with
  | nil => exact absurd rfl some_
  | cons byte rest =>
      rw [List.cons_append, decodeAll_ascii byte (ascii byte List.mem_cons_self),
        decodeAll_asciiChars fun other member =>
          ascii other (List.mem_cons_of_mem _ member)]
      rfl

theorem eq_nil_of_decodeAll {bytes : List UInt8} (nothing : decodeAll bytes = []) :
    bytes = [] := by
  cases bytes with
  | nil => rfl
  | cons lead rest =>
      rw [decodeAll_cons] at nothing
      cases nothing

theorem lead_of_pieceChar {lead byte : UInt8} {rest : List UInt8}
    (ascii : byte.toNat < 0x80)
    (same : pieceChar lead rest = Char.ofNat byte.toNat) :
    lead = byte ∧ pieceSize lead rest = 0 := by
  have encoded : String.utf8EncodeChar (Char.ofNat byte.toNat) = [byte] :=
    encode_codePoint (continuations_one ascii) .nil
  rcases piece_cases lead rest with ⟨tail, after, rfl, decoded, whole⟩ |
    ⟨broken, decoded⟩
  · rw [decodeAll_cons] at decoded
    rw [← (List.cons.inj decoded).1, same, encoded] at whole
    obtain ⟨rfl, -⟩ := List.cons.inj whole
    rw [pieceSize, continuations_one ascii]
    exact ⟨rfl, by cases tail ++ after <;> rfl⟩
  · rw [decodeAll_cons] at decoded
    rw [← same, (List.cons.inj decoded).1, encode_replacement] at encoded
    cases encoded

theorem bytes_of_decodeAll {bytes : List UInt8} {byte : UInt8}
    {first last : List Char} (ascii : byte.toNat < 0x80)
    (decoded : decodeAll bytes = first ++ Char.ofNat byte.toNat :: last) :
    ∃ before after, bytes = before ++ byte :: after ∧
      decodeAll before = first ∧ decodeAll after = last := by
  induction count : bytes.length using Nat.strongRecOn generalizing bytes first with
  | _ size ih =>
      cases bytes with
      | nil =>
          rw [decodeAll_nil] at decoded
          cases first <;> cases decoded
      | cons lead rest =>
          have parts := decoded
          rw [decodeAll_cons] at parts
          cases first with
          | nil =>
              obtain ⟨same, later⟩ := List.cons.inj parts
              obtain ⟨rfl, single⟩ := lead_of_pieceChar ascii same
              rw [single] at later
              exact ⟨[], rest, rfl, rfl, later⟩
          | cons char first =>
              have shorter : (rest.drop (pieceSize lead rest)).length < size := by
                rw [← count, List.length_drop, List.length_cons]
                omega
              obtain ⟨before, after, whole, -, later⟩ :=
                ih _ shorter (List.cons.inj parts).2 rfl
              refine ⟨lead :: (rest.take (pieceSize lead rest) ++ before), after, ?_,
                ?_, later⟩
              · rw [List.cons_append, List.append_assoc, ← whole,
                  List.take_append_drop]
              · have split := decodeAll_ascii byte ascii
                  (lead :: (rest.take (pieceSize lead rest) ++ before)) after
                rw [List.cons_append, List.append_assoc, ← whole,
                  List.take_append_drop, decoded, later] at split
                exact (List.append_cancel_right split).symm

theorem separator_of_decodeAll (ascii : ∀ byte ∈ separator, byte.toNat < 0x80)
    (some_ : separator ≠ []) {bytes : List UInt8} {first last : List Char}
    (decoded : decodeAll bytes = first ++ (asciiChars separator ++ last)) :
    ∃ before after, bytes = before ++ (separator ++ after) ∧
      decodeAll before = first ∧ decodeAll after = last := by
  have inner : ∀ (separator bytes : List UInt8) (last : List Char),
      (∀ byte ∈ separator, byte.toNat < 0x80) →
      decodeAll bytes = asciiChars separator ++ last →
      ∃ after, bytes = separator ++ after ∧ decodeAll after = last := by
    intro separator
    induction separator with
    | nil => exact fun bytes last _ decoded => ⟨bytes, rfl, decoded⟩
    | cons byte rest ih =>
        intro bytes last ascii decoded
        have parted : decodeAll bytes =
            [] ++ (Char.ofNat byte.toNat :: (asciiChars rest ++ last)) := decoded
        obtain ⟨before, after, rfl, nothing, later⟩ :=
          bytes_of_decodeAll (ascii byte List.mem_cons_self) parted
        obtain rfl := eq_nil_of_decodeAll nothing
        obtain ⟨end_, rfl, same⟩ := ih after last
          (fun other member => ascii other (List.mem_cons_of_mem _ member)) later
        exact ⟨end_, rfl, same⟩
  cases separator with
  | nil => exact absurd rfl some_
  | cons byte rest =>
      obtain ⟨before, after, rfl, front, later⟩ :=
        bytes_of_decodeAll (ascii byte List.mem_cons_self) decoded
      obtain ⟨end_, rfl, same⟩ := inner rest after last
        (fun other member => ascii other (List.mem_cons_of_mem _ member)) later
      exact ⟨before, end_, rfl, front, same⟩

theorem partitionAt_decodeAll (ascii : ∀ byte ∈ separator, byte.toNat < 0x80)
    (some_ : separator ≠ []) (bytes : List UInt8) :
    partitionAt (asciiChars separator) (decodeAll bytes) =
      (partitionAt separator bytes).map fun parts =>
        (decodeAll parts.1, decodeAll parts.2) := by
  cases found : partitionAt separator bytes with
  | none =>
      rw [Option.map_none, partitionAt_eq_none]
      intro before after decoded
      obtain ⟨first, last, whole, -, -⟩ :=
        separator_of_decodeAll ascii some_ decoded
      exact partitionAt_eq_none.mp found first last whole
  | some parts =>
      obtain ⟨before, after⟩ := parts
      obtain ⟨rfl, least⟩ := partitionAt_eq_some.mp found
      rw [Option.map_some, partitionAt_eq_some]
      refine ⟨decodeAll_separator ascii some_ before after, ?_⟩
      intro front rear decoded
      obtain ⟨first, last, whole, rfl, -⟩ :=
        separator_of_decodeAll ascii some_ decoded
      -- A later place has the first one's separator before it.
      have ordered := least first last whole
      obtain ⟨gap, rfl, rest⟩ : ∃ gap, first = before ++ gap ∧
          separator ++ after = gap ++ (separator ++ last) := by
        rcases List.append_eq_append_iff.mp whole with ⟨gap, rfl, rest⟩ |
          ⟨gap, rfl, rest⟩
        · exact ⟨gap, rfl, rest⟩
        · rw [List.length_append] at ordered
          obtain rfl : gap = [] := List.eq_nil_of_length_eq_zero (by omega)
          exact ⟨[], by simp, by simpa using rest.symm⟩
      cases gap with
      | nil => simp
      | cons byte gap =>
          have head : byte ∈ separator := by
            cases separator with
            | nil => exact absurd rfl some_
            | cons lead tail =>
                rw [List.cons_append, List.cons_append] at rest
                rw [(List.cons.inj rest).1]
                exact List.mem_cons_self
          rw [decodeAll_ascii byte (ascii byte head), List.length_append]
          exact Nat.le_add_right _ _

end

end VpnTunnel.Foundation
