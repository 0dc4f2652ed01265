import Mathlib.Data.List.Basic

namespace VpnTunnel.Foundation

/-! Symbolic bytes: what an attacker can tell apart when the cryptography is
ideal.  A nonce, a tag, a derived key, a signature or a ciphertext is a list of
symbols, one for each of its bytes, that name how it was made; so byte strings
are concatenated and cut as in the program, and `κ` identifies key pairs. -/

inductive SymByte (κ : Type)
  | lit (byte : UInt8)
  | rand (draw index : ℕ)
  | hmac (key message : List (SymByte κ)) (index : ℕ)
  | kdf (secret salt info : List (SymByte κ)) (index : ℕ)
  | sig (signer : κ) (message salt : List (SymByte κ)) (index : ℕ)
  | sealed (owner : κ) (plaintext seed : List (SymByte κ)) (index : ℕ)

-- The index is compared first: equal strings differ in nothing else.
mutual

def SymByte.decEq {κ : Type} [DecidableEq κ] :
    (first second : SymByte κ) → Decidable (first = second)
  | .lit a, second =>
      match second with
      | .lit b => decidable_of_iff (a = b) (by rw [SymByte.lit.injEq])
      | .rand _ _ | .hmac _ _ _ | .kdf _ _ _ _ | .sig _ _ _ _
      | .sealed _ _ _ _ => isFalse nofun
  | .rand a i, second =>
      match second with
      | .rand b j => decidable_of_iff (a = b ∧ i = j) (by rw [SymByte.rand.injEq])
      | .lit _ | .hmac _ _ _ | .kdf _ _ _ _ | .sig _ _ _ _
      | .sealed _ _ _ _ => isFalse nofun
  | .hmac a m i, second =>
      match second with
      | .hmac b n j =>
          have := decEqAll a b
          have := decEqAll m n
          decidable_of_iff (i = j ∧ a = b ∧ m = n)
            (by rw [SymByte.hmac.injEq, and_comm, and_assoc])
      | .lit _ | .rand _ _ | .kdf _ _ _ _ | .sig _ _ _ _
      | .sealed _ _ _ _ => isFalse nofun
  | .kdf a m x i, second =>
      match second with
      | .kdf b n y j =>
          have := decEqAll a b
          have := decEqAll m n
          have := decEqAll x y
          decidable_of_iff (i = j ∧ a = b ∧ m = n ∧ x = y)
            (by rw [SymByte.kdf.injEq, and_comm, and_assoc, and_assoc])
      | .lit _ | .rand _ _ | .hmac _ _ _ | .sig _ _ _ _
      | .sealed _ _ _ _ => isFalse nofun
  | .sig k m x i, second =>
      match second with
      | .sig l n y j =>
          have := decEqAll m n
          have := decEqAll x y
          decidable_of_iff (i = j ∧ k = l ∧ m = n ∧ x = y)
            (by rw [SymByte.sig.injEq, and_comm, and_assoc, and_assoc])
      | .lit _ | .rand _ _ | .hmac _ _ _ | .kdf _ _ _ _
      | .sealed _ _ _ _ => isFalse nofun
  | .sealed k m x i, second =>
      match second with
      | .sealed l n y j =>
          have := decEqAll m n
          have := decEqAll x y
          decidable_of_iff (i = j ∧ k = l ∧ m = n ∧ x = y)
            (by rw [SymByte.sealed.injEq, and_comm, and_assoc, and_assoc])
      | .lit _ | .rand _ _ | .hmac _ _ _ | .kdf _ _ _ _
      | .sig _ _ _ _ => isFalse nofun

def SymByte.decEqAll {κ : Type} [DecidableEq κ] :
    (first second : List (SymByte κ)) → Decidable (first = second)
  | [], [] => isTrue rfl
  | [], _ :: _ => isFalse nofun
  | _ :: _, [] => isFalse nofun
  | a :: as, b :: bs =>
      have := SymByte.decEq a b
      have := SymByte.decEqAll as bs
      decidable_of_iff (a = b ∧ as = bs) (by rw [List.cons.injEq])

end

instance {κ : Type} [DecidableEq κ] : DecidableEq (SymByte κ) := SymByte.decEq

namespace SymByte

variable {κ : Type}

/-! The byte strings that the primitives return. -/

def block (size : ℕ) (symbol : ℕ → SymByte κ) : List (SymByte κ) :=
  (List.range size).map symbol

def fresh (size draw : ℕ) : List (SymByte κ) := block size (.rand draw)

def tag (size : ℕ) (key message : List (SymByte κ)) : List (SymByte κ) :=
  block size (.hmac key message)

def expand (size : ℕ) (secret salt info : List (SymByte κ)) :
    List (SymByte κ) :=
  block size (.kdf secret salt info)

def signing (size : ℕ) (signer : κ) (message salt : List (SymByte κ)) :
    List (SymByte κ) :=
  block size (.sig signer message salt)

def sealing (size : ℕ) (owner : κ) (plaintext seed : List (SymByte κ)) :
    List (SymByte κ) :=
  block size (.sealed owner plaintext seed)

section

variable [DecidableEq κ]

def verifies (size : ℕ) (signer : κ) (message signature : List (SymByte κ)) :
    Bool :=
  match signature with
  | .sig _ _ salt _ :: _ =>
      decide (signature = signing size signer message salt)
  | _ => false

def unlock (size : ℕ) (owner : κ) (ciphertext : List (SymByte κ)) :
    Option (List (SymByte κ)) :=
  match ciphertext with
  | .sealed _ plaintext seed _ :: _ =>
      if ciphertext = sealing size owner plaintext seed then some plaintext
      else none
  | _ => none

end

theorem mem_block {size : ℕ} {symbol : ℕ → SymByte κ} {byte : SymByte κ} :
    byte ∈ block size symbol ↔ ∃ index < size, symbol index = byte := by
  simp [block]

@[simp] theorem length_block (size : ℕ) (symbol : ℕ → SymByte κ) :
    (block size symbol).length = size := by
  simp [block]

@[simp] theorem length_fresh (size draw : ℕ) :
    (fresh size draw : List (SymByte κ)).length = size :=
  length_block size _

theorem block_succ (size : ℕ) (symbol : ℕ → SymByte κ) :
    block (size + 1) symbol =
      symbol 0 :: block size (fun index => symbol (index + 1)) := by
  simp [block, List.range_succ_eq_map, Function.comp_def]

theorem mem_fresh {size draw : ℕ} {byte : SymByte κ} :
    byte ∈ fresh size draw ↔ ∃ index < size, .rand draw index = byte :=
  mem_block

theorem fresh_injective {size first second : ℕ} (positive : 0 < size)
    (same : (fresh size first : List (SymByte κ)) = fresh size second) :
    first = second := by
  obtain ⟨index, -, shared⟩ := mem_fresh.mp
    (same ▸ mem_fresh.mpr ⟨0, positive, rfl⟩ :
      (.rand first 0 : SymByte κ) ∈ fresh size second)
  cases shared
  rfl

/-- Where a nonce begins and another one ends the same bytes, the two do not
overlap. -/
theorem split_of_fresh_append {size first second : ℕ}
    {before after : List (SymByte κ)} (distinct : first ≠ second)
    (same : fresh size first ++ after = before ++ fresh size second) :
    ∃ extra, before = fresh size first ++ extra ∧
      after = extra ++ fresh size second := by
  rcases List.append_eq_append_iff.mp same with
    ⟨extra, left, right⟩ | ⟨shared, left, right⟩
  · exact ⟨extra, left, right⟩
  · cases shared with
    | nil =>
        refine ⟨[], ?_, ?_⟩
        · simpa using left.symm
        · simpa using right.symm
    | cons byte rest =>
        have inFirst : byte ∈ (fresh size first : List (SymByte κ)) := by
          simp [left]
        have inSecond : byte ∈ (fresh size second : List (SymByte κ)) := by
          simp [right]
        obtain ⟨_, -, rfl⟩ := mem_fresh.mp inFirst
        obtain ⟨_, -, clash⟩ := mem_fresh.mp inSecond
        cases clash
        exact absurd rfl distinct

theorem verifies_eq_true [DecidableEq κ] {size : ℕ} (positive : 0 < size)
    {signer : κ} {message signature : List (SymByte κ)} :
    verifies size signer message signature = true ↔
      ∃ salt, signature = signing size signer message salt := by
  constructor
  · intro verified
    unfold verifies at verified
    split at verified
    · exact ⟨_, of_decide_eq_true verified⟩
    · cases verified
  · rintro ⟨salt, rfl⟩
    obtain ⟨size, rfl⟩ := Nat.exists_eq_add_one.mpr positive
    simp [verifies, signing, block_succ]

theorem unlock_eq_some [DecidableEq κ] {size : ℕ} (positive : 0 < size)
    {owner : κ} {ciphertext plaintext : List (SymByte κ)} :
    unlock size owner ciphertext = some plaintext ↔
      ∃ seed, ciphertext = sealing size owner plaintext seed := by
  constructor
  · intro opened
    unfold unlock at opened
    split at opened
    · split at opened
      · rename_i intact
        cases opened
        exact ⟨_, intact⟩
      · cases opened
    · cases opened
  · rintro ⟨seed, rfl⟩
    obtain ⟨size, rfl⟩ := Nat.exists_eq_add_one.mpr positive
    simp [unlock, sealing, block_succ]

end SymByte

/-! What the attacker makes of the bytes that he has observed.  He computes every
primitive, signs and opens with the corrupt keys, and reads the message that a
signature is on. -/

inductive Derives {κ : Type} (corrupt : κ → Prop)
    (observed : SymByte κ → Prop) : SymByte κ → Prop
  | observed {byte} (seen : observed byte) : Derives corrupt observed byte
  | lit (byte) : Derives corrupt observed (.lit byte)
  | hmac {key message} (index)
      (fromKey : ∀ byte ∈ key, Derives corrupt observed byte)
      (fromMessage : ∀ byte ∈ message, Derives corrupt observed byte) :
      Derives corrupt observed (.hmac key message index)
  | kdf {secret salt info} (index)
      (fromSecret : ∀ byte ∈ secret, Derives corrupt observed byte)
      (fromSalt : ∀ byte ∈ salt, Derives corrupt observed byte)
      (fromInfo : ∀ byte ∈ info, Derives corrupt observed byte) :
      Derives corrupt observed (.kdf secret salt info index)
  | sign {signer message salt} (index) (holds : corrupt signer)
      (fromMessage : ∀ byte ∈ message, Derives corrupt observed byte)
      (fromSalt : ∀ byte ∈ salt, Derives corrupt observed byte) :
      Derives corrupt observed (.sig signer message salt index)
  | encrypt {owner plaintext seed} (index)
      (fromPlaintext : ∀ byte ∈ plaintext, Derives corrupt observed byte)
      (fromSeed : ∀ byte ∈ seed, Derives corrupt observed byte) :
      Derives corrupt observed (.sealed owner plaintext seed index)
  | decrypt {owner plaintext seed index byte} (holds : corrupt owner)
      (ciphertext : Derives corrupt observed (.sealed owner plaintext seed index))
      (member : byte ∈ plaintext) : Derives corrupt observed byte
  | message {signer message salt index byte}
      (signature : Derives corrupt observed (.sig signer message salt index))
      (member : byte ∈ message) : Derives corrupt observed byte

theorem Derives.mono {κ : Type} {corrupt : κ → Prop}
    {observed later : SymByte κ → Prop}
    (grows : ∀ byte, observed byte → later byte) {byte : SymByte κ}
    (derived : Derives corrupt observed byte) : Derives corrupt later byte := by
  induction derived with
  | observed seen => exact .observed (grows _ seen)
  | lit byte => exact .lit byte
  | hmac index _ _ ihKey ihMessage => exact .hmac index ihKey ihMessage
  | kdf index _ _ _ ihSecret ihSalt ihInfo =>
      exact .kdf index ihSecret ihSalt ihInfo
  | sign index holds _ _ ihMessage ihSalt =>
      exact .sign index holds ihMessage ihSalt
  | encrypt index _ _ ihPlaintext ihSeed => exact .encrypt index ihPlaintext ihSeed
  | decrypt holds _ member ih => exact .decrypt holds ih member
  | message _ member ih => exact .message ih member

theorem Derives.wider {κ : Type} {corrupt wider : κ → Prop}
    {observed : SymByte κ → Prop} (more : ∀ holder, corrupt holder → wider holder)
    {byte : SymByte κ} (derived : Derives corrupt observed byte) :
    Derives wider observed byte := by
  induction derived with
  | observed seen => exact .observed seen
  | lit byte => exact .lit byte
  | hmac index _ _ ihKey ihMessage => exact .hmac index ihKey ihMessage
  | kdf index _ _ _ ihSecret ihSalt ihInfo =>
      exact .kdf index ihSecret ihSalt ihInfo
  | sign index holds _ _ ihMessage ihSalt =>
      exact .sign index (more _ holds) ihMessage ihSalt
  | encrypt index _ _ ihPlaintext ihSeed => exact .encrypt index ihPlaintext ihSeed
  | decrypt holds _ member ih => exact .decrypt (more _ holds) ih member
  | message _ member ih => exact .message ih member

def SymByte.isLit {κ : Type} : SymByte κ → Bool
  | .lit _ => true
  | _ => false

/-- Anyone can make it from nothing. -/
def SymByte.isCrafted {κ : Type} : SymByte κ → Bool
  | .lit _ => true
  | .sealed _ plaintext seed _ =>
      plaintext.all SymByte.isLit && seed.all SymByte.isLit
  | _ => false

theorem Derives.of_isLit {κ : Type} {corrupt : κ → Prop}
    {observed : SymByte κ → Prop} {byte : SymByte κ}
    (literal : byte.isLit = true) : Derives corrupt observed byte := by
  cases byte with
  | lit byte => exact .lit byte
  | rand _ _ | hmac _ _ _ | kdf _ _ _ _ | sig _ _ _ _ | sealed _ _ _ _ =>
      cases literal

theorem Derives.of_isCrafted {κ : Type} {corrupt : κ → Prop}
    {observed : SymByte κ → Prop} {byte : SymByte κ}
    (crafted : byte.isCrafted = true) : Derives corrupt observed byte := by
  cases byte with
  | lit byte => exact .lit byte
  | sealed owner plaintext seed index =>
      rw [SymByte.isCrafted, Bool.and_eq_true, List.all_eq_true,
        List.all_eq_true] at crafted
      exact .encrypt index
        (fun byte member => .of_isLit (crafted.1 byte member))
        (fun byte member => .of_isLit (crafted.2 byte member))
  | rand _ _ | hmac _ _ _ | kdf _ _ _ _ | sig _ _ _ _ => cases crafted

/-! A set closed under the attacker's rules, to bound what he derives: random
draws that were shown, signatures that were made, and ciphertexts that he built
himself or that hold something escrowed with an honest owner. -/

structure Disclosure (κ : Type) where
  draws : ℕ → Prop
  signed : κ → List (SymByte κ) → Prop
  escrowed : κ → List (SymByte κ) → Prop
  known : SymByte κ → Prop

structure Disclosure.Within {κ : Type} (first second : Disclosure κ) : Prop where
  draws : ∀ draw, first.draws draw → second.draws draw
  signed : ∀ signer message,
    first.signed signer message → second.signed signer message
  escrowed : ∀ owner plaintext,
    first.escrowed owner plaintext → second.escrowed owner plaintext
  known : ∀ byte, first.known byte → second.known byte

inductive Public {κ : Type} (corrupt : κ → Prop) (shown : Disclosure κ) :
    SymByte κ → Prop
  | lit (byte) : Public corrupt shown (.lit byte)
  | rand {draw} (index) (drawn : shown.draws draw) :
      Public corrupt shown (.rand draw index)
  | hmac (key message index) : Public corrupt shown (.hmac key message index)
  | kdf {secret} (salt info index)
      (fromSecret : ∀ byte ∈ secret, Public corrupt shown byte) :
      Public corrupt shown (.kdf secret salt info index)
  | sig {signer message} (salt index)
      (vouched : corrupt signer ∨ shown.signed signer message)
      (fromMessage : ∀ byte ∈ message, Public corrupt shown byte) :
      Public corrupt shown (.sig signer message salt index)
  | sealed {plaintext} (owner seed index)
      (fromPlaintext : ∀ byte ∈ plaintext, Public corrupt shown byte)
      (known : ∀ byte ∈ plaintext, shown.known byte) :
      Public corrupt shown (.sealed owner plaintext seed index)
  | escrow {owner plaintext} (seed index) (honest : ¬ corrupt owner)
      (escrowed : shown.escrowed owner plaintext) :
      Public corrupt shown (.sealed owner plaintext seed index)

section

variable {κ : Type} {corrupt : κ → Prop} {shown later : Disclosure κ}

theorem Public.mono (within : shown.Within later) {byte : SymByte κ}
    (isPublic : Public corrupt shown byte) : Public corrupt later byte := by
  induction isPublic with
  | lit byte => exact .lit byte
  | rand index drawn => exact .rand index (within.draws _ drawn)
  | hmac key message index => exact .hmac key message index
  | kdf salt info index _ ih => exact .kdf salt info index ih
  | sig salt index vouched _ ih =>
      exact .sig salt index (vouched.imp_right (within.signed _ _)) ih
  | sealed owner seed index _ known ih =>
      exact .sealed owner seed index ih
        fun byte member => within.known byte (known byte member)
  | escrow seed index honest escrowed =>
      exact .escrow seed index honest (within.escrowed _ _ escrowed)

theorem Public.wider {wider : κ → Prop}
    (more : ∀ holder, corrupt holder → wider holder) (within : shown.Within later)
    (kept : ∀ owner plaintext, shown.escrowed owner plaintext → ¬ wider owner)
    {byte : SymByte κ} (isPublic : Public corrupt shown byte) :
    Public wider later byte := by
  induction isPublic with
  | lit byte => exact .lit byte
  | rand index drawn => exact .rand index (within.draws _ drawn)
  | hmac key message index => exact .hmac key message index
  | kdf salt info index _ ih => exact .kdf salt info index ih
  | sig salt index vouched _ ih =>
      exact .sig salt index
        (vouched.imp (more _) (within.signed _ _)) ih
  | sealed owner seed index _ known ih =>
      exact .sealed owner seed index ih
        fun byte member => within.known byte (known byte member)
  | escrow seed index _ escrowed =>
      exact .escrow seed index (kept _ _ escrowed) (within.escrowed _ _ escrowed)

/-- The attacker stays inside the set when all that he observes is in it. -/
theorem Derives.public {observed : SymByte κ → Prop}
    (exposed : ∀ byte, observed byte → Public corrupt shown byte)
    (known : ∀ byte, Derives corrupt observed byte → shown.known byte)
    {byte : SymByte κ} (derived : Derives corrupt observed byte) :
    Public corrupt shown byte := by
  induction derived with
  | observed seen => exact exposed _ seen
  | lit byte => exact .lit byte
  | hmac index _ _ _ _ => exact .hmac _ _ index
  | kdf index _ _ _ ihSecret _ _ => exact .kdf _ _ index ihSecret
  | sign index holds _ _ ihMessage _ => exact .sig _ index (.inl holds) ihMessage
  | encrypt index fromPlaintext _ ihPlaintext _ =>
      exact .sealed _ _ index ihPlaintext
        fun byte member => known byte (fromPlaintext byte member)
  | decrypt holds _ member ih =>
      cases ih with
      | sealed _ _ _ fromPlaintext _ => exact fromPlaintext _ member
      | escrow _ _ honest _ => exact absurd holds honest
  | message _ member ih =>
      cases ih with
      | sig _ _ _ fromMessage => exact fromMessage _ member

theorem Public.draws_of_rand {draw index : ℕ}
    (isPublic : Public corrupt shown (.rand draw index)) : shown.draws draw := by
  cases isPublic with
  | rand _ drawn => exact drawn

theorem Public.secret_of_kdf {secret salt info : List (SymByte κ)} {index : ℕ}
    (isPublic : Public corrupt shown (.kdf secret salt info index)) :
    ∀ byte ∈ secret, Public corrupt shown byte := by
  cases isPublic with
  | kdf _ _ _ fromSecret => exact fromSecret

theorem Public.signed_of_sig {signer : κ} {message salt : List (SymByte κ)}
    {index : ℕ} (honest : ¬ corrupt signer)
    (isPublic : Public corrupt shown (.sig signer message salt index)) :
    shown.signed signer message := by
  cases isPublic with
  | sig _ _ vouched _ => exact vouched.resolve_left honest

theorem Public.origin_of_sealed {owner : κ} {plaintext seed : List (SymByte κ)}
    {index : ℕ}
    (isPublic : Public corrupt shown (.sealed owner plaintext seed index)) :
    (∀ byte ∈ plaintext, shown.known byte) ∨ shown.escrowed owner plaintext := by
  cases isPublic with
  | sealed _ _ _ _ known => exact .inl known
  | escrow _ _ _ escrowed => exact .inr escrowed

end

end VpnTunnel.Foundation
