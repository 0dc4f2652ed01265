import VpnTunnel.Foundation.Separator
import Mathlib.Data.List.TakeWhile

namespace VpnTunnel.Foundation

/-! Cutting a list at every separator. -/

section

variable {α : Type*} [DecidableEq α] {separator : List α}

theorem partitionAt_append {items before after : List α}
    (found : partitionAt separator items = some (before, after)) (more : List α) :
    partitionAt separator (items ++ more) = some (before, after ++ more) := by
  obtain ⟨whole, least⟩ := partitionAt_eq_some.mp found
  rw [partitionAt_eq_some]
  refine ⟨by rw [whole]; simp, ?_⟩
  intro first last other
  by_contra earlier
  -- An earlier place would be inside what was there before.
  have inside : first ++ separator <+: items := by
    have start : first ++ separator <+: items ++ more :=
      ⟨last, by rw [other, List.append_assoc]⟩
    apply List.prefix_of_prefix_length_le start (List.prefix_append items more)
    have size := congrArg List.length whole
    simp only [List.length_append] at size ⊢
    omega
  obtain ⟨rest, same⟩ := inside
  exact earlier (least first rest (by rw [← same, List.append_assoc]))

/-- A separator that cannot start inside itself is found right after a list that
has none. -/
theorem partitionAt_after {lead : α} {tail items : List α} (clear : lead ∉ tail)
    (absent : partitionAt (lead :: tail) items = none) (more : List α) :
    partitionAt (lead :: tail) (items ++ (lead :: tail ++ more)) =
      some (items, more) := by
  rw [partitionAt_eq_some]
  refine ⟨rfl, ?_⟩
  intro first last whole
  by_contra earlier
  have short : first.length < items.length := Nat.lt_of_not_le earlier
  obtain ⟨gap, rfl, rest⟩ : ∃ gap, items = first ++ gap ∧
      lead :: tail ++ last = gap ++ (lead :: tail ++ more) := by
    rcases List.append_eq_append_iff.mp whole with ⟨gap, rfl, rest⟩ | ⟨gap, same, rest⟩
    · rw [List.length_append] at short
      omega
    · exact ⟨gap, same, rest⟩
  have some_ : gap ≠ [] := by
    rintro rfl
    simp at short
  have starts : lead :: tail <+: lead :: tail ++ last := List.prefix_append _ _
  have begins : gap <+: lead :: tail ++ last := ⟨_, rest.symm⟩
  have within : gap.length < (lead :: tail).length := by
    by_contra long
    obtain ⟨after, rfl⟩ := List.prefix_of_prefix_length_le starts begins
      (Nat.le_of_not_lt long)
    exact partitionAt_eq_none.mp absent first after rfl
  obtain ⟨other, same⟩ := List.prefix_of_prefix_length_le begins starts within.le
  obtain ⟨head, gap, rfl⟩ := List.exists_cons_of_ne_nil some_
  rw [← same, List.append_assoc] at rest
  have start := List.append_cancel_left rest
  cases other with
  | nil =>
      rw [← same, List.append_nil] at within
      exact absurd within (Nat.lt_irrefl _)
  | cons item other =>
      obtain ⟨rfl, -⟩ := List.cons.inj start
      obtain ⟨first, later⟩ := List.cons.inj same
      apply clear
      rw [← first, ← later]
      exact List.mem_append_right gap List.mem_cons_self

theorem length_of_partitionAt (some_ : separator ≠ []) {items before after : List α}
    (found : partitionAt separator items = some (before, after)) :
    after.length < items.length := by
  have size := congrArg List.length (partitionAt_eq_some.mp found).1
  have positive := List.length_pos_iff.mpr some_
  rw [List.length_append, List.length_append] at size
  omega

theorem split_induction {motive : List α → Prop} (some_ : separator ≠ [])
    (last : ∀ items, partitionAt separator items = none → motive items)
    (cut : ∀ items before after,
      partitionAt separator items = some (before, after) → motive after →
        motive items)
    (items : List α) : motive items := by
  induction size : items.length using Nat.strongRecOn generalizing items with
  | _ size ih =>
      cases found : partitionAt separator items with
      | none => exact last items found
      | some parts =>
          have shorter := length_of_partitionAt some_ found
          exact cut items parts.1 parts.2 found (ih _ (size ▸ shorter) _ rfl)

theorem splitAt_enough (some_ : separator ≠ []) {most : ℕ} :
    ∀ {items : List α} {other : ℕ}, items.length ≤ most → items.length ≤ other →
      splitAt separator most items = splitAt separator other items := by
  have empty : ∀ most, splitAt separator most [] = [[]] := by
    intro most
    cases most with
    | zero => rfl
    | succ most => rw [splitAt, partitionAt, if_neg some_]
  induction most with
  | zero =>
      intro items other none _
      obtain rfl := List.eq_nil_of_length_eq_zero (Nat.le_zero.mp none)
      rw [empty, empty]
  | succ most ih =>
      intro items other enough also
      cases other with
      | zero =>
          obtain rfl := List.eq_nil_of_length_eq_zero (Nat.le_zero.mp also)
          rw [empty, empty]
      | succ other =>
          rw [splitAt, splitAt]
          cases found : partitionAt separator items with
          | none => rfl
          | some parts =>
              obtain ⟨before, after⟩ := parts
              have shorter := length_of_partitionAt some_ found
              change before :: splitAt separator most after =
                before :: splitAt separator other after
              rw [ih (by omega) (by omega : after.length ≤ other)]

theorem splitAll_of_none {items : List α}
    (absent : partitionAt separator items = none) :
    splitAll separator items = [items] := by
  rw [splitAll]
  cases items.length with
  | zero => rfl
  | succ size => rw [splitAt, absent]

theorem splitAll_of_some (some_ : separator ≠ []) {items before after : List α}
    (found : partitionAt separator items = some (before, after)) :
    splitAll separator items = before :: splitAll separator after := by
  have shorter := length_of_partitionAt some_ found
  obtain ⟨size, same⟩ := Nat.exists_eq_add_of_lt shorter
  rw [splitAll, same, splitAt, found]
  change before :: splitAt separator _ after = _
  rw [splitAll, splitAt_enough some_ (by omega) le_rfl]

theorem splitAll_ne_nil (some_ : separator ≠ []) (items : List α) :
    splitAll separator items ≠ [] := by
  cases found : partitionAt separator items with
  | none =>
      rw [splitAll_of_none found]
      exact List.cons_ne_nil _ _
  | some parts =>
      rw [splitAll_of_some some_ found]
      exact List.cons_ne_nil _ _

/-- `separator.join(text.split(separator))` -/
theorem intercalate_splitAll (some_ : separator ≠ []) (items : List α) :
    separator.intercalate (splitAll separator items) = items := by
  induction items using split_induction some_ with
  | last items absent => rw [splitAll_of_none absent, List.intercalate_singleton]
  | cut items before after found ih =>
      rw [splitAll_of_some some_ found,
        List.intercalate_cons_of_ne_nil (splitAll_ne_nil some_ after), ih,
        (partitionAt_eq_some.mp found).1, List.append_assoc]

theorem splitAll_append {lead : α} {tail : List α} (clear : lead ∉ tail)
    (items more : List α) :
    splitAll (lead :: tail) (items ++ (lead :: tail ++ more)) =
      splitAll (lead :: tail) items ++ splitAll (lead :: tail) more := by
  have some_ := List.cons_ne_nil lead tail
  induction items using split_induction some_ with
  | last items absent =>
      rw [splitAll_of_some some_ (partitionAt_after clear absent more),
        splitAll_of_none absent, List.singleton_append]
  | cut items before after found ih =>
      rw [splitAll_of_some some_ (partitionAt_append found _), ih,
        splitAll_of_some some_ found, List.cons_append]

/-- What is cut off behind the separator is cut off what follows it, and a separator
that is cut itself is not found. -/
theorem partitionAt_take {items before after : List α}
    (found : partitionAt separator items = some (before, after)) (size : ℕ) :
    partitionAt separator (items.take size) =
      if before.length + separator.length ≤ size then
        some (before, after.take (size - (before.length + separator.length)))
      else none := by
  obtain ⟨whole, least⟩ := partitionAt_eq_some.mp found
  split
  case isTrue inside =>
    obtain ⟨rest, rfl⟩ := Nat.exists_eq_add_of_le inside
    have cut : items.take (before.length + separator.length + rest) =
        before ++ (separator ++ after.take rest) := by
      rw [whole, Nat.add_assoc, List.take_length_add_append,
        List.take_length_add_append]
    rw [Nat.add_sub_cancel_left, partitionAt_eq_some]
    refine ⟨cut, ?_⟩
    intro first last same
    apply least first (last ++ after.drop rest)
    rw [cut] at same
    rw [whole, ← List.append_assoc separator, ← List.append_assoc first, ← same]
    simp
  case isFalse short =>
    rw [partitionAt_eq_none]
    intro first last same
    have later := least first (last ++ items.drop size) (by
      rw [← List.append_assoc separator, ← List.append_assoc first, ← same,
        List.take_append_drop])
    have long := congrArg List.length same
    rw [List.length_take, List.length_append, List.length_append] at long
    omega

end

section

variable {α : Type*} [DecidableEq α] {lead : α} {tail : List α}

theorem partitionAt_self (separator more : List α) :
    partitionAt separator (separator ++ more) = some ([], more) :=
  partitionAt_eq_some.mpr ⟨rfl, fun _ _ _ => Nat.zero_le _⟩

theorem partitionAt_cons_of_other {separator rest : List α} {item : α}
    (other : ¬separator <+: item :: rest) :
    partitionAt separator (item :: rest) =
      (partitionAt separator rest).map fun parts => (item :: parts.1, parts.2) := by
  rw [partitionAt, if_neg other]

theorem partitionAt_clear {front : List α} (clear : lead ∉ front) (rest : List α) :
    partitionAt (lead :: tail) (front ++ rest) =
      (partitionAt (lead :: tail) rest).map fun parts => (front ++ parts.1, parts.2) := by
  induction front with
  | nil => exact Option.map_id'.symm
  | cons item front ih =>
      have other : ¬lead :: tail <+: item :: (front ++ rest) := by
        rintro ⟨after, same⟩
        obtain ⟨rfl, -⟩ := List.cons.inj same
        exact clear List.mem_cons_self
      rw [List.cons_append, partitionAt_cons_of_other other,
        ih fun inside => clear (List.mem_cons_of_mem _ inside), Option.map_map]
      rfl

theorem splitAll_clear {items : List α} (clear : lead ∉ items) :
    splitAll (lead :: tail) items = [items] := by
  apply splitAll_of_none
  rw [partitionAt_eq_none]
  rintro before after rfl
  exact clear (by simp)

/-! One item as the separator. -/

theorem partitionAt_item {item : α} {items before after : List α} :
    partitionAt [item] items = some (before, after) ↔
      items = before ++ item :: after ∧ item ∉ before := by
  constructor
  · intro found
    obtain ⟨whole, least⟩ := partitionAt_eq_some.mp found
    refine ⟨whole, fun inside => ?_⟩
    obtain ⟨first, last, same⟩ := List.append_of_mem inside
    have later := least first (last ++ item :: after) (by rw [whole, same]; simp)
    rw [same, List.length_append, List.length_cons] at later
    omega
  · rintro ⟨rfl, clear⟩
    have here : partitionAt [item] (item :: after) = some ([], after) :=
      partitionAt_self [item] after
    rw [partitionAt_clear clear, here, Option.map_some, List.append_nil]

theorem partitionAt_item_none {item : α} {items : List α} :
    partitionAt [item] items = none ↔ item ∉ items := by
  rw [partitionAt_eq_none]
  constructor
  · intro absent inside
    obtain ⟨first, last, same⟩ := List.append_of_mem inside
    exact absent first last same
  · rintro clear first last rfl
    exact clear (List.mem_append_right first List.mem_cons_self)

theorem length_splitAll_item (item : α) (items : List α) :
    (splitAll [item] items).length = items.count item + 1 := by
  have some_ : [item] ≠ [] := List.cons_ne_nil _ _
  induction items using split_induction some_ with
  | last items absent =>
      rw [splitAll_of_none absent, List.count_eq_zero.mpr (partitionAt_item_none.mp absent)]
      rfl
  | cut items before after found ih =>
      obtain ⟨whole, clear⟩ := partitionAt_item.mp found
      rw [splitAll_of_some some_ found, List.length_cons, ih, whole, List.count_append,
        List.count_eq_zero.mpr clear, List.count_cons_self, Nat.zero_add]

theorem takeWhile_append_of_mem {item : α} {first : List α} (inside : item ∈ first)
    (rest : List α) :
    ((first ++ rest).takeWhile fun other => decide (other ≠ item)) =
      first.takeWhile fun other => decide (other ≠ item) := by
  rw [List.takeWhile_append, if_neg]
  intro same
  have whole := (List.takeWhile_prefix _).eq_of_length same
  have other := List.takeWhile_eq_self_iff.mp whole item inside
  exact of_decide_eq_true other rfl

theorem head_splitAll_item (item : α) (items : List α) :
    (splitAll [item] items).headD [] = items.takeWhile fun other => decide (other ≠ item) := by
  have some_ : [item] ≠ [] := List.cons_ne_nil _ _
  have stays {front : List α} (clear : item ∉ front) :
      ∀ other ∈ front, decide (other ≠ item) = true :=
    fun other member => decide_eq_true fun same => clear (same ▸ member)
  cases found : partitionAt [item] items with
  | none =>
      rw [splitAll_of_none found]
      exact (List.takeWhile_eq_self_iff.mpr (stays (partitionAt_item_none.mp found))).symm
  | some parts =>
      obtain ⟨whole, clear⟩ := partitionAt_item.mp found
      rw [splitAll_of_some some_ found, whole, List.takeWhile_append_of_pos (stays clear),
        List.takeWhile_cons_of_neg (by simp), List.append_nil]
      rfl

end

theorem splitAll_decodeAll {separator : List UInt8}
    (ascii : ∀ byte ∈ separator, byte.toNat < 0x80) (some_ : separator ≠ [])
    (bytes : List UInt8) :
    splitAll (asciiChars separator) (decodeAll bytes) =
      (splitAll separator bytes).map decodeAll := by
  have chars : asciiChars separator ≠ [] := mt List.map_eq_nil_iff.mp some_
  induction bytes using split_induction some_ with
  | last bytes absent =>
      rw [splitAll_of_none absent, List.map_singleton]
      apply splitAll_of_none
      rw [partitionAt_decodeAll ascii some_, absent, Option.map_none]
  | cut bytes before after found ih =>
      rw [splitAll_of_some some_ found, List.map_cons, ← ih]
      apply splitAll_of_some chars
      rw [partitionAt_decodeAll ascii some_, found, Option.map_some]

/-! Taking blanks off both ends. -/

section

variable {α : Type*} (blank : α → Bool)

def trim (items : List α) : List α :=
  ((items.dropWhile blank).reverse.dropWhile blank).reverse

theorem exists_trim (items : List α) :
    ∃ front rear, items = front ++ (trim blank items ++ rear) ∧
      (∀ item ∈ front, blank item = true) ∧ ∀ item ∈ rear, blank item = true := by
  refine ⟨items.takeWhile blank,
    ((items.dropWhile blank).reverse.takeWhile blank).reverse, ?_, ?_, ?_⟩
  · rw [trim, ← List.reverse_append, List.takeWhile_append_dropWhile,
      List.reverse_reverse, List.takeWhile_append_dropWhile]
  · exact fun item member => List.mem_takeWhile_imp member
  · exact fun item member => List.mem_takeWhile_imp (List.mem_reverse.mp member)

variable {blank}

theorem trim_append {front rear : List α} (before : ∀ item ∈ front, blank item = true)
    (after : ∀ item ∈ rear, blank item = true) (items : List α) :
    trim blank (front ++ (items ++ rear)) = trim blank items := by
  have reversed : ∀ item ∈ rear.reverse, blank item = true :=
    fun item member => after item (List.mem_reverse.mp member)
  rw [trim, List.dropWhile_append_of_pos before, List.dropWhile_append]
  split
  case isTrue empty =>
    have none : items.dropWhile blank = [] := List.isEmpty_iff.mp empty
    rw [trim, none, List.dropWhile_eq_nil_iff.mpr after]
  case isFalse =>
    rw [List.reverse_append, List.dropWhile_append_of_pos reversed, trim]

theorem trim_trim (items : List α) : trim blank (trim blank items) = trim blank items := by
  obtain ⟨front, rear, whole, before, after⟩ := exists_trim blank items
  conv_rhs => rw [whole, trim_append before after]

theorem trim_of_forall {items : List α} (solid : ∀ item ∈ items, blank item = false) :
    trim blank items = items := by
  have stays : ∀ items : List α, (∀ item ∈ items, blank item = false) →
      items.dropWhile blank = items := by
    intro items solid
    cases items with
    | nil => rfl
    | cons item items => rw [List.dropWhile_cons, solid item List.mem_cons_self]; rfl
  rw [trim, stays items solid,
    stays _ fun item member => solid item (List.mem_reverse.mp member),
    List.reverse_reverse]

end

theorem strip_decodeAll_trim {blank : UInt8 → Bool}
    (space : ∀ byte, blank byte = true →
      byte.toNat < 0x80 ∧ isSpace (Char.ofNat byte.toNat) = true)
    (bytes : List UInt8) :
    strip (decodeAll (trim blank bytes)) = strip (decodeAll bytes) := by
  have spaces : ∀ blanks : List UInt8, (∀ byte ∈ blanks, blank byte = true) →
      ∀ char ∈ asciiChars blanks, isSpace char = true := by
    intro blanks all char member
    obtain ⟨byte, inside, rfl⟩ := List.mem_map.mp member
    exact (space byte (all byte inside)).2
  obtain ⟨front, rear, whole, before, after⟩ := exists_trim blank bytes
  have decoded : decodeAll bytes = asciiChars front ++
      (decodeAll (trim blank bytes) ++ asciiChars rear) := by
    have behind : decodeAll (trim blank bytes ++ rear) =
        decodeAll (trim blank bytes) ++ asciiChars rear := by
      by_cases none : rear = []
      · subst none
        rw [List.append_nil]
        exact (List.append_nil _).symm
      · have parted := decodeAll_separator
          (fun byte member => (space byte (after byte member)).1) none
          (trim blank bytes) []
        rwa [List.append_nil, decodeAll_nil, List.append_nil] at parted
    conv_lhs => rw [whole]
    rw [decodeAll_asciiChars fun byte member => (space byte (before byte member)).1,
      behind]
  rw [decoded]
  exact (trim_append (spaces front before) (spaces rear after) _).symm

end VpnTunnel.Foundation
