import Mathlib.Algebra.GroupWithZero.Nat
import Mathlib.Data.List.Dedup
import Mathlib.Data.List.Perm.Basic

namespace VpnTunnel.Foundation

/-! Dictionaries that keep the order in which their keys were first set. -/

section

variable {κ ν : Type*} [DecidableEq κ]

/-- `d[key] = value` -/
def assign (entries : List (κ × ν)) (key : κ) (value : ν) : List (κ × ν) :=
  if key ∈ entries.map Prod.fst then
    entries.map fun entry => if entry.1 = key then (key, value) else entry
  else entries ++ [(key, value)]

def ofPairs (pairs : List (κ × ν)) : List (κ × ν) :=
  pairs.foldl (fun entries pair => assign entries pair.1 pair.2) []

def setDefault (entries : List (κ × ν)) (key : κ) (value : ν) : List (κ × ν) :=
  if key ∈ entries.map Prod.fst then entries else entries ++ [(key, value)]

theorem keys_overwrite (entries : List (κ × ν)) (key : κ) (value : ν) :
    (entries.map fun entry => if entry.1 = key then (key, value) else entry).map
        Prod.fst =
      entries.map Prod.fst := by
  rw [List.map_map]
  apply List.map_congr_left
  intro entry _
  by_cases here : entry.1 = key
  · simp [here]
  · simp [here]

theorem keys_assign (entries : List (κ × ν)) (key : κ) (value : ν) :
    (assign entries key value).map Prod.fst =
      if key ∈ entries.map Prod.fst then entries.map Prod.fst
      else entries.map Prod.fst ++ [key] := by
  rw [assign]
  split
  case isTrue => exact keys_overwrite entries key value
  case isFalse => rw [List.map_append, List.map_singleton]

theorem mem_keys_assign {entries : List (κ × ν)} {key other : κ} {value : ν} :
    other ∈ (assign entries key value).map Prod.fst ↔
      other ∈ entries.map Prod.fst ∨ other = key := by
  rw [keys_assign]
  split
  case isTrue held =>
    constructor
    · exact .inl
    · rintro (old | rfl)
      · exact old
      · exact held
  case isFalse => rw [List.mem_append, List.mem_singleton]

theorem nodup_keys_assign {entries : List (κ × ν)}
    (distinct : (entries.map Prod.fst).Nodup) (key : κ) (value : ν) :
    ((assign entries key value).map Prod.fst).Nodup := by
  rw [keys_assign]
  split
  case isTrue => exact distinct
  case isFalse fresh =>
    rw [← List.concat_eq_append]
    exact distinct.concat fresh

theorem mem_assign {entries : List (κ × ν)} {key : κ} {value : ν} {entry : κ × ν}
    (held : entry ∈ assign entries key value) :
    entry ∈ entries ∨ entry = (key, value) := by
  rw [assign] at held
  split at held
  case isTrue =>
    obtain ⟨old, inside, same⟩ := List.mem_map.mp held
    split at same
    case isTrue => exact .inr same.symm
    case isFalse => exact .inl (same ▸ inside)
  case isFalse =>
    rcases List.mem_append.mp held with old | new
    · exact .inl old
    · exact .inr (List.mem_singleton.mp new)

theorem filter_assign (keep : κ → Bool) (entries : List (κ × ν)) (key : κ)
    (value : ν) :
    (assign entries key value).filter (fun entry => keep entry.1) =
      if keep key then assign (entries.filter fun entry => keep entry.1) key value
      else entries.filter fun entry => keep entry.1 := by
  have overwritten : (entries.map fun entry =>
        if entry.1 = key then (key, value) else entry).filter
          (fun entry => keep entry.1) =
      (entries.filter fun entry => keep entry.1).map fun entry =>
        if entry.1 = key then (key, value) else entry := by
    rw [List.filter_map]
    congr 1
    apply List.filter_congr
    intro entry _
    by_cases here : entry.1 = key
    · simp [here]
    · simp [here]
  have held : keep key = true →
      (key ∈ (entries.filter fun entry => keep entry.1).map Prod.fst ↔
        key ∈ entries.map Prod.fst) := by
    intro kept
    constructor
    · exact fun inside => List.map_subset _ (List.filter_subset_self _) inside
    · intro inside
      obtain ⟨entry, member, rfl⟩ := List.mem_map.mp inside
      exact List.mem_map_of_mem (List.mem_filter.mpr ⟨member, kept⟩)
  by_cases kept : keep key = true
  · rw [if_pos kept, assign, assign]
    by_cases inside : key ∈ entries.map Prod.fst
    · rw [if_pos inside, if_pos ((held kept).mpr inside), overwritten]
    · rw [if_neg inside, if_neg (mt (held kept).mp inside), List.filter_append]
      simp [kept]
  · rw [if_neg kept, assign]
    split
    case isTrue =>
      rw [overwritten]
      conv_rhs => rw [← List.map_id (entries.filter fun entry => keep entry.1)]
      apply List.map_congr_left
      intro entry member
      have other : entry.1 ≠ key := by
        rintro rfl
        exact kept (List.mem_filter.mp member).2
      rw [if_neg other, id]
    case isFalse => simp [List.filter_append, kept]

theorem sum_assign_le (size : κ × ν → ℕ)
    {entries : List (κ × ν)} (distinct : (entries.map Prod.fst).Nodup) (key : κ)
    (value : ν) :
    ((assign entries key value).map size).sum ≤
      (entries.map size).sum + size (key, value) := by
  rw [assign]
  split
  case isTrue held =>
    clear held
    induction entries with
    | nil => exact Nat.zero_le _
    | cons entry entries ih =>
        obtain ⟨fresh, distinct⟩ := List.nodup_cons.mp distinct
        have tail := ih distinct
        rw [List.map_cons, List.map_cons, List.sum_cons, List.map_cons, List.sum_cons]
        by_cases here : entry.1 = key
        · -- No other entry has the key.
          have others : (entries.map fun entry =>
              if entry.1 = key then (key, value) else entry) = entries := by
            conv_rhs => rw [← List.map_id entries]
            apply List.map_congr_left
            intro other member
            have apart : other.1 ≠ key := by
              rintro same
              apply fresh
              rw [here, ← same]
              exact List.mem_map_of_mem member
            rw [if_neg apart, id]
          rw [if_pos here, others]
          omega
        · rw [if_neg here]
          omega
  case isFalse =>
    apply Nat.le_of_eq
    rw [List.map_append, List.sum_append, List.map_singleton, List.sum_singleton]

theorem foldl_assign_nodup (pairs : List (κ × ν)) {entries : List (κ × ν)}
    (distinct : (entries.map Prod.fst).Nodup) :
    ((pairs.foldl (fun entries pair => assign entries pair.1 pair.2) entries).map
      Prod.fst).Nodup := by
  induction pairs generalizing entries with
  | nil => exact distinct
  | cons pair pairs ih => exact ih (nodup_keys_assign distinct _ _)

theorem nodup_keys_ofPairs (pairs : List (κ × ν)) :
    ((ofPairs pairs).map Prod.fst).Nodup :=
  foldl_assign_nodup pairs .nil

theorem mem_keys_foldl_assign (pairs : List (κ × ν)) {entries : List (κ × ν)}
    {key : κ} :
    key ∈ (pairs.foldl (fun entries pair => assign entries pair.1 pair.2)
        entries).map Prod.fst ↔
      key ∈ entries.map Prod.fst ∨ key ∈ pairs.map Prod.fst := by
  induction pairs generalizing entries with
  | nil => simp
  | cons pair pairs ih =>
      rw [List.foldl_cons, ih, mem_keys_assign, List.map_cons, List.mem_cons, or_assoc]

theorem mem_keys_ofPairs {pairs : List (κ × ν)} {key : κ} :
    key ∈ (ofPairs pairs).map Prod.fst ↔ key ∈ pairs.map Prod.fst := by
  rw [ofPairs, mem_keys_foldl_assign]
  simp

theorem mem_foldl_assign {pairs : List (κ × ν)} {entries : List (κ × ν)}
    {entry : κ × ν}
    (held : entry ∈ pairs.foldl (fun entries pair => assign entries pair.1 pair.2)
      entries) :
    entry ∈ entries ∨ entry ∈ pairs := by
  induction pairs generalizing entries with
  | nil => exact .inl held
  | cons pair pairs ih =>
      rcases ih held with assigned | later
      · rcases mem_assign assigned with old | rfl
        · exact .inl old
        · exact .inr List.mem_cons_self
      · exact .inr (List.mem_cons_of_mem _ later)

theorem mem_of_mem_ofPairs {pairs : List (κ × ν)} {entry : κ × ν}
    (held : entry ∈ ofPairs pairs) : entry ∈ pairs := by
  rcases mem_foldl_assign held with none | inside
  · cases none
  · exact inside

theorem foldl_assign_of_nodup {pairs entries : List (κ × ν)}
    (distinct : ((entries ++ pairs).map Prod.fst).Nodup) :
    pairs.foldl (fun entries pair => assign entries pair.1 pair.2) entries =
      entries ++ pairs := by
  induction pairs generalizing entries with
  | nil => rw [List.append_nil, List.foldl_nil]
  | cons pair pairs ih =>
      have fresh : pair.1 ∉ entries.map Prod.fst := by
        rw [List.map_append, List.map_cons] at distinct
        intro old
        exact (List.nodup_append.mp distinct).2.2 _ old _ List.mem_cons_self rfl
      rw [List.foldl_cons, assign, if_neg fresh, ih]
      · rw [List.append_assoc, List.singleton_append]
      · rw [List.append_assoc, List.singleton_append]
        exact distinct

theorem ofPairs_of_nodup {pairs : List (κ × ν)}
    (distinct : (pairs.map Prod.fst).Nodup) : ofPairs pairs = pairs :=
  foldl_assign_of_nodup distinct

theorem filter_foldl_assign (keep : κ → Bool) (pairs entries : List (κ × ν)) :
    (pairs.foldl (fun entries pair => assign entries pair.1 pair.2) entries).filter
        (fun entry => keep entry.1) =
      (pairs.filter fun pair => keep pair.1).foldl
        (fun entries pair => assign entries pair.1 pair.2)
        (entries.filter fun entry => keep entry.1) := by
  induction pairs generalizing entries with
  | nil => rfl
  | cons pair pairs ih =>
      rw [List.foldl_cons, ih, filter_assign, List.filter_cons]
      split
      case isTrue => rw [List.foldl_cons]
      case isFalse => rfl

theorem filter_ofPairs (keep : κ → Bool) (pairs : List (κ × ν)) :
    (ofPairs pairs).filter (fun entry => keep entry.1) =
      ofPairs (pairs.filter fun pair => keep pair.1) :=
  filter_foldl_assign keep pairs []

theorem length_ofPairs (pairs : List (κ × ν)) :
    (ofPairs pairs).length = (pairs.map Prod.fst).dedup.length := by
  have same : ((ofPairs pairs).map Prod.fst).Perm (pairs.map Prod.fst).dedup := by
    rw [List.perm_ext_iff_of_nodup (nodup_keys_ofPairs pairs) (List.nodup_dedup _)]
    intro key
    rw [mem_keys_ofPairs, List.mem_dedup]
  rw [← List.length_map Prod.fst, same.length_eq]

theorem nodup_keys_of_length {pairs : List (κ × ν)}
    (full : pairs.length ≤ (ofPairs pairs).length) : (pairs.map Prod.fst).Nodup := by
  have keys : (pairs.map Prod.fst).length = pairs.length := List.length_map _
  rw [length_ofPairs, ← keys] at full
  rw [← List.dedup_eq_self]
  exact (List.dedup_sublist _).eq_of_length_le full

end

/-! A change of the keys and values that keeps keys apart. -/

section

variable {κ ν κ' ν' : Type*} {rename : κ → κ'} {change : ν → ν'}

theorem mem_keys_map (apart : Function.Injective rename) (entries : List (κ × ν))
    (key : κ) :
    rename key ∈ (entries.map (Prod.map rename change)).map Prod.fst ↔
      key ∈ entries.map Prod.fst := by
  have keys : (entries.map (Prod.map rename change)).map Prod.fst =
      (entries.map Prod.fst).map rename := by
    rw [List.map_map, List.map_map]
    rfl
  rw [keys, List.mem_map_of_injective apart]

variable [DecidableEq κ] [DecidableEq κ']

theorem assign_map (apart : Function.Injective rename) (entries : List (κ × ν))
    (key : κ) (value : ν) :
    assign (entries.map (Prod.map rename change)) (rename key) (change value) =
      (assign entries key value).map (Prod.map rename change) := by
  rw [assign, assign]
  by_cases inside : key ∈ entries.map Prod.fst
  · rw [if_pos ((mem_keys_map apart entries key).mpr inside), if_pos inside,
      List.map_map, List.map_map]
    apply List.map_congr_left
    intro entry _
    by_cases here : entry.1 = key
    · simp [here]
    · simp [here, apart.ne here]
  · rw [if_neg (mt (mem_keys_map apart entries key).mp inside), if_neg inside,
      List.map_append]
    rfl

theorem setDefault_map (apart : Function.Injective rename) (entries : List (κ × ν))
    (key : κ) (value : ν) :
    setDefault (entries.map (Prod.map rename change)) (rename key) (change value) =
      (setDefault entries key value).map (Prod.map rename change) := by
  rw [setDefault, setDefault]
  by_cases inside : key ∈ entries.map Prod.fst
  · rw [if_pos ((mem_keys_map apart entries key).mpr inside), if_pos inside]
  · rw [if_neg (mt (mem_keys_map apart entries key).mp inside), if_neg inside,
      List.map_append]
    rfl

theorem foldl_assign_map (apart : Function.Injective rename)
    (pairs entries : List (κ × ν)) :
    (pairs.map (Prod.map rename change)).foldl
        (fun entries pair => assign entries pair.1 pair.2)
        (entries.map (Prod.map rename change)) =
      (pairs.foldl (fun entries pair => assign entries pair.1 pair.2) entries).map
        (Prod.map rename change) := by
  induction pairs generalizing entries with
  | nil => rfl
  | cons pair pairs ih =>
      rw [List.map_cons, List.foldl_cons, List.foldl_cons, ← ih,
        ← assign_map apart]
      rfl

theorem ofPairs_map (apart : Function.Injective rename) (pairs : List (κ × ν)) :
    ofPairs (pairs.map (Prod.map rename change)) =
      (ofPairs pairs).map (Prod.map rename change) :=
  foldl_assign_map apart pairs []

end

end VpnTunnel.Foundation
