import Mathlib.Algebra.Order.BigOperators.Group.List
import Mathlib.Algebra.Order.Group.Unbundled.Basic
import Mathlib.Data.List.AList
import Mathlib.Tactic.Abel

namespace VpnTunnel.Foundation

/-! The values of a finite table added up. -/

section

variable {κ ν : Type*} [AddCommGroup ν]

def tally (table : AList fun _ : κ => ν) : ν :=
  (table.entries.map Sigma.snd).sum

@[simp] theorem tally_empty : tally (∅ : AList fun _ : κ => ν) = 0 := rfl

variable [DecidableEq κ]

theorem sum_kerase (key : κ) (entries : List (Sigma fun _ : κ => ν)) :
    ((entries.kerase key).map Sigma.snd).sum =
      (entries.map Sigma.snd).sum - (entries.dlookup key).getD 0 := by
  induction entries with
  | nil => simp
  | cons entry rest ih =>
      by_cases same : key = entry.1
      · subst same
        rw [List.kerase_cons_eq rfl, List.dlookup_cons_eq]
        simp
      · rw [List.kerase_cons_ne same, List.dlookup_cons_ne _ _ same,
          List.map_cons, List.sum_cons, List.map_cons, List.sum_cons, ih]
        abel

theorem tally_erase (table : AList fun _ : κ => ν) (key : κ) :
    tally (table.erase key) = tally table - (table.lookup key).getD 0 :=
  sum_kerase key table.entries

theorem tally_insert (table : AList fun _ : κ => ν) (key : κ) (value : ν) :
    tally (table.insert key value) =
      tally table - (table.lookup key).getD 0 + value := by
  have erased := sum_kerase key table.entries
  simp only [tally, AList.entries_insert, List.map_cons, List.sum_cons, erased,
    AList.lookup]
  abel

theorem tally_of_only (table : AList fun _ : κ => ν) {key : κ}
    (only : ∀ other, other ≠ key → table.lookup other = none) :
    tally table = (table.lookup key).getD 0 := by
  have nothing : (table.erase key).entries = [] := by
    apply List.eq_nil_iff_forall_not_mem.mpr
    intro entry inside
    have found : (table.erase key).lookup entry.1 = some entry.2 :=
      AList.mem_lookup_iff.mpr inside
    by_cases same : entry.1 = key
    · rw [same, AList.lookup_erase] at found
      cases found
    · rw [AList.lookup_erase_ne same, only entry.1 same] at found
      cases found
  have others := tally_erase table key
  rw [tally, nothing] at others
  exact (sub_eq_zero.mp others.symm)

theorem getD_lookup_le_tally [LinearOrder ν] [IsOrderedAddMonoid ν]
    (table : AList fun _ : κ => ν)
    (nonneg : ∀ key value, table.lookup key = some value → 0 ≤ value)
    (key : κ) : (table.lookup key).getD 0 ≤ tally table := by
  have others : 0 ≤ tally (table.erase key) := by
    apply List.sum_nonneg
    intro value member
    obtain ⟨entry, inside, rfl⟩ := List.mem_map.mp member
    have found : (table.erase key).lookup entry.1 = some entry.2 :=
      AList.mem_lookup_iff.mpr inside
    have different : entry.1 ≠ key := by
      intro same
      rw [same, AList.lookup_erase] at found
      cases found
    rw [AList.lookup_erase_ne different] at found
    exact nonneg entry.1 entry.2 found
  rw [tally_erase] at others
  exact sub_nonneg.mp others

end

theorem erase_insert {κ : Type*} {ν : Type*} [DecidableEq κ]
    (table : AList fun _ : κ => ν) (key : κ) (value : ν) :
    (table.insert key value).erase key = table.erase key := by
  apply AList.ext
  exact List.kerase_cons_eq rfl

theorem countP_set_add {α : Type*} (counts : α → Prop) [DecidablePred counts]
    {items : List α} {index : ℕ} {old : α} (found : items[index]? = some old)
    (new : α) :
    (items.set index new).countP (fun item => decide (counts item)) +
        (if counts old then 1 else 0) =
      items.countP (fun item => decide (counts item)) +
        (if counts new then 1 else 0) := by
  obtain ⟨inside, rfl⟩ := List.getElem?_eq_some_iff.mp found
  rw [List.countP_set inside]
  have present : (if counts items[index] then 1 else 0) ≤
      items.countP fun item => decide (counts item) := by
    split
    · have member := List.getElem_mem inside
      exact List.countP_pos_iff.mpr ⟨_, member, decide_eq_true ‹_›⟩
    · exact Nat.zero_le _
  simp only [decide_eq_true_eq]
  omega

end VpnTunnel.Foundation
