import VpnTunnel.Foundation.IpAddress
import VpnTunnel.Foundation.Text

namespace VpnTunnel.Server

open VpnTunnel.Foundation

/-! The whitelist.  An entry that `ip_network` rejects is left out with a
warning. -/

structure AccessController where
  networks : List IpNetwork
  deriving DecidableEq, Repr

/-- What one line of the file adds. -/
def whitelistEntry (raw : List Char) : Option IpNetwork :=
  let line := strip raw
  if line = [] ∨ line.head? = some '#' then none
  else ipNetwork line

namespace AccessController

/-- `reload` on the text of the file, if there is one. -/
def reload : Option String → AccessController
  | none => { networks := [] }
  | some text =>
      { networks := (splitLines [] text.toList).filterMap whitelistEntry }

def isAllowed (ctl : AccessController) (ip : String) : Bool :=
  if ctl.networks = [] then true
  else
    match ipAddress ip.toList with
    | none => false
    | some address => ctl.networks.any fun net => net.contains address

end AccessController

/-! What the file says. -/

/-- A line of the text, stripped, that is neither blank nor a comment. -/
def EntryLine (text : String) (line : List Char) : Prop :=
  ∃ raw ∈ splitLines [] text.toList, strip raw = line ∧ line ≠ [] ∧
    line.head? ≠ some '#'

/-- The string is an address in the network of some valid line. -/
def Whitelisted (text ip : String) : Prop :=
  ∃ address line entry, ipAddress ip.toList = some address ∧
    EntryLine text line ∧ ipInterface line = some entry ∧ entry.Covers address

/-- Some line of the text is valid. -/
def HasValidLine (text : String) : Prop :=
  ∃ line entry, EntryLine text line ∧ ipInterface line = some entry

theorem Whitelisted.hasValidLine {text ip : String}
    (listed : Whitelisted text ip) : HasValidLine text := by
  obtain ⟨address, line, entry, -, isLine, valid, -⟩ := listed
  exact ⟨line, entry, isLine, valid⟩

theorem whitelistEntry_eq_some {raw : List Char} {net : IpNetwork} :
    whitelistEntry raw = some net ↔
      strip raw ≠ [] ∧ (strip raw).head? ≠ some '#' ∧
      ∃ entry, ipInterface (strip raw) = some entry ∧ entry.network = net := by
  unfold whitelistEntry
  by_cases skipped : strip raw = [] ∨ (strip raw).head? = some '#'
  · simp only [if_pos skipped, reduceCtorEq, false_iff]
    rintro ⟨nonempty, plain, -⟩
    exact skipped.elim nonempty plain
  · simp only [if_neg skipped, ipNetwork, Option.map_eq_some_iff]
    rw [not_or] at skipped
    simp [skipped]

theorem mem_networks_reload {text : String} {net : IpNetwork} :
    net ∈ (AccessController.reload (some text)).networks ↔
      ∃ line entry, EntryLine text line ∧ ipInterface line = some entry ∧
        entry.network = net := by
  simp only [AccessController.reload, List.mem_filterMap, whitelistEntry_eq_some]
  constructor
  · rintro ⟨raw, member, nonempty, plain, entry, valid, same⟩
    exact ⟨strip raw, entry, ⟨raw, member, rfl, nonempty, plain⟩, valid, same⟩
  · rintro ⟨line, entry, ⟨raw, member, rfl, nonempty, plain⟩, valid, same⟩
    exact ⟨raw, member, nonempty, plain, entry, valid, same⟩

theorem networks_reload_eq_nil {text : String} :
    (AccessController.reload (some text)).networks = [] ↔ ¬ HasValidLine text := by
  rw [List.eq_nil_iff_forall_not_mem]
  simp only [mem_networks_reload, HasValidLine]
  constructor
  · rintro none ⟨line, entry, isLine, valid⟩
    exact none entry.network ⟨line, entry, isLine, valid, rfl⟩
  · rintro none net ⟨line, entry, isLine, valid, -⟩
    exact none ⟨line, entry, isLine, valid⟩

theorem isAllowed_of_hasValidLine {text : String} (valid : HasValidLine text)
    (ip : String) :
    (AccessController.reload (some text)).isAllowed ip = true ↔
      Whitelisted text ip := by
  have loaded : (AccessController.reload (some text)).networks ≠ [] :=
    fun none => networks_reload_eq_nil.mp none valid
  unfold AccessController.isAllowed Whitelisted
  rw [if_neg loaded]
  cases parsed : ipAddress ip.toList with
  | none => simp
  | some address =>
      simp only [List.any_eq_true, mem_networks_reload]
      constructor
      · rintro ⟨net, ⟨line, entry, isLine, valid, rfl⟩, inside⟩
        exact ⟨address, line, entry, rfl, isLine, valid,
          (contains_network entry address).mp inside⟩
      · rintro ⟨other, line, entry, same, isLine, valid, covers⟩
        cases same
        exact ⟨entry.network, ⟨line, entry, isLine, valid, rfl⟩,
          (contains_network entry address).mpr covers⟩

/-- `is_allowed` answers as the file says exactly for files with a valid line:
from any other file nothing is loaded, and everything is allowed. -/
theorem whitelist_semantics (text ip : String) :
    ((AccessController.reload (some text)).isAllowed ip = true ↔
      Whitelisted text ip) ↔ HasValidLine text := by
  constructor
  · intro law
    by_contra invalid
    have empty := networks_reload_eq_nil.mpr invalid
    have open_ : (AccessController.reload (some text)).isAllowed ip = true := by
      rw [AccessController.isAllowed, if_pos empty]
    exact invalid (law.mp open_).hasValidLine
  · intro valid
    exact isAllowed_of_hasValidLine valid ip

/-- One mistyped entry, and nobody is kept out. -/
theorem whitelist_mistyped_entry :
    EntryLine "10.0.0.0/33\n" "10.0.0.0/33".toList ∧
      (AccessController.reload (some "10.0.0.0/33\n")).isAllowed "203.0.113.9" =
        true ∧
      ¬ Whitelisted "10.0.0.0/33\n" "203.0.113.9" := by
  have empty : (AccessController.reload (some "10.0.0.0/33\n")).networks = [] := by
    decide +kernel
  refine ⟨⟨"10.0.0.0/33".toList, ?_, ?_, ?_, ?_⟩, ?_, ?_⟩
  · decide +kernel
  · decide +kernel
  · decide +kernel
  · decide +kernel
  · rw [AccessController.isAllowed, if_pos empty]
  · intro listed
    exact networks_reload_eq_nil.mp empty listed.hasValidLine

end VpnTunnel.Server
