import Mathlib.Data.List.Nodup
import Mathlib.Data.List.Perm.Subperm
import AggregateRules.OrderedMap

/-!
# Maps up to the order of their keys

Where keys are distinct, a lookup finds each entry, and two maps that agree in
whatever order have the same entries up to a permutation, see
`OrderedMap.sameEntries_iff_perm`.
-/

namespace AggregateRules

section Entries

variable {α : Type} {entries : List (String × α)} {key : String} {value : α}

theorem mem_of_lookup (found : entries.lookup key = some value) :
    (key, value) ∈ entries := by
  obtain ⟨before, after, rfl, -⟩ := List.lookup_eq_some_iff.mp found
  exact List.mem_append_right _ List.mem_cons_self

theorem lookup_eq_none_iff_notMem :
    entries.lookup key = none ↔ key ∉ entries.map Prod.fst := by
  rw [List.lookup_eq_none_iff, List.mem_map]
  constructor
  · rintro apart ⟨entry, member, rfl⟩
    exact bne_iff_ne.mp (apart entry member) rfl
  · intro absent entry member
    rw [bne_iff_ne]
    exact fun equal => absent ⟨entry, member, equal.symm⟩

theorem lookup_of_mem (nodup : (entries.map Prod.fst).Nodup)
    (member : (key, value) ∈ entries) : entries.lookup key = some value := by
  induction entries with
  | nil => cases member
  | cons entry rest ih =>
      rw [List.map_cons, List.nodup_cons] at nodup
      rw [List.lookup_cons]
      cases member with
      | head => simp
      | tail _ inRest =>
          have named : key ∈ rest.map Prod.fst := List.mem_map_of_mem inRest
          have different : (key == entry.1) = false :=
            beq_false_of_ne fun equal => nodup.1 (equal ▸ named)
          rw [different]
          exact ih nodup.2 inRest

/-- Of two lists of one length, the one with distinct items is a permutation of
the other as soon as that has all of them. -/
theorem perm_of_nodup_of_subset {items others : List α} (nodup : items.Nodup)
    (length : items.length = others.length) (subset : items ⊆ others) :
    items.Perm others :=
  (List.subperm_of_subset nodup subset).perm_of_length_le
    (Nat.le_of_eq length.symm)

end Entries

namespace OrderedMap

/-- Two maps have the same keys with the same values exactly if one has the
entries of the other one in some order. -/
theorem sameEntries_iff_perm [BEq α] [LawfulBEq α] {left right : OrderedMap α} :
    left.sameEntries right = true ↔ left.entries.Perm right.entries := by
  rw [sameEntries, Bool.and_eq_true, beq_iff_eq, List.all_eq_true]
  constructor
  · rintro ⟨length, held⟩
    apply perm_of_nodup_of_subset (List.Nodup.of_map _ left.nodup_keys) length
    intro entry member
    exact mem_of_lookup (eq_of_beq (held entry member))
  · intro permuted
    refine ⟨permuted.length_eq, ?_⟩
    intro entry member
    rw [beq_iff_eq]
    exact lookup_of_mem right.nodup_keys (permuted.mem_iff.mp member)

end OrderedMap

end AggregateRules
