import Mathlib.Data.List.Forall2
import AggregateRules.Json.Value
import AggregateRules.Proofs.OrderedMap

/-!
# Values up to the order of members

Two values are the same if they differ in the order of the members of objects
alone. This is told member by member: each member of the one object is looked up
in the other one, and their numbers are compared. As long as the names in an
object are distinct, this leaves no room for others: then the two objects hold
the same under each name, see `Json.MatchMembers.lookup`.
-/

namespace AggregateRules

namespace Json

mutual

/-- Whether the members of each object have distinct names. -/
def distinct : Json → Bool
  | .array items => distinctItems items
  | .object members =>
      decide (members.map Prod.fst).Nodup && distinctMembers members
  | .null | .bool _ | .number _ | .string _ => true

def distinctItems : List Json → Bool
  | [] => true
  | item :: rest => item.distinct && distinctItems rest

def distinctMembers : List (String × Json) → Bool
  | [] => true
  | (_, value) :: rest => value.distinct && distinctMembers rest

end

theorem distinct_of_mem {members : List (String × Json)} {name : String}
    {value : Json} (distinct : distinctMembers members = true)
    (member : (name, value) ∈ members) : value.distinct = true := by
  induction members with
  | nil => cases member
  | cons first rest ih =>
      rw [distinctMembers, Bool.and_eq_true] at distinct
      cases member with
      | head => exact distinct.1
      | tail _ inRest => exact ih distinct.2 inRest

theorem hasMembers_iff {left right : List (String × Json)} :
    hasMembers left right = true ↔
      ∀ name value, (name, value) ∈ left →
        ∃ other, right.lookup name = some other ∧
          value.same other = true := by
  induction left with
  | nil => simp [hasMembers]
  | cons member rest ih =>
      obtain ⟨first, held⟩ := member
      rw [hasMembers, Bool.and_eq_true, ih]
      constructor
      · rintro ⟨found, others⟩ name value member
        cases member with
        | head =>
            split at found
            · next other isOther => exact ⟨other, isOther, found⟩
            · cases found
        | tail _ inRest => exact others name value inRest
      · intro all
        refine ⟨?_, fun name value inRest =>
          all name value (List.mem_cons_of_mem _ inRest)⟩
        obtain ⟨other, isOther, same⟩ := all first held List.mem_cons_self
        rw [isOther]
        exact same

/-- A value without repeated names, and one that is the same. -/
structure Matches (left right : Json) : Prop where
  distinct : left.distinct = true
  same : left.same right = true

structure MatchMembers (left right : List (String × Json)) : Prop where
  nodup : (left.map Prod.fst).Nodup
  distinct : distinctMembers left = true
  length : left.length = right.length
  held : hasMembers left right = true

/-- The parts of matching values match. Of two numbers nothing is kept, as two
zeros are the same although their signs differ. -/
inductive MatchingParts : Json → Json → Prop where
  | null : MatchingParts .null .null
  | bool : MatchingParts (.bool value) (.bool value)
  | number : MatchingParts (.number left) (.number right)
  | string : MatchingParts (.string text) (.string text)
  | array :
      List.Forall₂ Matches left right →
      MatchingParts (.array left) (.array right)
  | object :
      MatchMembers left right →
      MatchingParts (.object left) (.object right)

theorem forall₂_matches {left right : List Json}
    (distinct : distinctItems left = true)
    (same : sameItems left right = true) :
    List.Forall₂ Matches left right := by
  induction left generalizing right with
  | nil =>
      cases right with
      | nil => exact .nil
      | cons => cases same
  | cons item rest ih =>
      cases right with
      | nil => cases same
      | cons other others =>
          rw [distinctItems, Bool.and_eq_true] at distinct
          rw [sameItems, Bool.and_eq_true] at same
          exact .cons ⟨distinct.1, same.1⟩ (ih distinct.2 same.2)

theorem Matches.parts {left right : Json} (matching : Matches left right) :
    MatchingParts left right := by
  obtain ⟨distinct, same⟩ := matching
  cases left with
  | null =>
      cases right with
      | null => exact .null
      | _ => cases same
  | bool value =>
      cases right with
      | bool other =>
          rw [Json.same, beq_iff_eq] at same
          exact same ▸ .bool
      | _ => cases same
  | number value =>
      cases right with
      | number other => exact .number
      | _ => cases same
  | string text =>
      cases right with
      | string other =>
          rw [Json.same, beq_iff_eq] at same
          exact same ▸ .string
      | _ => cases same
  | array items =>
      cases right with
      | array others => exact .array (forall₂_matches distinct same)
      | _ => cases same
  | object members =>
      cases right with
      | object others =>
          rw [Json.distinct, Bool.and_eq_true, decide_eq_true_eq] at distinct
          rw [Json.same, Bool.and_eq_true, beq_iff_eq] at same
          exact .object ⟨distinct.1, distinct.2, same.1, same.2⟩
      | _ => cases same

/-- What two objects hold under one name: nothing, or matching values. -/
def MatchFound (left right : Option Json) : Prop :=
  left = none ∧ right = none ∨
    ∃ value other, left = some value ∧ right = some other ∧
      Matches value other

namespace MatchMembers

variable {left right : List (String × Json)}

theorem names_perm (matching : MatchMembers left right) :
    (left.map Prod.fst).Perm (right.map Prod.fst) := by
  apply perm_of_nodup_of_subset matching.nodup
  · rw [List.length_map, List.length_map, matching.length]
  · intro name named
    obtain ⟨⟨_, value⟩, member, rfl⟩ := List.mem_map.mp named
    obtain ⟨other, found, -⟩ :=
      hasMembers_iff.mp matching.held _ value member
    exact List.mem_map.mpr ⟨_, mem_of_lookup found, rfl⟩

/-- Two objects that match hold the same under each name. -/
theorem lookup (matching : MatchMembers left right) (name : String) :
    MatchFound (left.lookup name) (right.lookup name) := by
  cases found : left.lookup name with
  | none =>
      have absent : right.lookup name = none := by
        rw [lookup_eq_none_iff_notMem] at found ⊢
        exact fun named => found (matching.names_perm.mem_iff.mpr named)
      exact .inl ⟨rfl, absent⟩
  | some value =>
      have member := mem_of_lookup found
      obtain ⟨other, isOther, same⟩ :=
        hasMembers_iff.mp matching.held name value member
      exact .inr ⟨value, other, rfl, isOther,
        distinct_of_mem matching.distinct member, same⟩

end MatchMembers

theorem Matches.get? {left right : Json} (matching : Matches left right)
    (name : String) : MatchFound (left.get? name) (right.get? name) := by
  cases matching.parts with
  | object members => exact members.lookup name
  | null | bool | number | string | array => exact .inl ⟨rfl, rfl⟩

end Json

end AggregateRules
