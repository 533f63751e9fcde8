import AggregateRules.Proofs.Json.Reader
import AggregateRules.Record.Saved

/-!
# Records from matching values

A record is read from the members of an object in their order, and what is read
does not depend on it: as long as the names are distinct, each field holds what
the object has under its name, see `PartialRow.addMembers_eq_ok_iff`. So values
that match are read as the same record.
-/

namespace AggregateRules

open Json (Matches MatchMembers)

namespace PartialRow

/-- What a field holds behind some members, given what it held before. A field
that is known already cannot be given again. -/
def Holds (field : Field) (members : List (String × Json))
    (before after : Option field.shape.Carrier) : Prop :=
  match members.lookup field.name with
  | none => after = before
  | some value =>
      before = none ∧ ∃ held, field.shape.ofJson value = .ok held ∧
        after = some held

/-- What all fields hold behind some members. -/
def HoldAll (members : List (String × Json)) :
    (fields : List Field) → PartialRow fields → PartialRow fields → Prop
  | [], (), () => True
  | field :: rest, (before, othersBefore), (after, othersAfter) =>
      Holds field members before after ∧
        HoldAll members rest othersBefore othersAfter

section

variable {field : Field} {name : String} {value : Json}
  {rest : List (String × Json)} {before after : Option field.shape.Carrier}

theorem holds_cons_of_ne (different : field.name ≠ name) :
    Holds field ((name, value) :: rest) before after ↔
      Holds field rest before after := by
  have unequal : (field.name == name) = false := beq_false_of_ne different
  simp only [Holds, List.lookup_cons, unequal]

theorem holds_of_notMem (absent : field.name ∉ rest.map Prod.fst) :
    Holds field rest before after ↔ after = before := by
  simp only [Holds, lookup_eq_none_iff_notMem.mpr absent]

theorem holds_cons_of_eq (same : field.name = name) :
    Holds field ((name, value) :: rest) before after ↔
      before = none ∧ ∃ held, field.shape.ofJson value = .ok held ∧
        after = some held := by
  simp only [Holds, same, List.lookup_cons_self]

end

theorem holdAll_nil_iff {fields : List Field}
    {before after : PartialRow fields} :
    HoldAll [] fields before after ↔ after = before := by
  induction fields with
  | nil => exact iff_of_true trivial rfl
  | cons field rest ih =>
      obtain ⟨known, others⟩ := before
      obtain ⟨knownAfter, othersAfter⟩ := after
      rw [HoldAll, ih, Prod.mk.injEq]
      rfl

/-- Members that do not name a field change nothing. -/
theorem holdAll_cons_of_notMem {fields : List Field} {name : String}
    (absent : name ∉ fields.map Field.name) (value : Json)
    (members : List (String × Json)) {before after : PartialRow fields} :
    HoldAll ((name, value) :: members) fields before after ↔
      HoldAll members fields before after := by
  induction fields with
  | nil => exact Iff.rfl
  | cons field rest ih =>
      rw [List.map_cons, List.mem_cons, not_or] at absent
      obtain ⟨known, others⟩ := before
      obtain ⟨knownAfter, othersAfter⟩ := after
      rw [HoldAll, HoldAll, holds_cons_of_ne (Ne.symm absent.1), ih absent.2]

theorem addMember_eq_ok_iff {fields : List Field}
    (distinct : (fields.map Field.name).Nodup)
    {known after : PartialRow fields} (name : String) (value : Json) :
    addMember fields known name value = .ok after ↔
      HoldAll [(name, value)] fields known after := by
  induction fields with
  | nil => simp [addMember, HoldAll]
  | cons field rest ih =>
      rw [List.map_cons, List.nodup_cons] at distinct
      obtain ⟨before, others⟩ := known
      obtain ⟨held, othersAfter⟩ := after
      rw [addMember, HoldAll]
      by_cases same : field.name = name
      · rw [holds_cons_of_eq same, if_pos same,
          holdAll_cons_of_notMem (same ▸ distinct.1), holdAll_nil_iff]
        cases before with
        | some known => simp
        | none =>
            rw [if_neg (by simp), Except.bind_eq_ok_iff]
            constructor
            · rintro ⟨value, read, equal⟩
              cases equal
              exact ⟨⟨rfl, value, read, rfl⟩, rfl⟩
            · rintro ⟨⟨-, value, read, rfl⟩, rfl⟩
              exact ⟨value, read, rfl⟩
      · rw [holds_cons_of_ne same, holds_of_notMem (by simp), if_neg same,
          ← ih distinct.2, Except.bind_eq_ok_iff]
        constructor
        · rintro ⟨more, added, equal⟩
          cases equal
          exact ⟨rfl, added⟩
        · rintro ⟨rfl, added⟩
          exact ⟨othersAfter, added, rfl⟩

/-- The first member and the others, of other names, are added one after the
other. -/
theorem holdAll_cons_iff {fields : List Field} {name : String} {value : Json}
    {members : List (String × Json)} (absent : name ∉ members.map Prod.fst)
    {before after : PartialRow fields} :
    HoldAll ((name, value) :: members) fields before after ↔
      ∃ between, HoldAll [(name, value)] fields before between ∧
        HoldAll members fields between after := by
  induction fields with
  | nil => exact iff_of_true trivial ⟨(), trivial, trivial⟩
  | cons field rest ih =>
      obtain ⟨known, others⟩ := before
      obtain ⟨held, othersAfter⟩ := after
      simp only [HoldAll, Prod.exists, ih]
      by_cases same : field.name = name
      · simp only [holds_cons_of_eq same, holds_of_notMem (same ▸ absent)]
        constructor
        · rintro ⟨added, between, first, second⟩
          exact ⟨held, between, ⟨added, first⟩, rfl, second⟩
        · rintro ⟨_, between, ⟨added, first⟩, rfl, second⟩
          exact ⟨added, between, first, second⟩
      · have nothing {after : Option field.shape.Carrier} :
            Holds field [] known after ↔ after = known :=
          holds_of_notMem (by simp)
        simp only [holds_cons_of_ne same, nothing]
        constructor
        · rintro ⟨added, between, first, second⟩
          exact ⟨known, between, ⟨rfl, first⟩, added, second⟩
        · rintro ⟨_, between, ⟨rfl, first⟩, added, second⟩
          exact ⟨added, between, first, second⟩

/-- Where names are distinct, each field holds what the object has under its
name. -/
theorem addMembers_eq_ok_iff {fields : List Field}
    (distinct : (fields.map Field.name).Nodup)
    {members : List (String × Json)} (nodup : (members.map Prod.fst).Nodup)
    {known after : PartialRow fields} :
    addMembers fields known members = .ok after ↔
      HoldAll members fields known after := by
  induction members generalizing known with
  | nil =>
      rw [addMembers, holdAll_nil_iff, Except.ok.injEq]
      exact eq_comm
  | cons member rest ih =>
      obtain ⟨name, value⟩ := member
      rw [List.map_cons, List.nodup_cons] at nodup
      simp only [addMembers, Except.bind_eq_ok_iff, ih nodup.2,
        addMember_eq_ok_iff distinct, holdAll_cons_iff nodup.1]

end PartialRow

/-- Whether a reader gives the same results for matching values. It may fail for
each of them in its own way. -/
def Transfers (read : Json → Except ε α) : Prop :=
  ∀ {left right : Json}, Matches left right →
    ∀ result, read left = .ok result ↔ read right = .ok result

theorem transfers_textOfJson : Transfers textOfJson := by
  intro left right matching result
  cases matching.parts with
  | string => exact Iff.rfl
  | null | bool | number | array | object => simp [textOfJson]

theorem Transfers.mapM {read : Json → Except ε α} (transfers : Transfers read)
    {left right : List Json} (items : List.Forall₂ Matches left right)
    (results : List α) :
    left.mapM read = .ok results ↔ right.mapM read = .ok results := by
  induction items generalizing results with
  | nil => exact Iff.rfl
  | cons first _ ih =>
      simp only [List.mapM_cons, Except.bind_eq_ok_iff, transfers first, ih]

theorem PartialRow.holdAll_congr {left right : List (String × Json)}
    (members : MatchMembers left right) {fields : List Field}
    (transfer : ∀ field ∈ fields, Transfers field.shape.ofJson)
    {before after : PartialRow fields} :
    HoldAll left fields before after ↔ HoldAll right fields before after := by
  induction fields with
  | nil => exact Iff.rfl
  | cons field rest ih =>
      rw [List.forall_mem_cons] at transfer
      obtain ⟨known, others⟩ := before
      obtain ⟨held, othersAfter⟩ := after
      rw [HoldAll, HoldAll, ih transfer.2]
      apply and_congr_left'
      unfold Holds
      rcases members.lookup field.name with
        ⟨absent, alsoAbsent⟩ | ⟨value, other, found, alsoFound, matching⟩
      · rw [absent, alsoAbsent]
      · simp only [found, alsoFound, transfer.1 matching]

theorem Transfers.map {read : Json → Except ε α} (transfers : Transfers read)
    (build : α → β) : Transfers fun value => (read value).map build := by
  have mapped (value : Json) (result : β) :
      (read value).map build = .ok result ↔
        ∃ found, read value = .ok found ∧ build found = result := by
    cases read value with
    | error fault => simp [Except.map]
    | ok found => simp [Except.map]
  intro left right matching result
  simp only [mapped, transfers matching]

namespace RecordShape

variable (record : RecordShape)

theorem rowOfItems_cons_eq_ok_iff {field : Field} {rest : List Field}
    {taken : Nat} {item : Json} {items behind : List Json}
    {first : field.shape.Carrier} {more : Row rest} :
    record.rowOfItems (field :: rest) taken (item :: items) =
        .ok ((first, more), behind) ↔
      field.shape.ofJson item = .ok first ∧
        record.rowOfItems rest (taken + 1) items = .ok (more, behind) := by
  simp only [rowOfItems, Except.bind_eq_ok_iff]
  constructor
  · rintro ⟨held, read, ⟨others, left⟩, readOthers, equal⟩
    cases equal
    exact ⟨read, readOthers⟩
  · rintro ⟨read, readOthers⟩
    exact ⟨first, read, (more, behind), readOthers, rfl⟩

theorem rowOfItems_congr {fields : List Field}
    (transfer : ∀ field ∈ fields, Transfers field.shape.ofJson)
    {left right : List Json} (items : List.Forall₂ Matches left right)
    (taken : Nat) (row : Row fields) :
    record.rowOfItems fields taken left = .ok (row, []) ↔
      record.rowOfItems fields taken right = .ok (row, []) := by
  induction fields generalizing left right taken with
  | nil =>
      cases items with
      | nil => exact Iff.rfl
      | cons => simp [rowOfItems]
  | cons field rest ih =>
      rw [List.forall_mem_cons] at transfer
      cases items with
      | nil => exact Iff.rfl
      | cons matching others =>
          obtain ⟨first, more⟩ := row
          rw [rowOfItems_cons_eq_ok_iff, rowOfItems_cons_eq_ok_iff,
            transfer.1 matching, ih transfer.2 others]

theorem ofJson_array_eq_ok_iff {items : List Json} {row : Row record.fields} :
    record.ofJson (.array items) = .ok row ↔
      record.rowOfItems record.fields 0 items = .ok (row, []) := by
  rw [ofJson, Except.bind_eq_ok_iff]
  constructor
  · rintro ⟨⟨found, behind⟩, read, complete⟩
    cases behind with
    | nil =>
        cases complete
        exact read
    | cons => cases complete
  · intro read
    exact ⟨(row, []), read, rfl⟩

/-- Matching values are read as the same record. -/
theorem transfers_ofJson
    (distinct : (record.fields.map Field.name).Nodup)
    (transfer : ∀ field ∈ record.fields, Transfers field.shape.ofJson) :
    Transfers record.ofJson := by
  intro left right matching row
  cases matching.parts with
  | array items =>
      rw [ofJson_array_eq_ok_iff, ofJson_array_eq_ok_iff,
        rowOfItems_congr record transfer items]
  | object members =>
      have otherNodup := members.names_perm.nodup_iff.mp members.nodup
      simp only [ofJson, Except.bind_eq_ok_iff,
        PartialRow.addMembers_eq_ok_iff distinct members.nodup,
        PartialRow.addMembers_eq_ok_iff distinct otherNodup,
        PartialRow.holdAll_congr members transfer]
  | null | bool | number | string => simp [ofJson]

end RecordShape

theorem Variable.transfers_ofJson : Transfers Variable.saved.ofJson := by
  apply Transfers.map
  apply RecordShape.transfers_ofJson
  · decide
  · intro field member
    simp only [Variable.shape, List.mem_cons, List.not_mem_nil, or_false]
      at member
    rcases member with rfl | rfl
    · exact transfers_textOfJson
    · exact transfers_textOfJson

end AggregateRules
