import AggregateRules.Json.Reader.Value
import AggregateRules.Proofs.Json.Same

/-!
# Values that are read from texts

The loops over items and members keep what one turn of them keeps. So wherever
an object is read from a text, its members have distinct names, see
`distinct_of_value`: a name that comes again takes the place of the first one.
-/

namespace AggregateRules

theorem Except.bind_eq_ok_iff {first : Except ε α} {next : α → Except ε β}
    {result : β} :
    (first >>= next) = .ok result ↔
      ∃ value, first = .ok value ∧ next value = .ok result := by
  cases first with
  | error error => simp [bind, Except.bind]
  | ok value => simp [bind, Except.bind]

namespace Json.Reader

section Loops

variable {α σ : Type}

/-- Whether all results of a step have a property. -/
def Gives (property : α → Prop) (step : Step α) : Prop :=
  ∀ {text : List Char} {result : α} {rest : List Char},
    step text = .ok (result, rest) → property result

/-- Whether a property of what is known of an object is kept by each member. -/
def Keeps (property : σ → Prop) (member : MemberReader σ) : Prop :=
  ∀ {state : σ} {name : String}, property state →
    Gives property (member state name)

theorem gives_furtherItems {property : α → Prop} {item : Step α}
    (gives : Gives property item) (turns : Nat) :
    Gives (fun values => ∀ value ∈ values, property value)
      (furtherItems item turns) := by
  intro text values rest read
  induction turns generalizing text values rest with
  | zero => cases read
  | succ turns ih =>
      rw [furtherItems] at read
      split at read
      · cases read
      · cases read
        simp
      · split at read
        · cases read
        · cases read
        · obtain ⟨⟨value, behind⟩, first, read⟩ := Except.bind_eq_ok_iff.mp read
          obtain ⟨⟨others, after⟩, further, read⟩ :=
            Except.bind_eq_ok_iff.mp read
          cases read
          exact List.forall_mem_cons.mpr ⟨gives first, ih further⟩
      · cases read

theorem gives_items {property : α → Prop} {item : Step α}
    (gives : Gives property item) :
    Gives (fun values => ∀ value ∈ values, property value) (items item) := by
  intro text values rest read
  rw [items] at read
  split at read
  · cases read
  · cases read
    simp
  · obtain ⟨⟨value, behind⟩, first, read⟩ := Except.bind_eq_ok_iff.mp read
    obtain ⟨⟨others, after⟩, further, read⟩ := Except.bind_eq_ok_iff.mp read
    cases read
    exact List.forall_mem_cons.mpr
      ⟨gives first, gives_furtherItems gives _ further⟩

theorem gives_namedMember {property : σ → Prop} {member : MemberReader σ}
    (keeps : Keeps property member) {state : σ} (known : property state) :
    Gives property (namedMember member state) := by
  intro text extended rest read
  obtain ⟨⟨name, behind⟩, -, read⟩ := Except.bind_eq_ok_iff.mp read
  exact keeps known read

theorem gives_furtherMembers {property : σ → Prop} {member : MemberReader σ}
    (keeps : Keeps property member) (turns : Nat) {state : σ}
    (known : property state) :
    Gives property (furtherMembers member turns state) := by
  intro text result rest read
  induction turns generalizing state text with
  | zero => cases read
  | succ turns ih =>
      rw [furtherMembers] at read
      split at read
      · cases read
      · cases read
        exact known
      · split at read
        · cases read
        · cases read
        · obtain ⟨⟨extended, behind⟩, first, read⟩ :=
            Except.bind_eq_ok_iff.mp read
          exact ih (gives_namedMember keeps known first) read
        · cases read
      · cases read

theorem gives_members {property : σ → Prop} {member : MemberReader σ}
    (keeps : Keeps property member) {state : σ} (known : property state) :
    Gives property (members member state) := by
  intro text result rest read
  rw [members] at read
  split at read
  · cases read
  · cases read
    exact known
  · obtain ⟨⟨extended, behind⟩, first, read⟩ := Except.bind_eq_ok_iff.mp read
    exact gives_furtherMembers keeps _ (gives_namedMember keeps known first)
      read
  · cases read

end Loops

/-- Members under distinct names, and so at each depth. -/
def DistinctMembers (members : List (String × Json)) : Prop :=
  (members.map Prod.fst).Nodup ∧ distinctMembers members = true

theorem distinctMembers_putEntry {name : String} {value : Json}
    {members : List (String × Json)} (distinct : value.distinct = true)
    (others : distinctMembers members = true) :
    distinctMembers (putEntry name value members) = true := by
  induction members with
  | nil => simp [putEntry, distinctMembers, distinct]
  | cons member rest ih =>
      obtain ⟨other, held⟩ := member
      rw [distinctMembers, Bool.and_eq_true] at others
      rw [putEntry]
      split
      · rw [distinctMembers, Bool.and_eq_true]
        exact ⟨distinct, others.2⟩
      · rw [distinctMembers, Bool.and_eq_true]
        exact ⟨others.1, ih others.2⟩

theorem keeps_plainMember {value : Step Json}
    (gives : Gives (fun result => result.distinct = true) value) :
    Keeps DistinctMembers (plainMember value) := by
  intro held name known text result rest read
  obtain ⟨behindColon, -, read⟩ := Except.bind_eq_ok_iff.mp read
  obtain ⟨⟨member, behind⟩, isMember, read⟩ := Except.bind_eq_ok_iff.mp read
  cases read
  exact ⟨nodup_map_fst_putEntry known.1,
    distinctMembers_putEntry (gives isMember) known.2⟩

theorem distinct_of_scalar {first : Char} {rest behind : List Char}
    {value : Json} (read : textStep (scalar first rest) = .ok (value, behind)) :
    value.distinct = true := by
  have ofMap {α : Type} {part : Except TextFault α}
      {build : α → Json × List Char}
      (plain : ∀ found, (build found).1.distinct = true)
      (read : textStep (part.map build) = .ok (value, behind)) :
      value.distinct = true := by
    cases part with
    | error fault => cases read
    | ok found =>
        have built : build found = (value, behind) := Except.ok.inj read
        have distinct := plain found
        rw [built] at distinct
        exact distinct
  unfold scalar at read
  split at read
  · exact ofMap (fun found => rfl) read
  · split at read
    · exact ofMap (fun found => rfl) read
    · split at read
      · exact ofMap (fun found => rfl) read
      · split at read
        · exact ofMap (fun found => rfl) read
        · split at read
          · exact ofMap (fun found => rfl) read
          · cases read

theorem distinctItems_iff {items : List Json} :
    distinctItems items = true ↔ ∀ item ∈ items, item.distinct = true := by
  induction items with
  | nil => simp [distinctItems]
  | cons item rest ih => simp [distinctItems, ih]

/-- A value that is read has distinct names. -/
theorem distinct_of_value (depth : Nat) :
    Gives (fun result => result.distinct = true) (value depth) := by
  induction depth with
  | zero =>
      intro text result rest read
      rw [value] at read
      split at read
      · cases read
      · cases read
      · cases read
      · exact distinct_of_scalar read
  | succ inner ih =>
      intro text result rest read
      rw [value] at read
      split at read
      · cases read
      · obtain ⟨⟨values, behind⟩, items, read⟩ :=
          Except.bind_eq_ok_iff.mp read
        cases read
        exact distinctItems_iff.mpr (gives_items ih items)
      · obtain ⟨⟨held, behind⟩, members, read⟩ :=
          Except.bind_eq_ok_iff.mp read
        cases read
        have known : DistinctMembers [] := ⟨List.nodup_nil, rfl⟩
        have kept : DistinctMembers held :=
          gives_members (keeps_plainMember ih) known members
        rw [distinct, Bool.and_eq_true, decide_eq_true_eq]
        exact kept
      · exact distinct_of_scalar read

end Json.Reader

end AggregateRules
