/-!
# Maps that keep the order of their keys

An ordered map holds one value for each of its keys and remembers in which
order the keys came in. A value that is put under a key a second time takes the
place of the first one. The mapping of an event and the members of an object in
a text are built this way.
-/

namespace AggregateRules

/-- Puts a value under a key: in the place of that key if it is there, and at
the end otherwise. -/
def putEntry (key : String) (value : α) : List (String × α) → List (String × α)
  | [] => [(key, value)]
  | (other, held) :: rest =>
      if other = key then (key, value) :: rest
      else (other, held) :: putEntry key value rest

theorem map_fst_putEntry (key : String) (value : α)
    (entries : List (String × α)) :
    (putEntry key value entries).map Prod.fst =
      if key ∈ entries.map Prod.fst then entries.map Prod.fst
      else entries.map Prod.fst ++ [key] := by
  induction entries with
  | nil => simp [putEntry]
  | cons entry rest ih =>
      obtain ⟨other, held⟩ := entry
      by_cases same : other = key
      · simp [putEntry, same]
      · have different : ¬ key = other := fun equal => same equal.symm
        simp only [putEntry, if_neg same, List.map_cons, ih, List.mem_cons,
          different, false_or]
        split <;> simp

theorem nodup_map_fst_putEntry {key : String} {value : α}
    {entries : List (String × α)}
    (nodup : (entries.map Prod.fst).Nodup) :
    ((putEntry key value entries).map Prod.fst).Nodup := by
  rw [map_fst_putEntry]
  split
  · exact nodup
  · next absent =>
      rw [List.nodup_append]
      refine ⟨nodup, by simp, ?_⟩
      intro other member last isLast equal
      rw [List.mem_singleton] at isLast
      exact absent (isLast ▸ equal ▸ member)

/-- A key that is not there yet goes to the end. -/
theorem putEntry_of_notMem {key : String} {value : α}
    {entries : List (String × α)}
    (absent : key ∉ entries.map Prod.fst) :
    putEntry key value entries = entries ++ [(key, value)] := by
  induction entries with
  | nil => rfl
  | cons entry rest ih =>
      obtain ⟨other, held⟩ := entry
      simp only [List.map_cons, List.mem_cons, not_or] at absent
      rw [putEntry, if_neg fun equal => absent.1 equal.symm, ih absent.2,
        List.cons_append]

theorem lookup_cons_eq_ite (key : String) (value : α)
    (entries : List (String × α)) (wanted : String) :
    ((key, value) :: entries).lookup wanted =
      if key = wanted then some value else entries.lookup wanted := by
  rw [List.lookup_cons]
  by_cases found : key = wanted
  · simp [found]
  · have apart : (wanted == key) = false := beq_false_of_ne (Ne.symm found)
    simp [found, apart]

/-- Only what is held under the key itself changes. -/
theorem lookup_putEntry (key : String) (value : α)
    (entries : List (String × α)) (wanted : String) :
    (putEntry key value entries).lookup wanted =
      if key = wanted then some value else entries.lookup wanted := by
  induction entries with
  | nil => exact lookup_cons_eq_ite key value [] wanted
  | cons entry rest ih =>
      obtain ⟨other, held⟩ := entry
      rw [putEntry]
      split
      · next same =>
          rw [lookup_cons_eq_ite, lookup_cons_eq_ite, same]
          split <;> rfl
      · next different =>
          rw [lookup_cons_eq_ite, lookup_cons_eq_ite, ih]
          by_cases found : key = wanted
          · have apart : other ≠ wanted := found ▸ different
            simp only [if_pos found, if_neg apart]
          · simp only [if_neg found]

theorem mem_putEntry {key : String} {value : α} {entries : List (String × α)}
    {entry : String × α} (member : entry ∈ putEntry key value entries) :
    entry = (key, value) ∨ entry ∈ entries := by
  induction entries with
  | nil => exact .inl (List.mem_singleton.mp member)
  | cons first rest ih =>
      obtain ⟨other, held⟩ := first
      rw [putEntry] at member
      split at member
      · rcases List.mem_cons.mp member with isNew | isOld
        · exact .inl isNew
        · exact .inr (List.mem_cons_of_mem _ isOld)
      · rcases List.mem_cons.mp member with isFirst | further
        · exact .inr (isFirst ▸ List.mem_cons_self)
        · exact (ih further).imp_right (List.mem_cons_of_mem _)

/-- Entries under distinct keys, in the order in which the keys were first put.
-/
structure OrderedMap (α : Type) where
  entries : List (String × α)
  nodup_keys : (entries.map Prod.fst).Nodup
  deriving DecidableEq

namespace OrderedMap

def empty : OrderedMap α :=
  ⟨[], List.nodup_nil⟩

def put (key : String) (value : α) (map : OrderedMap α) : OrderedMap α :=
  ⟨putEntry key value map.entries, nodup_map_fst_putEntry map.nodup_keys⟩

/-- Puts all entries of a list in its order. -/
def ofList (entries : List (String × α)) : OrderedMap α :=
  entries.foldl (fun map entry => map.put entry.1 entry.2) empty

def get? (map : OrderedMap α) (key : String) : Option α :=
  map.entries.lookup key

/-- How many keys a map has. -/
def length (map : OrderedMap α) : Nat :=
  map.entries.length

theorem get?_put (key : String) (value : α) (map : OrderedMap α)
    (wanted : String) :
    (map.put key value).get? wanted =
      if key = wanted then some value else map.get? wanted :=
  lookup_putEntry key value map.entries wanted

/-- Whether two maps have the same keys with the same values, in whatever
order. -/
def sameEntries [BEq α] (left right : OrderedMap α) : Bool :=
  left.entries.length == right.entries.length &&
    left.entries.all fun entry => right.get? entry.1 == some entry.2

theorem entries_foldl_put (map : OrderedMap α) (more : List (String × α))
    (nodup : ((map.entries ++ more).map Prod.fst).Nodup) :
    (more.foldl (fun map entry => map.put entry.1 entry.2) map).entries =
      map.entries ++ more := by
  induction more generalizing map with
  | nil => simp
  | cons entry rest ih =>
      have absent : entry.1 ∉ map.entries.map Prod.fst := by
        intro member
        simp only [List.map_append, List.map_cons] at nodup
        exact (List.nodup_append.mp nodup).2.2 _ member _ List.mem_cons_self rfl
      have appended :
          (map.put entry.1 entry.2).entries = map.entries ++ [entry] :=
        putEntry_of_notMem absent
      rw [List.foldl_cons, ih, appended, List.append_assoc,
        List.singleton_append]
      rw [appended, List.append_assoc, List.singleton_append]
      exact nodup

/-- Entries under distinct keys are kept as they are. -/
theorem entries_ofList {entries : List (String × α)}
    (nodup : (entries.map Prod.fst).Nodup) :
    (ofList entries).entries = entries :=
  entries_foldl_put empty entries nodup

/-- A map is built anew from its own entries. -/
theorem ofList_entries (map : OrderedMap α) : ofList map.entries = map := by
  obtain ⟨entries, nodup⟩ := map
  have same := entries_ofList nodup
  cases built : ofList entries
  rw [built] at same
  cases same
  rfl

end OrderedMap

end AggregateRules
