import AggregateRules.Block.Line
import AggregateRules.OrderedMap

/-!
# Objects of the generated language

An object has properties of its own and a prototype. Writing the name
`__proto__` in an assignment, or as a key of a literal that is not in brackets,
sets the prototype and gives the object no property.

Code that fills an object is run here with an evaluator that may read the
variables, may fail, and may depend on what was evaluated before, but does not
write to the object with the variables. Assignments to distinct names other than
`__proto__` build an object with just these properties, see
`buildsPlain_variables`, and so do entries under distinct names with the keys of
generated code, see `buildsPlain_fields`.
-/

namespace AggregateRules.Script

/-- The name that stands for the prototype. -/
def prototypeName : String := "__proto__"

/-- An object. Its prototype is given once it was set. -/
structure Object (Value : Type) where
  prototype : Option Value
  own : List (String × Value)

/-- How a literal names a property: `name`, `"name"`, or `["name"]`. -/
inductive Key where
  | bare (name : String)
  | quoted (name : String)
  | computed (name : String)
  deriving DecidableEq

namespace Object

variable {Value : Type}

/-- An object with some properties whose prototype was never set. -/
def plain (own : List (String × Value)) : Object Value :=
  ⟨none, own⟩

def setPrototype (value : Value) (object : Object Value) : Object Value :=
  { object with prototype := some value }

def setOwn (name : String) (value : Value) (object : Object Value) :
    Object Value :=
  { object with own := putEntry name value object.own }

/-- What `object.name = value` and `object["name"] = value` do. -/
def assign (name : String) (value : Value) (object : Object Value) :
    Object Value :=
  if name = prototypeName then object.setPrototype value
  else object.setOwn name value

/-- What an entry of a literal does. -/
def define (key : Key) (value : Value) (object : Object Value) :
    Object Value :=
  match key with
  | .bare name | .quoted name =>
      if name = prototypeName then object.setPrototype value
      else object.setOwn name value
  | .computed name => object.setOwn name value

theorem setOwn_plain {name : String} (value : Value)
    {own : List (String × Value)} (fresh : name ∉ own.map Prod.fst) :
    (plain own).setOwn name value = plain (own ++ [(name, value)]) := by
  unfold setOwn plain
  rw [putEntry_of_notMem fresh]

end Object

/-- The key that generated code writes a field with. -/
def Key.ofField (name : String) : Key :=
  if name = prototypeKey then .computed name
  else if isIdentifier name then .bare name
  else .quoted name

/-- A field is a property whatever its name is. -/
theorem Object.define_ofField (name : String) (value : Value)
    (object : Object Value) :
    object.define (.ofField name) value = object.setOwn name value := by
  unfold Key.ofField
  split
  · rfl
  · next notPrototype =>
      have ordinary : name ≠ prototypeName := notPrototype
      split
      · exact if_neg ordinary
      · exact if_neg ordinary

/-- An evaluator of expressions that only reads the object with the variables.
It gives no value where it fails. -/
abbrev Reader (Value State : Type) :=
  Expression → Object Value → State → Option (Value × State)

section

variable {Value State : Type} (evaluate : Reader Value State)

/-- Evaluates expressions one after the other and writes each value to an
object. The evaluator sees the variables, which may be the object itself. -/
def runWrites (environment : Object Value → Object Value)
    (write : Place → Value → Object Value → Object Value) :
    List (Place × Expression) → Object Value → State →
      Option (Object Value × State)
  | [], object, state => some (object, state)
  | (place, expression) :: rest, object, state => do
      let (value, state) ← evaluate expression (environment object) state
      runWrites environment write rest (write place value object) state

/-- Assigns to properties of the object with the variables, which is empty at
first. -/
def runAssignments (assignments : List (String × Expression)) (state : State) :
    Option (Object Value × State) :=
  runWrites evaluate id (fun name value object => object.assign name value)
    assignments (.plain []) state

/-- Builds the object of a literal. -/
def runLiteral (environment : Object Value) (entries : List (Key × Expression))
    (state : State) : Option (Object Value × State) :=
  runWrites evaluate (fun _ => environment)
    (fun key value object => object.define key value)
    entries (.plain []) state

/-- The values of some expressions under their names, behind the properties that
an object has already. -/
def propertyValues (environment : Object Value → Object Value) :
    List (String × Expression) → List (String × Value) → State →
      Option (List (String × Value) × State)
  | [], own, state => some (own, state)
  | (name, expression) :: rest, own, state => do
      let (value, state) ← evaluate expression (environment (.plain own)) state
      propertyValues environment rest (own ++ [(name, value)]) state

/-- The variables with the values of their initializers. Each initializer is
evaluated when the variables before it are set. -/
def variableValues (declared : List Variable) (state : State) :
    Option (List (String × Value) × State) :=
  propertyValues evaluate id
    (declared.map fun entry => (entry.name, entry.initializer)) [] state

/-- The fields of an event with the values of their expressions. -/
def fieldValues (environment : Object Value)
    (fields : List (String × Expression)) (state : State) :
    Option (List (String × Value) × State) :=
  propertyValues evaluate (fun _ => environment) fields [] state

theorem map_fst_propertyValues {environment : Object Value → Object Value}
    {properties : List (String × Expression)}
    {own values : List (String × Value)} {state after : State}
    (evaluated : propertyValues evaluate environment properties own state =
      some (values, after)) :
    values.map Prod.fst = own.map Prod.fst ++ properties.map Prod.fst := by
  induction properties generalizing own state with
  | nil =>
      cases evaluated
      simp
  | cons property rest ih =>
      obtain ⟨⟨value, next⟩, -, others⟩ :=
        Option.bind_eq_some_iff.mp evaluated
      have names := ih others
      simpa [List.append_assoc] using names

/-- The object with the properties that some evaluations gave. -/
def plainResult (result : Option (List (String × Value) × State)) :
    Option (Object Value × State) :=
  result.map fun (own, state) => (.plain own, state)

/-- Writing to distinct properties adds each of them with its value. -/
theorem runWrites_plain (environment : Object Value → Object Value)
    {write : Place → Value → Object Value → Object Value}
    (place : String → Place) {properties : List (String × Expression)}
    (adds : ∀ name ∈ properties.map Prod.fst, ∀ value object,
      write (place name) value object = object.setOwn name value)
    (own : List (String × Value))
    (distinct : (own.map Prod.fst ++ properties.map Prod.fst).Nodup)
    (state : State) :
    runWrites evaluate environment write
        (properties.map fun property => (place property.1, property.2))
        (.plain own) state =
      plainResult
        (propertyValues evaluate environment properties own state) := by
  induction properties generalizing own state with
  | nil => rfl
  | cons property rest ih =>
      obtain ⟨name, expression⟩ := property
      obtain ⟨addsFirst, addsRest⟩ := List.forall_mem_cons.mp adds
      have fresh : name ∉ own.map Prod.fst := by
        intro again
        exact (List.nodup_append.mp distinct).2.2 _ again _
          List.mem_cons_self rfl
      rw [List.map_cons, runWrites, propertyValues]
      cases evaluate expression (environment (.plain own)) state with
      | none => rfl
      | some result =>
          obtain ⟨value, next⟩ := result
          have added : write (place name) value (.plain own) =
              .plain (own ++ [(name, value)]) := by
            rw [addsFirst, Object.setOwn_plain value fresh]
          have others := ih addsRest (own ++ [(name, value)])
            (by simpa [List.append_assoc] using distinct) next
          simpa [added] using others

/-- A computation that builds an object with properties of distinct names, which
hold the values that some evaluations give. The prototype is never set, and the
computation fails only if an evaluation does. -/
structure BuildsPlain (run : State → Option (Object Value × State))
    (names : List String)
    (values : State → Option (List (String × Value) × State)) : Prop where
  distinct : names.Nodup
  result : ∀ state, run state = plainResult (values state)
  named : ∀ state own after,
    values state = some (own, after) → own.map Prod.fst = names

/-- Assignments set the variables if these have distinct names and none of them
stands for the prototype. -/
theorem buildsPlain_variables {declared : List Variable}
    (unreserved : ∀ entry ∈ declared, entry.name ≠ prototypeName)
    (distinct : (declared.map Variable.name).Nodup) :
    BuildsPlain
      (runAssignments evaluate
        (declared.map fun entry => (entry.name, entry.initializer)))
      (declared.map Variable.name) (variableValues evaluate declared) := by
  have names : (declared.map fun entry =>
      (entry.name, entry.initializer)).map Prod.fst =
        declared.map Variable.name := by
    rw [List.map_map]
    rfl
  have adds : ∀ name ∈ (declared.map fun entry =>
      (entry.name, entry.initializer)).map Prod.fst, ∀ value object,
      (Object.assign name value object : Object Value) =
        object.setOwn name value := by
    intro name member value object
    rw [names] at member
    obtain ⟨entry, isDeclared, rfl⟩ := List.mem_map.mp member
    exact if_neg (unreserved entry isDeclared)
  refine ⟨distinct, ?_, ?_⟩
  · intro state
    have written := runWrites_plain evaluate id id adds []
      (by simpa [names] using distinct) state
    rw [List.map_map] at written
    exact written
  · intro state own after evaluated
    rw [map_fst_propertyValues evaluate evaluated, names]
    rfl

/-- A literal with the keys of generated code has a property for each field. -/
theorem buildsPlain_fields (environment : Object Value)
    (fields : OrderedMap Expression) :
    BuildsPlain
      (runLiteral evaluate environment
        (fields.entries.map fun field => (.ofField field.1, field.2)))
      (fields.entries.map Prod.fst)
      (fieldValues evaluate environment fields.entries) := by
  refine ⟨fields.nodup_keys, ?_, ?_⟩
  · intro state
    refine runWrites_plain evaluate _ Key.ofField ?_ []
      (by simpa using fields.nodup_keys) state
    intro name _ value object
    exact Object.define_ofField name value object
  · intro state own after evaluated
    rw [map_fst_propertyValues evaluate evaluated]
    rfl

end

end AggregateRules.Script
