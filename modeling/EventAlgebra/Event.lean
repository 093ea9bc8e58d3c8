import EventAlgebra.Error
import EventAlgebra.Form.Basic
import EventAlgebra.Json.Held
import EventAlgebra.Json.Parser
import EventAlgebra.Json.Printer
import EventAlgebra.Schema

/-!
# Saved events

A saved event has a name, a schema, and perhaps its algebra, the form it was compiled from, and
the date on which it was saved. Blank algebra counts as none. Events are read from JSON and
written as JSON; the form is kept as a JSON value in normal form, and is read when it is needed.
-/

set_option autoImplicit false

namespace EventAlgebra

open Text

/-- A named event of a library. -/
structure Event where
  name : String
  schema : List SchemaField
  definition : Option String
  state : Option Json
  date : Option String

namespace SchemaField

/-- Read a schema field. The id must be given. -/
def ofJson? (value : Json) : Option SchemaField := do
  let fields ← value.fields? ["id", "label"]
  match fields with
  | [id, label] => return { id := ← Json.requiredField Json.string? id
                            label := ← Json.textField label }
  | _ => none

/-- Write a schema field. -/
def toJson (field : SchemaField) : Json :=
  .object [("id", .string field.id), ("label", .string field.label)]

end SchemaField

namespace Event

/-- An event without algebra. -/
def stub (name : String) (schema : List SchemaField) : Event :=
  ⟨name, schema, none, none, none⟩

/-- An event with algebra. -/
def withAlgebra (name : String) (schema : List SchemaField) (algebra : String) : Event :=
  ⟨name, schema, some algebra, none, none⟩

/-- The algebra of an event, unless it is blank. -/
def algebra? (event : Event) : Option String :=
  event.definition.filter (trim · ≠ "")

/-- Read an event that stands inside `outer` containers. The name must be given. -/
def ofJson? (outer : Nat) (value : Json) : Option Event := do
  let fields ← value.fields? ["name", "outputSchema", "logicDefinition", "uiState", "date"]
  match fields with
  | [name, schema, definition, state, date] =>
    return { name := ← Json.requiredField Json.string? name
             schema := ← Json.listField SchemaField.ofJson? schema
             definition := ← Json.optionalField Json.string? definition
             state := ← Json.optionalField (Json.held? (outer + 1)) state
             date := ← Json.optionalField Json.string? date }
  | _ => none

/-- An optional member of an object. -/
def member? (key : String) (value : Option Json) : List (String × Json) :=
  value.toList.map fun value => (key, value)

/-- Write an event. What is absent is left out. -/
def toJson (event : Event) : Json :=
  .object ([
    ("name", .string event.name),
    ("outputSchema", .array (event.schema.map SchemaField.toJson))] ++
    member? "logicDefinition" (event.definition.map .string) ++
    member? "uiState" event.state ++
    member? "date" (event.date.map .string))

/-- The form that an event was compiled from, under the name of the event. -/
def form? (event : Event) : Except Error (Option Form) :=
  match event.state with
  | none => .ok none
  | some state =>
    match Form.ofJson? state with
    | none => .error (.formMalformed event.name)
    | some form => .ok (some { form with name := event.name })

/-! ## Exchange -/

/-- Read an event from the text in which it was exported. It must have a name and algebra. -/
def ofExport (text : String) : Except Error Event :=
  match (Json.parse? text).bind (ofJson? 0) with
  | none => .error .importMalformed
  | some event =>
    if trim event.name = "" then .error .importUnnamed
    else if event.algebra?.isNone then .error (.importWithoutAlgebra event.name)
    else .ok event

/-- The text in which an event is exported. -/
def toExport (event : Event) : String :=
  event.toJson.pretty

end Event

/-- Read the form of a request document. -/
def Form.ofDocument (text : String) : Except Error Form :=
  match (Json.parse? text).bind Form.ofJson? with
  | none => .error .requestMalformed
  | some form => .ok form

end EventAlgebra
