import EventAlgebra.Request
import EventAlgebra.Resolution

/-!
# Compiling requests

A request is compiled against a library. A counter of 64 bits starts at leaf 1 and is moved on by
the slots of each operand. The first operand is resolved at leaf 1 and the second right behind the
slots of the first; the clauses are moved to these starts; the parts are set in the layout of the
request and wrapped in a stored procedure. Compiling always succeeds.
-/

set_option autoImplicit false

namespace EventAlgebra

open Text

/-- A compiled event. -/
structure Compiled where
  name : String
  /-- The algebra of the event. -/
  expression : String
  signature : List Column
  schema : List SchemaField
  /-- The stored procedure. -/
  procedure : String
  /-- The leaf index at which the second operand starts. -/
  secondStart : Nat
  /-- The leaf slots of both operands. -/
  leaves : Nat
  issues : List Issue
  warnings : List String
deriving DecidableEq, Repr

/-- The expression of a request whose operands are resolved. -/
def Request.expression (request : Request) (starts : Starts) (clause first second : String) :
    String :=
  let predicate := Constraint.predicate (request.constraints.map (Constraint.remap starts))
  if request.exclusion then Layout.exclusion clause predicate first second
  else Layout.relational clause predicate first request.relation.render second

/-- The leaf counter moved on by the slots of an operand. It stops at the largest index. -/
def Resolved.advance (resolved : Resolved) (counter : Nat) : Nat :=
  min (counter + resolved.slots) largestNat64

/-- Compile a request, naming columns by a policy. -/
def Library.compile (library : Library) (naming : Naming) (request : Request) : Compiled :=
  let first := library.resolve request.name request.first 1
  let starts : Starts := ⟨1, first.advance 1⟩
  let second := library.resolve request.name request.second starts.second
  let output := (request.projection.remap starts).output naming
  let expression := request.expression starts output.clause first.fragment second.fragment
  { name := request.name
    expression := expression
    signature := output.signature
    schema := output.schema
    procedure := Layout.procedure request.name (renderSignature output.signature) expression
    secondStart := starts.second
    leaves := second.advance starts.second - 1
    issues := first.issues ++ second.issues
    warnings := first.warnings ++ second.warnings }

namespace Compiled

/-- A column of the signature. -/
def columnToJson (column : Column) : Json :=
  .object [("alias", .string column.name), ("sql_type", .string column.type.render)]

/-- Write a compiled event. Issues are left out when there are none. -/
def toJson (compiled : Compiled) : Json :=
  .object ([
    ("name", .string compiled.name),
    ("expression", .string compiled.expression),
    ("signature", .array (compiled.signature.map columnToJson)),
    ("output_schema", .array (compiled.schema.map SchemaField.toJson)),
    ("procedure", .string compiled.procedure),
    ("op2_start", .number (.integer compiled.secondStart)),
    ("leaves", .number (.integer compiled.leaves))] ++
    if compiled.issues.isEmpty then []
    else [("issues", .array (compiled.issues.map Issue.toJson))])

/-- The event in which a compiled definition is saved. The form is kept without its name, since
the event has one. -/
def toEvent (compiled : Compiled) (form : Form) (date : String) : Event where
  name := compiled.name
  schema := compiled.schema
  definition := some (trim compiled.expression)
  state := some (Json.normal { form with name := "" }.toJson)
  date := some date

end Compiled

end EventAlgebra
