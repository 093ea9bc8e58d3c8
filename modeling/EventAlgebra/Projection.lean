import EventAlgebra.Leaf.Variable
import EventAlgebra.Schema

/-!
# Projections

A projection lists the output columns of an event, each with a source and perhaps an alias, and
the sources of the interval's start and end. A column without an alias is named by a policy: after
its source, or by position with the first free `arg<n>`. `Projection.output` gives the projection
clause, the signature and the schema, which list the same columns in the same order.
-/

set_option autoImplicit false

namespace EventAlgebra

open Text

/-- One output column: its source, and its alias if one was chosen. -/
structure ProjectionField where
  source : String
  /-- The alias, if one was chosen. -/
  chosen : Option String
deriving DecidableEq, Repr

/-- The output columns of an event and the boundaries of its interval. -/
structure Projection where
  fields : List ProjectionField
  start : String
  finish : String
deriving DecidableEq, Repr

namespace Projection

/-- The start of the interval unless another is chosen: that of the first operand. -/
def defaultStart : String := "M1.sf"

/-- The end of the interval unless another is chosen: that of the second operand. -/
def defaultFinish : String := "M2.ef"

/-- No columns, and the default boundaries. -/
def boundariesOnly : Projection :=
  ⟨[], defaultStart, defaultFinish⟩

/-- Move all sources to the starts of their operands. -/
def remap (starts : Starts) (projection : Projection) : Projection where
  fields := projection.fields.map fun field =>
    { field with source := EventAlgebra.remap starts field.source }
  start := EventAlgebra.remap starts projection.start
  finish := EventAlgebra.remap starts projection.finish

end Projection

/-! ## Naming columns -/

/-- How a column without an alias is named. -/
inductive Naming where
  /-- By its source, without quotes inside, as a quoted identifier. -/
  | quoted
  /-- By position, as `arg<n>`. The names stay distinct when the event is saved. -/
  | positional
deriving DecidableEq, Repr

/-- The source of a column as a quoted identifier. -/
def quotedAlias (source : String) : String :=
  String.ofList ('"' :: (source.toList.filter (· != '"') ++ ['"']))

/-- The name of the column at a position. -/
def positionalAlias (position : Nat) : String :=
  "arg" ++ toString position

/-- The first position from the given one on whose name is not taken. Among one more candidates
than there are taken names, one is free. -/
def freePosition (taken : List String) (position : Nat) : Nat :=
  ((List.range' position (taken.length + 1)).find? fun candidate =>
    !taken.contains (positionalAlias candidate)).getD position

/-- The aliases of the columns from a position on, given the names taken so far. -/
def aliasesFrom (naming : Naming) (taken : List String) (position : Nat) :
    List ProjectionField → List String
  | [] => []
  | field :: rest =>
    match field.chosen, naming with
    | some name, _ => name :: aliasesFrom naming taken (position + 1) rest
    | none, .quoted => quotedAlias field.source :: aliasesFrom naming taken (position + 1) rest
    | none, .positional =>
      let name := positionalAlias (freePosition taken position)
      name :: aliasesFrom naming (name :: taken) (position + 1) rest

/-- The aliases of all columns. Chosen aliases are taken from the start, later ones too. -/
def aliases (naming : Naming) (fields : List ProjectionField) : List String :=
  aliasesFrom naming (fields.filterMap (·.chosen)) 1 fields

/-- A text without the double quotes around it. -/
def stripQuotes (text : String) : String :=
  let unopened := text.toList.dropWhile (· == '"')
  String.ofList (unopened.reverse.dropWhile (· == '"')).reverse

/-! ## Output -/

/-- What a projection contributes to a compiled event. -/
structure ProjectionOutput where
  /-- The projection clause. -/
  clause : String
  /-- All columns, with the two boundaries at the end. -/
  signature : List Column
  /-- The chosen columns only. -/
  schema : List SchemaField
deriving DecidableEq, Repr

/-- One column of a projection clause. -/
def renderColumn (source name : String) : String :=
  source ++ " AS " ++ name

/-- The schema field of a column under its name. The label is the alias that was chosen, else the
id. -/
def schemaField (field : ProjectionField) (name : String) : SchemaField :=
  ⟨stripQuotes name, field.chosen.getD (stripQuotes name)⟩

/-- Name the columns of a projection and write them. -/
def Projection.output (naming : Naming) (projection : Projection) : ProjectionOutput :=
  let fields := projection.fields
  let names := aliases naming fields
  { clause := joinWith ", "
      (List.zipWith (fun field name => renderColumn field.source name) fields names ++
        [renderColumn projection.start "sf", renderColumn projection.finish "ef"])
    signature := names.map (Column.mk · .varchar) ++ [⟨"sf", .integer⟩, ⟨"ef", .integer⟩]
    schema := List.zipWith schemaField fields names }

end EventAlgebra
