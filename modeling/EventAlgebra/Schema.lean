import EventAlgebra.Text.Join

/-!
# Schemas and signatures

A schema lists the public fields of an event. A signature lists the columns, with their types,
that the stored procedure of an event returns.
-/

set_option autoImplicit false

namespace EventAlgebra

open Text

/-- One public field of an event. -/
structure SchemaField where
  id : String
  label : String
deriving DecidableEq, Repr

/-- The schema of atomic predicates, and of events that declare none. -/
def defaultSchema : List SchemaField :=
  [⟨"arg1", "Arg1"⟩, ⟨"arg2", "Arg2"⟩]

/-- The type of a returned column. -/
inductive ColumnType where
  | varchar
  | integer
deriving DecidableEq, Repr

/-- The name of a column type. -/
def ColumnType.render : ColumnType → String
  | varchar => "varchar"
  | integer => "integer"

/-- One column of the table that a procedure returns. -/
structure Column where
  name : String
  type : ColumnType
deriving DecidableEq, Repr

/-- A column as it stands in the declaration of a table. -/
def Column.render (column : Column) : String :=
  column.name ++ " " ++ column.type.render

/-- The columns of a signature, as they stand in the declaration of a table. -/
def renderSignature (columns : List Column) : String :=
  joinWith ", " (columns.map Column.render)

end EventAlgebra
