import EventAlgebra.Schema

/-!
# Operands and filters

An operand is an atomic predicate or a reference to a saved event, with filters on its fields.
`orderFilters` puts filters on schema fields first, in the order of the schema, and the others
after them in the order given.
-/

set_option autoImplicit false

namespace EventAlgebra

/-- A demand that a field have a value. -/
structure Filter where
  field : String
  value : String
deriving DecidableEq, Repr

/-- The condition that a filter states. -/
def Filter.render (filter : Filter) : String :=
  filter.field ++ "=\"" ++ filter.value ++ "\""

/-- What an operand ranges over. -/
inductive Target where
  /-- The occurrences of a predicate. -/
  | atomic (predicate : String)
  /-- The occurrences of a saved event. -/
  | saved (name : String)
deriving DecidableEq, Repr

/-- One side of a temporal relation. -/
structure Operand where
  target : Target
  filters : List Filter
deriving DecidableEq, Repr

/-- Filters on schema fields by the order of the schema, then the others. Filters on one field
keep their order. -/
def orderFilters (schema : List SchemaField) (filters : List Filter) : List Filter :=
  schema.flatMap (fun field => filters.filter (·.field = field.id)) ++
    filters.filter (fun filter => !schema.any (·.id = filter.field))

/-- The conditions that filters state, in the order of the schema. -/
def conditions (schema : List SchemaField) (filters : List Filter) : List String :=
  (orderFilters schema filters).map Filter.render

end EventAlgebra
