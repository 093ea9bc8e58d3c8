import EventAlgebra.Layout
import EventAlgebra.Leaf.Renumber
import EventAlgebra.Library
import EventAlgebra.Operand

/-!
# Resolving operands

An operand, resolved at a leaf index, becomes a fragment of algebra that uses a number of leaf
slots from that index on. A predicate becomes a selection on one leaf. A saved event is spliced
in: its algebra, with every leaf moved behind the slots already used. A reference that cannot be
expanded stays a call on one leaf. Nothing here fails; conditions worth reporting are issues.
-/

set_option autoImplicit false

namespace EventAlgebra

/-- A condition met and recovered from while resolving a saved event. -/
inductive Issue where
  /-- There is no saved event of this name. -/
  | notFound (name : String)
  /-- The event has no algebra. -/
  | noAlgebra (name : String)
  /-- The event declares no schema. -/
  | noSchema (name : String)
  /-- The algebra of the event uses a leaf beyond the limit. -/
  | leafBeyondLimit (name : String) (index : Nat)
  /-- The algebra of the event has no leaf. -/
  | noLeaf (name : String)
deriving DecidableEq, Repr

namespace Issue

/-- The event that an issue is about. -/
def name : Issue → String
  | notFound name => name
  | noAlgebra name => name
  | noSchema name => name
  | leafBeyondLimit name _ => name
  | noLeaf name => name

/-- The class of an issue. -/
def tag : Issue → String
  | notFound _ => "unresolvable_reference"
  | noAlgebra _ => "degenerate_schema"
  | noSchema _ => "degenerate_schema"
  | leafBeyondLimit _ _ => "malformed_stored_algebra"
  | noLeaf _ => "malformed_stored_algebra"

/-- What is said of the event, beyond the class of the issue. -/
def detail? : Issue → Option String
  | notFound _ => none
  | noAlgebra _ => some "has no stored algebra, emitted as an opaque call"
  | noSchema _ => some "declares no output schema, assuming arg1, arg2"
  | leafBeyondLimit _ index =>
    some ("uses leaf index " ++ toString index ++ " (limit " ++ toString leafLimit ++
      "), emitted as an opaque call")
  | noLeaf _ => some "has no positional leaves, assuming one"

/-- The wording of an issue. -/
def describe (issue : Issue) : String :=
  match issue with
  | notFound name => "saved event '" ++ name ++ "' not found, emitted as an opaque call"
  | noAlgebra name => "saved event '" ++ name ++ "' " ++ issue.detail?.getD ""
  | noSchema name => "saved event '" ++ name ++ "' " ++ issue.detail?.getD ""
  | leafBeyondLimit name _ => "stored algebra of '" ++ name ++ "' " ++ issue.detail?.getD ""
  | noLeaf name => "stored algebra of '" ++ name ++ "' " ++ issue.detail?.getD ""

/-- Write an issue. -/
def toJson (issue : Issue) : Json :=
  .object ([("kind", .string issue.tag), ("name", .string issue.name)] ++
    Event.member? "detail" (issue.detail?.map .string))

end Issue

/-- Where a fragment comes from. -/
inductive Origin where
  /-- A selection on a single leaf. -/
  | atomic
  /-- A saved event, spliced in. -/
  | inlined
  /-- The saved version of the event that is being defined. -/
  | priorVersion
  /-- A call that is not expanded. -/
  | unexpanded
deriving DecidableEq, Repr

/-- A resolved operand. -/
structure Resolved where
  fragment : String
  /-- The number of leaf slots used. -/
  slots : Nat
  origin : Origin
  issues : List Issue
  /-- The messages for the issues, and one for filters that were dropped. -/
  warnings : List String
deriving DecidableEq, Repr

namespace Resolved

/-- A selection on one leaf. -/
def selection (predicate : String) (filters : List Filter) (start : Nat) : Resolved where
  fragment := Layout.selection
    (("pred=\"" ++ predicate ++ "\"") :: conditions defaultSchema filters) (leafName start)
  slots := 1
  origin := .atomic
  issues := []
  warnings := []

/-- A call on one leaf. Filters cannot be applied to it. -/
def call (name : String) (filters : List Filter) (start : Nat) (issues : List Issue) :
    Resolved where
  fragment := Layout.call name (leafName start)
  slots := 1
  origin := .unexpanded
  issues := issues
  warnings := issues.map Issue.describe ++
    if filters.isEmpty then [] else ["filters on '" ++ name ++ "' dropped, it cannot be expanded"]

/-- Algebra moved to a start index, under the conditions of the filters. -/
def splice (algebra : String) (schema : List SchemaField) (filters : List Filter) (start : Nat)
    (slots : Nat) (origin : Origin) (issues : List Issue) : Resolved where
  fragment := Layout.grouped (conditions schema filters) (shift algebra (start - 1))
  slots := slots
  origin := origin
  issues := issues
  warnings := issues.map Issue.describe

end Resolved

/-- Resolve an event with its algebra at a start index. -/
def Event.resolve (event : Event) (algebra name : String) (filters : List Filter) (start : Nat)
    (origin : Origin) : Resolved :=
  let declared := !event.schema.isEmpty
  let schema := if declared then event.schema else defaultSchema
  let issues : List Issue := if declared then [] else [.noSchema name]
  match maxLeaf? algebra with
  | none => .splice algebra schema filters start 1 origin (issues ++ [.noLeaf name])
  | some largest =>
    if leafLimit < largest then .call name filters start (issues ++ [.leafBeyondLimit name largest])
    else .splice algebra schema filters start largest origin issues

/-- Resolve a reference to a saved event at a start index, while defining an event. -/
def Library.resolveSaved (library : Library) (definition name : String) (filters : List Filter)
    (start : Nat) : Resolved :=
  match library.get? name with
  | none => .call name filters start [.notFound name]
  | some event =>
    match event.algebra? with
    | none => .call name filters start [.noAlgebra name]
    | some algebra =>
      event.resolve algebra name filters start
        (if name = definition then .priorVersion else .inlined)

/-- Resolve an operand at a start index, while defining an event. -/
def Library.resolve (library : Library) (definition : String) (operand : Operand) (start : Nat) :
    Resolved :=
  match operand.target with
  | .atomic predicate => .selection predicate operand.filters start
  | .saved name => library.resolveSaved definition name operand.filters start

end EventAlgebra
