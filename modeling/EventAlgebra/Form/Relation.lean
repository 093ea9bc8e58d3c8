import EventAlgebra.Json.Record
import EventAlgebra.Relation

/-!
# Relation forms

The relation block of a request form holds the inputs of both kinds of relation; only those of the
selected kind are read.
-/

set_option autoImplicit false

namespace EventAlgebra

open Text

/-- The relation block as it was filled in. -/
structure RelationForm where
  kind : String
  order : String
  gap : String
  overlap : String
  start : String
  finish : String
deriving DecidableEq, Repr

namespace RelationForm

/-- A block left empty. -/
def blank : RelationForm := ⟨"", "", "", "", "", ""⟩

/-- Read an order. A blank order is `before`. -/
def readOrder (input : String) : Except Fault Order :=
  match trim input with
  | "" => .ok .before
  | "before" => .ok .before
  | "after" => .ok .after
  | other => .error (.orderUnknown other)

/-- Read a kind of overlap. -/
def readOverlap (input : String) : Except Fault Overlap :=
  match Overlap.ofTag? (trim input) with
  | some overlap => .ok overlap
  | none => .error (.overlapUnknown (trim input))

/-- The sequential relation that a block describes. -/
def sequential (form : RelationForm) : Except Fault Relation := do
  let order ← readOrder form.order
  let gap ← Bound.read form.gap
  return .sequential order gap

/-- The overlap that a block describes. -/
def overlapping (form : RelationForm) : Except Fault Relation := do
  let overlap ← readOverlap form.overlap
  let start ← Bound.read form.start
  let finish ← Bound.read form.finish
  return .overlap overlap start finish

/-- The relation that a block describes. -/
def validate (form : RelationForm) : Except Fault Relation :=
  match trim form.kind with
  | "sequential" => form.sequential
  | "overlapping" => form.overlapping
  | "overlap" => form.overlapping
  | "" => .error .relationMissing
  | other => .error (.relationUnknown other)

/-- Read a block. -/
def ofJson? (value : Json) : Option RelationForm := do
  let fields ← value.fields? ["type", "seqOrder", "seqGap", "overlapType", "delta", "epsilon"]
  match fields with
  | [kind, order, gap, overlap, start, finish] =>
    return { kind := ← Json.textField kind
             order := ← Json.textField order
             gap := ← Json.textField gap
             overlap := ← Json.textField overlap
             start := ← Json.textField start
             finish := ← Json.textField finish }
  | _ => none

/-- Write a block. -/
def toJson (form : RelationForm) : Json :=
  .object [
    ("type", .string form.kind),
    ("seqOrder", .string form.order),
    ("seqGap", .string form.gap),
    ("overlapType", .string form.overlap),
    ("delta", .string form.start),
    ("epsilon", .string form.finish)]

end RelationForm

end EventAlgebra
