import EventAlgebra.Text.Blank
import EventAlgebra.Text.Integer
import EventAlgebra.Text.Join
import EventAlgebra.Fault

/-!
# Temporal relations

A relation between two events is sequential (one before or after the other, with a bound on the
gap) or an overlap of one of six kinds, each with the bounds that apply to it. `Relation.render`
writes the operator, `Bound.read` reads a bound from a form.
-/

set_option autoImplicit false

namespace EventAlgebra

open Text

/-! ## Bounds -/

/-- A temporal parameter: a number of frames, kept as it was written, or no bound. -/
inductive Bound where
  | numeric (text : String)
  | unbounded
deriving DecidableEq, Repr

namespace Bound

/-- The bound of a whole number of frames. -/
def frames (count : Int) : Bound :=
  numeric (toString count)

/-- The text of a bound; an absent bound is written `d`. -/
def render : Bound → String
  | numeric text => text
  | unbounded => "d"

end Bound

/-- A text without its sign. -/
def dropSign : List Char → List Char
  | '+' :: rest => rest
  | '-' :: rest => rest
  | cs => cs

/-- A decimal number: an optional sign, digits, and optionally a dot and more digits. -/
def isDecimal (cs : List Char) : Bool :=
  let unsigned := dropSign cs
  let whole := unsigned.takeWhile (· != '.')
  match unsigned.dropWhile (· != '.') with
  | [] => isDigitRun whole
  | _ :: fraction => isDigitRun whole && isDigitRun fraction

/-- Read a bound. A blank text is no bound. -/
def Bound.read (input : String) : Except Fault Bound :=
  let text := trim input
  if text = "" then .ok unbounded
  else if isDecimal text.toList then .ok (numeric text)
  else .error (.boundMalformed text)

/-! ## Orders and overlaps -/

/-- The order of two events that do not overlap. -/
inductive Order where
  | before
  | after
deriving DecidableEq, Repr

/-- The operator of an order. -/
def Order.tag : Order → String
  | before => "Bef"
  | after => "Aft"

/-- The ways in which two events overlap. -/
inductive Overlap where
  /-- The second event contains the first. -/
  | during
  /-- The first event contains the second. -/
  | reverseDuring
  /-- The first event starts first and the two overlap. -/
  | left
  /-- The second event starts first and the two overlap. -/
  | right
  /-- The start of the first event precedes. -/
  | startPreceding
  /-- The end of the first event follows. -/
  | endFollowing
deriving DecidableEq, Repr

namespace Overlap

/-- All kinds of overlap. -/
def all : List Overlap :=
  [during, reverseDuring, left, right, startPreceding, endFollowing]

/-- The operator of an overlap. -/
def tag : Overlap → String
  | during => "DJ"
  | reverseDuring => "RDJ"
  | left => "LOJ"
  | right => "ROJ"
  | startPreceding => "SP"
  | endFollowing => "EF"

/-- The overlap with an operator. -/
def ofTag? (text : String) : Option Overlap :=
  all.find? (·.tag = text)

/-- Whether a bound on the starts applies. -/
def usesStart (overlap : Overlap) : Bool :=
  overlap != endFollowing

/-- Whether a bound on the ends applies. -/
def usesEnd (overlap : Overlap) : Bool :=
  overlap != startPreceding

/-- An operator belongs to one overlap only. -/
@[simp] theorem ofTag?_tag (overlap : Overlap) : ofTag? overlap.tag = some overlap := by
  cases overlap <;> decide

end Overlap

/-! ## Relations -/

/-- A temporal relation between two events. -/
inductive Relation where
  | sequential (order : Order) (gap : Bound)
  | overlap (kind : Overlap) (start finish : Bound)
deriving DecidableEq, Repr

namespace Relation

/-- The first event is over before the second starts, however long before. -/
def before : Relation :=
  sequential .before .unbounded

/-- One parameter of an operator. -/
def parameter (symbol : String) (bound : Bound) : String :=
  symbol ++ "=" ++ bound.render

/-- The parameters of an overlap that apply to its kind. -/
def overlapParameters (kind : Overlap) (start finish : Bound) : List String :=
  (if kind.usesStart then [parameter "δ" start] else []) ++
    (if kind.usesEnd then [parameter "ε" finish] else [])

/-- The operator of a relation with its parameters. -/
def render : Relation → String
  | sequential order gap => order.tag ++ "_\x7b" ++ parameter "δ" gap ++ "\x7d"
  | overlap kind start finish =>
    kind.tag ++ "_\x7b" ++ joinWith ", " (overlapParameters kind start finish) ++ "\x7d"

end Relation

end EventAlgebra
