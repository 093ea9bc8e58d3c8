import EventAlgebra.Text.Join
import EventAlgebra.Text.Replace

/-!
# Layouts

The fixed text around the parts of an expression and of a stored procedure. Spaces at the ends of
lines belong to the layouts.
-/

set_option autoImplicit false

namespace EventAlgebra.Layout

open Text

/-- An expression that relates two operands by an operator. -/
def relational (projection predicate first operator second : String) : String :=
  "π_\x7b " ++ projection ++ " \x7d (\n  σ_\x7b " ++ predicate ++ " \x7d (\n    " ++ first ++
    " \n    " ++ operator ++ " \n    " ++ second ++ "\n  ) \n)"

/-- An expression that takes the second operand away from the first. -/
def exclusion (projection predicate first second : String) : String :=
  "π_\x7b " ++ projection ++ " \x7d (\n  ( \n    " ++ first ++
    " \n  ) \n  MINUS \n  ( \n    " ++ second ++ " \n  ) \n  WHERE " ++ predicate ++ "\n)"

/-- Conditions demanded together. -/
def conjunction (conditions : List String) : String :=
  joinWith " ∧ " conditions

/-- An algebra set on lines of its own, under a selection if there are conditions. -/
def grouped (conditions : List String) (algebra : String) : String :=
  if conditions.isEmpty then "( \n " ++ algebra ++ " \n )"
  else "σ_\x7b " ++ conjunction conditions ++ " \x7d ( \n " ++ algebra ++ " \n )"

/-- A selection on one leaf. -/
def selection (conditions : List String) (leaf : String) : String :=
  "σ_\x7b " ++ conjunction conditions ++ " \x7d(" ++ leaf ++ ")"

/-- A call that is not expanded. -/
def call (name leaf : String) : String :=
  name ++ "(" ++ leaf ++ ")"

/-- The stored procedure, with a placeholder for each of its parts. -/
def procedureTemplate : String :=
  "-- ISEQL Definition for __NAME__\n" ++
  "CREATE OR REPLACE FUNCTION __NAME__ (source VARCHAR) \n" ++
  "RETURNS TABLE (__SIGNATURE__) AS $$\n" ++
  "BEGIN\n" ++
  "    RETURN QUERY \n" ++
  "    SELECT * FROM \n" ++
  "    \n" ++
  "__EXPRESSION__;\n" ++
  "END;\n" ++
  "$$ LANGUAGE plpgsql;"

/-- The stored procedure of an event. The name is filled in first and the expression last; a part
filled in early is searched for the later placeholders. -/
def procedure (name signature expression : String) : String :=
  replaceAll "__EXPRESSION__" expression
    (replaceAll "__SIGNATURE__" signature (replaceAll "__NAME__" name procedureTemplate))

end EventAlgebra.Layout
