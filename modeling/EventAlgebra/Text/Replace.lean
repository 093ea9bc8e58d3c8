/-!
# Replacing a pattern in a text

`replaceAll` puts a replacement in place of every occurrence of a pattern, from left to right and
without looking again at what it has put in.
-/

set_option autoImplicit false

namespace EventAlgebra.Text

/-- Put `replacement` in place of every occurrence of the pattern `first :: others`. -/
def replaceAllChars (first : Char) (others replacement text : List Char) : List Char :=
  match text with
  | [] => []
  | c :: rest =>
    if c == first && others.isPrefixOf rest then
      replacement ++ replaceAllChars first others replacement (rest.drop others.length)
    else
      c :: replaceAllChars first others replacement rest
termination_by text.length
decreasing_by all_goals simp only [List.length_cons, List.length_drop]; omega

/-- Put `replacement` in place of every occurrence of `pattern`. An empty pattern occurs
nowhere. -/
def replaceAll (pattern replacement text : String) : String :=
  match pattern.toList with
  | [] => text
  | first :: others =>
    String.ofList (replaceAllChars first others replacement.toList text.toList)

end EventAlgebra.Text
