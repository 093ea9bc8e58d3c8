/-!
# Joining texts

`joinWith separator parts` writes the parts in order with the separator between neighbours and
nothing at either end.
-/

set_option autoImplicit false

namespace EventAlgebra.Text

/-- The parts in order, the separator between them. -/
def joinWith (separator : String) : List String → String
  | [] => ""
  | [part] => part
  | part :: next :: rest => part ++ separator ++ joinWith separator (next :: rest)

end EventAlgebra.Text
