/-!
# Text for a terminal

A terminal obeys some characters instead of showing them: the escape character and a few other
controls of ASCII, and the controls from U+0080 on. In a line meant for a terminal they are
written by their code. Other controls, such as the tab, go through.
-/

set_option autoImplicit false

namespace EventAlgebra.Text

/-- The controls of ASCII that can steer a terminal: bell, backspace, form feed, escape, delete. -/
def steersTerminal (c : Char) : Bool :=
  c == '\x07' || c == '\x08' || c == '\x0c' || c == '\x1b' || c == '\x7f'

/-- The controls beyond ASCII. -/
def isLateControl (c : Char) : Bool :=
  0x80 ≤ c.toNat && c.toNat ≤ 0x9F

/-- One character of a line for a terminal. -/
def terminalChar (c : Char) : List Char :=
  if steersTerminal c then
    ['\\', 'x', Nat.digitChar (c.toNat / 16), Nat.digitChar (c.toNat % 16)]
  else if isLateControl c then
    '\\' :: 'u' :: '\x7b' :: (Nat.toDigits 16 c.toNat ++ ['\x7d'])
  else [c]

/-- A text that a terminal shows and does not obey. -/
def forTerminal (text : String) : String :=
  String.ofList (text.toList.flatMap terminalChar)

example : forTerminal "a\x1b[0m\x7f\t" = "a\\x1b[0m\\x7f\t" := by decide

end EventAlgebra.Text
