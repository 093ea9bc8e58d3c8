import EventAlgebra.Text.Extender
import EventAlgebra.Text.Unprintable

/-!
# Quoted text in messages

Messages show user input between double quotes. A quote, a backslash and the common controls are
written as two-character escapes; a character without a visible form of its own, or one that
would merge with its neighbour, is written by its code point in braces.
-/

set_option autoImplicit false

namespace EventAlgebra.Text

/-- The code point of a character as lower-case hexadecimal digits in braces. -/
def codePointEscape (c : Char) : List Char :=
  '\\' :: 'u' :: '\x7b' :: (Nat.toDigits 16 c.toNat ++ ['\x7d'])

/-- One character of a quoted text. -/
def quotedChar (c : Char) : List Char :=
  match c with
  | '"' => ['\\', '"']
  | '\\' => ['\\', '\\']
  | '\n' => ['\\', 'n']
  | '\r' => ['\\', 'r']
  | '\t' => ['\\', 't']
  | '\x00' => ['\\', '0']
  | c => if isExtender c || isUnprintable c then codePointEscape c else [c]

/-- A text between double quotes, with escapes for what would not show. -/
def quoted (text : String) : String :=
  String.ofList ('"' :: (text.toList.flatMap quotedChar ++ ['"']))

end EventAlgebra.Text
