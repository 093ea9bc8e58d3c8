/-!
# String literals

Between its quotes a JSON string holds plain characters and escapes. `StringUnit` is one of them,
`decodeUnits?` gives the text they denote: an escape by number may be half of a surrogate pair, and
half a pair alone denotes nothing. `escapeChar` writes a character of a string.
-/

set_option autoImplicit false

namespace EventAlgebra.Json

/-- A character of a string literal, or a code unit escaped by number. -/
inductive StringUnit where
  | char (c : Char)
  | unit (code : Nat)
deriving DecidableEq, Repr

/-- The value of a hexadecimal digit. -/
def hexDigit? (c : Char) : Option Nat :=
  if c.isDigit then some (c.toNat - '0'.toNat)
  else if 'a' ≤ c ∧ c ≤ 'f' then some (c.toNat - 'a'.toNat + 10)
  else if 'A' ≤ c ∧ c ≤ 'F' then some (c.toNat - 'A'.toNat + 10)
  else none

/-- The code unit written by four hexadecimal digits. -/
def hexUnit? (a b c d : Char) : Option Nat := do
  let a ← hexDigit? a
  let b ← hexDigit? b
  let c ← hexDigit? c
  let d ← hexDigit? d
  return ((a * 16 + b) * 16 + c) * 16 + d

/-- The character that a letter after a backslash stands for. -/
def escapedChar? : Char → Option Char
  | '"' => some '"'
  | '\\' => some '\\'
  | '/' => some '/'
  | 'b' => some '\x08'
  | 'f' => some '\x0c'
  | 'n' => some '\n'
  | 'r' => some '\r'
  | 't' => some '\t'
  | _ => none

/-- Read the units of a string up to its closing quote, adding to the units read so far, which are
kept last first. Control characters may not stand in a string. -/
def readUnits (read : List StringUnit) : List Char → Option (List StringUnit × List Char)
  | [] => none
  | '"' :: rest => some (read.reverse, rest)
  | '\\' :: 'u' :: a :: b :: c :: d :: rest =>
    match hexUnit? a b c d with
    | some code => readUnits (.unit code :: read) rest
    | none => none
  | '\\' :: letter :: rest =>
    match escapedChar? letter with
    | some c => readUnits (.char c :: read) rest
    | none => none
  | c :: rest => if c.toNat < 0x20 then none else readUnits (.char c :: read) rest

/-- The first half of a surrogate pair. -/
def isLeadingUnit (code : Nat) : Bool :=
  0xD800 ≤ code && code ≤ 0xDBFF

/-- The second half of a surrogate pair. -/
def isTrailingUnit (code : Nat) : Bool :=
  0xDC00 ≤ code && code ≤ 0xDFFF

/-- The text that units denote, adding to the characters so far, which are kept last first. -/
def decodeUnits (decoded : List Char) : List StringUnit → Option (List Char)
  | [] => some decoded.reverse
  | .char c :: rest => decodeUnits (c :: decoded) rest
  | .unit high :: .unit low :: rest =>
    if isLeadingUnit high then
      if isTrailingUnit low then
        decodeUnits
          (Char.ofNat (0x10000 + (high - 0xD800) * 0x400 + (low - 0xDC00)) :: decoded) rest
      else none
    else if isTrailingUnit high then none
    else decodeUnits (Char.ofNat high :: decoded) (.unit low :: rest)
  | .unit code :: rest =>
    if isLeadingUnit code || isTrailingUnit code then none
    else decodeUnits (Char.ofNat code :: decoded) rest

/-- The text that units denote, unless half a surrogate pair stands alone. -/
def decodeUnits? (units : List StringUnit) : Option String :=
  (decodeUnits [] units).map String.ofList

/-- A character as it is written in a string. -/
def escapeChar (c : Char) : List Char :=
  match c with
  | '"' => ['\\', '"']
  | '\\' => ['\\', '\\']
  | '\x08' => ['\\', 'b']
  | '\x0c' => ['\\', 'f']
  | '\n' => ['\\', 'n']
  | '\r' => ['\\', 'r']
  | '\t' => ['\\', 't']
  | c =>
    if c.toNat < 0x20 then
      '\\' :: 'u' :: '0' :: '0' :: Nat.digitChar (c.toNat / 16) :: [Nat.digitChar (c.toNat % 16)]
    else [c]

/-- A text as a string literal. -/
def quote (text : String) : String :=
  String.ofList ('"' :: (text.toList.flatMap escapeChar ++ ['"']))

/-- What follows a string is shorter than the text it was read from. -/
theorem length_readUnits_lt {read units : List StringUnit} {cs rest : List Char}
    (h : readUnits read cs = some (units, rest)) : rest.length < cs.length := by
  fun_induction readUnits read cs with
  | case1 => simp at h
  | case2 read rest' =>
    simp only [Option.some.injEq, Prod.mk.injEq] at h
    simp [h.2]
  | case3 read a b c d rest' code hcode ih =>
    have := ih h
    simp only [List.length_cons]
    omega
  | case4 => simp at h
  | case5 read letter rest' _ c hc ih =>
    have := ih h
    simp only [List.length_cons]
    omega
  | case6 => simp at h
  | case7 => simp at h
  | case8 read c rest' _ _ _ _ ih =>
    have := ih h
    simp only [List.length_cons]
    omega

end EventAlgebra.Json
