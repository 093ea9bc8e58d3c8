import EventAlgebra.Json.Number
import EventAlgebra.Json.StringLiteral

/-!
# Lexemes of JSON text

`nextLexeme?` reads one lexeme from the front of a text without blanks in front. A string or a
number of the right form that denotes nothing is a lexeme without a value. Reading a lexeme
always leaves less text (`length_nextLexeme_lt`).
-/

set_option autoImplicit false

namespace EventAlgebra.Json

/-- A lexeme of JSON text. -/
inductive Lexeme where
  | openArray
  | closeArray
  | openObject
  | closeObject
  | comma
  | colon
  | null
  | bool (value : Bool)
  | number (value : Option Number)
  | text (value : Option String)
deriving DecidableEq, Repr

/-- The blanks between lexemes. -/
def isGap (c : Char) : Bool :=
  c == ' ' || c == '\n' || c == '\t' || c == '\r'

/-- A text without the blanks in front. -/
def skipGap (cs : List Char) : List Char :=
  cs.dropWhile isGap

/-! ## Numbers -/

/-- The digits at the front of a text, at least one, and what follows. -/
def digitsAt? (cs : List Char) : Option (List Char × List Char) :=
  let digits := cs.takeWhile Char.isDigit
  if digits.isEmpty then none else some (digits, cs.dropWhile Char.isDigit)

/-- The whole part of a number and what follows. A leading zero stands alone. -/
def wholeAt? (cs : List Char) : Option (List Char × List Char) :=
  match digitsAt? cs with
  | some ('0' :: _ :: _, _) => none
  | found => found

/-- The digits after a decimal point, if there is a point, and what follows. -/
def fractionAt? : List Char → Option (List Char × List Char)
  | '.' :: rest => digitsAt? rest
  | cs => some ([], cs)

/-- The sign of an exponent and what follows. -/
def exponentSign : List Char → Bool × List Char
  | '-' :: rest => (true, rest)
  | '+' :: rest => (false, rest)
  | cs => (false, cs)

/-- The exponent of a number, if there is one, and what follows. -/
def exponentAt? : List Char → Option (Option (Bool × List Char) × List Char)
  | [] => some (none, [])
  | c :: rest =>
    if c == 'e' || c == 'E' then
      let signed := exponentSign rest
      (digitsAt? signed.2).map fun found => (some (signed.1, found.1), found.2)
    else some (none, c :: rest)

/-- The parts of a number without its sign, and what follows. -/
def unsignedAt? (negative : Bool) (cs : List Char) : Option (NumberLiteral × List Char) :=
  (wholeAt? cs).bind fun whole =>
    (fractionAt? whole.2).bind fun fraction =>
      (exponentAt? fraction.2).map fun exponent =>
        (⟨negative, whole.1, fraction.1, exponent.1⟩, exponent.2)

/-- The number at the front of a text, and what follows. -/
def numberAt? : List Char → Option (NumberLiteral × List Char)
  | '-' :: rest => unsignedAt? true rest
  | cs => unsignedAt? false cs

/-! ## Lexemes -/

/-- The lexeme at the front of a text, and what follows. -/
def nextLexeme? : List Char → Option (Lexeme × List Char)
  | '[' :: rest => some (.openArray, rest)
  | ']' :: rest => some (.closeArray, rest)
  | '\x7b' :: rest => some (.openObject, rest)
  | '\x7d' :: rest => some (.closeObject, rest)
  | ',' :: rest => some (.comma, rest)
  | ':' :: rest => some (.colon, rest)
  | 'n' :: 'u' :: 'l' :: 'l' :: rest => some (.null, rest)
  | 't' :: 'r' :: 'u' :: 'e' :: rest => some (.bool true, rest)
  | 'f' :: 'a' :: 'l' :: 's' :: 'e' :: rest => some (.bool false, rest)
  | '"' :: rest => (readUnits [] rest).map fun found => (.text (decodeUnits? found.1), found.2)
  | cs => (numberAt? cs).map fun found => (.number found.1.value?, found.2)

/-! ## Every lexeme takes some text -/

theorem length_dropWhile_le {α : Type} (p : α → Bool) (l : List α) :
    (l.dropWhile p).length ≤ l.length :=
  (List.dropWhile_suffix p).length_le

theorem length_digitsAt_lt {cs : List Char} {found : List Char × List Char}
    (h : digitsAt? cs = some found) : found.2.length < cs.length := by
  simp only [digitsAt?] at h
  split at h
  · simp at h
  · rename_i hne
    simp only [Option.some.injEq] at h
    subst h
    have hsplit := congrArg List.length
      (List.takeWhile_append_dropWhile (p := Char.isDigit) (l := cs))
    have hpos : 0 < (cs.takeWhile Char.isDigit).length := by
      rw [List.length_pos_iff]
      simpa using hne
    rw [List.length_append] at hsplit
    simp only
    omega

theorem length_wholeAt_lt {cs : List Char} {found : List Char × List Char}
    (h : wholeAt? cs = some found) : found.2.length < cs.length := by
  unfold wholeAt? at h
  split at h
  · simp at h
  · exact length_digitsAt_lt h

theorem length_fractionAt_le {cs : List Char} {found : List Char × List Char}
    (h : fractionAt? cs = some found) : found.2.length ≤ cs.length := by
  unfold fractionAt? at h
  split at h
  · have := length_digitsAt_lt h
    simp only [List.length_cons]
    omega
  · simp only [Option.some.injEq] at h
    simp [← h]

theorem length_exponentSign_le (cs : List Char) : (exponentSign cs).2.length ≤ cs.length := by
  unfold exponentSign
  split <;> simp

theorem length_exponentAt_le {cs : List Char} {found : Option (Bool × List Char) × List Char}
    (h : exponentAt? cs = some found) : found.2.length ≤ cs.length := by
  unfold exponentAt? at h
  split at h
  · simp only [Option.some.injEq] at h
    simp [← h]
  · rename_i c rest
    split at h
    · simp only [Option.map_eq_some_iff] at h
      obtain ⟨digits, hdigits, rfl⟩ := h
      have hshort := length_digitsAt_lt hdigits
      have hsign := length_exponentSign_le rest
      simp only [List.length_cons]
      omega
    · simp only [Option.some.injEq] at h
      simp [← h]

theorem length_unsignedAt_lt {negative : Bool} {cs : List Char}
    {found : NumberLiteral × List Char} (h : unsignedAt? negative cs = some found) :
    found.2.length < cs.length := by
  simp only [unsignedAt?, Option.bind_eq_some_iff, Option.map_eq_some_iff] at h
  obtain ⟨whole, hwhole, fraction, hfraction, exponent, hexponent, rfl⟩ := h
  have := length_wholeAt_lt hwhole
  have := length_fractionAt_le hfraction
  have := length_exponentAt_le hexponent
  simp only
  omega

theorem length_numberAt_lt {cs : List Char} {found : NumberLiteral × List Char}
    (h : numberAt? cs = some found) : found.2.length < cs.length := by
  unfold numberAt? at h
  split at h
  · have := length_unsignedAt_lt h
    simp only [List.length_cons]
    omega
  · exact length_unsignedAt_lt h

/-- What follows a lexeme is shorter than the text it was read from. -/
theorem length_nextLexeme_lt {cs : List Char} {found : Lexeme × List Char}
    (h : nextLexeme? cs = some found) : found.2.length < cs.length := by
  unfold nextLexeme? at h
  split at h
  case h_10 =>
    simp only [Option.map_eq_some_iff] at h
    obtain ⟨units, hunits, rfl⟩ := h
    have := length_readUnits_lt hunits
    simp only [List.length_cons]
    omega
  case h_11 =>
    simp only [Option.map_eq_some_iff] at h
    obtain ⟨literal, hliteral, rfl⟩ := h
    exact length_numberAt_lt hliteral
  all_goals
    simp only [Option.some.injEq] at h
    subst h
    simp only [List.length_cons]
    omega

end EventAlgebra.Json
