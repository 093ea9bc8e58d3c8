import EventAlgebra.Text.Word

/-!
# Tokens of algebra text

Algebra text names its inputs by positional leaves `M1`, `M2`, and so on. `scan` cuts a text into
tokens: filter literals `="..."`, leaves, and single characters that belong to neither. A leaf is
a whole word made of `M` and decimal digits; inside a literal there is no leaf.

The tokens, written one after the other, are the text again (`concat_scan`).
-/

set_option autoImplicit false

namespace EventAlgebra

open Text

/-- A lexical unit of algebra text. -/
inductive Token where
  /-- A character outside literals and leaves. -/
  | plain (c : Char)
  /-- A filter literal: an equals sign and the body between double quotes. -/
  | literal (body : List Char)
  /-- A leaf: `M` and the digits of its index. -/
  | leaf (digits : List Char)
deriving DecidableEq, Repr

namespace Token

/-- The characters of a token. -/
def chars : Token → List Char
  | plain c => [c]
  | literal body => '=' :: '"' :: (body ++ ['"'])
  | leaf digits => 'M' :: digits

/-- Whether the last character of a token is a word character. -/
def endsInWord : Token → Bool
  | plain c => isWord c
  | literal _ => false
  | leaf _ => true

/-- The tokens written one after the other. -/
def concat (tokens : List Token) : List Char :=
  tokens.flatMap chars

end Token

/-! ## Recognising one token -/

/-- The body of a literal at the front of a text, and what follows its closing quote. -/
def literalAt? : List Char → Option (List Char × List Char)
  | '=' :: '"' :: inside =>
    match inside.dropWhile (· != '"') with
    | [] => none
    | _ :: after => some (inside.takeWhile (· != '"'), after)
  | _ => none

/-- The digits of a leaf at the front of a text, and what follows them. The digits are all
decimal digits after the `M`, at least one, and no word character follows. -/
def leafAt? : List Char → Option (List Char × List Char)
  | 'M' :: rest =>
    let digits := rest.takeWhile isWordDigit
    let after := rest.dropWhile isWordDigit
    if digits.isEmpty || after.head?.any isWord then none else some (digits, after)
  | _ => none

/-- The first token of a non-empty text, and what follows it. `afterWord` tells whether the
character in front is a word character; then no leaf starts here. -/
def nextToken (afterWord : Bool) (c : Char) (rest : List Char) : Token × List Char :=
  match literalAt? (c :: rest) with
  | some (body, after) => (.literal body, after)
  | none =>
    match if afterWord then none else leafAt? (c :: rest) with
    | some (digits, after) => (.leaf digits, after)
    | none => (.plain c, rest)

/-- What is not an element of the list up to the first quote, followed by the quote and the rest,
is the list. -/
theorem takeWhile_quote_append {inside after : List Char} {q : Char}
    (h : inside.dropWhile (· != '"') = q :: after) :
    inside.takeWhile (· != '"') ++ '"' :: after = inside := by
  have hq : q = '"' := by
    have hhead := List.head?_dropWhile_not (p := (· != '"')) (l := inside)
    simpa [h] using hhead
  calc
    inside.takeWhile (· != '"') ++ '"' :: after
        = inside.takeWhile (· != '"') ++ inside.dropWhile (· != '"') := by rw [h, hq]
    _ = inside := List.takeWhile_append_dropWhile

/-- A recognised literal stands at the front of the text. -/
theorem literalAt?_eq_some {cs body after : List Char} (h : literalAt? cs = some (body, after)) :
    (Token.literal body).chars ++ after = cs := by
  unfold literalAt? at h
  split at h
  · rename_i inside
    split at h
    · simp at h
    · rename_i q rest hdrop
      simp only [Option.some.injEq, Prod.mk.injEq] at h
      obtain ⟨rfl, rfl⟩ := h
      simpa [Token.chars] using takeWhile_quote_append hdrop
  · simp at h

/-- A recognised leaf stands at the front of the text. -/
theorem leafAt?_eq_some {cs digits after : List Char} (h : leafAt? cs = some (digits, after)) :
    (Token.leaf digits).chars ++ after = cs := by
  unfold leafAt? at h
  split at h
  · rename_i rest
    simp only at h
    split at h
    · simp at h
    · simp only [Option.some.injEq, Prod.mk.injEq] at h
      obtain ⟨rfl, rfl⟩ := h
      simp [Token.chars]
  · simp at h

/-- The first token and what follows it make up the text. -/
theorem chars_nextToken (afterWord : Bool) (c : Char) (rest : List Char) :
    (nextToken afterWord c rest).1.chars ++ (nextToken afterWord c rest).2 = c :: rest := by
  unfold nextToken
  split
  · rename_i body after h
    exact literalAt?_eq_some h
  · split
    · rename_i digits after h
      cases afterWord with
      | true => simp at h
      | false => exact leafAt?_eq_some (by simpa using h)
    · rfl

/-- A token has at least one character, so what follows the first token is shorter. -/
theorem length_nextToken_lt (afterWord : Bool) (c : Char) (rest : List Char) :
    (nextToken afterWord c rest).2.length < (c :: rest).length := by
  have h := congrArg List.length (chars_nextToken afterWord c rest)
  have hpos : 0 < (nextToken afterWord c rest).1.chars.length := by
    cases (nextToken afterWord c rest).1 <;> simp [Token.chars]
  rw [List.length_append] at h
  omega

/-! ## Scanning a text -/

/-- Scan a text, adding to the tokens found so far, which are kept last first. -/
def scanInto (found : List Token) (afterWord : Bool) (cs : List Char) : List Token :=
  match cs with
  | [] => found.reverse
  | c :: rest =>
    let next := nextToken afterWord c rest
    scanInto (next.1 :: found) next.1.endsInWord next.2
termination_by cs.length
decreasing_by exact length_nextToken_lt afterWord c rest

/-- The tokens of a text that follows a word character or not. -/
def scanFrom (afterWord : Bool) (cs : List Char) : List Token :=
  scanInto [] afterWord cs

/-- The tokens of a text. -/
def scan (text : String) : List Token :=
  scanFrom false text.toList

/-- The tokens found so far come first and are not looked at again. -/
theorem scanInto_eq_append (found : List Token) (afterWord : Bool) (cs : List Char) :
    scanInto found afterWord cs = found.reverse ++ scanFrom afterWord cs := by
  match cs with
  | [] => simp [scanFrom, scanInto]
  | c :: rest =>
    have hmany := scanInto_eq_append ((nextToken afterWord c rest).1 :: found)
      (nextToken afterWord c rest).1.endsInWord (nextToken afterWord c rest).2
    have hone := scanInto_eq_append [(nextToken afterWord c rest).1]
      (nextToken afterWord c rest).1.endsInWord (nextToken afterWord c rest).2
    have hstart : scanFrom afterWord (c :: rest)
        = scanInto [(nextToken afterWord c rest).1]
            (nextToken afterWord c rest).1.endsInWord (nextToken afterWord c rest).2 := by
      rw [scanFrom, scanInto]
    rw [scanInto, hmany, hstart, hone]
    simp
termination_by cs.length
decreasing_by all_goals exact length_nextToken_lt afterWord c rest

@[simp] theorem scanFrom_nil (afterWord : Bool) : scanFrom afterWord [] = [] := by
  simp [scanFrom, scanInto]

/-- Scanning takes the first token and goes on with what follows it. -/
theorem scanFrom_cons (afterWord : Bool) (c : Char) (rest : List Char) :
    scanFrom afterWord (c :: rest) =
      (nextToken afterWord c rest).1 ::
        scanFrom (nextToken afterWord c rest).1.endsInWord (nextToken afterWord c rest).2 := by
  rw [scanFrom, scanInto, scanInto_eq_append]
  simp

/-- The tokens of a text, written one after the other, are the text. -/
theorem concat_scanFrom (afterWord : Bool) (cs : List Char) :
    Token.concat (scanFrom afterWord cs) = cs := by
  match cs with
  | [] => simp [Token.concat]
  | c :: rest =>
    have htail := concat_scanFrom (nextToken afterWord c rest).1.endsInWord
      (nextToken afterWord c rest).2
    rw [scanFrom_cons]
    simp only [Token.concat, List.flatMap_cons] at htail ⊢
    rw [htail, chars_nextToken]
termination_by cs.length
decreasing_by exact length_nextToken_lt afterWord c rest

/-- The tokens of a text, written one after the other, are the text. -/
theorem concat_scan (text : String) : Token.concat (scan text) = text.toList :=
  concat_scanFrom false text.toList

end EventAlgebra
