import EventAlgebra.Leaf.Renumber
import Mathlib.Data.List.Chain
import Mathlib.Data.List.TakeWhile

/-!
# Scanning a text made of parts

The tokens of a text put together from two parts are the tokens of the parts (`scan_append`), when
neither a leaf nor a literal can run across the border. A leaf cannot when the character on one
side of the border is no word character; a literal cannot when the first part ends every literal
that it begins, or the second part has no quote.

From this follow the laws for what is read off the tokens: the leaf indices of the whole are those
of the parts (`leafIndices_append`), those between parentheses as well (`enclosedLeaves_append`),
and renumbering the whole renumbers the parts (`shift_append`). Renumbering keeps the tokens apart
from the indices in them (`scan_shift`).
-/

set_option autoImplicit false

namespace EventAlgebra

open Text

/-! ## Borders -/

/-- A text that begins with no word character, no quote and no closing parenthesis. No token in
front of it can run into it, and no leaf in front of it is enclosed by it. -/
def StartsApart (cs : List Char) : Prop :=
  ∀ c ∈ cs.head?, isWord c = false ∧ c ≠ '"' ∧ c ≠ ')'

/-- A text that ends with no word character, no equals sign and no opening parenthesis. None of its
tokens can run into what follows, and no leaf that follows is enclosed by it. -/
def EndsApart (cs : List Char) : Prop :=
  ∀ c ∈ cs.getLast?, isWord c = false ∧ c ≠ '=' ∧ c ≠ '('

-- the instances are named, since a search finds one that goes through all characters
instance (cs : List Char) : Decidable (StartsApart cs) :=
  Option.decidableForallMem cs.head?

instance (cs : List Char) : Decidable (EndsApart cs) :=
  Option.decidableForallMem cs.getLast?

/-- Two neighbours at which a literal begins that is never ended. -/
def Token.OpensLiteral (left right : Token) : Prop :=
  left = .plain '=' ∧ right = .plain '"'

instance (left right : Token) : Decidable (left.OpensLiteral right) :=
  inferInstanceAs (Decidable (left = .plain '=' ∧ right = .plain '"'))

/-- Tokens among which every literal that begins also ends. -/
def Token.Closed (tokens : List Token) : Prop :=
  tokens.IsChain fun left right => ¬ left.OpensLiteral right

/-- A text that ends every literal it begins. -/
def Closed (text : String) : Prop :=
  Token.Closed (scan text)

instance (text : String) : Decidable (Closed text) :=
  inferInstanceAs (Decidable ((scan text).IsChain fun left right => ¬ left.OpensLiteral right))

/-- A text without double quotes. -/
def QuoteFree (text : String) : Prop :=
  '"' ∉ text.toList

instance (text : String) : Decidable (QuoteFree text) :=
  inferInstanceAs (Decidable ('"' ∉ text.toList))

/-- A text without leaves. -/
def LeafFree (text : String) : Prop :=
  maxLeaf? text = none

instance (text : String) : Decidable (LeafFree text) :=
  inferInstanceAs (Decidable (maxLeaf? text = none))

/-! ## The first token -/

/-- A literal begins with an equals sign and a quote only. -/
theorem literalAt?_eq_none_of_ne {c : Char} {rest : List Char}
    (h : ¬ (c = '=' ∧ rest.head? = some '"')) : literalAt? (c :: rest) = none := by
  unfold literalAt?
  split
  · rename_i inside heq
    simp only [List.cons.injEq] at heq
    obtain ⟨rfl, rfl⟩ := heq
    exact absurd ⟨rfl, rfl⟩ h
  · rfl

/-- What begins as a literal is one exactly when there is a quote to end it. -/
theorem literalAt?_eq_none_iff {inside : List Char} :
    literalAt? ('=' :: '"' :: inside) = none ↔ '"' ∉ inside := by
  simp only [literalAt?]
  cases hdrop : inside.dropWhile (· != '"') with
  | nil =>
      rw [List.dropWhile_eq_nil_iff] at hdrop
      refine ⟨fun _ hmem => ?_, fun _ => rfl⟩
      simpa using hdrop '"' hmem
  | cons q after =>
      refine ⟨fun h => by simp at h, fun hmem => ?_⟩
      rw [← takeWhile_quote_append hdrop] at hmem
      simp at hmem

/-- The body of a literal holds no quote. -/
theorem quote_notMem_of_literalAt? {cs body after : List Char}
    (h : literalAt? cs = some (body, after)) : '"' ∉ body := by
  unfold literalAt? at h
  split at h
  · split at h
    · simp at h
    · simp only [Option.some.injEq, Prod.mk.injEq] at h
      obtain ⟨rfl, rfl⟩ := h
      intro hmem
      simpa using List.mem_takeWhile_imp hmem
  · simp at h

/-- A quote-free body between an equals sign, a quote and another quote is a literal. -/
theorem literalAt?_literal {body : List Char} (h : '"' ∉ body) (after : List Char) :
    literalAt? ('=' :: '"' :: (body ++ '"' :: after)) = some (body, after) := by
  have hbody : ∀ c ∈ body, (c != '"') = true := by
    intro c hc
    simpa using fun heq : c = '"' => h (heq ▸ hc)
  simp only [literalAt?, List.dropWhile_append_of_pos hbody, List.takeWhile_append_of_pos hbody]
  simp

/-- What follows a text does not change a literal at its front. -/
theorem literalAt?_append_of_some {cs body after rest : List Char}
    (h : literalAt? cs = some (body, after)) :
    literalAt? (cs ++ rest) = some (body, after ++ rest) := by
  have hbody := quote_notMem_of_literalAt? h
  rw [← literalAt?_eq_some h]
  simpa [Token.chars] using literalAt?_literal hbody (after ++ rest)

/-- Leaves begin with the letter `M` only. -/
theorem leafAt?_eq_none_of_ne {c : Char} (hc : c ≠ 'M') (rest : List Char) :
    leafAt? (c :: rest) = none := by
  unfold leafAt?
  split
  · rename_i heq
    simp only [List.cons.injEq] at heq
    exact absurd heq.1 hc
  · rfl

/-- The digits of a leaf are at least one, all of them digits of a word, and no word character
follows them. -/
theorem leafAt?_eq_some_iff {rest digits after : List Char} :
    leafAt? ('M' :: rest) = some (digits, after) ↔
      rest = digits ++ after ∧ digits ≠ [] ∧ (∀ d ∈ digits, isWordDigit d = true) ∧
        ∀ c ∈ after.head?, isWord c = false := by
  constructor
  · intro h
    have hchars := leafAt?_eq_some h
    simp only [leafAt?] at h
    split at h
    · simp at h
    · rename_i hcond
      simp only [Option.some.injEq, Prod.mk.injEq] at h
      obtain ⟨rfl, rfl⟩ := h
      simp only [Bool.or_eq_true, not_or, List.isEmpty_iff] at hcond
      refine ⟨by simp, hcond.1, fun d hd => List.mem_takeWhile_imp hd, ?_⟩
      intro c hc
      simpa [Option.mem_def.1 hc] using hcond.2
  · rintro ⟨rfl, hne, hdigits, hafter⟩
    -- no digit follows the digits, since no word character does
    have hstop : after.takeWhile isWordDigit = [] ∧ after.dropWhile isWordDigit = after := by
      cases after with
      | nil => exact ⟨rfl, rfl⟩
      | cons c after =>
          have hc : isWordDigit c = false := by
            cases hd : isWordDigit c with
            | false => rfl
            | true => simpa [isWord_of_isWordDigit hd] using hafter c rfl
          simp [hc]
    simp only [leafAt?, List.takeWhile_append_of_pos hdigits, List.dropWhile_append_of_pos hdigits,
      hstop, List.append_nil]
    have hhead : after.head?.any isWord = false := by
      cases after with
      | nil => rfl
      | cons c after => simpa using hafter c rfl
    simp [hne, hhead]

/-- The letter of a leaf, or the last digit of one, is a word character. -/
theorem isWord_of_mem_getLast?_leaf {digits : List Char}
    (hdigits : ∀ d ∈ digits, isWordDigit d = true) :
    ∀ c ∈ ('M' :: digits).getLast?, isWord c = true := by
  intro c hc
  rcases List.mem_cons.1 (List.mem_of_mem_getLast? hc) with rfl | hmem
  · decide
  · exact isWord_of_isWordDigit (hdigits c hmem)

/-- A leaf does not end apart. -/
theorem not_endsApart_leaf {digits : List Char}
    (hdigits : ∀ d ∈ digits, isWordDigit d = true) : ¬ EndsApart ('M' :: digits) := by
  intro hends
  obtain ⟨last, hlast⟩ : ∃ last, last ∈ ('M' :: digits).getLast? :=
    ⟨_, List.getLast?_eq_some_getLast (by simp)⟩
  have hword := isWord_of_mem_getLast?_leaf hdigits last hlast
  rw [(hends last hlast).1] at hword
  cases hword

/-- What holds at the end of a list holds at the end of a back part of it. -/
theorem forall_getLast?_of_append {α : Type} {p : α → Prop} (front : List α) {back : List α}
    (h : ∀ a ∈ (front ++ back).getLast?, p a) : ∀ a ∈ back.getLast?, p a := by
  intro a ha
  apply h a
  rw [List.getLast?_append, Option.mem_def.1 ha]
  rfl

/-- What follows a text does not change whether a leaf stands at its front. -/
theorem leafAt?_append {c : Char} {tail rest : List Char}
    (hborder : EndsApart (c :: tail) ∨ StartsApart rest) :
    leafAt? (c :: tail ++ rest) =
      (leafAt? (c :: tail)).map fun found => (found.1, found.2 ++ rest) := by
  by_cases hc : c = 'M'
  · subst hc
    cases hleaf : leafAt? ('M' :: tail) with
    | some found =>
        obtain ⟨digits, after⟩ := found
        obtain ⟨rfl, hne, hdigits, hafter⟩ := leafAt?_eq_some_iff.1 hleaf
        rw [List.cons_append, Option.map_some, leafAt?_eq_some_iff]
        refine ⟨by simp, hne, hdigits, ?_⟩
        intro c hc
        cases after with
        | cons b after => exact hafter c (by simpa using hc)
        | nil =>
            -- the leaf reaches up to the border
            rw [List.append_nil] at hborder
            rcases hborder with hends | hstarts
            · exact absurd hends (not_endsApart_leaf hdigits)
            · exact (hstarts c (by simpa using hc)).1
    | none =>
        rw [Option.map_none, Option.eq_none_iff_forall_ne_some]
        rintro ⟨digits, after⟩ hsome
        obtain ⟨heq, hne, hdigits, hafter⟩ := leafAt?_eq_some_iff.1 hsome
        rcases List.append_eq_append_iff.1 heq with ⟨more, rfl, rfl⟩ | ⟨more, rfl, rfl⟩
        · -- the digits run on past the border, between two word characters
          cases more with
          | nil =>
              have hnone := hleaf
              rw [Option.eq_none_iff_forall_ne_some] at hnone
              apply hnone (tail, [])
              rw [leafAt?_eq_some_iff]
              exact ⟨by simp, by simpa using hne, by simpa using hdigits, by simp⟩
          | cons d more =>
              have hd : isWord d = true := isWord_of_isWordDigit (hdigits d (by simp))
              rcases hborder with hends | hstarts
              · exact not_endsApart_leaf (fun e he => hdigits e (by simp [he])) hends
              · rw [(hstarts d (by simp)).1] at hd
                exact Bool.noConfusion hd
        · -- the leaf was there already
          rw [Option.eq_none_iff_forall_ne_some] at hleaf
          apply hleaf (digits, more)
          rw [leafAt?_eq_some_iff]
          refine ⟨rfl, hne, hdigits, ?_⟩
          intro c hc
          cases more with
          | nil => simp at hc
          | cons b more => exact hafter c (by simpa using hc)
  · rw [List.cons_append, leafAt?_eq_none_of_ne hc, leafAt?_eq_none_of_ne hc, Option.map_none]

/-- What follows a text does not make a literal at its front, unless it ends one that was left
open. -/
theorem literalAt?_append_of_none {c : Char} {tail rest : List Char}
    (hnone : literalAt? (c :: tail) = none)
    (hopen : ¬ (c = '=' ∧ tail.head? = some '"') ∨ '"' ∉ rest)
    (hborder : EndsApart (c :: tail) ∨ StartsApart rest) :
    literalAt? (c :: tail ++ rest) = none := by
  by_cases hbegin : c = '=' ∧ tail.head? = some '"'
  · have hrest : '"' ∉ rest := hopen.resolve_left (not_not_intro hbegin)
    obtain ⟨rfl, hhead⟩ := hbegin
    cases tail with
    | nil => simp at hhead
    | cons q inside =>
        obtain rfl : q = '"' := by simpa using hhead
        rw [literalAt?_eq_none_iff] at hnone
        show literalAt? ('=' :: '"' :: (inside ++ rest)) = none
        rw [literalAt?_eq_none_iff, List.mem_append]
        exact not_or.2 ⟨hnone, hrest⟩
  · apply literalAt?_eq_none_of_ne
    rintro ⟨rfl, hhead⟩
    cases tail with
    | cons q inside => exact hbegin ⟨rfl, by simpa using hhead⟩
    | nil =>
        -- the sign stands last, and its quote would have to come from behind the border
        rcases hborder with hends | hstarts
        · exact (hends '=' rfl).2.1 rfl
        · exact (hstarts '"' (by simpa using hhead)).2.1 rfl

/-- What follows a text does not change its first token. -/
theorem nextToken_append (afterWord : Bool) {c : Char} {tail : List Char} (rest : List Char)
    (hopen : literalAt? (c :: tail) = none →
      ¬ (c = '=' ∧ tail.head? = some '"') ∨ '"' ∉ rest)
    (hborder : EndsApart (c :: tail) ∨ StartsApart rest) :
    nextToken afterWord c (tail ++ rest) =
      ((nextToken afterWord c tail).1, (nextToken afterWord c tail).2 ++ rest) := by
  unfold nextToken
  cases hliteral : literalAt? (c :: tail) with
  | some found =>
      have happ : literalAt? (c :: (tail ++ rest)) = some (found.1, found.2 ++ rest) :=
        literalAt?_append_of_some hliteral
      simp [happ]
  | none =>
      have happ : literalAt? (c :: (tail ++ rest)) = none :=
        literalAt?_append_of_none hliteral (hopen hliteral) hborder
      have hleaf : leafAt? (c :: (tail ++ rest)) =
          (leafAt? (c :: tail)).map fun found => (found.1, found.2 ++ rest) :=
        leafAt?_append hborder
      rw [happ, hleaf]
      cases afterWord with
      | true => simp
      | false => cases leafAt? (c :: tail) <;> simp

/-- What the first token can be: a literal, a leaf that follows no word character, or the first
character where neither stands. -/
theorem nextToken_cases {afterWord : Bool} {c : Char} {rest after : List Char} {token : Token}
    (h : nextToken afterWord c rest = (token, after)) :
    (∃ body, token = .literal body ∧ literalAt? (c :: rest) = some (body, after)) ∨
      (∃ digits, token = .leaf digits ∧ c = 'M' ∧ afterWord = false ∧
        leafAt? (c :: rest) = some (digits, after)) ∨
      (token = .plain c ∧ after = rest ∧ literalAt? (c :: rest) = none ∧
        (afterWord = true ∨ leafAt? (c :: rest) = none)) := by
  unfold nextToken at h
  split at h
  · rename_i body after' hliteral
    obtain ⟨rfl, rfl⟩ := Prod.mk.inj h
    exact Or.inl ⟨body, rfl, hliteral⟩
  · rename_i hliteral
    split at h
    · rename_i digits after' hleaf
      obtain ⟨rfl, rfl⟩ := Prod.mk.inj h
      cases afterWord with
      | true => simp at hleaf
      | false =>
          refine Or.inr (Or.inl ⟨digits, rfl, ?_, rfl, by simpa using hleaf⟩)
          by_contra hc
          rw [leafAt?_eq_none_of_ne hc] at hleaf
          simp at hleaf
    · rename_i hleaf
      obtain ⟨rfl, rfl⟩ := Prod.mk.inj h
      refine Or.inr (Or.inr ⟨rfl, rfl, hliteral, ?_⟩)
      cases afterWord with
      | true => exact Or.inl rfl
      | false => exact Or.inr (by simpa using hleaf)

/-- A body without quotes is read as a literal. -/
theorem nextToken_literal (afterWord : Bool) {body : List Char} (after : List Char)
    (h : '"' ∉ body) :
    nextToken afterWord '=' ('"' :: (body ++ '"' :: after)) = (.literal body, after) := by
  simp [nextToken, literalAt?_literal h after]

/-- Digits in front of no word character are read as a leaf. -/
theorem nextToken_leaf {digits : List Char} (hne : digits ≠ [])
    (hdigits : ∀ d ∈ digits, isWordDigit d = true) (after : List Char)
    (hafter : ∀ c ∈ after.head?, isWord c = false) :
    nextToken false 'M' (digits ++ after) = (.leaf digits, after) := by
  have hliteral : literalAt? ('M' :: (digits ++ after)) = none :=
    literalAt?_eq_none_of_ne (by simp)
  have hleaf : leafAt? ('M' :: (digits ++ after)) = some (digits, after) :=
    leafAt?_eq_some_iff.2 ⟨rfl, hne, hdigits, hafter⟩
  simp [nextToken, hliteral, hleaf]

/-- Where neither a literal nor a leaf stands, a character is read. -/
theorem nextToken_plain {afterWord : Bool} {c : Char} {rest : List Char}
    (hliteral : literalAt? (c :: rest) = none)
    (hleaf : afterWord = true ∨ leafAt? (c :: rest) = none) :
    nextToken afterWord c rest = (.plain c, rest) := by
  rcases hleaf with rfl | hleaf
  · simp [nextToken, hliteral]
  · simp [nextToken, hliteral, hleaf]

/-- Induction along a scan: a text has no first token, or loses it. -/
@[elab_as_elim]
theorem scanInduction {motive : Bool → List Char → Prop}
    (nil : ∀ afterWord, motive afterWord [])
    (cons : ∀ afterWord c rest token after, nextToken afterWord c rest = (token, after) →
      motive token.endsInWord after → motive afterWord (c :: rest))
    (afterWord : Bool) (cs : List Char) : motive afterWord cs := by
  match cs with
  | [] => exact nil afterWord
  | c :: rest =>
      exact cons afterWord c rest _ _ rfl (scanInduction nil cons _ _)
termination_by cs.length
decreasing_by exact length_nextToken_lt afterWord c rest

/-! ## Scanning on from a border -/

/-- Whether what follows a text follows a word character. -/
def wordAtEnd (afterWord : Bool) (cs : List Char) : Bool :=
  (cs.getLast?.map isWord).getD afterWord

theorem wordAtEnd_append_of_ne_nil (afterWord : Bool) (cs : List Char) {rest : List Char}
    (h : rest ≠ []) : wordAtEnd afterWord (cs ++ rest) = wordAtEnd false rest := by
  obtain ⟨last, hlast⟩ : ∃ last, rest.getLast? = some last := ⟨_, List.getLast?_eq_some_getLast h⟩
  simp [wordAtEnd, List.getLast?_append, hlast]

/-- The first token ends in a word character exactly when its last character is one. -/
theorem wordAtEnd_chars {afterWord : Bool} {c : Char} {rest after : List Char} {token : Token}
    (h : nextToken afterWord c rest = (token, after)) (before : Bool) :
    wordAtEnd before token.chars = token.endsInWord := by
  rcases nextToken_cases h with ⟨body, rfl, -⟩ | ⟨digits, rfl, rfl, -, hleaf⟩ | ⟨rfl, -⟩
  · have hlast : (Token.literal body).chars.getLast? = some '"' := by
      show (('=' :: '"' :: body) ++ ['"']).getLast? = some '"'
      exact List.getLast?_concat
    rw [wordAtEnd, hlast]
    rfl
  · obtain ⟨-, -, hdigits, -⟩ := leafAt?_eq_some_iff.1 hleaf
    have hlast := List.getLast?_eq_some_getLast (l := 'M' :: digits) (by simp)
    have hword := isWord_of_mem_getLast?_leaf hdigits _ hlast
    simp only [wordAtEnd, Token.chars, hlast, Option.map_some, Option.getD_some, hword]
    rfl
  · rfl

/-- Scanning from the first token on ends in the same place as scanning the whole text. -/
theorem wordAtEnd_nextToken {afterWord : Bool} {c : Char} {rest after : List Char} {token : Token}
    (h : nextToken afterWord c rest = (token, after)) :
    wordAtEnd token.endsInWord after = wordAtEnd afterWord (c :: rest) := by
  have hchars := chars_nextToken afterWord c rest
  rw [h] at hchars
  rw [← hchars]
  by_cases hafter : after = []
  · subst hafter
    rw [List.append_nil, wordAtEnd_chars h]
    rfl
  · rw [wordAtEnd_append_of_ne_nil _ _ hafter]
    exact wordAtEnd_append_of_ne_nil _ [] hafter

/-- A quote is never part of a leaf, and by itself begins no literal. -/
theorem scanFrom_quote (afterWord : Bool) (rest : List Char) :
    scanFrom afterWord ('"' :: rest) = .plain '"' :: scanFrom false rest := by
  have h : nextToken afterWord '"' rest = (.plain '"', rest) := by
    apply nextToken_plain
    · exact literalAt?_eq_none_of_ne (by simp)
    · exact Or.inr (leafAt?_eq_none_of_ne (by decide) rest)
  rw [scanFrom_cons, h]
  rfl

/-- In front of a text that starts apart it does not matter what stands there. -/
theorem scanFrom_of_startsApart {rest : List Char} (h : StartsApart rest) (afterWord : Bool) :
    scanFrom afterWord rest = scanFrom false rest := by
  cases rest with
  | nil => simp
  | cons c rest =>
      have hc : c ≠ 'M' := by
        rintro rfl
        exact absurd (h 'M' rfl).1 (by decide)
      have hnext : nextToken afterWord c rest = nextToken false c rest := by
        cases afterWord <;> simp [nextToken, leafAt?_eq_none_of_ne hc]
      rw [scanFrom_cons, scanFrom_cons, hnext]

/-- Where every literal is closed, an equals sign in front of a quote begins one that ends. -/
theorem not_open_of_closed {afterWord : Bool} {c : Char} {tail : List Char}
    (hclosed : Token.Closed (scanFrom afterWord (c :: tail)))
    (hnone : literalAt? (c :: tail) = none) : ¬ (c = '=' ∧ tail.head? = some '"') := by
  rintro ⟨rfl, hhead⟩
  cases tail with
  | nil => simp at hhead
  | cons q inside =>
      obtain rfl : q = '"' := by simpa using hhead
      have hnext : nextToken afterWord '=' ('"' :: inside) = (.plain '=', '"' :: inside) := by
        exact nextToken_plain hnone (Or.inr (leafAt?_eq_none_of_ne (by decide) _))
      rw [scanFrom_cons, hnext, scanFrom_quote] at hclosed
      exact (List.isChain_cons_cons.1 hclosed).1 ⟨rfl, rfl⟩

/-- The tokens of a text and of what follows it are the tokens of the text and then those of what
follows, if no token can run across. The text loses its first token in each step of the induction;
the border stays where it is. -/
theorem scanFrom_append {afterWord : Bool} {cs rest : List Char}
    (hopen : Token.Closed (scanFrom afterWord cs) ∨ '"' ∉ rest)
    (hborder : EndsApart cs ∨ StartsApart rest) :
    scanFrom afterWord (cs ++ rest) =
      scanFrom afterWord cs ++ scanFrom (wordAtEnd afterWord cs) rest := by
  induction afterWord, cs using scanInduction with
  | nil afterWord => simp [wordAtEnd]
  | cons afterWord c tail token after hnext ih =>
      have hchars := chars_nextToken afterWord c tail
      have hscan := scanFrom_cons afterWord c tail
      rw [hnext] at hchars hscan
      have happ := nextToken_append afterWord rest
        (fun hnone => hopen.imp_left fun hclosed => not_open_of_closed hclosed hnone) hborder
      rw [hnext] at happ
      -- the rest of the text ends like the whole, and its literals are among those of the whole
      have hborder' : EndsApart after ∨ StartsApart rest := by
        rw [← hchars] at hborder
        exact hborder.imp_left (forall_getLast?_of_append token.chars)
      have hopen' : Token.Closed (scanFrom token.endsInWord after) ∨ '"' ∉ rest := by
        refine hopen.imp_left fun hclosed => ?_
        rw [hscan] at hclosed
        exact List.IsChain.tail hclosed
      rw [List.cons_append, scanFrom_cons, happ, ih hopen' hborder', hscan,
        wordAtEnd_nextToken hnext, List.cons_append]

/-! ## Texts -/

/-- A text without quotes opens no literal. -/
theorem closed_of_quoteFree {text : String} (h : QuoteFree text) : Closed text := by
  -- a literal that is left open has its quote for a token
  have hmem : ∀ token ∈ scan text, token ≠ .plain '"' := by
    rintro token htoken rfl
    apply h
    rw [← concat_scan text]
    exact List.mem_flatMap.2 ⟨_, htoken, by simp [Token.chars]⟩
  unfold Closed Token.Closed
  generalize scan text = tokens at hmem
  induction tokens with
  | nil => exact .nil
  | cons token rest ih =>
      cases rest with
      | nil => exact .singleton token
      | cons next rest =>
          rw [List.isChain_cons_cons]
          refine ⟨fun hopens => hmem next (by simp) hopens.2, ih fun t ht => hmem t ?_⟩
          exact List.mem_cons_of_mem _ ht

/-- The tokens of a text made of two parts are those of the parts. -/
theorem scan_append {a b : String} (hopen : Closed a ∨ QuoteFree b)
    (hborder : EndsApart a.toList ∨ StartsApart b.toList) :
    scan (a ++ b) = scan a ++ scan b := by
  have happ : scan (a ++ b) = scan a ++ scanFrom (wordAtEnd false a.toList) b.toList := by
    rw [scan, String.toList_append]
    exact scanFrom_append hopen hborder
  rw [happ]
  congr 1
  rcases hborder with hends | hstarts
  · -- the first part is empty or ends with no word character
    cases hlast : a.toList.getLast? with
    | none => simp [wordAtEnd, hlast, scan]
    | some c => simp [wordAtEnd, hlast, (hends c hlast).1, scan]
  · exact scanFrom_of_startsApart hstarts _

/-- Two parts that close their literals make up a text that does. -/
theorem closed_append {a b : String} (ha : Closed a) (hb : Closed b)
    (hborder : EndsApart a.toList ∨ StartsApart b.toList) : Closed (a ++ b) := by
  unfold Closed
  rw [scan_append (Or.inl ha) hborder]
  refine List.isChain_append.2 ⟨ha, hb, ?_⟩
  rintro left hleft right hright ⟨rfl, rfl⟩
  obtain ⟨init, hinit⟩ := List.getLast?_eq_some_iff.1 (Option.mem_def.1 hleft)
  obtain ⟨tail, htail⟩ := List.head?_eq_some_iff.1 (Option.mem_def.1 hright)
  have hlast : '=' ∈ a.toList.getLast? := by
    rw [← concat_scan a, hinit]
    simp [Token.concat, Token.chars]
  have hhead : '"' ∈ b.toList.head? := by
    rw [← concat_scan b, htail]
    simp [Token.concat, Token.chars]
  -- so the border stands between an equals sign and a quote
  rcases hborder with hends | hstarts
  · exact (hends _ hlast).2.1 rfl
  · exact (hstarts _ hhead).2.1 rfl

/-- The leaf indices of a text made of two parts. -/
theorem leafIndices_append {a b : String} (hopen : Closed a ∨ QuoteFree b)
    (hborder : EndsApart a.toList ∨ StartsApart b.toList) :
    leafIndices (a ++ b) = leafIndices a ++ leafIndices b := by
  rw [leafIndices, scan_append hopen hborder, List.filterMap_append]
  rfl

/-- Renumbering a text made of two parts renumbers each of them. -/
theorem shift_append {a b : String} (amount : Nat) (hopen : Closed a ∨ QuoteFree b)
    (hborder : EndsApart a.toList ∨ StartsApart b.toList) :
    shift (a ++ b) amount = shift a amount ++ shift b amount := by
  unfold shift
  split
  · rfl
  · rw [scan_append hopen hborder, List.map_append, Token.concat, List.flatMap_append,
      String.ofList_append]
    rfl

/-! ## Enclosed leaves -/

/-- A token that no parenthesis in front of it encloses with what follows. -/
def Token.ClearsRight (token : Token) : Prop :=
  token ≠ .plain '(' ∧ token.leafIndex? = none

/-- A token that no parenthesis behind it encloses with what stands before. -/
def Token.ClearsLeft (token : Token) : Prop :=
  token ≠ .plain ')' ∧ token.leafIndex? = none

/-- The indices of the leaves that stand immediately between parentheses, from left to right. -/
def Token.enclosed : List Token → List Nat
  | .plain '(' :: .leaf digits :: .plain ')' :: rest =>
    (Token.leaf digits).leafIndex?.toList ++ enclosed rest
  | _ :: rest => enclosed rest
  | [] => []

/-- The indices of the leaves of a text that stand immediately between parentheses. -/
def enclosedLeaves (text : String) : List Nat :=
  Token.enclosed (scan text)

/-- Enclosed leaves are leaves. -/
theorem Token.enclosed_sublist (tokens : List Token) :
    (Token.enclosed tokens).Sublist (tokens.filterMap Token.leafIndex?) := by
  fun_induction Token.enclosed tokens with
  | case1 digits rest ih => simpa [List.filterMap_cons, Token.leafIndex?] using ih
  | case2 token rest _ ih =>
      rw [List.filterMap_cons]
      split
      · exact ih
      · exact ih.cons _
  | case3 => exact List.nil_sublist _

theorem enclosedLeaves_sublist (text : String) : (enclosedLeaves text).Sublist (leafIndices text) :=
  Token.enclosed_sublist (scan text)

/-- No leaf is enclosed across a border that is clear on one side. -/
theorem Token.enclosed_append {tokens rest : List Token}
    (hborder : (∀ token ∈ tokens.getLast?, token.ClearsRight) ∨
      ∀ token ∈ rest.head?, token.ClearsLeft) :
    Token.enclosed (tokens ++ rest) = Token.enclosed tokens ++ Token.enclosed rest := by
  fun_induction Token.enclosed tokens with
  | case1 digits after ih =>
      have hafter := hborder.imp_left
        (forall_getLast?_of_append [Token.plain '(', .leaf digits, .plain ')'])
      simp only [List.cons_append, Token.enclosed, ih hafter, List.append_assoc]
  | case2 token after hno ih =>
      have hafter := hborder.imp_left (forall_getLast?_of_append [token])
      have hno' : ∀ digits more, token = .plain '(' →
          after ++ rest = .leaf digits :: .plain ')' :: more → False := by
        intro digits more htoken hmore
        -- the leaf or the closing parenthesis would stand behind the border
        cases after with
        | nil =>
            rcases hborder with hlast | hhead
            · exact (hlast token rfl).1 htoken
            · have hleaf := (hhead (.leaf digits) (by simp_all)).2
              cases hleaf
        | cons second after =>
            obtain ⟨rfl, htail⟩ := List.cons_eq_cons.1 hmore
            cases after with
            | nil =>
                rcases hborder with hlast | hhead
                · have hleaf := (hlast (.leaf digits) rfl).2
                  cases hleaf
                · exact (hhead (.plain ')') (by simp_all)).1 rfl
            | cons third after =>
                obtain ⟨rfl, -⟩ := List.cons_eq_cons.1 htail
                exact hno digits after htoken rfl
      rw [List.cons_append, Token.enclosed.eq_2 _ _ hno', ih hafter]
  | case3 => rfl

theorem clearsLeft_of_startsApart {cs : List Char} (h : StartsApart cs) (afterWord : Bool) :
    ∀ token ∈ (scanFrom afterWord cs).head?, token.ClearsLeft := by
  intro token htoken
  cases cs with
  | nil => simp at htoken
  | cons c rest =>
      have hc := h c rfl
      obtain ⟨first, after, hnext⟩ : ∃ first after, nextToken afterWord c rest = (first, after) :=
        ⟨_, _, rfl⟩
      rw [scanFrom_cons, hnext] at htoken
      obtain rfl : first = token := by simpa using htoken
      rcases nextToken_cases hnext with ⟨body, rfl, -⟩ | ⟨digits, -, rfl, -⟩ | ⟨rfl, -⟩
      · exact ⟨by simp, rfl⟩
      · -- a leaf begins with a letter
        exact absurd hc.1 (by decide)
      · exact ⟨by simpa using hc.2.2, rfl⟩

theorem clearsRight_of_endsApart {afterWord : Bool} {cs : List Char} (h : EndsApart cs) :
    ∀ token ∈ (scanFrom afterWord cs).getLast?, token.ClearsRight := by
  induction afterWord, cs using scanInduction with
  | nil afterWord => simp
  | cons afterWord c rest token after hnext ih =>
      have hchars := chars_nextToken afterWord c rest
      rw [hnext] at hchars
      rw [scanFrom_cons, hnext]
      -- the last token of all is this one only if nothing comes after it
      cases after with
      | cons d after =>
          have hlast : EndsApart (d :: after) := by
            rw [← hchars] at h
            exact forall_getLast?_of_append token.chars h
          intro token' htoken'
          apply ih hlast token'
          rw [scanFrom_cons] at htoken' ⊢
          rwa [List.getLast?_cons_cons] at htoken'
      | nil =>
          intro token' htoken'
          obtain rfl : token = token' := by simpa using htoken'
          rcases nextToken_cases hnext with
            ⟨body, rfl, -⟩ | ⟨digits, rfl, rfl, -, hleaf⟩ | ⟨rfl, rfl, -⟩
          · exact ⟨by simp, rfl⟩
          · obtain ⟨-, -, hdigits, -⟩ := leafAt?_eq_some_iff.1 hleaf
            rw [List.append_nil] at hchars
            rw [← hchars] at h
            exact absurd h (not_endsApart_leaf hdigits)
          · exact ⟨by simpa using (h c rfl).2.2, rfl⟩

/-- The enclosed leaves of a text made of two parts. -/
theorem enclosedLeaves_append {a b : String} (hopen : Closed a ∨ QuoteFree b)
    (hborder : EndsApart a.toList ∨ StartsApart b.toList) :
    enclosedLeaves (a ++ b) = enclosedLeaves a ++ enclosedLeaves b := by
  rw [enclosedLeaves, scan_append hopen hborder]
  exact Token.enclosed_append
    (hborder.imp clearsRight_of_endsApart fun h => clearsLeft_of_startsApart h false)

/-! ## Texts without leaves -/

theorem leafFree_iff {text : String} : LeafFree text ↔ leafIndices text = [] := by
  rw [LeafFree, maxLeaf?, List.max?_eq_none_iff]

/-- No leaf of a text goes beyond the largest one. -/
theorem le_of_mem_leafIndices {text : String} {index : Nat} (h : index ∈ leafIndices text) :
    index ≤ (maxLeaf? text).getD 1 := by
  cases hmax : maxLeaf? text with
  | none =>
      rw [leafFree_iff.1 hmax] at h
      cases h
  | some largest => exact (List.max?_eq_some_iff.1 hmax).2 index h

theorem enclosedLeaves_of_leafFree {text : String} (h : LeafFree text) :
    enclosedLeaves text = [] := by
  have hsub := enclosedLeaves_sublist text
  rw [leafFree_iff.1 h] at hsub
  exact List.sublist_nil.1 hsub

/-- A text without leaves has no leaf tokens. -/
theorem leafIndex?_eq_none_of_leafFree {text : String} (h : LeafFree text) :
    ∀ token ∈ scan text, token.leafIndex? = none :=
  List.filterMap_eq_nil_iff.1 (leafFree_iff.1 h)

/-- Without the letter `M` there are no leaves. -/
theorem leafFree_of_notMem {text : String} (h : 'M' ∉ text.toList) : LeafFree text := by
  rw [leafFree_iff, leafIndices, List.filterMap_eq_nil_iff]
  intro token htoken
  cases token with
  | plain c => rfl
  | literal body => rfl
  | leaf digits =>
      exfalso
      apply h
      rw [← concat_scan text]
      exact List.mem_flatMap.2 ⟨_, htoken, by simp [Token.chars]⟩

theorem leafIndices_of_notMem {text : String} (h : 'M' ∉ text.toList) : leafIndices text = [] :=
  leafFree_iff.1 (leafFree_of_notMem h)

/-- Renumbering leaves a text without leaves as it is. -/
theorem shift_of_leafFree {text : String} (h : LeafFree text) (amount : Nat) :
    shift text amount = text := by
  have hmap : (scan text).map (Token.shift amount) = scan text := by
    refine (List.map_congr_left fun token htoken => ?_).trans (List.map_id (scan text))
    have hnone := leafIndex?_eq_none_of_leafFree h token htoken
    cases token with
    | plain c => rfl
    | literal body => rfl
    | leaf digits => simp [Token.leafIndex?] at hnone
  unfold shift
  split
  · rfl
  · rw [hmap, concat_scan, String.ofList_toList]

/-! ## Renumbered text -/

/-- The decimal digits of ASCII are digits of a word. -/
theorem isWordDigit_of_isDigit {c : Char} (h : c.isDigit = true) : isWordDigit c = true := by
  have hlt : c.toNat < 0x80 := by
    simp only [Char.isDigit, Bool.and_eq_true, decide_eq_true_eq] at h
    have : c.val ≤ 57 := h.2
    have hnat : c.val.toNat ≤ 57 := this
    show c.val.toNat < 0x80
    omega
  have hrecent : isRecent c = false := by
    simp only [isRecent, Bool.and_eq_false_iff, decide_eq_false_iff_not]
    exact Or.inl (by omega)
  simp [isWordDigit, isDigit, hlt, h, hrecent]

/-- The digits of a renumbered leaf are digits again, at least one. -/
theorem Token.shift_leaf {digits : List Char} (hne : digits ≠ [])
    (hdigits : ∀ d ∈ digits, isWordDigit d = true) (amount : Nat) :
    ∃ digits', (Token.leaf digits).shift amount = .leaf digits' ∧ digits' ≠ [] ∧
      ∀ d ∈ digits', isWordDigit d = true := by
  simp only [Token.shift]
  split
  · rename_i index _
    split
    · refine ⟨_, rfl, Nat.toDigits_ne_nil, fun d hd => ?_⟩
      exact isWordDigit_of_isDigit (Nat.isDigit_of_mem_toDigits (by decide) (by decide) hd)
    · exact ⟨_, rfl, hne, hdigits⟩
  · exact ⟨_, rfl, hne, hdigits⟩

/-- The characters of a text, scanned from a place on, with its leaves renumbered. -/
def renumberFrom (amount : Nat) (afterWord : Bool) (cs : List Char) : List Char :=
  Token.concat ((scanFrom afterWord cs).map (Token.shift amount))

theorem renumberFrom_nil (amount : Nat) (afterWord : Bool) :
    renumberFrom amount afterWord [] = [] := by
  simp [renumberFrom, Token.concat]

theorem renumberFrom_cons {amount : Nat} {afterWord : Bool} {c : Char} {rest after : List Char}
    {token : Token} (h : nextToken afterWord c rest = (token, after)) :
    renumberFrom amount afterWord (c :: rest) =
      (token.shift amount).chars ++ renumberFrom amount token.endsInWord after := by
  rw [renumberFrom, scanFrom_cons, h]
  rfl

/-- Renumbering keeps the first character. -/
theorem head?_renumberFrom (amount : Nat) (afterWord : Bool) (cs : List Char) :
    (renumberFrom amount afterWord cs).head? = cs.head? := by
  cases cs with
  | nil => rw [renumberFrom_nil]
  | cons c rest =>
      obtain ⟨token, after, hnext⟩ : ∃ token after, nextToken afterWord c rest = (token, after) :=
        ⟨_, _, rfl⟩
      rw [renumberFrom_cons hnext]
      have hchars := chars_nextToken afterWord c rest
      rw [hnext] at hchars
      rcases nextToken_cases hnext with ⟨body, rfl, -⟩ | ⟨digits, rfl, rfl, -, hleaf⟩ | ⟨rfl, -⟩
      · rw [← hchars]
        rfl
      · obtain ⟨-, hne, hdigits, -⟩ := leafAt?_eq_some_iff.1 hleaf
        obtain ⟨digits', hshift, -, -⟩ := Token.shift_leaf hne hdigits amount
        rw [hshift]
        rfl
      · rfl

/-- Digits of a word hold no quote. -/
theorem quote_notMem_of_isWordDigit {digits : List Char}
    (hdigits : ∀ d ∈ digits, isWordDigit d = true) : '"' ∉ digits := by
  intro hmem
  exact absurd (hdigits '"' hmem) (by decide)

/-- Renumbering neither adds nor removes quotes. -/
theorem quote_mem_renumberFrom (amount : Nat) (afterWord : Bool) (cs : List Char) :
    '"' ∈ renumberFrom amount afterWord cs ↔ '"' ∈ cs := by
  induction afterWord, cs using scanInduction with
  | nil afterWord => rw [renumberFrom_nil]
  | cons afterWord c rest token after hnext ih =>
      have hchars := chars_nextToken afterWord c rest
      rw [hnext] at hchars
      have htoken : '"' ∈ (token.shift amount).chars ↔ '"' ∈ token.chars := by
        rcases nextToken_cases hnext with ⟨body, rfl, -⟩ | ⟨digits, rfl, rfl, -, hleaf⟩ | ⟨rfl, -⟩
        · rfl
        · obtain ⟨-, hne, hdigits, -⟩ := leafAt?_eq_some_iff.1 hleaf
          obtain ⟨digits', hshift, -, hdigits'⟩ := Token.shift_leaf hne hdigits amount
          simp [hshift, Token.chars, quote_notMem_of_isWordDigit hdigits,
            quote_notMem_of_isWordDigit hdigits']
        · rfl
      rw [renumberFrom_cons hnext, ← hchars, List.mem_append, List.mem_append, htoken, ih]

/-- Inside a word there is no leaf, so renumbering keeps the rest of the word. -/
theorem takeWhile_renumberFrom (amount : Nat) (cs : List Char) :
    (renumberFrom amount true cs).takeWhile isWord = cs.takeWhile isWord := by
  -- every token inside the word is one character, so the induction is on characters
  induction cs with
  | nil => rw [renumberFrom_nil]
  | cons c rest ih =>
      obtain ⟨token, after, hnext⟩ : ∃ token after, nextToken true c rest = (token, after) :=
        ⟨_, _, rfl⟩
      rw [renumberFrom_cons hnext]
      rcases nextToken_cases hnext with ⟨body, rfl, hliteral⟩ | ⟨-, -, -, hfalse, -⟩ | ⟨rfl, rfl, -⟩
      · -- the sign in front of a literal ends the word
        have hchars := literalAt?_eq_some hliteral
        simp only [Token.chars, List.cons_append, List.cons.injEq] at hchars
        obtain ⟨rfl, -⟩ := hchars
        have hc : isWord '=' = false := by decide
        simp [Token.shift, Token.chars, hc]
      · exact Bool.noConfusion hfalse
      · cases hc : isWord c with
        | true => simpa [Token.shift, Token.chars, Token.endsInWord, hc] using ih
        | false => simp [Token.shift, Token.chars, hc]

/-- Whether a leaf stands at the front depends on the first word only. -/
theorem leafAt?_eq_none_congr {a b : List Char} (h : a.takeWhile isWord = b.takeWhile isWord)
    (hnone : leafAt? ('M' :: a) = none) : leafAt? ('M' :: b) = none := by
  rw [Option.eq_none_iff_forall_ne_some]
  rintro ⟨digits, after⟩ hsome
  obtain ⟨rfl, hne, hdigits, hafter⟩ := leafAt?_eq_some_iff.1 hsome
  -- the digits are all of the first word
  have hword : (digits ++ after).takeWhile isWord = digits := by
    rw [List.takeWhile_append_of_pos fun d hd => isWord_of_isWordDigit (hdigits d hd)]
    cases after with
    | nil => simp
    | cons c after => simp [hafter c rfl]
  rw [hword] at h
  have hleaf : leafAt? ('M' :: a) = some (digits, a.dropWhile isWord) := by
    rw [leafAt?_eq_some_iff]
    refine ⟨?_, hne, hdigits, ?_⟩
    · rw [← h, List.takeWhile_append_dropWhile]
    · intro c hc
      have hhead := List.head?_dropWhile_not (p := isWord) (l := a)
      rw [Option.mem_def.1 hc] at hhead
      simpa using hhead
  rw [hnone] at hleaf
  cases hleaf

/-- Renumbering what follows a plain character makes neither a literal nor a leaf of it. -/
theorem nextToken_renumberFrom {afterWord : Bool} {c : Char} {rest : List Char}
    (h : nextToken afterWord c rest = (.plain c, rest)) (amount : Nat) :
    nextToken afterWord c (renumberFrom amount (isWord c) rest) =
      (.plain c, renumberFrom amount (isWord c) rest) := by
  obtain ⟨hliteral, hleaf⟩ : literalAt? (c :: rest) = none ∧
      (afterWord = true ∨ leafAt? (c :: rest) = none) := by
    rcases nextToken_cases h with ⟨_, hplain, _⟩ | ⟨_, hplain, _⟩ | ⟨-, -, hliteral, hleaf⟩
    · cases hplain
    · cases hplain
    · exact ⟨hliteral, hleaf⟩
  apply nextToken_plain
  · by_cases hbegin : c = '=' ∧ rest.head? = some '"'
    · -- the literal that begins here is never ended, before or after
      obtain ⟨rfl, hhead⟩ := hbegin
      cases rest with
      | nil => simp at hhead
      | cons q inside =>
          obtain rfl : q = '"' := by simpa using hhead
          rw [literalAt?_eq_none_iff] at hliteral
          have hquote : renumberFrom amount (isWord '=') ('"' :: inside) =
              '"' :: renumberFrom amount false inside := by
            rw [renumberFrom, scanFrom_quote]
            rfl
          rw [hquote, literalAt?_eq_none_iff, quote_mem_renumberFrom]
          exact hliteral
    · apply literalAt?_eq_none_of_ne
      rwa [head?_renumberFrom]
  · refine hleaf.imp_right fun hnone => ?_
    by_cases hc : c = 'M'
    · -- what follows the letter is the rest of its word, which has no leaf to renumber
      subst hc
      exact leafAt?_eq_none_congr (takeWhile_renumberFrom amount rest).symm hnone
    · exact leafAt?_eq_none_of_ne hc _

/-- The tokens of a renumbered text are the renumbered tokens of the text. -/
theorem scanFrom_renumberFrom (amount : Nat) (afterWord : Bool) (cs : List Char) :
    scanFrom afterWord (renumberFrom amount afterWord cs) =
      (scanFrom afterWord cs).map (Token.shift amount) := by
  induction afterWord, cs using scanInduction with
  | nil afterWord => simp [renumberFrom_nil]
  | cons afterWord c rest token after hnext ih =>
      rw [renumberFrom_cons hnext, scanFrom_cons afterWord c rest, hnext, List.map_cons, ← ih]
      rcases nextToken_cases hnext with
        ⟨body, rfl, hliteral⟩ | ⟨digits, rfl, rfl, rfl, hleaf⟩ | ⟨rfl, rfl, -⟩
      · have hbody := quote_notMem_of_literalAt? hliteral
        have hread := nextToken_literal afterWord (renumberFrom amount false after) hbody
        simp only [Token.shift, Token.chars, List.cons_append, List.append_assoc, List.nil_append,
          Token.endsInWord]
        rw [scanFrom_cons, hread]
        rfl
      · -- the new digits are followed by what followed the old ones
        obtain ⟨-, hne, hdigits, hafter⟩ := leafAt?_eq_some_iff.1 hleaf
        obtain ⟨digits', hshift, hne', hdigits'⟩ := Token.shift_leaf hne hdigits amount
        rw [← head?_renumberFrom amount true] at hafter
        have hread := nextToken_leaf hne' hdigits' _ hafter
        simp only [hshift, Token.chars, List.cons_append, Token.endsInWord]
        rw [scanFrom_cons, hread]
        rfl
      · have hread := nextToken_renumberFrom hnext amount
        simp only [Token.shift, Token.chars, List.cons_append, List.nil_append, Token.endsInWord]
        rw [scanFrom_cons, hread]
        rfl

/-- Renumbering keeps the tokens of a text apart from the indices in them. -/
theorem scan_shift (text : String) {amount : Nat} (h : amount ≠ 0) :
    scan (shift text amount) = (scan text).map (Token.shift amount) := by
  have hshift : (shift text amount).toList = renumberFrom amount false text.toList := by
    rw [shift, if_neg h, String.toList_ofList]
    rfl
  rw [scan, hshift]
  exact scanFrom_renumberFrom amount false text.toList

/-- Renumbering adds the amount to every leaf index, if none grows too large. -/
theorem leafIndices_shift {text : String} {amount : Nat}
    (h : ∀ index ∈ leafIndices text, index + amount ≤ largestNat64) :
    leafIndices (shift text amount) = (leafIndices text).map (· + amount) := by
  by_cases hzero : amount = 0
  · subst hzero
    simp
  · rw [leafIndices, scan_shift text hzero, List.filterMap_map, leafIndices, List.map_filterMap]
    apply List.filterMap_congr
    intro token htoken
    cases token with
    | plain c => rfl
    | literal body => rfl
    | leaf digits =>
        have hindex := h _ (List.mem_filterMap.2 ⟨.leaf digits, htoken, rfl⟩)
        cases hread : readNat64? digits with
        | none =>
            -- digits that denote no index count as the largest one, which nothing can be added to
            rw [hread, Option.getD_none] at hindex
            omega
        | some index =>
            rw [hread, Option.getD_some] at hindex
            simp [Token.leafIndex?, Token.shift, hread, hindex, readNat64?_toDigits hindex]

/-- A text none of whose leaves has room to move by an amount. -/
def Immovable (text : String) (amount : Nat) : Prop :=
  ∀ index ∈ leafIndices text, largestNat64 < index + amount

theorem Token.shift_eq_self_iff {token : Token} {amount : Nat} (hamount : amount ≠ 0) :
    token.shift amount = token ↔ ∀ index ∈ token.leafIndex?, largestNat64 < index + amount := by
  cases token with
  | plain c => simp [shift, leafIndex?]
  | literal body => simp [shift, leafIndex?]
  | leaf digits =>
      simp only [shift, leafIndex?, Option.mem_def, Option.some.injEq, forall_eq']
      cases hread : readNat64? digits with
      | none =>
          -- the largest index, for which such digits count, has no room
          rw [Option.getD_none]
          exact ⟨fun _ => by omega, fun _ => rfl⟩
      | some index =>
          rw [Option.getD_some]
          by_cases hroom : index + amount ≤ largestNat64
          · simp only [if_pos hroom]
            -- new digits that are the old ones would be read as the old index
            constructor
            · intro hsame
              rw [Token.leaf.injEq] at hsame
              rw [← hsame, readNat64?_toDigits hroom, Option.some.injEq] at hread
              omega
            · intro hbeyond
              omega
          · simp only [if_neg hroom]
            exact ⟨fun _ => Nat.not_le.1 hroom, fun _ => trivial⟩

/-- Renumbering keeps a text exactly if none of its leaves can be moved. -/
theorem shift_eq_self_iff {text : String} {amount : Nat} :
    shift text amount = text ↔ amount = 0 ∨ Immovable text amount := by
  by_cases hamount : amount = 0
  · subst hamount
    simp
  · have htokens : shift text amount = text ↔
        (scan text).map (Token.shift amount) = (scan text).map id := by
      rw [List.map_id]
      constructor
      · intro h
        rw [← scan_shift text hamount, h]
      · intro h
        rw [shift, if_neg hamount, h, concat_scan, String.ofList_toList]
    rw [htokens, List.map_inj_left, or_iff_right hamount]
    constructor
    · intro hkept index hindex
      obtain ⟨token, htoken, hleaf⟩ := List.mem_filterMap.1 hindex
      exact (Token.shift_eq_self_iff hamount).1 (hkept token htoken) index hleaf
    · intro himmovable token htoken
      apply (Token.shift_eq_self_iff hamount).2
      intro index hleaf
      exact himmovable index (List.mem_filterMap.2 ⟨token, htoken, hleaf⟩)

/-- Renumbering opens no literal. -/
theorem closed_shift {text : String} (h : Closed text) (amount : Nat) :
    Closed (shift text amount) := by
  by_cases hzero : amount = 0
  · subst hzero
    rwa [shift_zero]
  · rw [Closed, Token.Closed, scan_shift text hzero, List.isChain_map]
    refine List.IsChain.imp (fun left right hclosed => ?_) h
    -- a leaf stays a leaf, so the characters that open a literal were there before
    have hplain : ∀ (token : Token) (c : Char),
        token.shift amount = .plain c → token = .plain c := by
      intro token c htoken
      cases token with
      | plain d => exact htoken
      | literal body => exact htoken
      | leaf digits =>
          simp only [Token.shift] at htoken
          split at htoken
          · split at htoken <;> cases htoken
          · cases htoken
    rintro ⟨hleft, hright⟩
    exact hclosed ⟨hplain left '=' hleft, hplain right '"' hright⟩

end EventAlgebra
