import EventAlgebra.Json.Held
import EventAlgebra.Json.Parser
import EventAlgebra.Json.Printer
import Mathlib.Data.List.Forall2

/-!
# Reading what was written

A JSON value that was written as text is read back as it was. Each part of the notation is treated
on its own and in front of any further text: a string literal, an integer, the items and members of
a container with any blanks between them. `Denotes text value` says that a text is read as a value
wherever a value may stand; containers of both kinds follow from one argument
(`Container.denotes_text`).

The values that come back are those that hold nothing unreadable and no number but integers of 64
bits. The blanks that a way of writing sets make no difference (`Writer.denotes`). `parse?_pretty`
and `parse?_compact` state it for the text on indented lines and for the text without blanks.
-/

set_option autoImplicit false

namespace EventAlgebra.Json

open Text

/-! ## String literals -/

/-- A unit of a string literal that stands for a character: the character itself, or its number if
it is a control character. -/
def StringUnit.StandsFor (unit : StringUnit) (c : Char) : Prop :=
  unit = .char c ∨ unit = .unit c.toNat ∧ c.toNat < 0x20

/-- The number of a control character is written with four hexadecimal digits. -/
theorem hexUnit?_control : ∀ code < 0x20,
    hexUnit? '0' '0' (Nat.digitChar (code / 16)) (Nat.digitChar (code % 16)) = some code := by
  decide

/-- A written character is read as one unit that stands for it. -/
theorem readUnits_escapeChar (c : Char) (read : List StringUnit) (rest : List Char) :
    ∃ unit : StringUnit, unit.StandsFor c ∧
      readUnits read (escapeChar c ++ rest) = readUnits (unit :: read) rest := by
  unfold escapeChar
  split
  case h_8 hquote hbackslash _ _ _ _ _ =>
    split
    · rename_i hcontrol
      refine ⟨.unit c.toNat, Or.inr ⟨rfl, hcontrol⟩, ?_⟩
      simp only [List.cons_append, List.nil_append, readUnits, hexUnit?_control c.toNat hcontrol]
    · rename_i hplain
      refine ⟨.char c, Or.inl rfl, ?_⟩
      rw [List.cons_append, List.nil_append, readUnits]
      · exact if_neg hplain
      all_goals simp_all
  all_goals exact ⟨.char _, Or.inl rfl, rfl⟩

/-- A control character given by number is taken as it is: it is no half of a pair. -/
theorem decodeUnits_control {code : Nat} (h : code < 0x20) (decoded : List Char)
    (units : List StringUnit) :
    decodeUnits decoded (.unit code :: units) = decodeUnits (Char.ofNat code :: decoded) units := by
  have hleading : isLeadingUnit code = false := by simp [isLeadingUnit]; omega
  have htrailing : isTrailingUnit code = false := by simp [isTrailingUnit]; omega
  cases units with
  | nil => simp [decodeUnits, hleading, htrailing]
  | cons unit units =>
      cases unit with
      | char c => simp [decodeUnits, hleading, htrailing]
      | unit low => simp [decodeUnits, hleading, htrailing]

/-- Units denote the characters that they stand for. -/
theorem decodeUnits_of_standsFor {units : List StringUnit} {cs : List Char}
    (h : List.Forall₂ StringUnit.StandsFor units cs) (decoded : List Char) :
    decodeUnits decoded units = some (decoded.reverse ++ cs) := by
  induction h generalizing decoded with
  | nil => simp [decodeUnits]
  | cons hunit _ ih =>
      rcases hunit with rfl | ⟨rfl, hcontrol⟩
      · rw [decodeUnits, ih, List.reverse_cons, List.append_assoc, List.singleton_append]
      · rw [decodeUnits_control hcontrol, ih, Char.ofNat_toNat, List.reverse_cons,
          List.append_assoc, List.singleton_append]

/-- Written characters are read up to the closing quote, as units that stand for them. -/
theorem readUnits_escaped (cs : List Char) (read : List StringUnit) (rest : List Char) :
    ∃ units, List.Forall₂ StringUnit.StandsFor units cs ∧
      readUnits read (cs.flatMap escapeChar ++ '"' :: rest) =
        some (read.reverse ++ units, rest) := by
  induction cs generalizing read with
  | nil => exact ⟨[], .nil, by simp [readUnits]⟩
  | cons c cs ih =>
      obtain ⟨unit, hunit, hread⟩ :=
        readUnits_escapeChar c read (cs.flatMap escapeChar ++ '"' :: rest)
      obtain ⟨units, hunits, hrest⟩ := ih (unit :: read)
      refine ⟨unit :: units, .cons hunit hunits, ?_⟩
      rw [List.flatMap_cons, List.append_assoc, hread, hrest]
      simp

/-- A written string is read as one lexeme with its text. -/
theorem nextLexeme?_quote (text : String) (rest : List Char) :
    nextLexeme? ((quote text).toList ++ rest) = some (.text (some text), rest) := by
  obtain ⟨units, hunits, hread⟩ := readUnits_escaped text.toList [] rest
  have hdecode : decodeUnits? units = some text := by
    rw [decodeUnits?, decodeUnits_of_standsFor hunits]
    simp
  have htext : (quote text).toList ++ rest =
      '"' :: (text.toList.flatMap escapeChar ++ '"' :: rest) := by
    simp [quote]
  rw [htext, nextLexeme?, hread]
  simp [hdecode]

/-! ## Integers -/

/-- A text that does not carry on a number in front of it. -/
def EndsNumber (rest : List Char) : Prop :=
  ∀ c ∈ rest.head?, c.isDigit = false ∧ c ≠ '.' ∧ c ≠ 'e' ∧ c ≠ 'E'

theorem endsNumber_nil : EndsNumber [] := by
  simp [EndsNumber]

theorem endsNumber_cons {c : Char} (h : c.isDigit = false ∧ c ≠ '.' ∧ c ≠ 'e' ∧ c ≠ 'E')
    (rest : List Char) : EndsNumber (c :: rest) := by
  simpa [EndsNumber] using h

/-- Digits whose value fits in 64 bits are all taken in. -/
theorem absorbDigits_eq {digits : List Char} {significand : Nat}
    (h : Nat.ofDigitChars 10 digits significand ≤ largestNat64) :
    absorbDigits significand digits = (Nat.ofDigitChars 10 digits significand, []) := by
  induction digits generalizing significand with
  | nil => simp [absorbDigits]
  | cons digit digits ih =>
      rw [Nat.ofDigitChars_cons] at h ⊢
      -- what has been taken in so far is no more than the whole value
      have hnext : 10 * significand + (digit.toNat - '0'.toNat) ≤ largestNat64 := by
        rw [Nat.ofDigitChars_eq_ofDigitChars_zero] at h
        have hpow : 0 < 10 ^ digits.length := Nat.pow_pos (by decide)
        exact Nat.le_trans (Nat.le_trans (Nat.le_mul_of_pos_left _ hpow) (Nat.le_add_right _ _)) h
      rw [absorbDigits]
      simp only [if_pos hnext]
      exact ih h

theorem digitsAt?_append {digits rest : List Char} (hdigits : isDigitRun digits = true)
    (hrest : EndsNumber rest) : digitsAt? (digits ++ rest) = some (digits, rest) := by
  simp only [isDigitRun, Bool.and_eq_true, Bool.not_eq_true', List.isEmpty_eq_false_iff,
    List.all_eq_true] at hdigits
  have htake : rest.takeWhile Char.isDigit = [] := by
    cases rest with
    | nil => rfl
    | cons c rest => simp [(hrest c (by simp)).1]
  have hdrop : rest.dropWhile Char.isDigit = rest := by
    cases rest with
    | nil => rfl
    | cons c rest => simp [(hrest c (by simp)).1]
  rw [digitsAt?, List.takeWhile_append_of_pos hdigits.2, List.dropWhile_append_of_pos hdigits.2,
    htake, hdrop, List.append_nil]
  simp [hdigits.1]

/-- A number written in decimal has no zero in front, unless it is zero. -/
theorem toDigits_ne_zero_cons (n : Nat) (digit : Char) (digits : List Char) :
    Nat.toDigits 10 n ≠ '0' :: digit :: digits := by
  induction n using Nat.strongRecOn generalizing digit digits with
  | ind n ih =>
      intro hzero
      by_cases hsmall : n < 10
      · rw [Nat.toDigits_of_lt_base hsmall] at hzero
        simp at hzero
      · rw [Nat.toDigits_of_base_le (by decide) (Nat.not_lt.1 hsmall)] at hzero
        -- the leading digit is that of the number without its last digit
        cases hlead : Nat.toDigits 10 (n / 10) with
        | nil => exact Nat.toDigits_ne_nil hlead
        | cons first others =>
            rw [hlead, List.cons_append, List.cons.injEq] at hzero
            obtain ⟨rfl, hothers⟩ := hzero
            cases others with
            | cons second others => exact ih (n / 10) (by omega) second others hlead
            | nil =>
                have hvalue := congrArg (Nat.ofDigitChars 10 · 0) hlead
                rw [Nat.ofDigitChars_toDigits (by decide) (by decide)] at hvalue
                have : n / 10 = 0 := hvalue
                omega

theorem wholeAt?_toDigits (n : Nat) {rest : List Char} (hrest : EndsNumber rest) :
    wholeAt? (Nat.toDigits 10 n ++ rest) = some (Nat.toDigits 10 n, rest) := by
  rw [wholeAt?, digitsAt?_append (isDigitRun_toDigits n) hrest]
  split
  · rename_i heq
    simp only [Option.some.injEq, Prod.mk.injEq] at heq
    exact absurd heq.1 (toDigits_ne_zero_cons n _ _)
  · rfl

/-- The decimal digits of a number are read as the whole part of a literal, without a fraction and
without an exponent. -/
theorem unsignedAt?_toDigits (negative : Bool) (n : Nat) {rest : List Char}
    (hrest : EndsNumber rest) :
    unsignedAt? negative (Nat.toDigits 10 n ++ rest) =
      some (⟨negative, Nat.toDigits 10 n, [], none⟩, rest) := by
  have hfraction : fractionAt? rest = some ([], rest) := by
    unfold fractionAt?
    split
    · exact absurd rfl (hrest '.' (by simp)).2.1
    · rfl
  have hexponent : exponentAt? rest = some (none, rest) := by
    cases rest with
    | nil => rfl
    | cons c rest =>
        obtain ⟨-, -, hlower, hupper⟩ := hrest c (by simp)
        simp [exponentAt?, hlower, hupper]
  rw [unsignedAt?, wholeAt?_toDigits n hrest]
  simp [hfraction, hexponent]

/-- The number of decimal digits that fit in 64 bits. -/
theorem value?_toDigits {n : Nat} (h : n ≤ largestNat64) (negative : Bool) :
    NumberLiteral.value? ⟨negative, Nat.toDigits 10 n, [], none⟩ = integerNumber? negative n := by
  have habsorb : absorbDigits 0 (Nat.toDigits 10 n) = (n, []) := by
    have hvalue := Nat.ofDigitChars_toDigits (b := 10) (n := n) (by decide) (by decide)
    rw [absorbDigits_eq (by rw [hvalue]; exact h), hvalue]
  simp [NumberLiteral.value?, NumberLiteral.parts, NumberLiteral.isInteger, habsorb, absorbDigits]

/-- An integer of 64 bits, signed or not. -/
def Number.isWhole : Number → Bool
  | integer value => -0x8000000000000000 ≤ value && value ≤ largestNat64
  | real _ _ => false

/-- What starts with a digit is read as a number. -/
theorem nextLexeme?_digit {c : Char} (h : c.isDigit = true) (cs : List Char) :
    nextLexeme? (c :: cs) =
      (unsignedAt? false (c :: cs)).map fun found => (.number found.1.value?, found.2) := by
  have hne : ∀ d : Char, d.isDigit = false → c ≠ d := by
    rintro d hd rfl
    rw [h] at hd
    cases hd
  rw [nextLexeme?, numberAt?]
  all_goals
    intro rest heq
    refine hne _ ?_ (List.cons.inj heq).1
    decide

/-- A written integer is read as one lexeme with its value. -/
theorem nextLexeme?_render {value : Number} (h : value.isWhole = true) {rest : List Char}
    (hrest : EndsNumber rest) :
    nextLexeme? (value.render.toList ++ rest) = some (.number (some value), rest) := by
  cases value with
  | real negative magnitude => cases h
  | integer value =>
      simp only [Number.isWhole, Bool.and_eq_true, decide_eq_true_eq] at h
      cases value with
      | ofNat n =>
          have hle : n ≤ largestNat64 := Int.ofNat_le.1 h.2
          have hdigits : (Number.integer (.ofNat n)).render.toList = Nat.toDigits 10 n := by
            show (Nat.repr n).toList = _
            rw [Nat.repr_eq_ofList_toDigits, String.toList_ofList]
          rw [hdigits]
          cases hcons : Nat.toDigits 10 n with
          | nil => exact absurd hcons Nat.toDigits_ne_nil
          | cons digit digits =>
              have hdigit : digit.isDigit = true :=
                Nat.isDigit_of_mem_toDigits (by decide) (by decide) (hcons ▸ List.mem_cons_self)
              rw [List.cons_append, nextLexeme?_digit hdigit, ← List.cons_append, ← hcons,
                unsignedAt?_toDigits false n hrest]
              simp [value?_toDigits hle, integerNumber?]
      | negSucc n =>
          have hle : n + 1 ≤ 0x8000000000000000 := by
            have := h.1
            rw [Int.negSucc_eq] at this
            omega
          have hdigits : (Number.integer (.negSucc n)).render.toList =
              '-' :: Nat.toDigits 10 (n + 1) := by
            show ("-" ++ Nat.repr (n + 1)).toList = _
            rw [Nat.repr_eq_ofList_toDigits, String.toList_append, String.toList_ofList]
            simp
          rw [hdigits, List.cons_append, nextLexeme?, numberAt?,
            unsignedAt?_toDigits true (n + 1) hrest]
          · have hlarge : n + 1 ≤ largestNat64 := Nat.le_trans hle (by decide)
            have hbound : ¬ 0x8000000000000000 < n + 1 := Nat.not_lt.2 hle
            simp [value?_toDigits hlarge, integerNumber?, hbound, Int.negSucc_eq]
          all_goals simp

/-! ## Reading lexeme by lexeme -/

/-- No lexeme starts with a blank. -/
theorem nextLexeme?_gap {c : Char} (h : isGap c = true) (cs : List Char) :
    nextLexeme? (c :: cs) = none := by
  simp only [isGap, Bool.or_eq_true, beq_iff_eq] at h
  rcases h with ((rfl | rfl) | rfl) | rfl
  all_goals simp [nextLexeme?, numberAt?, unsignedAt?, wholeAt?, digitsAt?]

/-- Reading goes on behind a lexeme with the state that the lexeme leads to. -/
theorem run_lexeme {state next : ReadState} {cs rest : List Char} {lexeme : Lexeme}
    (hlexeme : nextLexeme? cs = some (lexeme, rest)) (hstep : state.step lexeme = some next) :
    state.run cs = next.run rest := by
  have hgap : skipGap cs = cs := by
    cases cs with
    | nil => rfl
    | cons c cs =>
        refine List.dropWhile_cons_of_neg fun hblank => ?_
        rw [nextLexeme?_gap hblank] at hlexeme
        cases hlexeme
  have hne : cs ≠ [] := by
    rintro rfl
    simp [nextLexeme?, numberAt?, unsignedAt?, wholeAt?, digitsAt?] at hlexeme
  rw [ReadState.run, hgap, if_neg (by simpa using hne)]
  split
  · rename_i hnone
    rw [hlexeme] at hnone
    cases hnone
  · rename_i found hfound
    rw [hlexeme] at hfound
    cases hfound
    simp only [hstep]

/-- Blanks in front of a text make no difference. -/
theorem run_gap {gap : List Char} (h : ∀ c ∈ gap, isGap c = true) (state : ReadState)
    (cs : List Char) : state.run (gap ++ cs) = state.run cs := by
  have hskip : skipGap (gap ++ cs) = skipGap cs := List.dropWhile_append_of_pos h
  rw [ReadState.run, ReadState.run, hskip]

/-- A text that is read as a value wherever a value may stand, up to where a number ends. -/
def Denotes (text : List Char) (value : Json) : Prop :=
  ∀ (phase : Phase) (stack : List Frame) (rest : List Char),
    phase = .value ∨ phase = .itemOrClose → EndsNumber rest →
      ReadState.run ⟨phase, stack⟩ (text ++ rest) = (deliver value stack).run rest

/-- One lexeme that is a value by itself. -/
theorem denotes_lexeme (lexeme : Lexeme) {text : List Char} {value : Json}
    (hlexeme : ∀ rest, EndsNumber rest → nextLexeme? (text ++ rest) = some (lexeme, rest))
    (hbegin : ∀ stack, beginValue stack lexeme = some (deliver value stack))
    (hopen : lexeme ≠ .closeArray) : Denotes text value := by
  intro phase stack rest hphase hrest
  refine run_lexeme (hlexeme rest hrest) ?_
  rcases hphase with rfl | rfl
  · exact hbegin stack
  · -- where an array may be closed, a value may stand as well
    rw [ReadState.step, hbegin]
    exact fun items outer hclose _ => hopen hclose

/-! ## Containers -/

/-- One of the two kinds of containers, with the steps by which it is read. What has been read of
an open container stands in its frame, last first. -/
structure Container (α : Type) where
  opening : Char
  closing : Char
  openLexeme : Lexeme
  closeLexeme : Lexeme
  frame : List α → Frame
  /-- What may come right behind the opening. -/
  first : Phase
  /-- What may come behind a comma. -/
  later : Phase
  build : List α → Json
  lexeme_opening : ∀ rest, nextLexeme? (opening :: rest) = some (openLexeme, rest)
  lexeme_closing : ∀ rest, nextLexeme? (closing :: rest) = some (closeLexeme, rest)
  ends_closing : ∀ rest, EndsNumber (closing :: rest)
  step_open : ∀ phase stack, phase = .value ∨ phase = .itemOrClose →
    ReadState.step ⟨phase, stack⟩ openLexeme = some ⟨first, frame [] :: stack⟩
  step_comma : ∀ read stack,
    ReadState.step ⟨.separator, frame read :: stack⟩ .comma = some ⟨later, frame read :: stack⟩
  step_close : ∀ read stack, ReadState.step ⟨.separator, frame read :: stack⟩ closeLexeme =
    some (deliver (build read.reverse) stack)
  step_close_empty : ∀ stack, ReadState.step ⟨first, frame [] :: stack⟩ closeLexeme =
    some (deliver (build []) stack)

/-- Arrays, of values. -/
def Container.arrays : Container Json where
  opening := '['
  closing := ']'
  openLexeme := .openArray
  closeLexeme := .closeArray
  frame := .array
  first := .itemOrClose
  later := .value
  build := .array
  lexeme_opening _ := rfl
  lexeme_closing _ := rfl
  ends_closing := endsNumber_cons (by decide)
  step_open := by
    rintro phase stack (rfl | rfl)
    · rfl
    · cases stack with
      | nil => rfl
      | cons frame stack => cases frame <;> rfl
  step_comma _ _ := rfl
  step_close _ _ := rfl
  step_close_empty _ := rfl

/-- Objects, of members. -/
def Container.objects : Container (String × Json) where
  opening := '\x7b'
  closing := '\x7d'
  openLexeme := .openObject
  closeLexeme := .closeObject
  frame read := .object (some read) none
  first := .keyOrClose
  later := .key
  build := .object
  lexeme_opening _ := rfl
  lexeme_closing _ := rfl
  ends_closing := endsNumber_cons (by decide)
  step_open := by
    rintro phase stack (rfl | rfl)
    · rfl
    · cases stack with
      | nil => rfl
      | cons frame stack => cases frame <;> rfl
  step_comma _ _ := rfl
  step_close _ _ := rfl
  step_close_empty _ := rfl

namespace Container

variable {α : Type} (container : Container α)

/-- A text that is read as one entry of a container. -/
def Reads (part : List Char) (entry : α) : Prop :=
  ∀ (phase : Phase) (read : List α) (stack : List Frame) (rest : List Char),
    phase = container.first ∨ phase = container.later → EndsNumber rest →
      ReadState.run ⟨phase, container.frame read :: stack⟩ (part ++ rest) =
        ReadState.run ⟨.separator, container.frame (entry :: read) :: stack⟩ rest

/-- Parts with a comma and blanks between them. -/
def separated (gap : List Char) : List (List Char) → List Char
  | [] => []
  | [part] => part
  | part :: next :: parts => part ++ ',' :: (gap ++ separated gap (next :: parts))

/-- A container as text: its parts between its brackets, with blanks inside. -/
def text (before between behind : List Char) (parts : List (List Char)) : List Char :=
  container.opening :: (before ++ (separated between parts ++ (behind ++ [container.closing])))

variable {container} {gap : List Char} (hgap : ∀ c ∈ gap, isGap c = true)

include hgap

theorem endsNumber_gap {rest : List Char} (hrest : EndsNumber rest) : EndsNumber (gap ++ rest) := by
  cases gap with
  | nil => exact hrest
  | cons c gap =>
      have hblank := hgap c List.mem_cons_self
      simp only [isGap, Bool.or_eq_true, beq_iff_eq] at hblank
      refine endsNumber_cons ?_ _
      rcases hblank with ((rfl | rfl) | rfl) | rfl
      all_goals decide

/-- Separated parts are read one after the other. -/
theorem run_separated {parts : List (List Char)} {entries : List α}
    (h : List.Forall₂ container.Reads parts entries) (hne : parts ≠ []) {phase : Phase}
    (hphase : phase = container.first ∨ phase = container.later) (read : List α)
    (stack : List Frame) {rest : List Char} (hrest : EndsNumber rest) :
    ReadState.run ⟨phase, container.frame read :: stack⟩ (separated gap parts ++ rest) =
      ReadState.run ⟨.separator, container.frame (entries.reverse ++ read) :: stack⟩ rest := by
  induction h generalizing phase read with
  | nil => exact absurd rfl hne
  | @cons part entry parts entries hpart hparts ih =>
      cases hparts with
      | nil => exact hpart phase read stack rest hphase hrest
      | @cons next nextEntry parts entries hnext hmore =>
          have hcomma : EndsNumber (',' :: (gap ++ separated gap (next :: parts)) ++ rest) :=
            endsNumber_cons (by decide) _
          rw [separated, List.append_assoc, hpart phase read stack _ hphase hcomma,
            List.cons_append, run_lexeme rfl (container.step_comma (entry :: read) stack),
            List.append_assoc, run_gap hgap, ih (by simp) (Or.inr rfl)]
          simp

/-- A container of parts that are read as its entries is read as the value it builds. -/
theorem denotes_text {before behind : List Char} (hbefore : ∀ c ∈ before, isGap c = true)
    (hbehind : ∀ c ∈ behind, isGap c = true) {parts : List (List Char)} {entries : List α}
    (h : List.Forall₂ container.Reads parts entries) :
    Denotes (container.text before gap behind parts) (container.build entries) := by
  intro phase stack rest hphase hrest
  have hclose : EndsNumber (container.closing :: rest) := container.ends_closing rest
  rw [text, List.cons_append, run_lexeme (container.lexeme_opening _)
    (container.step_open phase stack hphase), List.append_assoc, run_gap hbefore]
  simp only [List.append_assoc, List.singleton_append]
  cases h with
  | nil =>
      rw [separated, List.nil_append, run_gap hbehind,
        run_lexeme (container.lexeme_closing rest) (container.step_close_empty stack)]
  | @cons part entry parts entries hpart hparts =>
      rw [run_separated hgap (.cons hpart hparts) (by simp) (Or.inl rfl) [] stack
        (endsNumber_gap hbehind hclose), run_gap hbehind,
        run_lexeme (container.lexeme_closing rest) (container.step_close _ stack)]
      simp

omit hgap in
/-- A text that denotes a value is an item of an array. -/
theorem reads_item {text : List Char} {value : Json} (h : Denotes text value) :
    arrays.Reads text value := by
  intro phase read stack rest hphase hrest
  exact h phase _ rest hphase.symm hrest

/-- A written key, a colon and a text that denotes a value are a member of an object. -/
theorem reads_member {text : List Char} {value : Json} (h : Denotes text value) (key : String) :
    objects.Reads ((quote key).toList ++ ':' :: (gap ++ text)) (key, value) := by
  intro phase read stack rest hphase hrest
  have hkey : ReadState.step ⟨phase, objects.frame read :: stack⟩ (.text (some key)) =
      some ⟨.colon, .object (some read) (some key) :: stack⟩ := by
    rcases hphase with rfl | rfl
    all_goals rfl
  rw [List.append_assoc, run_lexeme (nextLexeme?_quote key _) hkey, List.cons_append,
    run_lexeme rfl rfl, List.append_assoc, run_gap hgap, h .value _ rest (Or.inl rfl) hrest]
  rfl

end Container

/-! ## Values -/

/-- A property holds of every value if it holds of a container whenever it holds of what is in
it. -/
theorem values_induction {motive : Json → Prop} (null : motive .null)
    (bool : ∀ value, motive (.bool value)) (number : ∀ value, motive (.number value))
    (string : ∀ value, motive (.string value)) (unreadable : motive .unreadable)
    (array : ∀ items, (∀ item ∈ items, motive item) → motive (.array items))
    (object : ∀ members, (∀ member ∈ members, motive member.2) → motive (.object members))
    (value : Json) : motive value := by
  match value with
  | .null => exact null
  | .bool value => exact bool value
  | .number value => exact number value
  | .string value => exact string value
  | .unreadable => exact unreadable
  | .array items =>
      exact array items fun item _ =>
        values_induction null bool number string unreadable array object item
  | .object members =>
      exact object members fun member _ =>
        values_induction null bool number string unreadable array object member.2
termination_by sizeOf value
decreasing_by
  · rename_i hitem
    have := List.sizeOf_lt_of_mem hitem
    simp only [Json.array.sizeOf_spec]
    omega
  · rename_i hmember
    have := List.sizeOf_lt_of_mem hmember
    obtain ⟨key, value⟩ := member
    simp only [Prod.mk.sizeOf_spec] at this
    simp only [Json.object.sizeOf_spec]
    omega

mutual

/-- Whether all numbers in a value pass a test. -/
def allNumbers (test : Number → Bool) : Json → Bool
  | number value => test value
  | array items => allNumbersItems test items
  | object members => allNumbersMembers test members
  | _ => true

/-- Whether all numbers in the items of an array pass a test. -/
def allNumbersItems (test : Number → Bool) : List Json → Bool
  | [] => true
  | item :: rest => allNumbers test item && allNumbersItems test rest

/-- Whether all numbers in the members of an object pass a test. -/
def allNumbersMembers (test : Number → Bool) : List (String × Json) → Bool
  | [] => true
  | (_, value) :: rest => allNumbers test value && allNumbersMembers test rest

end

@[simp] theorem allNumbersItems_iff (test : Number → Bool) (items : List Json) :
    allNumbersItems test items = true ↔ ∀ item ∈ items, allNumbers test item = true := by
  induction items with
  | nil => simp [allNumbersItems]
  | cons item rest ih => simp [allNumbersItems, ih]

@[simp] theorem allNumbersMembers_iff (test : Number → Bool) (members : List (String × Json)) :
    allNumbersMembers test members = true ↔
      ∀ member ∈ members, allNumbers test member.2 = true := by
  induction members with
  | nil => simp [allNumbersMembers]
  | cons member rest ih => simp [allNumbersMembers, ih]

@[simp] theorem fitsItems_iff (depth : Nat) (items : List Json) :
    fitsItems depth items = true ↔ ∀ item ∈ items, fits depth item = true := by
  induction items with
  | nil => simp [fitsItems]
  | cons item rest ih => simp [fitsItems, ih]

@[simp] theorem fitsMembers_iff (depth : Nat) (members : List (String × Json)) :
    fitsMembers depth members = true ↔ ∀ member ∈ members, fits depth member.2 = true := by
  induction members with
  | nil => simp [fitsMembers]
  | cons member rest ih => simp [fitsMembers, ih]

theorem prettyItems_eq_map (level : Nat) (items : List Json) :
    prettyItems level items = items.map (prettyAt level) := by
  induction items with
  | nil => simp [prettyItems]
  | cons item rest ih => simp [prettyItems, ih]

theorem prettyMembers_eq_map (level : Nat) (members : List (String × Json)) :
    prettyMembers level members =
      members.map fun member => quote member.1 ++ ": " ++ prettyAt level member.2 := by
  induction members with
  | nil => simp [prettyMembers]
  | cons member rest ih => simp [prettyMembers, ih]

theorem compactItems_eq_map (items : List Json) : compactItems items = items.map compact := by
  induction items with
  | nil => simp [compactItems]
  | cons item rest ih => simp [compactItems, ih]

theorem compactMembers_eq_map (members : List (String × Json)) :
    compactMembers members =
      members.map fun member => quote member.1 ++ ":" ++ compact member.2 := by
  induction members with
  | nil => simp [compactMembers]
  | cons member rest ih => simp [compactMembers, ih]

/-- The blanks at the start of a line. -/
theorem isGap_of_mem_lineStart {level : Nat} {c : Char} (h : c ∈ (lineStart level).toList) :
    isGap c = true := by
  simp only [lineStart, String.toList_ofList, List.mem_cons, List.mem_replicate] at h
  rcases h with rfl | ⟨-, rfl⟩
  all_goals decide

/-- Joined texts are separated parts. -/
theorem toList_joinWith_comma (gap : String) (parts : List String) :
    (joinWith ("," ++ gap) parts).toList =
      Container.separated gap.toList (parts.map String.toList) := by
  induction parts with
  | nil => rfl
  | cons part parts ih =>
      cases parts with
      | nil => rfl
      | cons next parts =>
          rw [joinWith, String.toList_append, ih]
          simp [Container.separated]

/-- A text that has some parts between the brackets of a container, with any blanks inside. -/
def Container.Encloses {α : Type} (container : Container α) (text : String)
    (parts : List String) : Prop :=
  ∃ before between behind : List Char, (∀ c ∈ before, isGap c = true) ∧
    (∀ c ∈ between, isGap c = true) ∧ (∀ c ∈ behind, isGap c = true) ∧
    text.toList = container.text before between behind (parts.map String.toList)

/-- A text that encloses the entries of a container is read as the value that it builds. -/
theorem Container.Encloses.denotes {α : Type} {container : Container α} {text : String}
    {entries : List α} {write : α → String}
    (h : container.Encloses text (entries.map write))
    (hentries : ∀ entry ∈ entries, container.Reads (write entry).toList entry) :
    Denotes text.toList (container.build entries) := by
  obtain ⟨before, between, behind, hbefore, hbetween, hbehind, htext⟩ := h
  rw [htext]
  apply Container.denotes_text hbetween hbefore hbehind
  rw [List.map_map, List.forall₂_map_left_iff, List.forall₂_same]
  exact hentries

/-- A container on lines of its own. -/
theorem encloses_block {α : Type} {container : Container α} {opening closing : String}
    (hopening : opening.toList = [container.opening])
    (hclosing : closing.toList = [container.closing]) (level : Nat) (parts : List String) :
    container.Encloses (block level opening closing parts) parts := by
  unfold block
  split
  · rename_i hempty
    refine ⟨[], [], [], by simp, by simp, by simp, ?_⟩
    rw [List.isEmpty_iff.1 hempty]
    simp [Container.text, Container.separated, hopening, hclosing]
  · refine ⟨(lineStart (level + 1)).toList, (lineStart (level + 1)).toList,
      (lineStart level).toList, fun c => isGap_of_mem_lineStart, fun c => isGap_of_mem_lineStart,
      fun c => isGap_of_mem_lineStart, ?_⟩
    simp [Container.text, toList_joinWith_comma, hopening, hclosing]

/-- A container without blanks. -/
theorem encloses_joinWith {α : Type} {container : Container α} {opening closing : String}
    (hopening : opening.toList = [container.opening])
    (hclosing : closing.toList = [container.closing]) (parts : List String) :
    container.Encloses (opening ++ joinWith "," parts ++ closing) parts := by
  have hparts : (joinWith "," parts).toList = Container.separated [] (parts.map String.toList) :=
    toList_joinWith_comma "" parts
  refine ⟨[], [], [], by simp, by simp, by simp, ?_⟩
  simp [Container.text, hparts, hopening, hclosing]

/-! ## Ways of writing -/

/-- A way of writing values. It may set blanks inside containers, by the level at which they stand,
and behind the colons of members. All else is fixed. -/
structure Writer where
  write : Nat → Json → String
  /-- The blanks behind a colon. -/
  afterColon : String
  isGap_afterColon : ∀ c ∈ afterColon.toList, isGap c = true
  write_null : ∀ level, write level null = "null"
  write_true : ∀ level, write level (bool true) = "true"
  write_false : ∀ level, write level (bool false) = "false"
  write_number : ∀ level value, write level (number value) = value.render
  write_string : ∀ level value, write level (string value) = quote value
  encloses_items : ∀ level items,
    Container.arrays.Encloses (write level (array items)) (items.map (write (level + 1)))
  encloses_members : ∀ level members,
    Container.objects.Encloses (write level (object members)) (members.map fun member =>
      quote member.1 ++ ":" ++ afterColon ++ write (level + 1) member.2)

namespace Writer

/-- A value is read as it was, in whatever way it is written. -/
theorem denotes (writer : Writer) {depth : Nat} {value : Json} (hfits : fits depth value = true)
    (hwhole : allNumbers Number.isWhole value = true) (level : Nat) :
    Denotes (writer.write level value).toList value := by
  induction value using values_induction generalizing depth level with
  | null =>
      rw [writer.write_null]
      exact denotes_lexeme .null (fun rest _ => by simp [nextLexeme?]) (fun _ => rfl) (by simp)
  | bool value =>
      refine denotes_lexeme (.bool value) (fun rest _ => ?_) (fun _ => rfl) (by simp)
      cases value with
      | true => simp [writer.write_true, nextLexeme?]
      | false => simp [writer.write_false, nextLexeme?]
  | number value =>
      rw [writer.write_number]
      exact denotes_lexeme (.number (some value))
        (fun rest hrest => nextLexeme?_render hwhole hrest) (fun _ => rfl) (by simp)
  | string value =>
      rw [writer.write_string]
      exact denotes_lexeme (.text (some value))
        (fun rest _ => nextLexeme?_quote value rest) (fun _ => rfl) (by simp)
  | unreadable => simp [fits] at hfits
  | array items ih =>
      cases depth with
      | zero => simp [fits] at hfits
      | succ depth =>
          simp only [fits, fitsItems_iff, allNumbers, allNumbersItems_iff] at hfits hwhole
          apply (writer.encloses_items level items).denotes
          intro item hitem
          apply Container.reads_item
          exact ih item hitem (hfits item hitem) (hwhole item hitem) (level + 1)
  | object members ih =>
      cases depth with
      | zero => simp [fits] at hfits
      | succ depth =>
          simp only [fits, fitsMembers_iff, allNumbers, allNumbersMembers_iff] at hfits hwhole
          apply (writer.encloses_members level members).denotes
          intro member hmember
          have hvalue :=
            ih member hmember (hfits member hmember) (hwhole member hmember) (level + 1)
          simpa using Container.reads_member writer.isGap_afterColon hvalue member.1

/-- A value that is readable throughout and holds no number but integers of 64 bits is read back
from its text. -/
theorem parse?_write (writer : Writer) {depth : Nat} {value : Json}
    (hfits : fits depth value = true) (hwhole : allNumbers Number.isWhole value = true)
    (level : Nat) : parse? (writer.write level value) = some value := by
  have hread := writer.denotes hfits hwhole level .value [] [] (Or.inl rfl) endsNumber_nil
  rw [List.append_nil] at hread
  rw [parse?, ReadState.start, hread, ReadState.run]
  rfl

/-- On indented lines. -/
def indented : Writer where
  write := prettyAt
  afterColon := " "
  isGap_afterColon := by simp [isGap]
  write_null _ := by rw [prettyAt]
  write_true _ := by rw [prettyAt]
  write_false _ := by rw [prettyAt]
  write_number _ _ := by rw [prettyAt]
  write_string _ _ := by rw [prettyAt]
  encloses_items level items := by
    rw [prettyAt, ← prettyItems_eq_map]
    exact encloses_block rfl rfl level _
  encloses_members level members := by
    have hparts : (members.map fun member =>
        quote member.1 ++ ":" ++ " " ++ prettyAt (level + 1) member.2) =
          prettyMembers (level + 1) members := by
      rw [prettyMembers_eq_map]
      refine List.map_congr_left fun member _ => ?_
      exact congrArg (· ++ prettyAt (level + 1) member.2) String.append_assoc
    rw [prettyAt, hparts]
    exact encloses_block rfl rfl level _

/-- Without blanks. -/
def plain : Writer where
  write _ := compact
  afterColon := ""
  isGap_afterColon := by simp
  write_null _ := by rw [compact]
  write_true _ := by rw [compact]
  write_false _ := by rw [compact]
  write_number _ _ := by rw [compact]
  write_string _ _ := by rw [compact]
  encloses_items _ items := by
    rw [compact, ← compactItems_eq_map]
    exact encloses_joinWith rfl rfl _
  encloses_members _ members := by
    simp only [String.append_empty]
    rw [compact, ← compactMembers_eq_map]
    exact encloses_joinWith rfl rfl _

end Writer

/-- A value that is readable throughout and holds no number but integers of 64 bits is read back
from its text on indented lines. -/
theorem parse?_pretty {depth : Nat} {value : Json} (hfits : fits depth value = true)
    (hwhole : allNumbers Number.isWhole value = true) : parse? value.pretty = some value :=
  Writer.indented.parse?_write hfits hwhole 0

/-- Such a value is read back from its text without blanks too. -/
theorem parse?_compact {depth : Nat} {value : Json} (hfits : fits depth value = true)
    (hwhole : allNumbers Number.isWhole value = true) : parse? value.compact = some value :=
  Writer.plain.parse?_write hfits hwhole 0

end EventAlgebra.Json
