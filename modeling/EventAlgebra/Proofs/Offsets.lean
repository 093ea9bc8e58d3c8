import EventAlgebra.Form.Constraint
import EventAlgebra.Proofs.Expression

/-!
# The offsets that a form accepts

An offset is a signed integer of 64 bits. `SignedDecimal` says which texts write which integers, and
`readInt64?_eq_some_iff` that reading finds exactly those that fit. A plus sign in front of the
offset is dropped before the integer is read, together with the blanks behind it, so a text may also
have a plus sign, blanks, and then an integer (`ConstraintForm.readOffset_eq_ok_iff`). A row with
variables and an operator is valid whenever its offset is an `OffsetText`, and invalid otherwise
unless a second sign follows the plus (`validate_offsetText`).
-/

set_option autoImplicit false

namespace EventAlgebra

open Text

/-! ## Signed decimals -/

/-- The integers of 64 bits. -/
def FitsInt64 (value : Int) : Prop :=
  -0x8000000000000000 ≤ value ∧ value < 0x8000000000000000

instance (value : Int) : Decidable (FitsInt64 value) :=
  inferInstanceAs (Decidable (_ ∧ _))

/-- A run of digits with at most one sign in front, and the integer that it writes. -/
inductive SignedDecimal : List Char → Int → Prop where
  | bare {digits : List Char} (h : isDigitRun digits = true) :
      SignedDecimal digits (digitRunValue digits)
  | plus {digits : List Char} (h : isDigitRun digits = true) :
      SignedDecimal ('+' :: digits) (digitRunValue digits)
  | minus {digits : List Char} (h : isDigitRun digits = true) :
      SignedDecimal ('-' :: digits) (-(digitRunValue digits))

/-- Digits are no blanks. -/
theorem isBlank_of_isDigit {c : Char} (h : c.isDigit = true) : isBlank c = false := by
  have hcode : 48 ≤ c.toNat ∧ c.toNat ≤ 57 := by
    simpa [Char.isDigit, UInt32.le_iff_toNat_le] using h
  rw [Bool.eq_false_iff, isBlank, Ne, CodeRanges.covers_iff]
  rintro ⟨range, hrange, hlow, hhigh⟩
  have hapart : ∀ range ∈ blanks, range.2 < 48 ∨ 57 < range.1 := by decide
  have hside := hapart range hrange
  omega

/-- A run of digits has no sign in front. -/
theorem not_isDigitRun_sign {sign : Char} (h : sign = '+' ∨ sign = '-') (cs : List Char) :
    ¬ isDigitRun (sign :: cs) = true := by
  intro hrun
  have hdigit := isDigit_of_isDigitRun hrun List.mem_cons_self
  rcases h with rfl | rfl
  · exact absurd hdigit (by decide)
  · exact absurd hdigit (by decide)

/-- Without a sign, the digits are read as they are. -/
theorem readInt64?_of_isDigitRun {digits : List Char} (h : isDigitRun digits = true)
    (hbound : digitRunValue digits < 0x8000000000000000) :
    readInt64? digits = some (digitRunValue digits : Int) := by
  unfold readInt64?
  split
  · exact absurd h (not_isDigitRun_sign (Or.inr rfl) _)
  · exact absurd h (not_isDigitRun_sign (Or.inl rfl) _)
  · simp [h, hbound]

/-- Reading finds the integers of 64 bits that are written as signed decimals. -/
theorem readInt64?_eq_some_iff {cs : List Char} {value : Int} :
    readInt64? cs = some value ↔ SignedDecimal cs value ∧ FitsInt64 value := by
  constructor
  · intro h
    unfold readInt64? at h
    split at h
    all_goals
      simp only [Option.ite_none_right_eq_some, Bool.and_eq_true, decide_eq_true_eq,
        Option.some.injEq] at h
      obtain ⟨⟨hrun, hbound⟩, rfl⟩ := h
    · exact ⟨.minus hrun, by simp only [FitsInt64]; omega⟩
    · exact ⟨.plus hrun, by simp only [FitsInt64]; omega⟩
    · exact ⟨.bare hrun, by simp only [FitsInt64]; omega⟩
  · rintro ⟨hdecimal, hlow, hhigh⟩
    cases hdecimal with
    | bare hrun =>
        have hbound : digitRunValue cs < 0x8000000000000000 := by omega
        exact readInt64?_of_isDigitRun hrun hbound
    | @plus digits hrun =>
        have hbound : digitRunValue digits < 0x8000000000000000 := by omega
        simp [readInt64?, hrun, hbound]
    | @minus digits hrun =>
        have hbound : digitRunValue digits ≤ 0x8000000000000000 := by omega
        simp [readInt64?, hrun, hbound]

/-- A signed decimal has no blanks. -/
theorem SignedDecimal.not_isBlank {cs : List Char} {value : Int} (h : SignedDecimal cs value) :
    ∀ c ∈ cs, isBlank c = false := by
  have hdigits : ∀ digits, isDigitRun digits = true → ∀ c ∈ digits, isBlank c = false := by
    intro digits hrun c hc
    exact isBlank_of_isDigit (isDigit_of_isDigitRun hrun hc)
  cases h with
  | bare hrun => exact hdigits cs hrun
  | plus hrun => exact List.forall_mem_cons.2 ⟨by decide, hdigits _ hrun⟩
  | minus hrun => exact List.forall_mem_cons.2 ⟨by decide, hdigits _ hrun⟩

/-- An integer written with its sign is a signed decimal. -/
theorem signedDecimal_signed (value : Int) : SignedDecimal (signed value).toList value := by
  cases value with
  | ofNat n =>
      have hplus := SignedDecimal.plus (isDigitRun_toDigits n)
      rw [digitRunValue_toDigits] at hplus
      rw [signed_ofNat]
      simpa using hplus
  | negSucc n =>
      have hminus := SignedDecimal.minus (isDigitRun_toDigits (n + 1))
      rw [digitRunValue_toDigits] at hminus
      rw [signed_negSucc]
      simpa [Int.negSucc_eq] using hminus

/-! ## Offsets -/

/-- A plus sign in front of a text, with blanks between them or without. -/
def PlusBefore (behind text : List Char) : Prop :=
  ∃ gap, (∀ c ∈ gap, isBlank c = true) ∧ text = '+' :: (gap ++ behind)

/-- The offsets of the grammar, as texts without blanks at the ends: nothing, or a signed decimal
that fits in 64 bits, with blanks behind its plus sign or without. -/
inductive OffsetText : List Char → Option Int → Prop where
  | blank : OffsetText [] none
  | number {text : List Char} {value : Int} (h : SignedDecimal text value)
      (hfits : FitsInt64 value) : OffsetText text (some value)
  | spaced {digits text : List Char} (h : isDigitRun digits = true) (hplus : PlusBefore digits text)
      (hfits : FitsInt64 (digitRunValue digits)) : OffsetText text (some (digitRunValue digits))

/-- A plus sign in front of an integer that has a sign of its own. -/
def Resigned (text : List Char) (value : Int) : Prop :=
  ∃ sign ∈ ['+', '-'], ∃ digits, PlusBefore (sign :: digits) text ∧
    SignedDecimal (sign :: digits) value ∧ FitsInt64 value

/-- Behind the first character of a trimmed text there are only blanks in front to trim. -/
theorem toList_trim_tail {input : String} {first : Char} {rest : List Char}
    (h : (trim input).toList = first :: rest) :
    (trim (String.ofList rest)).toList = rest.dropWhile isBlank := by
  have hstripped : Stripped isBlank rest (rest.dropWhile isBlank) := by
    refine ⟨⟨rest.takeWhile isBlank, [], ?_, ?_, by simp⟩, ?_, ?_⟩
    · rw [List.append_nil, List.takeWhile_append_dropWhile]
    · exact fun c hc => List.mem_takeWhile_imp hc
    · intro c hc
      have hhead := List.head?_dropWhile_not isBlank rest
      rwa [Option.mem_def.1 hc] at hhead
    · -- what is left of the tail ends as the text does
      intro c hc
      apply (stripped_trim input).last c
      obtain ⟨gap, hgap⟩ := List.dropWhile_suffix isBlank (l := rest)
      rw [h, ← hgap, ← List.cons_append, List.getLast?_append, Option.mem_def.1 hc]
      rfl
  have htrim : trim (String.ofList rest) = String.ofList (rest.dropWhile isBlank) := by
    rw [trim_eq_iff, String.toList_ofList, String.toList_ofList]
    exact hstripped
  rw [htrim, String.toList_ofList]

/-- Behind a plus sign and blanks the number is what is left without the blanks. -/
theorem signedDecimal_dropWhile_iff {rest : List Char} {value : Int} :
    SignedDecimal (rest.dropWhile isBlank) value ↔
      ∃ number, PlusBefore number ('+' :: rest) ∧ SignedDecimal number value := by
  constructor
  · intro h
    refine ⟨_, ⟨rest.takeWhile isBlank, ?_, ?_⟩, h⟩
    · exact List.all_eq_true.1 List.all_takeWhile
    · rw [List.takeWhile_append_dropWhile]
  · rintro ⟨number, ⟨gap, hgap, hrest⟩, h⟩
    obtain ⟨-, rfl⟩ := List.cons.inj hrest
    have hkept : number.dropWhile isBlank = number := by
      rw [List.dropWhile_eq_self_iff]
      intro hlength
      simp [h.not_isBlank _ (List.getElem_mem hlength)]
    rwa [List.dropWhile_append_of_pos hgap, hkept]

/-- A signed decimal with a plus sign is a plus sign in front of digits. -/
theorem SignedDecimal.exists_plusBefore {rest : List Char} {value : Int}
    (h : SignedDecimal ('+' :: rest) value) :
    ∃ number, PlusBefore number ('+' :: rest) ∧ SignedDecimal number value := by
  cases h with
  | bare hrun => exact absurd hrun (not_isDigitRun_sign (Or.inl rfl) _)
  | plus hrun => exact ⟨rest, ⟨[], by simp, rfl⟩, .bare hrun⟩

namespace ConstraintForm

/-- An offset is read as an integer, if it is not blank. -/
theorem readOffset_of_ne {position : Nat} {input : String} {offset : Option Int}
    (h : trim input ≠ "") :
    readOffset position input = .ok offset ↔
      ∃ value, offset = some value ∧
        SignedDecimal (trim (String.ofList (dropPlus (trim input).toList))).toList value ∧
          FitsInt64 value := by
  simp only [readOffset, if_neg h, ← readInt64?_eq_some_iff]
  cases readInt64? (trim (String.ofList (dropPlus (trim input).toList))).toList with
  | none => simp
  | some value => simp [eq_comm]

/-- What is left of an offset without the plus sign and the blanks behind it is a number, if the
offset is one or has one behind a plus sign. -/
theorem signedDecimal_dropPlus_iff {input : String} {value : Int} :
    SignedDecimal (trim (String.ofList (dropPlus (trim input).toList))).toList value ↔
      SignedDecimal (trim input).toList value ∨
        ∃ number, PlusBefore number (trim input).toList ∧ SignedDecimal number value := by
  -- only behind a plus sign is there anything to trim a second time
  by_cases hplus : ∃ rest, (trim input).toList = '+' :: rest
  · obtain ⟨rest, hrest⟩ := hplus
    rw [hrest, dropPlus, toList_trim_tail hrest, signedDecimal_dropWhile_iff]
    constructor
    · exact Or.inr
    · rintro (h | h)
      · exact h.exists_plusBefore
      · exact h
  · have hdrop : dropPlus (trim input).toList = (trim input).toList := by
      unfold dropPlus
      split
      · rename_i rest hrest
        exact absurd ⟨rest, hrest⟩ hplus
      · rfl
    rw [hdrop, String.ofList_toList, trim_trim]
    constructor
    · exact Or.inl
    · rintro (h | ⟨number, ⟨gap, -, htext⟩, -⟩)
      · exact h
      · exact absurd ⟨_, htext⟩ hplus

/-- The offsets that are read are those of the grammar, and integers that have a sign of their own
behind a plus sign. -/
theorem readOffset_eq_ok_iff {position : Nat} {input : String} {offset : Option Int} :
    readOffset position input = .ok offset ↔
      OffsetText (trim input).toList offset ∨
        ∃ value, offset = some value ∧ Resigned (trim input).toList value := by
  by_cases hblank : trim input = ""
  · have hread : readOffset position input = .ok none := by simp [readOffset, hblank]
    rw [hread, hblank, Except.ok.injEq, String.toList_empty]
    constructor
    · rintro rfl
      exact Or.inl .blank
    · rintro (h | ⟨value, -, sign, -, digits, ⟨gap, -, heq⟩, -⟩)
      · cases h with
        | blank => rfl
        | number hnumber =>
            cases hnumber with
            | bare hrun => cases hrun
        | spaced _ hplus =>
            obtain ⟨gap, -, heq⟩ := hplus
            cases heq
      · cases heq
  · have hne : (trim input).toList ≠ [] := by simpa using hblank
    rw [readOffset_of_ne hblank]
    simp only [signedDecimal_dropPlus_iff]
    generalize (trim input).toList = text at hne ⊢
    constructor
    · rintro ⟨value, rfl, h | ⟨number, hplus, h⟩, hfits⟩
      · exact Or.inl (.number h hfits)
      · -- a number behind a plus sign is in the grammar if it has no sign of its own
        cases h with
        | bare hrun => exact Or.inl (.spaced hrun hplus hfits)
        | plus hrun => exact Or.inr ⟨_, rfl, '+', by simp, _, hplus, .plus hrun, hfits⟩
        | minus hrun => exact Or.inr ⟨_, rfl, '-', by simp, _, hplus, .minus hrun, hfits⟩
    · rintro (h | ⟨value, rfl, sign, -, digits, hplus, hnumber, hfits⟩)
      · cases h with
        | blank => exact absurd rfl hne
        | number hnumber hfits => exact ⟨_, rfl, Or.inl hnumber, hfits⟩
        | spaced hrun hplus hfits => exact ⟨_, rfl, Or.inr ⟨_, hplus, .bare hrun⟩, hfits⟩
      · exact ⟨value, rfl, Or.inr ⟨_, hplus, hnumber⟩, hfits⟩

/-- An offset that is not read is reported without the blanks around it. -/
theorem readOffset_cases (position : Nat) (input : String) :
    (∃ offset, readOffset position input = .ok offset) ∨
      readOffset position input = .error (.offsetMalformed position (trim input)) := by
  simp only [readOffset]
  split
  · exact Or.inl ⟨none, rfl⟩
  · split
    · rename_i value _
      exact Or.inl ⟨some value, rfl⟩
    · exact Or.inr rfl

/-- A row with variables and an operator depends on its offset. -/
theorem validate_eq_map {form : ConstraintForm} {comparison : Comparison}
    (hleft : trim form.left ≠ "") (hright : trim form.right ≠ "")
    (hoperator : Comparison.read? form.operator = some comparison) (position : Nat) :
    form.validate position = (readOffset position form.offset).map fun offset =>
      ⟨trim form.left, comparison, trim form.right, offset⟩ := by
  have hvariables : ¬ (trim form.left = "" ∨ trim form.right = "") := not_or.2 ⟨hleft, hright⟩
  simp only [validate, if_neg hvariables, hoperator]

end ConstraintForm

/-- A row whose variables and operator are valid has the offset that its text writes, if the text
is one of the grammar. Any other text is reported as malformed, unless it is a plus sign in front of
an integer with a sign of its own. -/
theorem validate_offsetText {form : ConstraintForm} {comparison : Comparison}
    (hleft : trim form.left ≠ "") (hright : trim form.right ≠ "")
    (hoperator : Comparison.read? form.operator = some comparison) (position : Nat) :
    (∀ offset, OffsetText (trim form.offset).toList offset →
        form.validate position = .ok ⟨trim form.left, comparison, trim form.right, offset⟩) ∧
      ((∀ offset, ¬ OffsetText (trim form.offset).toList offset) →
        (∀ value, ¬ Resigned (trim form.offset).toList value) →
        form.validate position = .error (.offsetMalformed position (trim form.offset))) := by
  rw [ConstraintForm.validate_eq_map hleft hright hoperator]
  refine ⟨fun offset h => ?_, fun hgrammar hresigned => ?_⟩
  · rw [ConstraintForm.readOffset_eq_ok_iff.2 (Or.inl h)]
    rfl
  · rcases ConstraintForm.readOffset_cases position form.offset with ⟨offset, hread⟩ | hread
    · rcases ConstraintForm.readOffset_eq_ok_iff.1 hread with h | ⟨value, -, h⟩
      · exact absurd h (hgrammar offset)
      · exact absurd h (hresigned value)
    · rw [hread]
      rfl

/-- A row with two variables and an operator in its mathematical spelling. -/
def offsetRow (offset : String) : ConstraintForm :=
  ⟨" M1.sf", "≤ ", "M2.ef", offset⟩

/-- The largest integer of 64 bits is accepted behind a plus sign and blanks, and the next one is
malformed. -/
theorem validate_offsetText_offsetRow :
    OffsetText "+\u3000 9223372036854775807".toList (some 9223372036854775807) ∧
      (offsetRow " +\u3000 9223372036854775807\n").validate 2 =
        .ok ⟨"M1.sf", .le, "M2.ef", some 9223372036854775807⟩ ∧
      (offsetRow "9223372036854775808").validate 2 =
        .error (.offsetMalformed 2 "9223372036854775808") := by
  have hspaced : OffsetText "+\u3000 9223372036854775807".toList (some 9223372036854775807) :=
    @OffsetText.spaced "9223372036854775807".toList _ (by decide)
      ⟨"\u3000 ".toList, List.all_eq_true.1 (by decide), by decide⟩ (by decide)
  -- what is not read is outside of the grammar and has no second sign
  have hlarge : ∀ offset, ¬ (OffsetText (trim "9223372036854775808").toList offset ∨
      ∃ value, offset = some value ∧ Resigned (trim "9223372036854775808").toList value) := by
    intro offset h
    have hread : ConstraintForm.readOffset 2 "9223372036854775808" =
        .error (.offsetMalformed 2 "9223372036854775808") := by decide +kernel
    rw [ConstraintForm.readOffset_eq_ok_iff.2 h] at hread
    cases hread
  refine ⟨hspaced, ?_, ?_⟩
  · exact (@validate_offsetText (offsetRow " +\u3000 9223372036854775807\n") .le (by decide)
      (by decide) rfl 2).1 _ hspaced
  · refine (validate_offsetText (by decide) (by decide) rfl 2).2 ?_ ?_
    · exact fun offset h => hlarge offset (Or.inl h)
    · exact fun value h => hlarge (some value) (Or.inr ⟨value, rfl, h⟩)

/-- Blanks behind the plus sign are accepted, so the offsets are not just the signed decimals. -/
theorem not_forall_offset_signedDecimal :
    ¬ ∀ (form : ConstraintForm) (comparison : Comparison) (position : Nat),
      trim form.left ≠ "" → trim form.right ≠ "" →
      Comparison.read? form.operator = some comparison →
      ((∃ constraint, form.validate position = .ok constraint) ↔
        trim form.offset = "" ∨
          ∃ value, SignedDecimal (trim form.offset).toList value ∧ FitsInt64 value) := by
  intro h
  have hvalid : (ConstraintForm.mk "M1.sf" "<" "M2.sf" "+ 3").validate 1 =
      .ok ⟨"M1.sf", .lt, "M2.sf", some 3⟩ := by decide +kernel
  have hoffset := (h ⟨"M1.sf", "<", "M2.sf", "+ 3"⟩ .lt 1 (by decide) (by decide) rfl).1 ⟨_, hvalid⟩
  rcases hoffset with hblank | ⟨value, hnumber, -⟩
  · exact absurd hblank (by decide)
  · have htext : (trim "+ 3").toList = ['+', ' ', '3'] := by decide
    simp only [htext] at hnumber
    cases hnumber with
    | bare hrun => exact not_isDigitRun_sign (Or.inl rfl) _ hrun
    | plus hrun => exact absurd hrun (by decide)

end EventAlgebra
