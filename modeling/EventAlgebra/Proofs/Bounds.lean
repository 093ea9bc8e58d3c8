import EventAlgebra.Proofs.Restating

/-!
# Bounds and the operators that carry them

A bound is read from a blank text, or from a decimal number with blanks around it, and from nothing
else (`Bound.read_grammar`). It is written as it was read, between the braces of an operator. Since
a decimal number has neither commas nor braces, and the letter `d` of an absent bound is no digit,
the text of an operator tells everything about the relation that its kind makes use of
(`render_eq_iff_sameOperator`).
-/

set_option autoImplicit false

namespace EventAlgebra

open Text

/-! ## Reading a bound -/

theorem DecimalText.ne_nil {cs : List Char} (h : DecimalText cs) : cs ≠ [] := by
  rintro rfl
  have hdecimal := isDecimal_iff.2 h
  cases hdecimal

/-- A bound is absent, or a decimal number, or not read at all. -/
theorem Bound.read_cases (input : String) :
    (trim input = "" ∧ Bound.read input = .ok .unbounded) ∨
      (DecimalText (trim input).toList ∧ Bound.read input = .ok (.numeric (trim input))) ∨
      (trim input ≠ "" ∧ ¬ DecimalText (trim input).toList ∧
        Bound.read input = .error (.boundMalformed (trim input))) := by
  by_cases hblank : trim input = ""
  · exact Or.inl ⟨hblank, by simp [read, hblank]⟩
  · by_cases hdecimal : DecimalText (trim input).toList
    · exact Or.inr (Or.inl ⟨hdecimal, by simp [read, hblank, isDecimal_iff.2 hdecimal]⟩)
    · refine Or.inr (Or.inr ⟨hblank, hdecimal, ?_⟩)
      rw [← isDecimal_iff] at hdecimal
      simp [read, hblank, hdecimal]

/-- A signed integer is a decimal number. -/
theorem SignedDecimal.decimalText {cs : List Char} {value : Int} (h : SignedDecimal cs value) :
    DecimalText cs := by
  cases h with
  | bare hrun => exact .bare (.whole (isDigitRun_iff.1 hrun))
  | plus hrun => exact .signed (Or.inl rfl) (.whole (isDigitRun_iff.1 hrun))
  | minus hrun => exact .signed (Or.inr rfl) (.whole (isDigitRun_iff.1 hrun))

/-- An integer is written as a signed decimal, with a sign only if it is negative. -/
theorem signedDecimal_toString (value : Int) : SignedDecimal (toString value).toList value := by
  by_cases hnegative : value < 0
  · have hsigned := signedDecimal_signed value
    rwa [signed, if_pos hnegative] at hsigned
  · obtain ⟨n, rfl⟩ := Int.eq_ofNat_of_zero_le (Int.not_lt.1 hnegative)
    have hbare := SignedDecimal.bare (isDigitRun_toDigits n)
    rw [digitRunValue_toDigits] at hbare
    show SignedDecimal (toString n).toList n
    simpa using hbare

/-- A decimal number is read as it is written. -/
theorem Bound.read_of_decimalText {text : String} (h : DecimalText text.toList) :
    Bound.read text = .ok (.numeric text) := by
  show Bound.read (Bound.numeric text).toInput = .ok (.numeric text)
  exact Bound.read_toInput (isDecimal_iff.2 h)

/-- A text is read as no bound exactly if it is blank, as the number that is left of it without the
blanks around it exactly if that is a decimal number, and it is reported as malformed in all other
cases. The text of a bound that was read is read as the same bound, and an integer in decimal as the
bound of that many frames. -/
theorem Bound.read_grammar (input : String) :
    (Bound.read input = .ok .unbounded ↔ trim input = "") ∧
      (∀ text, Bound.read input = .ok (.numeric text) ↔
        text = trim input ∧ DecimalText (trim input).toList) ∧
      (∀ fault, Bound.read input = .error fault ↔
        fault = .boundMalformed (trim input) ∧ trim input ≠ "" ∧
          ¬ DecimalText (trim input).toList) ∧
      (∀ text, Bound.read input = .ok (.numeric text) →
        Bound.read (Bound.numeric text).render = .ok (.numeric text)) ∧
      ∀ count : Int, Bound.read (toString count) = .ok (.frames count) := by
  have hnumeric : ∀ text, Bound.read input = .ok (.numeric text) →
      Bound.read (Bound.numeric text).render = .ok (.numeric text) := by
    intro text hread
    exact Bound.read_of_decimalText (isDecimal_iff.1 (Bound.decimal_of_read hread))
  have hframes : ∀ count : Int, Bound.read (toString count) = .ok (.frames count) := fun count =>
    Bound.read_of_decimalText (signedDecimal_toString count).decimalText
  rcases Bound.read_cases input with ⟨hblank, hread⟩ | ⟨hdecimal, hread⟩ | ⟨hne, hnot, hread⟩
  · have hnot : ¬ DecimalText (trim input).toList := fun h => h.ne_nil (by rw [hblank]; rfl)
    refine ⟨?_, ?_, ?_, hnumeric, hframes⟩
    · simp [hread, hblank]
    · simp [hread, hnot]
    · simp [hread, hblank]
  · have hne : trim input ≠ "" := fun hblank => hdecimal.ne_nil (by rw [hblank]; rfl)
    refine ⟨?_, ?_, ?_, hnumeric, hframes⟩
    · simp [hread, hne]
    · simp [hread, hdecimal, eq_comm]
    · simp [hread, hdecimal]
  · refine ⟨?_, ?_, ?_, hnumeric, hframes⟩
    · simp [hread, hne]
    · simp [hread, hnot]
    · simp [hread, hne, hnot, eq_comm]

/-- A number with a sign, leading zeros and places that end in zero keeps all of them. A second dot
or a digit of another script makes it malformed. -/
theorem Bound.read_grammar_paddedNumber :
    Bound.read "\u2003+007.50\n" = .ok (.numeric "+007.50") ∧
      Bound.read (Bound.numeric "+007.50").render = .ok (.numeric "+007.50") ∧
      Bound.read " 1.2.3" = .error (.boundMalformed "1.2.3") ∧
      Bound.read "-٣" = .error (.boundMalformed "-٣") := by
  have hread : Bound.read "\u2003+007.50\n" = .ok (.numeric "+007.50") :=
    ((Bound.read_grammar "\u2003+007.50\n").2.1 "+007.50").2
      ⟨by decide, isDecimal_iff.1 (by decide)⟩
  refine ⟨hread, (Bound.read_grammar _).2.2.2.1 _ hread, ?_, ?_⟩
  · refine ((Bound.read_grammar " 1.2.3").2.2.1 _).2 ⟨by decide, by decide, ?_⟩
    rw [← isDecimal_iff]
    decide
  · refine ((Bound.read_grammar "-٣").2.2.1 _).2 ⟨by decide, by decide, ?_⟩
    rw [← isDecimal_iff]
    decide

/-! ## Operators -/

/-- Two relations that agree in everything that an operator of their kind makes use of: the order
and the gap of a sequential relation, and of an overlap its kind and the bounds that apply to it. -/
inductive Relation.SameOperator : Relation → Relation → Prop where
  | sequential (order : Order) (gap : Bound) :
      SameOperator (.sequential order gap) (.sequential order gap)
  | overlap (kind : Overlap) {start finish start' finish' : Bound}
      (hstart : kind ≠ .endFollowing → start = start')
      (hfinish : kind ≠ .startPreceding → finish = finish') :
      SameOperator (.overlap kind start finish) (.overlap kind start' finish')

/-- A bound is told by its text. The letter of an absent bound is no number. -/
theorem Bound.eq_of_render_eq {bound bound' : Bound} (h : bound.Decimal) (h' : bound'.Decimal)
    (heq : bound.render = bound'.render) : bound = bound' := by
  have hletter : ¬ isDecimal "d".toList = true := by decide
  cases bound with
  | numeric text =>
      cases bound' with
      | numeric text' => exact congrArg Bound.numeric heq
      | unbounded =>
          obtain rfl : text = "d" := heq
          exact absurd h hletter
  | unbounded =>
      cases bound' with
      | numeric text' =>
          obtain rfl : "d" = text' := heq
          exact absurd h' hletter
      | unbounded => rfl

namespace Relation

/-- The text of an operator falls apart in one way only, at its underscore. -/
theorem parts_of_render_eq {relation relation' : Relation} (h : relation.Decimal)
    (heq : relation.render = relation'.render) :
    relation.tag = relation'.tag ∧ relation.parameterText = relation'.parameterText := by
  rw [← String.toList_inj, toList_render, toList_render] at heq
  have hbehind : '_' ∉ '\x7b' :: (relation.parameterText.toList ++ ['\x7d']) := by
    simpa using notMem_parameterText rfl (by decide) (by decide) h
  have hname : '_' ∉ relation.tag.toList := fun hmem => absurd (mem_tag hmem) (by decide)
  obtain ⟨htag, -, hbraces⟩ := (List.append_cons_inj_of_notMem hname hbehind).1 heq
  have htext := List.append_cancel_right (List.cons.inj hbraces).2
  exact ⟨String.toList_inj.1 htag, String.toList_inj.1 htext⟩

/-- A parameter tells its bound. -/
theorem bound_of_parameter_eq {symbol : String} {bound bound' : Bound} (h : bound.Decimal)
    (h' : bound'.Decimal) (heq : parameter symbol bound = parameter symbol bound') :
    bound = bound' := by
  apply Bound.eq_of_render_eq h h'
  simpa [parameter] using heq

/-- The parameters of an overlap tell the bounds that apply to it. If both of them do, the comma
stands between them and in neither of them. -/
theorem bounds_of_parameters_eq {kind : Overlap} {start finish start' finish' : Bound}
    (h : (overlap kind start finish).Decimal) (h' : (overlap kind start' finish').Decimal)
    (heq : joinWith ", " (overlapParameters kind start finish) =
      joinWith ", " (overlapParameters kind start' finish')) :
    (kind.usesStart = true → start = start') ∧ (kind.usesEnd = true → finish = finish') := by
  unfold overlapParameters at heq
  cases hs : kind.usesStart with
  | false =>
      cases hf : kind.usesEnd with
      | false => exact ⟨(absurd · Bool.false_ne_true), (absurd · Bool.false_ne_true)⟩
      | true =>
          rw [hs, hf] at heq
          exact ⟨(absurd · Bool.false_ne_true), fun _ => bound_of_parameter_eq h.2 h'.2 heq⟩
  | true =>
      cases hf : kind.usesEnd with
      | false =>
          rw [hs, hf] at heq
          exact ⟨fun _ => bound_of_parameter_eq h.1 h'.1 heq, (absurd · Bool.false_ne_true)⟩
      | true =>
          rw [hs, hf, ← String.toList_inj] at heq
          have hfirst : ',' ∉ (parameter "δ" start).toList :=
            notMem_parameter rfl (by decide) (by decide) (by decide) h.1
          have hsecond : ',' ∉ (parameter "ε" finish).toList :=
            notMem_parameter rfl (by decide) (by decide) (by decide) h.2
          have hsplit :
              (parameter "δ" start).toList ++ ',' :: ' ' :: (parameter "ε" finish).toList =
                (parameter "δ" start').toList ++ ',' :: ' ' :: (parameter "ε" finish').toList := by
            simpa [joinWith] using heq
          obtain ⟨hstart, -, hfinish⟩ :=
            (List.append_cons_inj_of_notMem hfirst (by simpa using hsecond)).1 hsplit
          exact ⟨fun _ => bound_of_parameter_eq h.1 h'.1 (String.toList_inj.1 hstart),
            fun _ => bound_of_parameter_eq h.2 h'.2
              (String.toList_inj.1 (List.cons.inj hfinish).2)⟩

/-- An operator does not depend on the bounds that do not apply to it. -/
theorem overlapParameters_congr {kind : Overlap} {start finish start' finish' : Bound}
    (hstart : kind.usesStart = true → start = start')
    (hfinish : kind.usesEnd = true → finish = finish') :
    overlapParameters kind start finish = overlapParameters kind start' finish' := by
  unfold overlapParameters
  congr 1
  · split
    · rw [hstart ‹_›]
    · rfl
  · split
    · rw [hfinish ‹_›]
    · rfl

end Relation

theorem Order.eq_of_tag_eq {order order' : Order} (h : order.tag = order'.tag) :
    order = order' := by
  revert h
  cases order <;> cases order' <;> decide

theorem Overlap.eq_of_tag_eq {kind kind' : Overlap} (h : kind.tag = kind'.tag) : kind = kind' := by
  have hsome := congrArg Overlap.ofTag? h
  rwa [Overlap.ofTag?_tag, Overlap.ofTag?_tag, Option.some.injEq] at hsome

/-- Orders and overlaps have different operators. -/
theorem Order.tag_ne (order : Order) (kind : Overlap) : order.tag ≠ kind.tag := by
  cases order <;> cases kind <;> decide

/-- Two relations that forms describe are written alike exactly if they agree in what operators of
their kind make use of. -/
theorem render_eq_iff_sameOperator {form form' : RelationForm} {relation relation' : Relation}
    (h : form.validate = .ok relation) (h' : form'.validate = .ok relation') :
    relation.render = relation'.render ↔ relation.SameOperator relation' := by
  have hdecimal := RelationForm.decimal_of_validate h
  have hdecimal' := RelationForm.decimal_of_validate h'
  constructor
  · intro heq
    obtain ⟨htag, htext⟩ := Relation.parts_of_render_eq hdecimal heq
    cases relation with
    | sequential order gap =>
        cases relation' with
        | sequential order' gap' =>
            obtain rfl := Order.eq_of_tag_eq htag
            obtain rfl := Relation.bound_of_parameter_eq hdecimal hdecimal' htext
            exact .sequential order gap
        | overlap kind' start' finish' => exact absurd htag (order.tag_ne kind')
    | overlap kind start finish =>
        cases relation' with
        | sequential order' gap' => exact absurd htag.symm (order'.tag_ne kind)
        | overlap kind' start' finish' =>
            obtain rfl := Overlap.eq_of_tag_eq htag
            obtain ⟨hstart, hfinish⟩ := Relation.bounds_of_parameters_eq hdecimal hdecimal' htext
            refine .overlap kind (fun hkind => hstart ?_) (fun hkind => hfinish ?_)
            · simpa [Overlap.usesStart] using hkind
            · simpa [Overlap.usesEnd] using hkind
  · intro hsame
    cases hsame with
    | sequential order gap => rfl
    | overlap kind hstart hfinish =>
        have hparameters := Relation.overlapParameters_congr
          (fun huses => hstart (by simpa [Overlap.usesStart] using huses))
          (fun huses => hfinish (by simpa [Overlap.usesEnd] using huses))
        rw [Relation.render, Relation.render, hparameters]

/-- A block for an overlap of which only the bound on the starts applies. -/
def startBlock (kind start finish : String) : RelationForm :=
  ⟨kind, "", "", "SP", start, finish⟩

/-- The bound on the ends that does not apply is not written, and a sign in front of a number is. -/
theorem render_eq_iff_sameOperator_startBlock :
    (startBlock "overlap" " 2.50" "7").validate =
        .ok (.overlap .startPreceding (.numeric "2.50") (.numeric "7")) ∧
      (startBlock " overlapping" "2.50\n" "").validate =
        .ok (.overlap .startPreceding (.numeric "2.50") .unbounded) ∧
      (startBlock "overlap" "+2.50" "7").validate =
        .ok (.overlap .startPreceding (.numeric "+2.50") (.numeric "7")) ∧
      (Relation.overlap .startPreceding (.numeric "2.50") (.numeric "7")).render =
        (Relation.overlap .startPreceding (.numeric "2.50") .unbounded).render ∧
      (Relation.overlap .startPreceding (.numeric "2.50") (.numeric "7")).render ≠
        (Relation.overlap .startPreceding (.numeric "+2.50") (.numeric "7")).render := by
  have hclosed : (startBlock "overlap" " 2.50" "7").validate =
      .ok (.overlap .startPreceding (.numeric "2.50") (.numeric "7")) := by decide +kernel
  have hopen : (startBlock " overlapping" "2.50\n" "").validate =
      .ok (.overlap .startPreceding (.numeric "2.50") .unbounded) := by decide +kernel
  have hsigned : (startBlock "overlap" "+2.50" "7").validate =
      .ok (.overlap .startPreceding (.numeric "+2.50") (.numeric "7")) := by decide +kernel
  refine ⟨hclosed, hopen, hsigned, ?_, fun heq => ?_⟩
  · exact (render_eq_iff_sameOperator hclosed hopen).2
      (.overlap .startPreceding (fun _ => rfl) (absurd rfl))
  · cases (render_eq_iff_sameOperator hclosed hsigned).1 heq with
    | overlap _ hstart hfinish => exact absurd (hstart (by decide)) (by decide)

end EventAlgebra
