import EventAlgebra.Form.Basic
import EventAlgebra.Proofs.Scanning

/-!
# Validated forms

`Form.validate_eq_ok_iff` takes the validation of a form apart: every part of the request comes
from the same part of the form, and the form has no other faults. `isIdentifier_iff` says which
names pass. The bounds of a validated relation are decimal numbers. `isDecimal_iff` gives their
grammar, and from their characters it follows that an operator has neither quotes nor leaves
(`Relation.free_render`).
-/

set_option autoImplicit false

namespace EventAlgebra

open Text

/-- A sequence of checks passes when each of them does. -/
theorem bind_eq_ok_iff {α β : Type} {check : Except Fault α} {next : α → Except Fault β}
    {result : β} :
    (check >>= next) = .ok result ↔ ∃ value, check = .ok value ∧ next value = .ok result := by
  cases check with
  | error fault => simp [bind, Except.bind]
  | ok value => simp [bind, Except.bind]

/-- A form is valid when all its parts are, and its request is made of theirs. -/
theorem Form.validate_eq_ok_iff {form : Form} {request : Request} :
    form.validate = .ok request ↔
      Form.validateName form.name = .ok request.name ∧
      form.first.validate "op1" = .ok request.first ∧
      form.second.validate "op2" = .ok request.second ∧
      form.relation.validate = .ok request.relation ∧
      Form.validateConstraints 1 form.constraints = .ok request.constraints ∧
      form.projection.validate = .ok request.projection ∧
      form.exclusion = request.exclusion := by
  simp only [Form.validate, bind_eq_ok_iff, pure, Except.pure, Except.ok.injEq]
  constructor
  · rintro ⟨name, hname, first, hfirst, second, hsecond, relation, hrelation, constraints,
      hconstraints, projection, hprojection, rfl⟩
    exact ⟨hname, hfirst, hsecond, hrelation, hconstraints, hprojection, rfl⟩
  · rintro ⟨hname, hfirst, hsecond, hrelation, hconstraints, hprojection, hexclusion⟩
    exact ⟨_, hname, _, hfirst, _, hsecond, _, hrelation, _, hconstraints, _, hprojection,
      by rw [hexclusion]⟩

/-! ## Names -/

/-- Identifiers begin with a letter or an underscore and are made of letters, numerals and
underscores. -/
theorem isIdentifier_iff {name : String} :
    isIdentifier name = true ↔
      (∃ first ∈ name.toList.head?, (isLetter first || first == '_') = true) ∧
        ∀ c ∈ name.toList, (isLetter c || isNumeral c || c == '_') = true := by
  unfold isIdentifier
  cases name.toList with
  | nil => simp
  | cons first rest =>
      rw [Bool.and_eq_true, List.all_eq_true, List.forall_mem_cons, List.head?_cons]
      constructor
      · rintro ⟨hfirst, hrest⟩
        refine ⟨⟨first, rfl, hfirst⟩, ?_, hrest⟩
        -- a first character is a character of any place
        rw [Bool.or_eq_true] at hfirst
        rcases hfirst with hletter | hunderscore
        · rw [hletter, Bool.true_or, Bool.true_or]
        · rw [hunderscore, Bool.or_true]
      · rintro ⟨⟨c, hc, hfirst⟩, -, hrest⟩
        obtain rfl : first = c := by simpa using hc
        exact ⟨hfirst, hrest⟩

/-! ## Relations -/

/-- A bound as it is read from a form: a decimal number, or none. -/
def Bound.Decimal : Bound → Prop
  | .numeric text => isDecimal text.toList = true
  | .unbounded => True

/-- A relation with bounds as they are read from a form. -/
def Relation.Decimal : Relation → Prop
  | .sequential _ gap => gap.Decimal
  | .overlap _ start finish => start.Decimal ∧ finish.Decimal

theorem Bound.decimal_of_read {input : String} {bound : Bound} (h : Bound.read input = .ok bound) :
    bound.Decimal := by
  simp only [Bound.read] at h
  split at h
  · obtain rfl := Except.ok.inj h
    trivial
  · split at h
    · rename_i hdecimal
      obtain rfl := Except.ok.inj h
      exact hdecimal
    · cases h

/-- A relation that a form describes has decimal bounds. -/
theorem RelationForm.decimal_of_validate {form : RelationForm} {relation : Relation}
    (h : form.validate = .ok relation) : relation.Decimal := by
  have hsequential : ∀ relation, form.sequential = .ok relation → relation.Decimal := by
    intro relation h
    simp only [RelationForm.sequential, bind_eq_ok_iff] at h
    obtain ⟨order, -, gap, hgap, h⟩ := h
    obtain rfl := Except.ok.inj h
    exact Bound.decimal_of_read hgap
  have hoverlapping : ∀ relation, form.overlapping = .ok relation → relation.Decimal := by
    intro relation h
    simp only [RelationForm.overlapping, bind_eq_ok_iff] at h
    obtain ⟨kind, -, start, hstart, finish, hfinish, h⟩ := h
    obtain rfl := Except.ok.inj h
    exact ⟨Bound.decimal_of_read hstart, Bound.decimal_of_read hfinish⟩
  unfold RelationForm.validate at h
  split at h
  · exact hsequential relation h
  · exact hoverlapping relation h
  · exact hoverlapping relation h
  · cases h
  · cases h

/-- A validated request has a relation with decimal bounds. -/
theorem Form.decimal_of_validate {form : Form} {request : Request}
    (h : form.validate = .ok request) : request.relation.Decimal :=
  RelationForm.decimal_of_validate (Form.validate_eq_ok_iff.1 h).2.2.2.1

/-! ## Decimal numbers -/

/-- One or more ASCII digits. -/
def Digits (cs : List Char) : Prop :=
  cs ≠ [] ∧ ∀ c ∈ cs, c.isDigit = true

/-- A decimal number without a sign: digits, and perhaps a dot with more digits behind it. -/
inductive UnsignedDecimal : List Char → Prop where
  | whole {digits : List Char} (h : Digits digits) : UnsignedDecimal digits
  | fraction {digits places : List Char} (h : Digits digits) (hplaces : Digits places) :
      UnsignedDecimal (digits ++ '.' :: places)

/-- A decimal number, with at most one sign in front. -/
inductive DecimalText : List Char → Prop where
  | bare {cs : List Char} (h : UnsignedDecimal cs) : DecimalText cs
  | signed {sign : Char} {cs : List Char} (hsign : sign = '+' ∨ sign = '-')
      (h : UnsignedDecimal cs) : DecimalText (sign :: cs)

theorem isDigitRun_iff {cs : List Char} : isDigitRun cs = true ↔ Digits cs := by
  simp [isDigitRun, Digits]

/-- The characters of a run of digits are digits. -/
theorem isDigit_of_isDigitRun {digits : List Char} (h : isDigitRun digits = true) {c : Char}
    (hc : c ∈ digits) : c.isDigit = true :=
  (isDigitRun_iff.1 h).2 c hc

/-- A run of digits has no dot in it. -/
theorem Digits.ne_dot {cs : List Char} (h : Digits cs) : ∀ c ∈ cs, (c != '.') = true := by
  intro c hc
  rw [bne_iff_ne]
  rintro rfl
  exact absurd (h.2 '.' hc) (by decide)

/-- The first dot, if there is one, divides the digits of a number. -/
theorem unsignedDecimal_iff {cs : List Char} :
    UnsignedDecimal cs ↔
      match cs.dropWhile (· != '.') with
      | [] => Digits cs
      | _ :: places => Digits (cs.takeWhile (· != '.')) ∧ Digits places := by
  constructor
  · intro h
    cases h with
    | whole h =>
        have hnone : cs.dropWhile (· != '.') = [] := List.dropWhile_eq_nil_iff.2 h.ne_dot
        simpa only [hnone] using h
    | fraction h hplaces =>
        simp only [List.dropWhile_append_of_pos h.ne_dot, List.takeWhile_append_of_pos h.ne_dot]
        simpa using ⟨h, hplaces⟩
  · intro h
    cases hdrop : cs.dropWhile (· != '.') with
    | nil =>
        simp only [hdrop] at h
        exact .whole h
    | cons dot places =>
        have hdot : dot = '.' := by
          have hhead := List.head?_dropWhile_not (p := (· != '.')) (l := cs)
          simpa [hdrop] using hhead
        simp only [hdrop] at h
        rw [← List.takeWhile_append_dropWhile (p := (· != '.')) (l := cs), hdrop, hdot]
        exact .fraction h.1 h.2

/-- A number without a sign begins with a digit. -/
theorem UnsignedDecimal.head {cs : List Char} (h : UnsignedDecimal cs) :
    ∃ c ∈ cs.head?, c.isDigit = true := by
  have hfirst : ∀ digits rest, Digits digits →
      ∃ c ∈ (digits ++ rest).head?, c.isDigit = true := by
    intro digits rest hdigits
    obtain ⟨c, digits, rfl⟩ := List.exists_cons_of_ne_nil hdigits.1
    exact ⟨c, rfl, hdigits.2 c List.mem_cons_self⟩
  cases h with
  | whole h => simpa using hfirst cs [] h
  | fraction h => exact hfirst _ _ h

/-- What is a number without its sign is one with it. -/
theorem decimalText_iff {cs : List Char} : DecimalText cs ↔ UnsignedDecimal (dropSign cs) := by
  constructor
  · intro h
    cases h with
    | bare h =>
        -- the first character is a digit, so there is no sign to drop
        obtain ⟨c, hc, hdigit⟩ := h.head
        have hdrop : dropSign cs = cs := by
          unfold dropSign
          split
          · obtain rfl : '+' = c := by simpa using hc
            cases hdigit
          · obtain rfl : '-' = c := by simpa using hc
            cases hdigit
          · rfl
        rwa [hdrop]
    | signed hsign h =>
        rcases hsign with rfl | rfl
        · exact h
        · exact h
  · intro h
    unfold dropSign at h
    split at h
    · exact .signed (Or.inl rfl) h
    · exact .signed (Or.inr rfl) h
    · exact .bare h

/-- The decimal numbers that are recognised are those of the grammar. -/
theorem isDecimal_iff {cs : List Char} : isDecimal cs = true ↔ DecimalText cs := by
  rw [decimalText_iff, unsignedDecimal_iff]
  simp only [isDecimal]
  cases hdrop : (dropSign cs).dropWhile (· != '.') with
  | nil =>
      have hwhole : (dropSign cs).takeWhile (· != '.') = dropSign cs := by
        have happ := List.takeWhile_append_dropWhile (p := (· != '.')) (l := dropSign cs)
        rwa [hdrop, List.append_nil] at happ
      rw [hwhole]
      exact isDigitRun_iff
  | cons dot places =>
      show (_ && _) = true ↔ _
      rw [Bool.and_eq_true, isDigitRun_iff, isDigitRun_iff]

/-- A number without a sign has digits and a dot, and no other characters. -/
theorem UnsignedDecimal.mem {cs : List Char} (h : UnsignedDecimal cs) :
    ∀ c ∈ cs, c.isDigit = true ∨ c = '.' := by
  intro c hc
  cases h with
  | whole h => exact Or.inl (h.2 c hc)
  | fraction h hplaces =>
      rcases List.mem_append.1 hc with hc | hc
      · exact Or.inl (h.2 c hc)
      · rcases List.mem_cons.1 hc with rfl | hc
        · exact Or.inr rfl
        · exact Or.inl (hplaces.2 c hc)

/-- A decimal number has digits, a sign and a dot, and no other characters. -/
theorem DecimalText.mem {cs : List Char} (h : DecimalText cs) :
    ∀ c ∈ cs, c.isDigit = true ∨ c ∈ ['+', '-', '.'] := by
  intro c hc
  cases h with
  | bare h => exact (h.mem c hc).imp_right (by rintro rfl; simp)
  | signed hsign h =>
      rcases List.mem_cons.1 hc with rfl | hc
      · exact Or.inr (by rcases hsign with rfl | rfl <;> simp)
      · exact (h.mem c hc).imp_right (by rintro rfl; simp)

theorem notMem_of_isDecimal {c : Char} {cs : List Char} (hdigit : c.isDigit = false)
    (hother : c ∉ ['+', '-', '.']) (h : isDecimal cs = true) : c ∉ cs := by
  intro hmem
  rcases (isDecimal_iff.1 h).mem c hmem with hc | hc
  · rw [hc] at hdigit
    cases hdigit
  · exact hother hc

/-! ## Operators -/

/-- A bound is written with the characters of a decimal number, or with the letter `d`. -/
theorem Bound.notMem_render {c : Char} {bound : Bound} (hdigit : c.isDigit = false)
    (hother : c ∉ ['+', '-', '.', 'd']) (h : bound.Decimal) : c ∉ bound.render.toList := by
  cases bound with
  | numeric text =>
      apply notMem_of_isDecimal hdigit _ h
      exact fun hmem => hother (List.mem_append_left ['d'] hmem)
  | unbounded =>
      intro hmem
      exact hother (List.mem_append_right ['+', '-', '.'] hmem)

namespace Relation

/-- The name of the operator of a relation. -/
def tag : Relation → String
  | sequential order _ => order.tag
  | overlap kind _ _ => kind.tag

/-- What stands between the braces of the operator of a relation. -/
def parameterText : Relation → String
  | sequential _ gap => parameter "δ" gap
  | overlap kind start finish => joinWith ", " (overlapParameters kind start finish)

theorem toList_render (relation : Relation) :
    relation.render.toList =
      relation.tag.toList ++ '_' :: '\x7b' :: (relation.parameterText.toList ++ ['\x7d']) := by
  cases relation <;> simp [render, tag, parameterText]

section Characters

variable {c : Char} {relation : Relation}

/-- The letters that operators are named with. -/
theorem mem_tag (h : c ∈ relation.tag.toList) : c ∈ "AftBefDEFJLOPRS".toList := by
  revert h
  cases relation with
  | sequential order gap => cases order <;> simp [tag, Order.tag] <;> grind
  | overlap kind start finish => cases kind <;> simp [tag, Overlap.tag] <;> grind

/-- A parameter is a symbol, an equals sign and a bound. -/
theorem notMem_parameter {symbol : String} {bound : Bound} (hdigit : c.isDigit = false)
    (hother : c ∉ ['+', '-', '.', 'd']) (hequals : c ≠ '=') (hsymbol : c ∉ symbol.toList)
    (h : bound.Decimal) : c ∉ (parameter symbol bound).toList := by
  have hrender := Bound.notMem_render hdigit hother h
  simp [parameter, hsymbol, hequals, hrender]

/-- The parameters of an operator are written with their symbols, a comma and a space between them,
and the characters of their bounds. -/
theorem notMem_parameterText (hdigit : c.isDigit = false)
    (hother : c ∉ ['+', '-', '.', 'd']) (hsigns : c ∉ ['δ', 'ε', '=', ',', ' '])
    (h : relation.Decimal) : c ∉ relation.parameterText.toList := by
  simp only [List.mem_cons, List.not_mem_nil, or_false, not_or] at hsigns
  obtain ⟨hdelta, hepsilon, hequals, hcomma, hspace⟩ := hsigns
  have hfirst : ∀ bound : Bound, bound.Decimal → c ∉ (parameter "δ" bound).toList := fun _ =>
    notMem_parameter hdigit hother hequals (by simpa using hdelta)
  have hsecond : ∀ bound : Bound, bound.Decimal → c ∉ (parameter "ε" bound).toList := fun _ =>
    notMem_parameter hdigit hother hequals (by simpa using hepsilon)
  cases relation with
  | sequential order gap => exact hfirst gap h
  | overlap kind start finish =>
      have hstart := hfirst start h.1
      have hfinish := hsecond finish h.2
      cases hs : kind.usesStart <;> cases hf : kind.usesEnd <;>
        simp [parameterText, overlapParameters, joinWith, hs, hf, hstart, hfinish, hcomma, hspace]

end Characters

/-- The operator of a relation has neither quotes nor leaves. -/
theorem free_render {relation : Relation} (h : relation.Decimal) :
    QuoteFree relation.render ∧ LeafFree relation.render := by
  have hquote : '"' ∉ relation.tag.toList := fun hmem => absurd (mem_tag hmem) (by decide)
  have hquote' : '"' ∉ relation.parameterText.toList :=
    notMem_parameterText rfl (by decide) (by decide) h
  have hletter : 'M' ∉ relation.tag.toList := fun hmem => absurd (mem_tag hmem) (by decide)
  have hletter' : 'M' ∉ relation.parameterText.toList :=
    notMem_parameterText rfl (by decide) (by decide) h
  constructor
  · show '"' ∉ relation.render.toList
    simp [toList_render, hquote, hquote']
  · apply leafFree_of_notMem
    simp [toList_render, hletter, hletter']

end Relation

end EventAlgebra
