import EventAlgebra.Proofs.Offsets
import EventAlgebra.Proofs.Recompile

/-!
# Requests stated as forms

`Request.toForm` states a request as a form again, each part in one way: no blanks around the
inputs, operators in their ASCII spelling, offsets with their sign, an empty input for what is
absent, and the boundaries written out. Every part of a validated request is accepted in that form
and gives the same part, so validation is a normalization: the forms of the requests are its normal
forms (`validate_toForm_of_validate`).
-/

set_option autoImplicit false

namespace EventAlgebra

open Text

/-! ## The form of a request -/

/-- The slot that selects an operand. -/
def Operand.toForm (operand : Operand) : OperandForm :=
  match operand.target with
  | .atomic predicate => ⟨predicate, "", operand.filters⟩
  | .saved name => ⟨OperandForm.savedMarker, name, operand.filters⟩

/-- The input for a bound, empty if there is none. -/
def Bound.toInput : Bound → String
  | .numeric text => text
  | .unbounded => ""

/-- The input for an order. -/
def Order.toInput : Order → String
  | .before => "before"
  | .after => "after"

/-- The block that describes a relation. The inputs of the other kind are left open. -/
def Relation.toForm : Relation → RelationForm
  | .sequential order gap => ⟨"sequential", order.toInput, gap.toInput, "", "", ""⟩
  | .overlap kind start finish =>
    ⟨"overlapping", "", "", kind.tag, start.toInput, finish.toInput⟩

/-- The row that describes a constraint. -/
def Constraint.toForm (c : Constraint) : ConstraintForm :=
  ⟨c.left, c.comparison.render, c.right, (c.offset.map signed).getD ""⟩

/-- The row that describes an output column. -/
def ProjectionField.toForm (field : ProjectionField) : FieldForm :=
  ⟨field.source, field.chosen.getD ""⟩

/-- The block that describes a projection. -/
def Projection.toForm (projection : Projection) : ProjectionForm :=
  ⟨projection.start, projection.finish, projection.fields.map ProjectionField.toForm⟩

/-- The form that describes a request. -/
def Request.toForm (request : Request) : Form where
  name := request.name
  first := request.first.toForm
  second := request.second.toForm
  relation := request.relation.toForm
  constraints := request.constraints.map Constraint.toForm
  exclusion := request.exclusion
  projection := request.projection.toForm

/-! ## Operands -/

/-- What a slot selects has no blanks around it, and is selected by the slot made for it. -/
theorem Operand.target_toForm {slot : OperandForm} {label : String} {operand : Operand}
    (h : slot.target label = .ok operand.target) (label' : String) :
    operand.toForm.target label' = .ok operand.target := by
  obtain ⟨target, filters⟩ := operand
  simp only [OperandForm.target] at h
  split at h
  · cases h
  · split at h
    · split at h
      · cases h
      · -- a saved event, selected by the marker
        rename_i hname
        obtain rfl := Except.ok.inj h
        have hmarker : trim OperandForm.savedMarker = OperandForm.savedMarker := by decide
        have hne : OperandForm.savedMarker ≠ "" := by decide
        simp [toForm, OperandForm.target, hmarker, hne, trim_trim, hname]
    · -- a predicate, which is not the marker
      rename_i hempty hmarker
      obtain rfl := Except.ok.inj h
      simp [toForm, OperandForm.target, trim_trim, hempty, hmarker]

/-- An operand is described by its slot. Its filters are none of them blank. -/
theorem Operand.validate_toForm {slot : OperandForm} {label : String} {operand : Operand}
    (h : slot.validate label = .ok operand) : operand.toForm.validate label = .ok operand := by
  obtain ⟨htarget, hkept⟩ := OperandForm.validate_eq_ok_iff.1 h
  refine OperandForm.validate_eq_ok_iff.2 ⟨Operand.target_toForm htarget label, ?_⟩
  have hfilters : operand.toForm.filters = slot.kept := by
    rw [hkept, toForm]
    split <;> rfl
  rw [OperandForm.kept, hfilters, ← hkept, OperandForm.kept, List.filter_filter]
  simp

/-! ## Relations -/

/-- A decimal number has no blanks. -/
theorem trim_of_isDecimal {text : String} (h : isDecimal text.toList = true) :
    trim text = text := by
  apply trim_of_not_isBlank
  intro c hc
  rcases (isDecimal_iff.1 h).mem c hc with hdigit | hother
  · exact isBlank_of_isDigit hdigit
  · simp only [List.mem_cons, List.not_mem_nil, or_false] at hother
    rcases hother with rfl | rfl | rfl <;> decide

/-- A bound is read from its input. -/
theorem Bound.read_toInput {bound : Bound} (h : bound.Decimal) :
    Bound.read bound.toInput = .ok bound := by
  cases bound with
  | numeric text =>
      have hne : text ≠ "" := by
        rintro rfl
        cases h
      have hdecimal : isDecimal text.toList = true := h
      simp [Bound.read, toInput, trim_of_isDecimal hdecimal, hne, hdecimal]
  | unbounded => rfl

/-- A relation with decimal bounds is described by its block. -/
theorem Relation.validate_toForm {relation : Relation} (h : relation.Decimal) :
    relation.toForm.validate = .ok relation := by
  cases relation with
  | sequential order gap =>
      have horder : RelationForm.readOrder order.toInput = .ok order := by
        cases order <;> decide
      have hkind : trim "sequential" = "sequential" := by decide
      simp only [toForm, RelationForm.validate, hkind, RelationForm.sequential, horder,
        Bound.read_toInput h]
      rfl
  | overlap kind start finish =>
      have hoverlap : RelationForm.readOverlap kind.tag = .ok kind := by
        cases kind <;> decide
      have hkind : trim "overlapping" = "overlapping" := by decide
      simp only [toForm, RelationForm.validate, hkind, RelationForm.overlapping, hoverlap,
        Bound.read_toInput h.1, Bound.read_toInput h.2]
      rfl

/-! ## Lists of rows -/

/-- Rows are validated one by one, each at its position. If every row is accepted as it is restated,
at whatever position, so is the list of them. -/
theorem validate_restated {α β : Type} (check : Nat → α → Except Fault β)
    (checkAll : Nat → List α → Except Fault (List β)) {restate : β → α}
    (hnil : ∀ position, checkAll position [] = .ok [])
    (hcons : ∀ position row rows, checkAll position (row :: rows) = do
      let value ← check position row
      let values ← checkAll (position + 1) rows
      return value :: values)
    (hrow : ∀ {position row value}, check position row = .ok value →
      ∀ position, check position (restate value) = .ok value)
    {rows : List α} {values : List β} {position : Nat} (h : checkAll position rows = .ok values)
    (position' : Nat) : checkAll position' (values.map restate) = .ok values := by
  induction rows generalizing values position position' with
  | nil =>
      rw [hnil] at h
      obtain rfl := Except.ok.inj h
      exact hnil position'
  | cons row rows ih =>
      simp only [hcons, bind_eq_ok_iff] at h
      obtain ⟨value, hvalue, rest, hrest, h⟩ := h
      obtain rfl := Except.ok.inj h
      rw [List.map_cons, hcons, hrow hvalue, ih hrest]
      rfl

/-! ## Constraints -/

theorem Comparison.read?_render (comparison : Comparison) :
    Comparison.read? comparison.render = some comparison := by
  cases comparison <;> decide

theorem OffsetText.fitsInt64 {text : List Char} {value : Int} (h : OffsetText text (some value)) :
    FitsInt64 value := by
  cases h with
  | number _ hfits => exact hfits
  | spaced _ _ hfits => exact hfits

/-- An offset is read from its text with the sign, down to the least integer of 64 bits. -/
theorem ConstraintForm.readOffset_restated {position : Nat} {input : String} {offset : Option Int}
    (h : readOffset position input = .ok offset) (position' : Nat) :
    readOffset position' ((offset.map signed).getD "") = .ok offset := by
  cases offset with
  | none => rfl
  | some value =>
      -- the value came from a text, so it is in range, and its own text has no blanks to lose
      have hfits : FitsInt64 value := by
        rcases readOffset_eq_ok_iff.1 h with htext | ⟨value', heq, sign, -, digits, -, -, hfits⟩
        · exact htext.fitsInt64
        · rwa [Option.some.inj heq]
      have hsigned := signedDecimal_signed value
      refine readOffset_eq_ok_iff.2 (Or.inl ?_)
      rw [Option.map_some, Option.getD_some, trim_of_not_isBlank hsigned.not_isBlank]
      exact .number hsigned hfits

/-- A row is valid when its variables, its operator and its offset are. -/
theorem ConstraintForm.validate_eq_ok_iff {form : ConstraintForm} {position : Nat}
    {c : Constraint} :
    form.validate position = .ok c ↔
      trim form.left ≠ "" ∧ trim form.right ≠ "" ∧
      trim form.left = c.left ∧ Comparison.read? form.operator = some c.comparison ∧
      trim form.right = c.right ∧ readOffset position form.offset = .ok c.offset := by
  obtain ⟨left, comparison, right, offset⟩ := c
  by_cases hvariables : trim form.left = "" ∨ trim form.right = ""
  · have hmissing : form.validate position = .error (.variableMissing position) :=
      if_pos hvariables
    rw [hmissing]
    constructor
    · intro h
      cases h
    · rintro ⟨hleft, hright, -⟩
      exact absurd hvariables (not_or.2 ⟨hleft, hright⟩)
  · obtain ⟨hleft, hright⟩ := not_or.1 hvariables
    cases hoperator : Comparison.read? form.operator with
    | none => simp [validate, hvariables, hoperator]
    | some found =>
        rw [validate_eq_map hleft hright hoperator]
        cases readOffset position form.offset with
        | error fault => simp [Except.map]
        | ok value => simp [Except.map, hleft, hright]

/-- A constraint is described by its row, at whatever position. -/
theorem Constraint.validate_toForm {form : ConstraintForm} {position : Nat} {c : Constraint}
    (h : form.validate position = .ok c) (position' : Nat) :
    c.toForm.validate position' = .ok c := by
  obtain ⟨hleft, hright, hleft', -, hright', hoffset⟩ := ConstraintForm.validate_eq_ok_iff.1 h
  have hleftTrim : trim c.left = c.left := by rw [← hleft', trim_trim]
  have hrightTrim : trim c.right = c.right := by rw [← hright', trim_trim]
  have hleftNe : trim c.left ≠ "" := by
    rw [hleftTrim, ← hleft']
    exact hleft
  have hrightNe : trim c.right ≠ "" := by
    rw [hrightTrim, ← hright']
    exact hright
  exact ConstraintForm.validate_eq_ok_iff.2 ⟨hleftNe, hrightNe, hleftTrim,
    c.comparison.read?_render, hrightTrim, ConstraintForm.readOffset_restated hoffset position'⟩

/-! ## Projections -/

/-- An output column is described by its row, at whatever position. -/
theorem ProjectionField.validate_toForm {form : FieldForm} {position : Nat}
    {field : ProjectionField} (h : form.validate position = .ok field) (position' : Nat) :
    field.toForm.validate position' = .ok field := by
  simp only [FieldForm.validate] at h
  split at h
  · cases h
  · rename_i hsource
    obtain rfl := Except.ok.inj h
    by_cases hchosen : trim form.chosen = ""
    · have hblank : trim "" = "" := by decide
      simp [toForm, FieldForm.validate, trim_trim, hsource, hchosen, hblank]
    · simp [toForm, FieldForm.validate, trim_trim, hsource, hchosen]

/-- A boundary is chosen by itself, the default one included. -/
theorem ProjectionForm.boundary_boundary {default : String} (h : trim default = default)
    (input : String) : boundary default (boundary default input) = boundary default input := by
  by_cases hinput : trim input = ""
  · have hdefault : boundary default input = default := if_pos hinput
    rw [hdefault, boundary, h, ite_self]
  · have hchosen : boundary default input = trim input := if_neg hinput
    rw [hchosen, boundary, trim_trim, if_neg hinput]

/-- A projection is described by its block. -/
theorem Projection.validate_toForm {form : ProjectionForm} {projection : Projection}
    (h : form.validate = .ok projection) : projection.toForm.validate = .ok projection := by
  simp only [ProjectionForm.validate, bind_eq_ok_iff] at h
  obtain ⟨fields, hfields, h⟩ := h
  obtain rfl := Except.ok.inj h
  have hrestated := validate_restated FieldForm.validate ProjectionForm.validateFields
    (fun _ => rfl) (fun _ _ _ => rfl) ProjectionField.validate_toForm hfields 1
  have hdefaults : trim defaultStart = defaultStart ∧ trim defaultFinish = defaultFinish := by
    decide
  have hstart := ProjectionForm.boundary_boundary hdefaults.1 form.start
  have hfinish := ProjectionForm.boundary_boundary hdefaults.2 form.finish
  simp only [ProjectionForm.validate, toForm, hrestated, hstart, hfinish]
  rfl

/-! ## Requests -/

/-- Validation is a normalization. The form that states a validated request is valid, and describes
the request that it states. -/
theorem validate_toForm_of_validate {form : Form} {request : Request}
    (h : form.validate = .ok request) : request.toForm.validate = .ok request := by
  obtain ⟨hname, hfirst, hsecond, -, hconstraints, hprojection, -⟩ := Form.validate_eq_ok_iff.1 h
  refine Form.validate_eq_ok_iff.2 ⟨Form.validateName_of_validateName hname,
    Operand.validate_toForm hfirst, Operand.validate_toForm hsecond,
    Relation.validate_toForm (Form.decimal_of_validate h), ?_,
    Projection.validate_toForm hprojection, rfl⟩
  exact validate_restated ConstraintForm.validate Form.validateConstraints (fun _ => rfl)
    (fun _ _ _ => rfl) Constraint.validate_toForm hconstraints 1

/-- A form with blanks around its inputs, a blank filter, mathematical operators and a blank
boundary. -/
def looseForm : Form where
  name := " Büro_1\n"
  first := ⟨"\u3000EXISTING ", " Pass\t",
    [⟨"zone", " left "⟩, ⟨"speed", "\u2003"⟩, ⟨"zone", "right"⟩]⟩
  second := ⟨" hasBall", "Pass", []⟩
  relation := ⟨" overlap", "after", "9", "LOJ ", " -0.50", " "⟩
  constraints := [⟨"M1.sf", " ≤", "M2.ef ", "+  07"⟩, ⟨" M1.x", "≠", "M2", "-9223372036854775808"⟩]
  exclusion := true
  projection := ⟨"  ", " M2.sf", [⟨" M1.arg1", "\u00a0"⟩, ⟨"M2.x", " name "⟩]⟩

/-- The request of that form. -/
def looseRequest : Request where
  name := "Büro_1"
  first := ⟨.saved "Pass", [⟨"zone", " left "⟩, ⟨"zone", "right"⟩]⟩
  second := ⟨.atomic "hasBall", []⟩
  relation := .overlap .left (.numeric "-0.50") .unbounded
  constraints := [⟨"M1.sf", .le, "M2.ef", some 7⟩, ⟨"M1.x", .ne, "M2", some (-9223372036854775808)⟩]
  exclusion := true
  projection := ⟨[⟨"M1.arg1", none⟩, ⟨"M2.x", some "name"⟩], "M1.sf", "M2.sf"⟩

theorem validate_toForm_looseRequest :
    looseForm.validate = .ok looseRequest ∧ looseRequest.toForm ≠ looseForm ∧
      looseRequest.toForm.constraints.map (·.offset) = ["+7", "-9223372036854775808"] ∧
      looseRequest.toForm.validate = .ok looseRequest := by
  have hvalidate : looseForm.validate = .ok looseRequest := by decide +kernel
  exact ⟨hvalidate, by decide +kernel, by decide +kernel, validate_toForm_of_validate hvalidate⟩

end EventAlgebra
