import EventAlgebra.Proofs.StoredLibrary

/-!
# Request documents

A form is written as a JSON document and read from one. The two are inverse: whatever was filled in,
the document is read as the same form (`ofDocument_compact`). An empty name is left out and comes
back as the default; filters are members of an object and come back in their order, those on the
same field included. This is more than holds of the form that a saved event keeps, which is put
into normal form and comes back with sorted filters (`Form.ofJson?_normal`).

The argument has two halves. The text is read as the value that was written (`Json.parse?_compact`),
and the value, record by record, as the form (`Form.ofJson?_toJson`).
-/

set_option autoImplicit false

namespace EventAlgebra

/-! ## The parts of a form -/

theorem RelationForm.ofJson?_toJson (form : RelationForm) :
    RelationForm.ofJson? form.toJson = some form :=
  rfl

theorem ConstraintForm.ofJson?_toJson (form : ConstraintForm) :
    ConstraintForm.ofJson? form.toJson = some form :=
  rfl

theorem FieldForm.ofJson?_toJson (form : FieldForm) : FieldForm.ofJson? form.toJson = some form :=
  rfl

theorem ProjectionForm.ofJson?_toJson (form : ProjectionForm) :
    ProjectionForm.ofJson? form.toJson = some form := by
  have hfields := Json.listField_map FieldForm.ofJson?_toJson form.fields
  show (Json.listField FieldForm.ofJson? (some (.array _))).bind _ = _
  rw [hfields]
  rfl

/-- Filters are read in the order in which they were written, and none is dropped. -/
theorem OperandForm.filtersOfJson?_members (filters : List Filter) :
    OperandForm.filtersOfJson?
        (.object (filters.map fun filter => (filter.field, .string filter.value))) =
      some filters := by
  have hread : (filters.map fun filter => (filter.field, Json.string filter.value)).mapM
      (fun member => member.2.string?.map (Filter.mk member.1)) = some (filters.map id) := by
    apply Json.mapM_map
    exact fun filter => rfl
  rw [List.map_id] at hread
  exact hread

theorem OperandForm.ofJson?_toJson (form : OperandForm) :
    OperandForm.ofJson? form.toJson = some form := by
  have hfilters := OperandForm.filtersOfJson?_members form.filters
  show (OperandForm.filtersOfJson? (.object _)).bind _ = _
  rw [hfilters]
  rfl

/-! ## Forms -/

/-- The members of a written form, by the fields of a form. -/
theorem Form.fields?_toJson (form : Form) :
    form.toJson.fields?
        ["name", "op1", "op2", "relation", "constraints", "exclusion", "projection"] =
      some [if form.name = "" then none else some (.string form.name), some form.first.toJson,
        some form.second.toJson, some form.relation.toJson,
        some (.array (form.constraints.map ConstraintForm.toJson)), some (.bool form.exclusion),
        some form.projection.toJson] := by
  rw [Form.toJson]
  by_cases hname : form.name = ""
  · rw [if_pos hname, if_pos hname]
    rfl
  · rw [if_neg hname, if_neg hname]
    rfl

/-- A written form is read back, whether it has a name or not. -/
theorem Form.ofJson?_toJson (form : Form) : Form.ofJson? form.toJson = some form := by
  have hname : Json.textField (if form.name = "" then none else some (.string form.name)) =
      some form.name := by
    by_cases hempty : form.name = ""
    · rw [if_pos hempty, hempty]
      rfl
    · rw [if_neg hempty]
      rfl
  have hconstraints := Json.listField_map ConstraintForm.ofJson?_toJson form.constraints
  rw [Form.ofJson?, Form.fields?_toJson]
  simp only [Option.bind_eq_bind, Option.bind_some, hname, hconstraints, Json.fieldOr,
    OperandForm.ofJson?_toJson, RelationForm.ofJson?_toJson, ProjectionForm.ofJson?_toJson,
    Json.bool?]
  rfl

/-- Every form is read back from its document: all texts with all their characters, filters in
their order and with repeated fields, constraints and columns in any number, and a name that may be
empty. -/
theorem ofDocument_compact (form : Form) : Form.ofDocument form.toJson.compact = .ok form := by
  obtain ⟨hfits, hwhole⟩ := Form.writable_toJson form
  have hparse : Json.parse? form.toJson.compact = some form.toJson :=
    Json.parse?_compact hfits hwhole
  rw [Form.ofDocument, hparse, Option.bind_some, Form.ofJson?_toJson]

end EventAlgebra
