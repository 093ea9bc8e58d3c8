import EventAlgebra.Proofs.History
import EventAlgebra.Proofs.Resolving
import EventAlgebra.Proofs.StoredForm

/-!
# Compiling a stored form again

An event is saved together with its form, so that the event can be compiled again. Everything in
the form survives but the order and the number of the filters: they come back sorted by field, with
one filter left of each field. So the second compilation gives the same columns and the same
schema, and it gives the same expression and procedure exactly if the conditions on both operands
read the same (`recompile_stored`).

They do read the same when no field has two filters and the filters on fields outside of the
schema stand in the order of their fields (`OperandForm.Orderly`).
-/

set_option autoImplicit false

namespace EventAlgebra

open Text

/-! ## The conditions on an operand -/

/-- The filters that an operand is selected by, in order. A call is selected by none. -/
def Library.selecting (library : Library) (operand : Operand) : List Filter :=
  match operand.target with
  | .atomic predicate => selectionFilters predicate operand.filters
  | .saved name =>
    if (library.spliced? operand).isSome then
      orderFilters (library.filterSchema name) operand.filters
    else []

/-- The text of the conditions that an operand is selected by. -/
def Library.conditionText (library : Library) (operand : Operand) : String :=
  Layout.conjunction ((library.selecting operand).map Filter.render)

/-- The text of an operand depends on its filters only through the conditions: they stand in a
selection on a leaf, nowhere, or in front of the algebra that is spliced in. -/
theorem Library.fragment_cases (library : Library) (definition : String) (target : Target)
    (start : Nat) :
    (∀ filters, (library.resolve definition ⟨target, filters⟩ start).fragment =
        Frame.selection.fill (library.conditionText ⟨target, filters⟩) [leafCell start]) ∨
      (∃ call, ∀ filters,
        (library.resolve definition ⟨target, filters⟩ start).fragment = call ∧
          library.selecting ⟨target, filters⟩ = []) ∨
      ∃ algebra, ∀ filters, (library.resolve definition ⟨target, filters⟩ start).fragment =
        Layout.grouped ((library.selecting ⟨target, filters⟩).map Filter.render) algebra := by
  cases target with
  | atomic predicate => exact Or.inl fun filters => selection_fragment predicate filters start
  | saved name =>
      refine Or.inr ?_
      -- whether there is something to splice in does not depend on the filters
      have hfilters : ∀ filters, library.spliced? ⟨.saved name, filters⟩ =
          library.spliced? ⟨.saved name, []⟩ := fun filters => rfl
      cases hspliced : library.spliced? ⟨.saved name, []⟩ with
      | none =>
          refine Or.inl ⟨Layout.call name (leafName start), fun filters => ?_⟩
          have hnone := (hfilters filters).trans hspliced
          obtain ⟨issues, hresolve⟩ := resolve_of_spliced?_none definition start hnone
          rw [hresolve]
          exact ⟨rfl, by simp [selecting, hnone]⟩
      | some algebra =>
          refine Or.inr ⟨shift algebra (start - 1), fun filters => ?_⟩
          have hsome := (hfilters filters).trans hspliced
          obtain ⟨origin, issues, hresolve⟩ := resolve_of_spliced?_some definition start hsome
          rw [hresolve, selecting]
          simp only [hsome, Option.isSome_some, if_true]
          rfl

/-! ## Fewer filters -/

/-- Ordering fewer filters gives fewer filters. -/
theorem subperm_orderFilters (schema : List SchemaField) {filters filters' : List Filter}
    (h : filters.Subperm filters') :
    (orderFilters schema filters).Subperm (orderFilters schema filters') := by
  refine List.Subperm.append ?_ (h.filter _)
  induction schema with
  | nil => exact List.Subperm.refl _
  | cons field schema ih =>
      rw [List.flatMap_cons, List.flatMap_cons]
      exact List.Subperm.append (h.filter _) ih

theorem Library.subperm_selecting (library : Library) (target : Target)
    {filters filters' : List Filter} (h : filters.Subperm filters') :
    (library.selecting ⟨target, filters⟩).Subperm (library.selecting ⟨target, filters'⟩) := by
  cases target with
  | atomic predicate => exact (List.subperm_cons _).2 (subperm_orderFilters defaultSchema h)
  | saved name =>
      have hspliced : library.spliced? ⟨.saved name, filters⟩ =
          library.spliced? ⟨.saved name, filters'⟩ := rfl
      simp only [selecting, hspliced]
      split
      · exact subperm_orderFilters _ h
      · exact List.Subperm.refl _

theorem length_conjunction_le {filters filters' : List Filter} (h : filters.Subperm filters') :
    (Layout.conjunction (filters.map Filter.render)).length ≤
      (Layout.conjunction (filters'.map Filter.render)).length := by
  obtain ⟨middle, hperm, hsublist⟩ := h
  exact length_joinWith_le " ∧ " ⟨_, hperm.map _, hsublist.map _⟩

theorem conjunction_ne_empty (filter : Filter) (filters : List Filter) :
    Layout.conjunction ((filter :: filters).map Filter.render) ≠ "" := by
  have hsublist : [filter].Sublist (filter :: filters) := by simp
  have hlength := length_conjunction_le hsublist.subperm
  have hrender : (Layout.conjunction ([filter].map Filter.render)).length =
      filter.field.length + 2 + filter.value.length + 1 := by
    simp only [List.map_cons, List.map_nil, Layout.conjunction, joinWith, Filter.render,
      String.length_append]
    rfl
  intro hempty
  rw [hempty, hrender] at hlength
  exact absurd hlength (by simp)

/-- Conditions stand in front of the text that an algebra has without them. -/
theorem grouped_cons_eq_append (condition : String) (conditions : List String) (algebra : String) :
    Layout.grouped (condition :: conditions) algebra =
      "σ_\x7b " ++ (Layout.conjunction (condition :: conditions) ++
        (" \x7d " ++ Layout.grouped [] algebra)) := by
  have hdivider : " \x7d ( \n " = " \x7d " ++ "( \n " := by decide
  rw [Layout.grouped_cons, Layout.grouped_nil]
  simp only [Frame.selectedGroup, Frame.group, Frame.fill, Frame.follow, hdivider,
    String.append_assoc]

/-- An algebra under fewer conditions is no longer text, and the same one only if the conditions
read the same. -/
theorem grouped_subperm {filters filters' : List Filter} (h : filters.Subperm filters')
    (algebra : String) :
    (Layout.grouped (filters.map Filter.render) algebra).length ≤
        (Layout.grouped (filters'.map Filter.render) algebra).length ∧
      (Layout.grouped (filters.map Filter.render) algebra =
          Layout.grouped (filters'.map Filter.render) algebra ↔
        Layout.conjunction (filters.map Filter.render) =
          Layout.conjunction (filters'.map Filter.render)) := by
  have hlength := length_conjunction_le h
  cases filters with
  | nil =>
      cases filters' with
      | nil => simp
      | cons filter' filters' =>
          -- without conditions there is no selection at all, and the text is shorter
          have hlonger : (Layout.grouped [] algebra).length <
              (Layout.grouped ((filter' :: filters').map Filter.render) algebra).length := by
            have hopening : "σ_\x7b ".length = 4 := by decide
            rw [List.map_cons, grouped_cons_eq_append]
            simp only [String.length_append, hopening]
            omega
          refine ⟨Nat.le_of_lt hlonger, fun heq => ?_, fun heq => ?_⟩
          · exact absurd (congrArg String.length heq) (Nat.ne_of_lt hlonger)
          · exact absurd heq.symm (conjunction_ne_empty filter' filters')
  | cons filter filters =>
      cases filters' with
      | nil => simp at h
      | cons filter' filters' =>
          have hsame : Frame.NoLonger [algebra] [algebra] := by simp
          simp only [List.map_cons, Layout.grouped_cons] at hlength ⊢
          refine ⟨Frame.length_fill_le hlength hsame _, fun heq => ?_, fun heq => by rw [heq]⟩
          exact (Frame.fill_inj hlength hsame (by simp [Frame.selectedGroup]) heq).1

/-- The text of an operand with fewer filters is no longer, and the same one only if the
conditions read the same. -/
theorem Library.fragment_subperm (library : Library) (definition : String) (target : Target)
    {filters filters' : List Filter} (h : filters.Subperm filters') (start : Nat) :
    (library.resolve definition ⟨target, filters⟩ start).fragment.length ≤
        (library.resolve definition ⟨target, filters'⟩ start).fragment.length ∧
      ((library.resolve definition ⟨target, filters⟩ start).fragment =
          (library.resolve definition ⟨target, filters'⟩ start).fragment ↔
        library.conditionText ⟨target, filters⟩ = library.conditionText ⟨target, filters'⟩) := by
  have hselecting := library.subperm_selecting target h
  rcases library.fragment_cases definition target start with
    hfill | ⟨call, hcall⟩ | ⟨algebra, hgroup⟩
  · have hlength := length_conjunction_le hselecting
    have hsame : Frame.NoLonger [leafCell start] [leafCell start] := by simp
    rw [hfill, hfill]
    refine ⟨Frame.length_fill_le hlength hsame _, fun heq => ?_, fun heq => by rw [heq]⟩
    exact (Frame.fill_inj hlength hsame (by simp [Frame.selection]) heq).1
  · rw [(hcall filters).1, (hcall filters').1, conditionText, conditionText, (hcall filters).2,
      (hcall filters').2]
    simp
  · rw [hgroup, hgroup]
    exact grouped_subperm hselecting algebra

/-- Two expressions of a request, the operands of the one no longer than those of the other, are
the same only if their operands are. -/
theorem Request.expression_inj (request : Request) (starts : Starts) (clause : String)
    {first first' second second' : String} (hfirst : first.length ≤ first'.length)
    (hsecond : second.length ≤ second'.length) :
    request.expression starts clause first second =
        request.expression starts clause first' second' ↔ first = first' ∧ second = second' := by
  constructor
  · intro heq
    -- the layouts differ in where the predicate stands, and the operands keep their places
    cases hexclusion : request.exclusion with
    | false =>
        rw [expression_relational hexclusion, expression_relational hexclusion] at heq
        have hparts := (Frame.fill_inj (Nat.le_refl _) (by simp [hfirst, hsecond])
          (by simp [Frame.relational]) heq).2
        simpa using hparts
    | true =>
        rw [expression_exclusion hexclusion, expression_exclusion hexclusion] at heq
        have hparts := (Frame.fill_inj (Nat.le_refl _) (by simp [hfirst, hsecond])
          (by simp [Frame.exclusion]) heq).2
        simpa using hparts
  · rintro ⟨rfl, rfl⟩
    rfl

/-! ## Restored requests -/

/-- The filters of a slot that are not blank. -/
def OperandForm.kept (slot : OperandForm) : List Filter :=
  slot.filters.filter (trim ·.value ≠ "")

theorem OperandForm.validate_eq_ok_iff {slot : OperandForm} {label : String} {operand : Operand} :
    slot.validate label = .ok operand ↔
      slot.target label = .ok operand.target ∧ slot.kept = operand.filters := by
  obtain ⟨target, filters⟩ := operand
  rw [OperandForm.validate, OperandForm.kept]
  cases slot.target label with
  | error fault => simp [Except.map]
  | ok found => simp [Except.map]

/-- An event name is a valid input for itself. -/
theorem Form.validateName_of_validateName {input name : String}
    (h : Form.validateName input = .ok name) : Form.validateName name = .ok name := by
  simp only [Form.validateName] at h
  split at h
  · cases h
  · split at h
    · rename_i hempty hidentifier
      obtain rfl := Except.ok.inj h
      simp only [Form.validateName, trim_trim, if_neg hempty, if_pos hidentifier]
    · cases h

/-- The request of a form that was stored and read back. -/
def Form.restoredRequest (form : Form) (request : Request) : Request :=
  { request with
    first := ⟨request.first.target, form.first.restored.kept⟩
    second := ⟨request.second.target, form.second.restored.kept⟩ }

/-- A form without faults has none when it is read back, and the same request but for its
filters. -/
theorem Form.validate_restored {form : Form} {request : Request}
    (h : form.validate = .ok request) :
    (form.restored request.name).validate = .ok (form.restoredRequest request) := by
  obtain ⟨hname, hfirst, hsecond, hrest⟩ := Form.validate_eq_ok_iff.1 h
  refine Form.validate_eq_ok_iff.2 ⟨Form.validateName_of_validateName hname, ?_, ?_, hrest⟩
  · exact OperandForm.validate_eq_ok_iff.2 ⟨(OperandForm.validate_eq_ok_iff.1 hfirst).1, rfl⟩
  · exact OperandForm.validate_eq_ok_iff.2 ⟨(OperandForm.validate_eq_ok_iff.1 hsecond).1, rfl⟩

/-- Restored filters are some of the filters that were there. -/
theorem OperandForm.subperm_kept (slot : OperandForm) : slot.restored.kept.Subperm slot.kept :=
  (subperm_sortFilters slot.filters).filter _

/-! ## Slots whose filters are restored in order -/

/-- A slot in which no field has two filters, and the filters on fields outside of a schema stand
in the order of their fields. -/
structure OperandForm.Orderly (slot : OperandForm) (schema : List SchemaField) : Prop where
  distinct : slot.filters.Pairwise fun a b => a.field ≠ b.field
  sorted : (slot.kept.filter fun filter => !schema.any (·.id = filter.field)).Pairwise
    fun a b => a.field < b.field

instance (slot : OperandForm) (schema : List SchemaField) : Decidable (slot.Orderly schema) :=
  decidable_of_iff (slot.filters.Pairwise (fun a b => a.field ≠ b.field) ∧
      (slot.kept.filter fun filter => !schema.any (·.id = filter.field)).Pairwise
        fun a b => a.field < b.field)
    ⟨fun ⟨a, b⟩ => ⟨a, b⟩, fun ⟨a, b⟩ => ⟨a, b⟩⟩

section Orderly

variable {slot : OperandForm} {schema : List SchemaField} (h : slot.Orderly schema)

include h

/-- Restored filters that pass a test are the ones that passed it before, if these stand in the
order of their fields. -/
theorem OperandForm.Orderly.filter_restored {test : Filter → Bool}
    (hsorted : (slot.kept.filter test).Pairwise fun a b => a.field < b.field) :
    slot.restored.kept.filter test = slot.kept.filter test := by
  have hperm : (slot.restored.kept.filter test).Perm (slot.kept.filter test) :=
    ((perm_sortFilters h.distinct).filter _).filter test
  have hrestored : (slot.restored.kept.filter test).Pairwise fun a b => a.field < b.field :=
    ((pairwise_sortFilters slot.filters).filter _).filter test
  refine List.Perm.eq_of_pairwise ?_ hrestored hsorted hperm
  intro a b _ _ hab hba
  exact absurd hba (lt_asymm hab)

/-- Orderly filters are restored in the order of the schema. -/
theorem OperandForm.Orderly.orderFilters_restored :
    orderFilters schema slot.restored.kept = orderFilters schema slot.kept := by
  rw [orderFilters, orderFilters, h.filter_restored h.sorted]
  congr 2
  funext field
  apply h.filter_restored
  -- there is at most one filter on the field, so that any order will do
  have hdistinct : (slot.kept.filter (·.field = field.id)).Pairwise fun a b => a.field ≠ b.field :=
    (h.distinct.filter _).filter _
  refine hdistinct.imp_of_mem ?_
  intro a b ha hb hne
  have hfield : a.field = field.id ∧ b.field = field.id := by
    simpa using And.intro (List.mem_filter.1 ha).2 (List.mem_filter.1 hb).2
  exact absurd (hfield.1.trans hfield.2.symm) hne

end Orderly

/-- The schema by which the filters on a target are ordered. -/
def Library.targetSchema (library : Library) : Target → List SchemaField
  | .atomic _ => defaultSchema
  | .saved name => library.filterSchema name

/-- A slot whose conditions read the same after its filters were stored and read back. -/
def Library.Restores (library : Library) (target : Target) (slot : OperandForm) : Prop :=
  library.conditionText ⟨target, slot.restored.kept⟩ = library.conditionText ⟨target, slot.kept⟩

instance (library : Library) (target : Target) (slot : OperandForm) :
    Decidable (library.Restores target slot) :=
  inferInstanceAs (Decidable (_ = _))

theorem Library.restores_of_orderly {library : Library} {target : Target} {slot : OperandForm}
    (h : slot.Orderly (library.targetSchema target)) : library.Restores target slot := by
  have horder := h.orderFilters_restored
  have hselecting : library.selecting ⟨target, slot.restored.kept⟩ =
      library.selecting ⟨target, slot.kept⟩ := by
    cases target with
    | atomic predicate => exact congrArg (⟨"pred", predicate⟩ :: ·) horder
    | saved name =>
        have hspliced : library.spliced? ⟨.saved name, slot.restored.kept⟩ =
            library.spliced? ⟨.saved name, slot.kept⟩ := rfl
        rw [targetSchema] at horder
        simp only [selecting, hspliced, horder]
  rw [Restores, conditionText, conditionText, hselecting]

example : OperandForm.Orderly
    ⟨"hasBall", "", [⟨"arg2", "x"⟩, ⟨"speed", "9"⟩, ⟨"arg1", "y"⟩, ⟨"zone", "left"⟩]⟩
    defaultSchema := by decide

/-! ## Compiling again -/

/-- Saving an event changes nothing for an operand that does not refer to it. -/
theorem Library.resolve_put {event : Event} {target : Target} (h : target ≠ .saved event.name)
    (library : Library) (definition : String) (filters : List Filter) (start : Nat) :
    (library.put event).resolve definition ⟨target, filters⟩ start =
      library.resolve definition ⟨target, filters⟩ start := by
  refine resolve_congr (fun name htarget => get?_put_of_ne ?_) definition start
  rintro rfl
  exact h htarget

/-- Two compiled events with the same expression, procedure, signature and schema. -/
structure Compiled.SameOutput (compiled other : Compiled) : Prop where
  expression : compiled.expression = other.expression
  procedure : compiled.procedure = other.procedure
  signature : compiled.signature = other.signature
  schema : compiled.schema = other.schema

/-- A procedure is made of the name, the signature and the expression. -/
theorem Library.procedure_compile (library : Library) (naming : Naming) (request : Request) :
    (library.compile naming request).procedure =
      Layout.procedure request.name (renderSignature (library.compile naming request).signature)
        (library.compile naming request).expression :=
  rfl

/-- The slots of an operand do not depend on its filters. -/
theorem Library.slots_filters (library : Library) (definition : String) (target : Target)
    (filters filters' : List Filter) (start : Nat) :
    (library.resolve definition ⟨target, filters⟩ start).slots =
      (library.resolve definition ⟨target, filters'⟩ start).slots := by
  rw [slots_resolve, slots_resolve]
  rfl

/-- A restored request, compiled in a library with an event more that the operands do not refer
to, differs in the fragments of the operands only. -/
theorem Library.compile_restored (library : Library) (event : Event) {request : Request}
    (hfirst : request.first.target ≠ .saved event.name)
    (hsecond : request.second.target ≠ .saved event.name) (form : Form) (naming : Naming) :
    let compiled := library.compile naming request
    let again := (library.put event).compile naming (form.restoredRequest request)
    let starts : Starts := ⟨1, compiled.secondStart⟩
    again.signature = compiled.signature ∧ again.schema = compiled.schema ∧
      again.expression = request.expression starts
        ((request.projection.remap starts).output naming).clause
        (library.resolve request.name ⟨request.first.target, form.first.restored.kept⟩ 1).fragment
        (library.resolve request.name ⟨request.second.target, form.second.restored.kept⟩
          starts.second).fragment := by
  intro compiled again starts
  -- the second operand starts where it did, since the slots of the first are the same
  have hslots := library.slots_filters request.name request.first.target
    form.first.restored.kept request.first.filters 1
  simp only [again, starts, compiled, compile, Form.restoredRequest, resolve_put hfirst,
    resolve_put hsecond, Resolved.advance, hslots]
  exact ⟨trivial, trivial, rfl⟩

/-- A request is compiled to the same output from its restored filters exactly if the conditions
on both operands read the same. -/
theorem Library.sameOutput_restored (library : Library) (event : Event) {form : Form}
    {request : Request} (hvalidate : form.validate = .ok request)
    (hfirst : request.first.target ≠ .saved event.name)
    (hsecond : request.second.target ≠ .saved event.name) (naming : Naming) :
    ((library.put event).compile naming (form.restoredRequest request)).SameOutput
        (library.compile naming request) ↔
      library.Restores request.first.target form.first ∧
        library.Restores request.second.target form.second := by
  obtain ⟨hsignature, hschema, hexpression⟩ :=
    library.compile_restored event hfirst hsecond form naming
  obtain ⟨-, hslot, hslot', -⟩ := Form.validate_eq_ok_iff.1 hvalidate
  have hkept := (OperandForm.validate_eq_ok_iff.1 hslot).2
  have hkept' := (OperandForm.validate_eq_ok_iff.1 hslot').2
  obtain ⟨hlength, hfragment⟩ := library.fragment_subperm request.name request.first.target
    form.first.subperm_kept 1
  obtain ⟨hlength', hfragment'⟩ := library.fragment_subperm request.name request.second.target
    form.second.subperm_kept (library.compile naming request).secondStart
  rw [Library.Restores, Library.Restores, ← hfragment, ← hfragment']
  rw [hkept] at hlength ⊢
  rw [hkept'] at hlength' ⊢
  -- fewer filters make no operand longer, so that equal expressions have equal operands
  have hinj := request.expression_inj ⟨1, (library.compile naming request).secondStart⟩
    ((request.projection.remap ⟨1, (library.compile naming request).secondStart⟩).output
      naming).clause hlength hlength'
  rw [← hinj, ← hexpression]
  constructor
  · exact fun hsame => hsame.expression
  · intro hsame
    refine ⟨hsame, ?_, hsignature, hschema⟩
    rw [procedure_compile, procedure_compile, hsignature, hsame]
    rfl

/-- After a form that does not refer to its own name was compiled and its event saved, the form read
back from the saved event can be compiled again. It gives the same signature and schema, and the
same expression and procedure exactly if the conditions on both operands read the same once the
filters are restored. That is so if the filters of both operands are orderly. -/
theorem recompile_stored {library : Library} {form : Form} {request : Request}
    (hvalidate : form.validate = .ok request)
    (hfirst : request.first.target ≠ .saved request.name)
    (hsecond : request.second.target ≠ .saved request.name) (date : String) :
    let compiled := library.compile .positional request
    let saved := library.put (compiled.toEvent form date)
    library.compileForm true form = .ok compiled ∧
      ∃ event restored again, saved.get? compiled.name = some event ∧
        event.form? = .ok (some restored) ∧ restored = form.restored compiled.name ∧
        saved.compileForm true restored = .ok again ∧
        again.signature = compiled.signature ∧ again.schema = compiled.schema ∧
        (again.SameOutput compiled ↔ library.Restores request.first.target form.first ∧
          library.Restores request.second.target form.second) ∧
        (form.first.Orderly (library.targetSchema request.first.target) →
          form.second.Orderly (library.targetSchema request.second.target) →
          again.SameOutput compiled) := by
  intro compiled saved
  obtain ⟨hsignature, hschema, -⟩ :=
    library.compile_restored (compiled.toEvent form date) hfirst hsecond form .positional
  have hsame := library.sameOutput_restored (compiled.toEvent form date) hvalidate hfirst hsecond
    .positional
  refine ⟨library.compileForm_of_validate hvalidate, compiled.toEvent form date,
    form.restored compiled.name, _, library.get?_put _, compiled.form?_toEvent form date, rfl,
    saved.compileForm_of_validate (Form.validate_restored hvalidate), hsignature, hschema, hsame,
    ?_⟩
  intro horderly horderly'
  exact hsame.2 ⟨Library.restores_of_orderly horderly, Library.restores_of_orderly horderly'⟩

/-- A form with filters on two fields outside of the schema, the later field first. -/
def chainForm : Form :=
  ⟨"Chain ", ⟨"hasBall", "", [⟨"zone", "left"⟩, ⟨"arg1", "p1"⟩, ⟨"speed", "9"⟩]⟩,
    ⟨"inArea", "", []⟩, ⟨"sequential", "", "", "", "", ""⟩, [], false, .blank⟩

/-- The request of that form. -/
def chainRequest : Request :=
  .plain "Chain" ⟨.atomic "hasBall", [⟨"zone", "left"⟩, ⟨"arg1", "p1"⟩, ⟨"speed", "9"⟩]⟩
    ⟨.atomic "inArea", []⟩ .before

/-- The filters come back in the other order, and the form is compiled to another expression. -/
theorem recompile_chain :
    let compiled := Library.empty.compile .positional chainRequest
    let saved := Library.empty.put (compiled.toEvent chainForm "d1")
    chainForm.validate = .ok chainRequest ∧
      chainRequest.first.target ≠ .saved "Chain" ∧ chainRequest.second.target ≠ .saved "Chain" ∧
      ∃ event restored again, saved.get? "Chain" = some event ∧
        event.form? = .ok (some restored) ∧ saved.compileForm true restored = .ok again ∧
        again.signature = compiled.signature ∧ again.schema = compiled.schema ∧
        ¬ again.SameOutput compiled := by
  intro compiled saved
  have hvalidate : chainForm.validate = .ok chainRequest := rfl
  have hfirst : chainRequest.first.target ≠ .saved "Chain" := by decide
  have hsecond : chainRequest.second.target ≠ .saved "Chain" := by decide
  have hrestores : ¬ Library.empty.Restores chainRequest.first.target chainForm.first := by
    decide +kernel
  obtain ⟨-, event, restored, again, hget, hform, -, hcompile, hsignature, hschema, hsame, -⟩ :=
    recompile_stored hvalidate hfirst hsecond "d1"
  exact ⟨hvalidate, hfirst, hsecond, event, restored, again, hget, hform, hcompile, hsignature,
    hschema, fun h => hrestores (hsame.1 h).1⟩

end EventAlgebra
