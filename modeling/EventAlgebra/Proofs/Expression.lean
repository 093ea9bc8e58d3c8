import EventAlgebra.Compilation
import EventAlgebra.Proofs.Clauses
import EventAlgebra.Proofs.Trimming
import EventAlgebra.Proofs.Validation
import Mathlib.Tactic.Tauto

/-!
# The leaves of an expression

The expression of a request whose operands are given as texts. A request is plain
(`Request.Plain`) when no user string in it has a double quote, its filter fields, aliases and
names of saved events have no leaf, and its variables are plain.

An expression without quotes in its clauses closes its literals if the operands do
(`Request.closed_expressionAt`). Its leaves are those of its clauses and of the operands
(`Request.read_expressionAt`), and if the request is plain, renumbering it renumbers the operands
and moves the starts (`Request.shift_expressionAt`).
-/

set_option autoImplicit false

namespace EventAlgebra

open Text

/-! ## Operands -/

/-- A filter without quotes and whose field has no leaf. -/
def Filter.Plain (filter : Filter) : Prop :=
  filter.QuoteFree ∧ LeafFree filter.field

theorem leafFree_conjunction {filters : List Filter} (h : ∀ filter ∈ filters, filter.Plain) :
    LeafFree (Layout.conjunction (filters.map Filter.render)) := by
  rw [leafFree_iff]
  refine (read_conjunction (fun filter hfilter => (h filter hfilter).1) LeafReading.all).trans ?_
  rw [List.flatMap_eq_nil_iff]
  exact fun filter hfilter => leafFree_iff.1 (h filter hfilter).2

/-- Ordered plain filters have no leaves in their fields. -/
theorem read_orderFilters {filters : List Filter} (h : ∀ filter ∈ filters, filter.Plain)
    (schema : List SchemaField) (reading : LeafReading) :
    (orderFilters schema filters).flatMap (fun filter => reading.read filter.field) = [] := by
  rw [List.flatMap_eq_nil_iff]
  intro filter hfilter
  exact reading.leafFree (h filter (mem_of_mem_orderFilters hfilter)).2

/-- The filters of a selection, with the one on its predicate in front. -/
def selectionFilters (predicate : String) (filters : List Filter) : List Filter :=
  ⟨"pred", predicate⟩ :: orderFilters defaultSchema filters

theorem plain_predicate {predicate : String} (h : QuoteFree predicate) :
    Filter.Plain ⟨"pred", predicate⟩ := by
  have hfield : QuoteFree "pred" ∧ LeafFree "pred" := ⟨by decide, leafFree_of_notMem (by decide)⟩
  exact ⟨⟨hfield.1, h⟩, hfield.2⟩

theorem forall_selectionFilters {P : Filter → Prop} {predicate : String} {filters : List Filter}
    (hpredicate : P ⟨"pred", predicate⟩) (hfilters : ∀ filter ∈ filters, P filter) :
    ∀ filter ∈ selectionFilters predicate filters, P filter := by
  rw [selectionFilters, List.forall_mem_cons]
  exact ⟨hpredicate, fun filter hfilter => hfilters filter (mem_of_mem_orderFilters hfilter)⟩

theorem selection_fragment (predicate : String) (filters : List Filter) (start : Nat) :
    (Resolved.selection predicate filters start).fragment =
      Frame.selection.fill
        (Layout.conjunction ((selectionFilters predicate filters).map Filter.render))
        [leafCell start] :=
  Layout.selection_eq_fill _ _

theorem call_fragment (name : String) (filters : List Filter) (start : Nat) (issues : List Issue) :
    (Resolved.call name filters start issues).fragment = name ++ leafCell start :=
  Layout.call_eq_append _ _

section Selection

variable {predicate : String} {filters : List Filter} (hpredicate : QuoteFree predicate)
  (hfilters : ∀ filter ∈ filters, filter.QuoteFree) (start : Nat)

include hpredicate hfilters

theorem quoteFree_selectionFilters :
    ∀ filter ∈ selectionFilters predicate filters, filter.QuoteFree :=
  forall_selectionFilters (plain_predicate hpredicate).1 hfilters

theorem closed_selection : Closed (Resolved.selection predicate filters start).fragment := by
  rw [selection_fragment]
  exact Frame.closed_fill Frame.sound_selection
    (closed_conjunction (quoteFree_selectionFilters hpredicate hfilters))
    (by simpa using closed_leafCell start)

theorem read_selection (reading : LeafReading) :
    reading.read (Resolved.selection predicate filters start).fragment =
      (orderFilters defaultSchema filters).flatMap (fun filter => reading.read filter.field) ++
        reading.read (leafCell start) := by
  have hquote := quoteFree_selectionFilters hpredicate hfilters
  have hpred : reading.read "pred" = [] := reading.leafFree (leafFree_of_notMem (by decide))
  rw [selection_fragment, Frame.read_fill Frame.sound_selection (closed_conjunction hquote)
    (by simpa using closed_leafCell start) reading (by simp [Frame.selection]),
    read_conjunction hquote]
  simp [selectionFilters, hpred]

end Selection

theorem shift_selection {predicate : String} {filters : List Filter} {start amount : Nat}
    (hpredicate : QuoteFree predicate) (hfilters : ∀ filter ∈ filters, filter.Plain)
    (hstart : start + amount ≤ largestNat64) :
    shift (Resolved.selection predicate filters start).fragment amount =
      (Resolved.selection predicate filters (start + amount)).fragment := by
  have hplain : ∀ filter ∈ selectionFilters predicate filters, filter.Plain :=
    forall_selectionFilters (plain_predicate hpredicate) hfilters
  rw [selection_fragment, selection_fragment, Frame.shift_fill Frame.sound_selection
    (closed_conjunction fun filter hfilter => (hplain filter hfilter).1)
    (by simpa using closed_leafCell start), shift_of_leafFree (leafFree_conjunction hplain)]
  simp [shift_leafCell hstart]

section Call

variable {name : String} (hname : QuoteFree name) (start : Nat)

include hname

theorem closed_call : Closed (name ++ leafCell start) :=
  closed_append (closed_of_quoteFree hname) (closed_leafCell start)
    (Or.inr (startsApart_leafCell start))

theorem read_call (reading : LeafReading) :
    reading.read (name ++ leafCell start) = reading.read name ++ reading.read (leafCell start) :=
  reading.append (closed_of_quoteFree hname) (Or.inr (startsApart_leafCell start))

/-- Renumbering a call renumbers the leaves that its name may have, and its leaf. -/
theorem shift_name_leafCell {amount : Nat} (hstart : start + amount ≤ largestNat64) :
    shift (name ++ leafCell start) amount = shift name amount ++ leafCell (start + amount) := by
  rw [shift_append amount (Or.inl (closed_of_quoteFree hname))
    (Or.inr (startsApart_leafCell start)), shift_leafCell hstart]

theorem shift_call {amount : Nat} (hfree : LeafFree name) (hstart : start + amount ≤ largestNat64) :
    shift (name ++ leafCell start) amount = name ++ leafCell (start + amount) := by
  rw [shift_name_leafCell hname start hstart, shift_of_leafFree hfree]

end Call

section Grouped

variable (schema : List SchemaField) {filters : List Filter} {algebra : String}

/-- An algebra is grouped in one frame without conditions and in another with them. -/
theorem grouped_cases (filters : List Filter) :
    (orderFilters schema filters = [] ∧ ∀ algebra,
        Layout.grouped (conditions schema filters) algebra = Frame.group.fill algebra []) ∨
      ∀ algebra, Layout.grouped (conditions schema filters) algebra =
        Frame.selectedGroup.fill
          (Layout.conjunction ((orderFilters schema filters).map Filter.render)) [algebra] := by
  rw [conditions]
  cases orderFilters schema filters with
  | nil => exact Or.inl ⟨rfl, Layout.grouped_nil⟩
  | cons filter filters => exact Or.inr (Layout.grouped_cons _ _)

theorem closed_grouped (hfilters : ∀ filter ∈ filters, filter.QuoteFree)
    (halgebra : Closed algebra) :
    Closed (Layout.grouped (conditions schema filters) algebra) := by
  rcases grouped_cases schema filters with ⟨-, heq⟩ | heq
  · rw [heq]
    exact Frame.closed_fill Frame.sound_group halgebra (by simp)
  · rw [heq]
    exact Frame.closed_fill Frame.sound_selectedGroup
      (closed_conjunction fun filter h => hfilters filter (mem_of_mem_orderFilters h))
      (by simpa using halgebra)

theorem read_grouped (hfilters : ∀ filter ∈ filters, filter.QuoteFree) (halgebra : Closed algebra)
    (reading : LeafReading) :
    reading.read (Layout.grouped (conditions schema filters) algebra) =
      (orderFilters schema filters).flatMap (fun filter => reading.read filter.field) ++
        reading.read algebra := by
  have hquote : ∀ filter ∈ orderFilters schema filters, filter.QuoteFree := fun filter h =>
    hfilters filter (mem_of_mem_orderFilters h)
  rcases grouped_cases schema filters with ⟨hnil, heq⟩ | heq
  · rw [heq, Frame.read_fill Frame.sound_group halgebra (by simp) reading (by simp), hnil]
    simp
  · rw [heq, Frame.read_fill Frame.sound_selectedGroup (closed_conjunction hquote)
      (by simpa using halgebra) reading (by simp [Frame.selectedGroup]), read_conjunction hquote]
    simp

/-- Renumbering a grouped algebra renumbers the algebra, whatever literals it leaves open. -/
theorem shift_grouped (hfilters : ∀ filter ∈ filters, filter.Plain) (algebra : String)
    (amount : Nat) :
    shift (Layout.grouped (conditions schema filters) algebra) amount =
      Layout.grouped (conditions schema filters) (shift algebra amount) := by
  have hplain : ∀ filter ∈ orderFilters schema filters, filter.Plain := fun filter h =>
    hfilters filter (mem_of_mem_orderFilters h)
  rcases grouped_cases schema filters with ⟨-, heq⟩ | heq
  · rw [heq, heq, Frame.sound_group.shift_fill_last (by simp)]
    rfl
  · have hclosed := closed_conjunction fun filter h => (hplain filter h).1
    rw [heq, heq, Frame.sound_selectedGroup.shift_fill_last (by simpa using hclosed),
      shift_of_leafFree (leafFree_conjunction hplain)]
    rfl

end Grouped

/-! ## Plain requests -/

/-- The name of the saved event that an operand ranges over, if it does. -/
def Target.reference? : Target → Option String
  | .atomic _ => none
  | .saved name => some name

/-- The text that selects what an operand ranges over. -/
def Target.text : Target → String
  | .atomic predicate => predicate
  | .saved name => name

namespace Operand

/-- The user strings of an operand. -/
def strings (operand : Operand) : List String :=
  operand.target.text :: operand.filters.flatMap fun filter => [filter.field, filter.value]

/-- The user strings of an operand that are written outside of literals. -/
def labels (operand : Operand) : List String :=
  operand.target.reference?.toList ++ operand.filters.map (·.field)

end Operand

theorem Operand.quoteFree_filters {operand : Operand}
    (h : ∀ text ∈ operand.strings, QuoteFree text) :
    ∀ filter ∈ operand.filters, filter.QuoteFree := by
  intro filter hfilter
  have hmem : ∀ text ∈ [filter.field, filter.value], text ∈ operand.strings := fun text htext =>
    List.mem_cons_of_mem _ (List.mem_flatMap.2 ⟨filter, hfilter, htext⟩)
  exact ⟨h _ (hmem _ (by simp)), h _ (hmem _ (by simp))⟩

/-- An operand whose strings have no quotes and whose labels have no leaves. -/
structure Operand.Plain (operand : Operand) : Prop where
  quoteFree : ∀ text ∈ operand.strings, QuoteFree text
  leafFree : ∀ label ∈ operand.labels, LeafFree label

instance (operand : Operand) : Decidable operand.Plain :=
  decidable_of_iff ((∀ text ∈ operand.strings, QuoteFree text) ∧
      ∀ label ∈ operand.labels, LeafFree label)
    ⟨fun ⟨a, b⟩ => ⟨a, b⟩, fun ⟨a, b⟩ => ⟨a, b⟩⟩

theorem Operand.Plain.filters {operand : Operand} (h : operand.Plain) :
    ∀ filter ∈ operand.filters, filter.Plain := by
  intro filter hfilter
  refine ⟨Operand.quoteFree_filters h.quoteFree filter hfilter, ?_⟩
  exact h.leafFree _ (List.mem_append_right _ (List.mem_map.2 ⟨filter, hfilter, rfl⟩))

namespace Request

/-- The variables of a request. -/
def terms (request : Request) : List String :=
  request.constraints.flatMap Constraint.terms ++ request.projection.terms

/-- The user strings of a request. -/
def strings (request : Request) : List String :=
  request.first.strings ++ request.second.strings ++ request.terms ++ request.projection.labels

/-- The user strings of a request, apart from variables, that are written outside of literals. -/
def labels (request : Request) : List String :=
  request.first.labels ++ request.second.labels ++ request.projection.labels

/-- A request whose strings have no quotes, whose labels have no leaves, and whose variables are
plain. -/
structure Plain (request : Request) : Prop where
  quoteFree : ∀ text ∈ request.strings, QuoteFree text
  leafFree : ∀ label ∈ request.labels, LeafFree label
  plainVariable : ∀ term ∈ request.terms, PlainVariable term

instance (request : Request) : Decidable request.Plain :=
  decidable_of_iff ((∀ text ∈ request.strings, QuoteFree text) ∧
      (∀ label ∈ request.labels, LeafFree label) ∧ ∀ term ∈ request.terms, PlainVariable term)
    ⟨fun ⟨a, b, c⟩ => ⟨a, b, c⟩, fun ⟨a, b, c⟩ => ⟨a, b, c⟩⟩

/-- A request whose clauses have no quotes: no variable, no alias and no bound has one. -/
structure QuoteFreeClauses (request : Request) : Prop where
  terms : ∀ term ∈ request.terms, QuoteFree term
  labels : ∀ label ∈ request.projection.labels, QuoteFree label
  relation : request.relation.Decimal

theorem Plain.quoteFreeClauses {request : Request} (h : request.Plain)
    (hrelation : request.relation.Decimal) : request.QuoteFreeClauses where
  terms term hterm := h.quoteFree term (by simp [strings, hterm])
  labels label hlabel := h.quoteFree label (by simp [strings, hlabel])
  relation := hrelation

theorem expression_relational {request : Request} (h : request.exclusion = false)
    (starts : Starts) (clause first second : String) :
    request.expression starts clause first second =
      Frame.relational.fill clause
        [Constraint.predicateAt starts request.constraints, first, request.relation.render,
          second] := by
  rw [expression, h, ← Layout.relational_eq_fill]
  rfl

theorem expression_exclusion {request : Request} (h : request.exclusion = true)
    (starts : Starts) (clause first second : String) :
    request.expression starts clause first second =
      Frame.exclusion.fill clause
        [first, second, Constraint.predicateAt starts request.constraints] := by
  rw [expression, h, ← Layout.exclusion_eq_fill]
  rfl

/-- An expression begins and ends with no blank. -/
theorem ends_expression (request : Request) (starts : Starts) (clause first second : String) :
    (request.expression starts clause first second).toList.head? = some 'π' ∧
      (request.expression starts clause first second).toList.getLast? = some ')' := by
  cases hexclusion : request.exclusion with
  | false =>
      rw [expression_relational hexclusion, Frame.head?_fill (by decide),
        Frame.getLast?_fill (by decide)]
      decide
  | true =>
      rw [expression_exclusion hexclusion, Frame.head?_fill (by decide),
        Frame.getLast?_fill (by decide)]
      decide

/-- Trimming changes nothing of an expression. -/
theorem trim_expression (request : Request) (starts : Starts) (clause first second : String) :
    trim (request.expression starts clause first second) =
      request.expression starts clause first second := by
  obtain ⟨hhead, hlast⟩ := ends_expression request starts clause first second
  apply trim_eq_self
  · intro c hc
    obtain rfl : 'π' = c := by simpa [hhead] using hc
    decide
  · intro c hc
    obtain rfl : ')' = c := by simpa [hlast] using hc
    decide

theorem expression_ne_empty (request : Request) (starts : Starts) (clause first second : String) :
    request.expression starts clause first second ≠ "" := by
  intro hempty
  have hhead := (ends_expression request starts clause first second).1
  simp [hempty] at hhead

/-- The expression of a request at the starts of its operands, columns named by position. -/
def expressionAt (request : Request) (starts : Starts) (first second : String) : String :=
  request.expression starts (request.projection.clauseAt starts) first second

section ExpressionAt

variable {request : Request} (h : request.QuoteFreeClauses) (starts : Starts)

include h

theorem QuoteFreeClauses.closed_clause : Closed (request.projection.clauseAt starts) := by
  apply Projection.closed_clauseAt starts _ h.labels
  intro term hterm
  exact h.terms term (List.mem_append_right _ hterm)

theorem QuoteFreeClauses.closed_predicate :
    Closed (Constraint.predicateAt starts request.constraints) := by
  apply Constraint.closed_predicateAt starts
  intro term hterm
  exact h.terms term (List.mem_append_left _ hterm)

theorem QuoteFreeClauses.closed_operator : Closed request.relation.render :=
  closed_of_quoteFree (Relation.free_render h.relation).1

/-- A leaf of a clause is one of an alias or of a moved variable. -/
theorem QuoteFreeClauses.mem_read_clauses (reading : LeafReading) {index : Nat}
    (hindex : index ∈ reading.read (request.projection.clauseAt starts) ∨
      index ∈ reading.read (Constraint.predicateAt starts request.constraints)) :
    (∃ label ∈ request.projection.labels, index ∈ reading.read label) ∨
      ∃ term ∈ request.terms, index ∈ reading.read (remap starts term) := by
  rcases hindex with hindex | hindex
  · rw [Projection.read_clauseAt starts
      (fun term hterm => h.terms term (List.mem_append_right _ hterm)) h.labels,
      List.mem_flatMap] at hindex
    obtain ⟨column, hcolumn, hmem⟩ := hindex
    obtain ⟨hsource, hname⟩ := Projection.mem_columns hcolumn
    rcases List.mem_append.1 hmem with hmem | hmem
    · exact Or.inr ⟨_, List.mem_append_right _ hsource, hmem⟩
    · rcases hname with hname | hname
      · exact Or.inl ⟨_, hname, hmem⟩
      · rw [reading.leafFree hname.2] at hmem
        cases hmem
  · rw [Constraint.read_predicateAt starts
      (fun term hterm => h.terms term (List.mem_append_left _ hterm)), List.mem_flatMap] at hindex
    obtain ⟨term, hterm, hmem⟩ := hindex
    exact Or.inr ⟨term, List.mem_append_left _ hterm, hmem⟩

variable {first second : String} (hfirst : Closed first) (hsecond : Closed second)

include hfirst hsecond

/-- An expression closes its literals if the operands do. -/
theorem closed_expressionAt : Closed (request.expressionAt starts first second) := by
  have hclause := h.closed_clause starts
  have hpredicate := h.closed_predicate starts
  cases hexclusion : request.exclusion with
  | false =>
      rw [expressionAt, expression_relational hexclusion]
      exact Frame.closed_fill Frame.sound_relational hclause
        (by simp [hpredicate, hfirst, h.closed_operator, hsecond])
  | true =>
      rw [expressionAt, expression_exclusion hexclusion]
      exact Frame.closed_fill Frame.sound_exclusion hclause
        (by simp [hpredicate, hfirst, hsecond])

/-- The leaves of an expression are those of its clauses and of its operands. -/
theorem read_expressionAt (reading : LeafReading) :
    reading.read (request.expressionAt starts first second) =
      reading.read (request.projection.clauseAt starts) ++
        if request.exclusion then
          reading.read first ++ reading.read second ++
            reading.read (Constraint.predicateAt starts request.constraints)
        else
          reading.read (Constraint.predicateAt starts request.constraints) ++
            reading.read first ++ reading.read second := by
  have hclause := h.closed_clause starts
  have hpredicate := h.closed_predicate starts
  cases hexclusion : request.exclusion with
  | false =>
      rw [expressionAt, expression_relational hexclusion,
        Frame.read_fill Frame.sound_relational hclause
        (by simp [hpredicate, hfirst, h.closed_operator, hsecond]) reading
        (by simp [Frame.relational])]
      -- the operator between the operands has no leaf
      simp [reading.leafFree (Relation.free_render h.relation).2]
  | true =>
      rw [expressionAt, expression_exclusion hexclusion,
        Frame.read_fill Frame.sound_exclusion hclause
        (by simp [hpredicate, hfirst, hsecond]) reading (by simp [Frame.exclusion])]
      simp

theorem mem_read_expressionAt (reading : LeafReading) (index : Nat) :
    index ∈ reading.read (request.expressionAt starts first second) ↔
      (index ∈ reading.read (request.projection.clauseAt starts) ∨
        index ∈ reading.read (Constraint.predicateAt starts request.constraints)) ∨
      index ∈ reading.read first ∨ index ∈ reading.read second := by
  rw [read_expressionAt h starts hfirst hsecond]
  split
  · simp only [List.mem_append]
    tauto
  · simp only [List.mem_append]
    tauto

end ExpressionAt

section Plain

variable {request : Request} (h : request.Plain) (hrelation : request.relation.Decimal)
  {starts : Starts}

include h hrelation

/-- A leaf of a clause of a plain request is one of a moved variable. -/
theorem Plain.mem_read_clauses (reading : LeafReading) {index : Nat}
    (hindex : index ∈ reading.read (request.projection.clauseAt starts) ∨
      index ∈ reading.read (Constraint.predicateAt starts request.constraints)) :
    ∃ term ∈ request.terms, index ∈ reading.read (remap starts term) := by
  rcases (h.quoteFreeClauses hrelation).mem_read_clauses starts reading hindex with
    ⟨label, hlabel, hmem⟩ | hterm
  · rw [reading.leafFree (h.leafFree label (List.mem_append_right _ hlabel))] at hmem
    cases hmem
  · exact hterm

variable {first second : String} (hfirst : Closed first) (hsecond : Closed second)

include hfirst hsecond

/-- The leaves of the expression of a plain request are starts of its operands or leaves of
them. -/
theorem Plain.mem_leafIndices_expressionAt (hstart : starts.first ≤ largestNat64)
    (hstart' : starts.second ≤ largestNat64) {index : Nat}
    (hindex : index ∈ leafIndices (request.expressionAt starts first second)) :
    (index = starts.first ∨ index = starts.second) ∨
      index ∈ leafIndices first ∨ index ∈ leafIndices second := by
  rcases (mem_read_expressionAt (h.quoteFreeClauses hrelation) starts hfirst hsecond
    LeafReading.all index).1 hindex with hindex | hindex
  · obtain ⟨term, hterm, hmem⟩ := h.mem_read_clauses hrelation LeafReading.all hindex
    exact Or.inl (mem_leafIndices_remap (h.plainVariable term hterm) hstart hstart' index hmem)
  · exact Or.inr hindex

/-- The enclosed leaves of the expression of a plain request are those of its operands. -/
theorem Plain.enclosedLeaves_expressionAt :
    enclosedLeaves (request.expressionAt starts first second) =
      enclosedLeaves first ++ enclosedLeaves second := by
  -- clauses have leaves in variables only, and these stand in no parentheses
  have hnone : ∀ index, ¬ (index ∈ LeafReading.enclosed.read (request.projection.clauseAt starts) ∨
      index ∈ LeafReading.enclosed.read (Constraint.predicateAt starts request.constraints)) := by
    intro index hindex
    obtain ⟨term, hterm, hmem⟩ := h.mem_read_clauses hrelation LeafReading.enclosed hindex
    have hnil : LeafReading.enclosed.read (remap starts term) = [] :=
      enclosedLeaves_remap (h.plainVariable term hterm)
    rw [hnil] at hmem
    cases hmem
  have hread := read_expressionAt (h.quoteFreeClauses hrelation) starts hfirst hsecond
    LeafReading.enclosed
  rw [List.eq_nil_iff_forall_not_mem.2 fun index hindex => hnone index (Or.inl hindex),
    List.eq_nil_iff_forall_not_mem.2 fun index hindex => hnone index (Or.inr hindex)] at hread
  simpa [LeafReading.enclosed] using hread

end Plain

/-- Renumbering an expression renumbers its operands and moves its clauses to the renumbered
starts. -/
theorem shift_expressionAt {request : Request} (h : request.Plain)
    (hrelation : request.relation.Decimal) {starts : Starts} {amount : Nat}
    {first second : String} (hfirst : Closed first) (hsecond : Closed second)
    (hstart : starts.first + amount ≤ largestNat64)
    (hstart' : starts.second + amount ≤ largestNat64) :
    shift (request.expressionAt starts first second) amount =
      request.expressionAt (starts.shift amount) (shift first amount) (shift second amount) := by
  have hclauses := h.quoteFreeClauses hrelation
  have hclosed := hclauses.closed_clause starts
  have hpredicate := hclauses.closed_predicate starts
  have hclause : shift (request.projection.clauseAt starts) amount =
      request.projection.clauseAt (starts.shift amount) := by
    apply Projection.shift_clauseAt starts _ hclauses.labels _ _ hstart hstart'
    · exact fun term hterm => hclauses.terms term (List.mem_append_right _ hterm)
    · exact fun term hterm => h.plainVariable term (List.mem_append_right _ hterm)
    · exact fun label hlabel => h.leafFree label (List.mem_append_right _ hlabel)
  have hconstraints : shift (Constraint.predicateAt starts request.constraints) amount =
      Constraint.predicateAt (starts.shift amount) request.constraints := by
    apply Constraint.shift_predicateAt _ _ hstart hstart'
    · exact fun term hterm => hclauses.terms term (List.mem_append_left _ hterm)
    · exact fun term hterm => h.plainVariable term (List.mem_append_left _ hterm)
  cases hexclusion : request.exclusion with
  | false =>
      rw [expressionAt, expressionAt, expression_relational hexclusion,
        expression_relational hexclusion,
        Frame.shift_fill Frame.sound_relational hclosed
          (by simp [hpredicate, hfirst, hclauses.closed_operator, hsecond])]
      simp [hclause, hconstraints, shift_of_leafFree (Relation.free_render hrelation).2]
  | true =>
      rw [expressionAt, expressionAt, expression_exclusion hexclusion,
        expression_exclusion hexclusion,
        Frame.shift_fill Frame.sound_exclusion hclosed (by simp [hpredicate, hfirst, hsecond])]
      simp [hclause, hconstraints]

end Request

end EventAlgebra
