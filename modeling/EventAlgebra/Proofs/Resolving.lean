import EventAlgebra.Compilation

/-!
# What operands become

An operand is resolved to a selection, to a call, or to the algebra of a saved event, which is
spliced in, and to the same of them at every start (`Library.resolve_everywhere`). Which of them it
is, and how many leaf slots it uses (`Library.slots_resolve`), depends on its target and not on its
filters. No operand uses more slots than the limit of leaves, so the leaf counter of a compilation
is moved on by exactly the slots of the operands (`Library.advance_resolve`).

Nothing is looked up in a library but the events that the operands refer to
(`Library.compile_congr`).
-/

set_option autoImplicit false

namespace EventAlgebra

/-- The schema by which filters on an event are ordered. -/
def Event.filterSchema (event : Event) : List SchemaField :=
  if !event.schema.isEmpty then event.schema else defaultSchema

/-- What an event becomes is the same at every start: a call if its algebra goes beyond the limit
of leaves, and otherwise its algebra, spliced in with the slots that its largest leaf demands. -/
theorem Event.resolve_everywhere (event : Event) (algebra name : String) (filters : List Filter)
    (origin : Origin) :
    (leafLimit < (maxLeaf? algebra).getD 1 ∧ ∃ issues, ∀ start,
        event.resolve algebra name filters start origin = .call name filters start issues) ∨
      ((maxLeaf? algebra).getD 1 ≤ leafLimit ∧ ∃ issues, ∀ start,
        event.resolve algebra name filters start origin =
          .splice algebra event.filterSchema filters start ((maxLeaf? algebra).getD 1) origin
            issues) := by
  simp only [Event.resolve]
  cases maxLeaf? algebra with
  | none => exact Or.inr ⟨by decide, _, fun start => rfl⟩
  | some largest =>
      by_cases hlimit : leafLimit < largest
      · exact Or.inl ⟨hlimit, _, fun start => if_pos hlimit⟩
      · exact Or.inr ⟨Nat.le_of_not_lt hlimit, _, fun start => if_neg hlimit⟩

/-- An event becomes a call if its algebra goes beyond the limit of leaves, and is spliced in with
the slots that its largest leaf demands otherwise. -/
theorem Event.resolve_cases (event : Event) (algebra name : String) (filters : List Filter)
    (start : Nat) (origin : Origin) :
    (leafLimit < (maxLeaf? algebra).getD 1 ∧ ∃ issues,
        event.resolve algebra name filters start origin = .call name filters start issues) ∨
      ((maxLeaf? algebra).getD 1 ≤ leafLimit ∧ ∃ issues,
        event.resolve algebra name filters start origin =
          .splice algebra event.filterSchema filters start ((maxLeaf? algebra).getD 1) origin
            issues) := by
  rcases event.resolve_everywhere algebra name filters origin with
    ⟨hlimit, issues, heq⟩ | ⟨hlimit, issues, heq⟩
  · exact Or.inl ⟨hlimit, issues, heq start⟩
  · exact Or.inr ⟨hlimit, issues, heq start⟩

/-- The stored algebra that is spliced in for an operand, if there is one within the limit. -/
def Library.spliced? (library : Library) (operand : Operand) : Option String :=
  match operand.target with
  | .atomic _ => none
  | .saved name =>
    ((library.get? name).bind Event.algebra?).filter fun algebra =>
      (maxLeaf? algebra).getD 1 ≤ leafLimit

/-- The schema by which filters on the event of a name are ordered. -/
def Library.filterSchema (library : Library) (name : String) : List SchemaField :=
  ((library.get? name).map Event.filterSchema).getD defaultSchema

/-- What an operand becomes is the same at every start: a selection, a call, or the algebra that is
spliced in for it. -/
theorem Library.resolve_everywhere (library : Library) (definition : String) (operand : Operand) :
    (∃ predicate, operand.target = .atomic predicate ∧ library.spliced? operand = none ∧
        ∀ start, library.resolve definition operand start =
          .selection predicate operand.filters start) ∨
      (∃ name issues, operand.target = .saved name ∧ library.spliced? operand = none ∧
        ∀ start, library.resolve definition operand start =
          .call name operand.filters start issues) ∨
      ∃ name algebra origin issues, operand.target = .saved name ∧
        library.spliced? operand = some algebra ∧
        ∀ start, library.resolve definition operand start =
          .splice algebra (library.filterSchema name) operand.filters start
            ((maxLeaf? algebra).getD 1) origin issues := by
  obtain ⟨target, filters⟩ := operand
  cases target with
  | atomic predicate => exact Or.inl ⟨predicate, rfl, rfl, fun start => rfl⟩
  | saved name =>
      refine Or.inr ?_
      -- a call is left for an unknown name, for no algebra, and for one beyond the limit
      simp only [Library.resolve, resolveSaved, spliced?]
      cases hget : library.get? name with
      | none => exact Or.inl ⟨name, _, rfl, rfl, fun start => rfl⟩
      | some event =>
          simp only [Option.bind_some]
          cases event.algebra? with
          | none => exact Or.inl ⟨name, _, rfl, rfl, fun start => rfl⟩
          | some algebra =>
              have hschema : library.filterSchema name = event.filterSchema := by
                rw [filterSchema, hget]
                rfl
              simp only [Option.filter]
              rcases event.resolve_everywhere algebra name filters
                  (if name = definition then .priorVersion else .inlined) with
                ⟨hlimit, issues, heq⟩ | ⟨hlimit, issues, heq⟩
              · exact Or.inl ⟨name, issues, rfl, by simpa using hlimit, heq⟩
              · exact Or.inr ⟨name, algebra, _, issues, rfl, by simpa using hlimit, hschema ▸ heq⟩

section Saved

variable {library : Library} {name : String} {filters : List Filter} (definition : String)
  (start : Nat)

/-- A reference for which nothing is spliced in becomes a call. -/
theorem Library.resolve_of_spliced?_none (h : library.spliced? ⟨.saved name, filters⟩ = none) :
    ∃ issues, library.resolve definition ⟨.saved name, filters⟩ start =
      .call name filters start issues := by
  rcases library.resolve_everywhere definition ⟨.saved name, filters⟩ with
    ⟨predicate, htarget, -⟩ | ⟨other, issues, htarget, -, hresolve⟩ |
      ⟨other, algebra, origin, issues, -, hsome, -⟩
  · cases htarget
  · cases htarget
    exact ⟨issues, hresolve start⟩
  · rw [h] at hsome
    cases hsome

/-- A reference becomes the algebra that is spliced in for it. -/
theorem Library.resolve_of_spliced?_some {algebra : String}
    (h : library.spliced? ⟨.saved name, filters⟩ = some algebra) :
    ∃ origin issues, library.resolve definition ⟨.saved name, filters⟩ start =
      .splice algebra (library.filterSchema name) filters start ((maxLeaf? algebra).getD 1) origin
        issues := by
  rcases library.resolve_everywhere definition ⟨.saved name, filters⟩ with
    ⟨predicate, htarget, -⟩ | ⟨other, issues, -, hnone, -⟩ |
      ⟨other, spliced, origin, issues, htarget, hsome, hresolve⟩
  · cases htarget
  · rw [h] at hnone
    cases hnone
  · cases htarget
    obtain rfl : spliced = algebra := Option.some.inj (hsome.symm.trans h)
    exact ⟨origin, issues, hresolve start⟩

end Saved

/-- A spliced algebra keeps within the limit of leaves. -/
theorem Library.le_of_spliced? {library : Library} {operand : Operand} {algebra : String}
    (h : library.spliced? operand = some algebra) : (maxLeaf? algebra).getD 1 ≤ leafLimit := by
  obtain ⟨target, filters⟩ := operand
  cases target with
  | atomic predicate => cases h
  | saved name =>
      rw [spliced?, Option.filter_eq_some_iff] at h
      simpa using h.2

/-- The slots of a resolved operand. -/
theorem Library.slots_resolve (library : Library) (definition : String) (operand : Operand)
    (start : Nat) :
    (library.resolve definition operand start).slots =
      match library.spliced? operand with
      | none => 1
      | some algebra => (maxLeaf? algebra).getD 1 := by
  rcases library.resolve_everywhere definition operand with
    ⟨predicate, -, hspliced, hresolve⟩ | ⟨name, issues, -, hspliced, hresolve⟩ |
      ⟨name, algebra, origin, issues, -, hspliced, hresolve⟩
  · rw [hresolve, hspliced]
    rfl
  · rw [hresolve, hspliced]
    rfl
  · rw [hresolve, hspliced]
    rfl

theorem Library.slots_le (library : Library) (definition : String) (operand : Operand)
    (start : Nat) : (library.resolve definition operand start).slots ≤ leafLimit := by
  rw [slots_resolve]
  cases hspliced : library.spliced? operand with
  | none => decide
  | some algebra => exact le_of_spliced? hspliced

/-! ## The leaf counter -/

/-- Behind the slots of one operand there is room for those of another, so the counter never stops
at the largest index. -/
theorem Library.advance_resolve (library : Library) (definition : String) (operand : Operand)
    (start : Nat) {counter : Nat} (h : counter ≤ 1 + leafLimit) :
    (library.resolve definition operand start).advance counter =
      counter + (library.resolve definition operand start).slots := by
  have hslots := library.slots_le definition operand start
  have hroom : 1 + leafLimit + leafLimit ≤ Text.largestNat64 := by decide
  exact Nat.min_eq_left (by omega)

section Compile

variable (library : Library) (naming : Naming) (request : Request)

theorem Library.secondStart_compile :
    (library.compile naming request).secondStart =
      1 + (library.resolve request.name request.first 1).slots :=
  library.advance_resolve request.name request.first 1 (Nat.le_add_right 1 leafLimit)

theorem Library.secondStart_le : (library.compile naming request).secondStart ≤ 1 + leafLimit := by
  have hslots := library.slots_le request.name request.first 1
  rw [secondStart_compile]
  omega

/-- The second operand is resolved where the counter stands behind the first one. -/
theorem Library.advance_secondStart :
    (library.resolve request.name request.second
        (library.compile naming request).secondStart).advance
          (library.compile naming request).secondStart =
      1 + (library.resolve request.name request.first 1).slots +
        (library.resolve request.name request.second
          (library.compile naming request).secondStart).slots := by
  rw [advance_resolve library request.name request.second _ (library.secondStart_le naming request),
    secondStart_compile]

theorem Library.leaves_compile :
    (library.compile naming request).leaves =
      (library.resolve request.name request.first 1).slots +
        (library.resolve request.name request.second
          (library.compile naming request).secondStart).slots := by
  have hleaves : (library.compile naming request).leaves =
      (library.resolve request.name request.second
        (library.compile naming request).secondStart).advance
          (library.compile naming request).secondStart - 1 := rfl
  rw [hleaves, advance_secondStart, Nat.add_assoc, Nat.add_sub_cancel_left]

end Compile

/-! ## What is looked up -/

/-- An operand is resolved alike where its event is the same. -/
theorem Library.resolve_congr {library other : Library} {operand : Operand}
    (h : ∀ name, operand.target = .saved name → library.get? name = other.get? name)
    (definition : String) (start : Nat) :
    library.resolve definition operand start = other.resolve definition operand start := by
  obtain ⟨target, filters⟩ := operand
  cases target with
  | atomic predicate => rfl
  | saved name => simp only [resolve, resolveSaved, h name rfl]

/-- A request is compiled alike where the events that its operands refer to are the same. -/
theorem Library.compile_congr {library other : Library} {request : Request}
    (hfirst : ∀ name, request.first.target = .saved name → library.get? name = other.get? name)
    (hsecond : ∀ name, request.second.target = .saved name → library.get? name = other.get? name)
    (naming : Naming) : library.compile naming request = other.compile naming request := by
  simp only [compile, resolve_congr hfirst, resolve_congr hsecond]

end EventAlgebra
