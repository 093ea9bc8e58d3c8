import EventAlgebra.Proofs.Filling
import EventAlgebra.Proofs.LastWrites
import EventAlgebra.Proofs.Resolving

/-!
# What a compilation depends on

A library is changed all the time, and events move to its end when they are saved again. For a
request nothing of this matters but the events that its operands refer to: libraries that agree on
them (`Library.AgreeOn`) compile it alike (`Library.compile_of_agreeOn`), and operations that are on
other names leave the agreement as it is (`Library.agreeOn_effects`).

The name of a request is compared with the names that it refers to. That tells where an operand
comes from and has no part in what it becomes (`Library.resolve_redefined`). So another name for the
same request changes the name alone, and the places of the name in the stored procedure
(`Library.compile_renamed`).
-/

set_option autoImplicit false

namespace EventAlgebra

open Text

/-- The names of the saved events that a request refers to. -/
def Request.references (request : Request) : List String :=
  [request.first, request.second].filterMap fun operand => operand.target.reference?

namespace Library

/-! ## Agreement on the events referred to -/

/-- Two libraries have the same events under some names. -/
def AgreeOn (names : List String) (library other : Library) : Prop :=
  ∀ name ∈ names, library.get? name = other.get? name

/-- A request is compiled alike in libraries that agree on what it refers to. -/
theorem compile_of_agreeOn {library other : Library} {request : Request}
    (h : AgreeOn request.references library other) (naming : Naming) :
    library.compile naming request = other.compile naming request := by
  have hoperand : ∀ operand ∈ [request.first, request.second], ∀ name,
      operand.target = .saved name → library.get? name = other.get? name := by
    intro operand hmem name htarget
    apply h
    exact List.mem_filterMap.2 ⟨operand, hmem, by rw [htarget]; rfl⟩
  exact compile_congr (hoperand _ (by simp)) (hoperand _ (by simp)) naming

/-- Operations on other names keep the agreement, however they reorder the events. -/
theorem agreeOn_effects {names : List String} {operations : List Operation}
    (h : ∀ step ∈ operations.filterMap Operation.step?, step.name ∉ names) (library : Library) :
    AgreeOn names (operations.foldl Operation.effect library) library := by
  intro name hname
  have hnone : Step.last? (operations.filterMap Operation.step?) name = none := by
    rw [Step.last?, List.getLast?_eq_none_iff, List.filter_eq_nil_iff]
    intro step hstep htest
    exact h step hstep (of_decide_eq_true htest ▸ hname)
  rw [Operation.foldl_effect, get?_foldl, hnone]

end Library

/-! ## The name of a request -/

/-- Two resolved operands that differ in nothing but where they are said to come from. -/
structure Resolved.Alike (resolved other : Resolved) : Prop where
  fragment : resolved.fragment = other.fragment
  slots : resolved.slots = other.slots
  issues : resolved.issues = other.issues
  warnings : resolved.warnings = other.warnings

theorem Resolved.Alike.advance {resolved other : Resolved} (h : resolved.Alike other)
    (counter : Nat) : resolved.advance counter = other.advance counter := by
  rw [Resolved.advance, h.slots, Resolved.advance]

/-- Where an event is said to come from has no part in what it becomes. -/
theorem Event.resolve_origin (event : Event) (algebra name : String) (filters : List Filter)
    (start : Nat) (origin origin' : Origin) :
    (event.resolve algebra name filters start origin).Alike
      (event.resolve algebra name filters start origin') := by
  simp only [Event.resolve]
  cases maxLeaf? algebra with
  | none => exact ⟨rfl, rfl, rfl, rfl⟩
  | some largest =>
      by_cases hlimit : leafLimit < largest
      · simp only [if_pos hlimit]
        exact ⟨rfl, rfl, rfl, rfl⟩
      · simp only [if_neg hlimit]
        exact ⟨rfl, rfl, rfl, rfl⟩

/-- The event that is being defined has no part in what an operand becomes. -/
theorem Library.resolve_redefined (library : Library) (definition definition' : String)
    (operand : Operand) (start : Nat) :
    (library.resolve definition operand start).Alike
      (library.resolve definition' operand start) := by
  obtain ⟨target, filters⟩ := operand
  cases target with
  | atomic predicate => exact ⟨rfl, rfl, rfl, rfl⟩
  | saved name =>
      simp only [Library.resolve, resolveSaved]
      cases library.get? name with
      | none => exact ⟨rfl, rfl, rfl, rfl⟩
      | some event =>
          simp only
          cases event.algebra? with
          | none => exact ⟨rfl, rfl, rfl, rfl⟩
          | some algebra => exact event.resolve_origin algebra name filters start _ _

/-- Another name for a request changes the name and the procedure only. -/
theorem Library.compile_renamed (library : Library) (naming : Naming) (request : Request)
    (name : String) :
    library.compile naming { request with name := name } =
      { library.compile naming request with
        name := name
        procedure := Layout.procedure name
          (renderSignature (library.compile naming request).signature)
          (library.compile naming request).expression } := by
  have hfirst := library.resolve_redefined name request.name request.first 1
  have hsecond := library.resolve_redefined name request.name request.second
    ((library.resolve request.name request.first 1).advance 1)
  -- the second operand starts and ends where it did, since the first has the same slots
  simp only [compile, hfirst.advance, hsecond.advance, hfirst.fragment, hfirst.issues,
    hfirst.warnings, hsecond.fragment, hsecond.issues, hsecond.warnings]
  rfl

/-- Let any operations be performed on a store, kept in a file or not, and let none of them be on a
name that a request refers to. Compiling the request after them gives what compiling it before them
gives, with all issues and in the same order, whatever becomes of the files. And let the request be
given any name in which no placeholder of the stored procedure occurs, be it one that the request
refers to. Nothing changes but the name, and the two places of the name in the procedure. -/
theorem compile_depends_on_references {m : Type → Type} [Monad m] [Files m] [LawfulMonad m]
    (store : Store) (naming : Naming) (request : Request) :
    (∀ operations : List Operation,
      (∀ step ∈ operations.filterMap Operation.step?, step.name ∉ request.references) →
        (do let ran ← store.operateAll operations
            return ran.2.library.compile naming request : m Compiled) =
          (do let _ ← store.operateAll operations
              return store.library.compile naming request)) ∧
      ∃ rest, ∀ name, (∀ pattern ∈ Layout.placeholders, ¬ Occurs pattern name) →
        store.library.compile naming { request with name := name } =
          { store.library.compile naming request with
            name := name
            procedure := Layout.named name rest } := by
  constructor
  · intro operations hoperations
    have hcompile := Library.compile_of_agreeOn
      (Library.agreeOn_effects hoperations store.library) naming
    have hstore := congrArg (Functor.map fun after : Store => after.library.compile naming request)
      (Store.snd_operateAll (m := m) operations store)
    simp only [Functor.map_map, hcompile] at hstore
    simpa only [bind_pure_comp] using hstore
  · let compiled := store.library.compile naming request
    refine ⟨Layout.procedureRest (renderSignature compiled.signature) compiled.expression, ?_⟩
    intro name hname
    rw [Library.compile_renamed, Layout.procedure_eq_named hname]

/-- A store with an event that is going to be redefined, and two others. -/
def matchStore : Store :=
  ⟨.ofEvents [.withAlgebra "Goal" [] "M1 ∪ M2", .withAlgebra "Shot" [] "M1",
    .withAlgebra "Pass" [] "M1"], some "library.json"⟩

/-- A request that refers to its former version behind another event. -/
def matchRequest : Request :=
  .plain "Goal" ⟨.saved "Pass", []⟩ ⟨.saved "Goal", []⟩ .before

/-- Operations on names that the request does not refer to. One of the texts is refused. -/
def matchOperations : List Operation :=
  [.delete "Shot", .importEvent "[\"Save\", [], \"M1\"]", .importEvent "[\"Pass\", []",
    .put (.stub "Late" [])]

/-- The request may take the name of the event in its first operand, which then is the former
version. -/
theorem compile_depends_on_references_matchRequest :
    let compiled := matchStore.library.compile .quoted matchRequest
    matchRequest.references = ["Pass", "Goal"] ∧
      (do let ran ← matchStore.operateAll matchOperations
          return ran.2.library.compile .quoted matchRequest : StateM Desk Compiled) =
        (do let _ ← matchStore.operateAll matchOperations
            return compiled) ∧
      ∃ rest, compiled = { compiled with procedure := Layout.named "Goal" rest } ∧
        matchStore.library.compile .quoted { matchRequest with name := "Pass" } =
          { compiled with name := "Pass", procedure := Layout.named "Pass" rest } ∧
        (matchStore.library.resolve "Goal" matchRequest.first 1).origin = .inlined ∧
        (matchStore.library.resolve "Pass" matchRequest.first 1).origin = .priorVersion := by
  intro compiled
  obtain ⟨hoperations, rest, hname⟩ := compile_depends_on_references (m := StateM Desk) matchStore
    .quoted matchRequest
  have hsteps : ∀ step ∈ matchOperations.filterMap Operation.step?,
      step.name ∉ matchRequest.references := by decide +kernel
  exact ⟨by decide, hoperations matchOperations hsteps, rest, hname "Goal" (by decide +kernel),
    hname "Pass" (by decide +kernel), by decide +kernel, by decide +kernel⟩

end EventAlgebra
