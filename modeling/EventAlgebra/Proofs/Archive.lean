import EventAlgebra.Desk
import EventAlgebra.Proofs.History
import EventAlgebra.Proofs.Resolving
import EventAlgebra.Proofs.Tree

/-!
# Splicing texts is inlining trees

An archive keeps for each event the tree of its algebra. A request is defined in an archive by
putting in place of each reference to a saved event the tree that is kept for it, and a call where
there is none or where the tree has too many leaves. The algebra of an event is then printed from
its tree; no text that was printed before is used.

A library agrees with an archive (`Library.Agrees`) when both hold the same events in the same
order and every stored algebra is the print of the kept tree. Resolving an operand gives the print
of its tree (`Library.Agrees.resolve`), so compiling gives the print of the defined tree, and
agreement is kept by every plain change (`Library.Agrees.apply`).
-/

set_option autoImplicit false

namespace EventAlgebra

open Text

/-! ## Archives -/

/-- A request with the trees that stand for its operands. -/
structure Definition where
  request : Request
  first : Tree
  second : Tree
deriving DecidableEq, Repr

namespace Definition

/-- The name of the defined event. -/
def name (definition : Definition) : String :=
  definition.request.name

/-- The schema of the defined event. -/
def schema (definition : Definition) : List SchemaField :=
  (definition.request.projection.output .positional).schema

/-- The tree of the defined event. -/
def tree (definition : Definition) : Tree :=
  .node definition.request definition.first definition.second

/-- A printed definition has no blanks around it. -/
theorem trim_print (definition : Definition) :
    trim (definition.tree.print 1) = definition.tree.print 1 :=
  Request.trim_expression _ _ _ _ _

end Definition

/-- Definitions in the order of their saving. -/
abbrev Archive := List Definition

namespace Archive

/-- The definition of a name. -/
def find? (archive : Archive) (name : String) : Option Definition :=
  List.find? (fun definition : Definition => definition.name = name) archive

/-- The archive without the definition of a name. -/
def remove (archive : Archive) (name : String) : Archive :=
  List.filter (fun definition : Definition => definition.name ≠ name) archive

/-- The tree that stands for an operand. -/
def expand (archive : Archive) (operand : Operand) : Tree :=
  match operand.target with
  | .atomic predicate => .selection predicate operand.filters
  | .saved name =>
    match archive.find? name with
    | none => .call name
    | some definition =>
      if leafLimit < definition.tree.leaves then .call name
      else
        .group (if definition.schema.isEmpty then defaultSchema else definition.schema)
          operand.filters definition.tree

/-- The definition of a request. -/
def define (archive : Archive) (request : Request) : Definition :=
  ⟨request, archive.expand request.first, archive.expand request.second⟩

/-- The effect of a change on an archive. -/
def apply (archive : Archive) : Change → Archive
  | .save form _ =>
    match form.validate with
    | .error _ => archive
    | .ok request => archive.remove request.name ++ [archive.define request]
  | .delete name => archive.remove name

/-- The archive that changes to the empty one lead to. -/
def after (changes : List Change) : Archive :=
  changes.foldl apply []

end Archive

/-! ## Plain definitions -/

theorem Request.Plain.first {request : Request} (h : request.Plain) : request.first.Plain where
  quoteFree text htext := h.quoteFree text (by simp [Request.strings, htext])
  leafFree label hlabel := h.leafFree label (by simp [Request.labels, hlabel])

theorem Request.Plain.second {request : Request} (h : request.Plain) : request.second.Plain where
  quoteFree text htext := h.quoteFree text (by simp [Request.strings, htext])
  leafFree label hlabel := h.leafFree label (by simp [Request.labels, hlabel])

/-- A definition with a plain tree whose operands keep within the limit of leaves. -/
structure Definition.Plain (definition : Definition) : Prop where
  tree : definition.tree.Plain
  first : definition.first.leaves ≤ leafLimit
  second : definition.second.leaves ≤ leafLimit

/-- All leaves of a plain definition can be numbered. -/
theorem Definition.Plain.leaves_lt {definition : Definition} (h : definition.Plain) :
    definition.tree.leaves < largestNat64 := by
  have hfirst := h.first
  have hsecond := h.second
  simp only [Definition.tree, Tree.leaves, leafLimit, largestNat64] at *
  omega

/-- The largest leaf of a defined algebra tells the number of its leaves. -/
theorem Definition.Plain.maxLeaf?_print {definition : Definition} (h : definition.Plain) :
    maxLeaf? (definition.tree.print 1) = some definition.tree.leaves :=
  Tree.maxLeaf?_print h.tree h.leaves_lt

namespace Archive

variable {archive : Archive} (harchive : ∀ definition ∈ archive, definition.Plain)

include harchive

/-- The tree of a plain operand is plain and keeps within the limit of leaves. -/
theorem plain_expand {operand : Operand} (h : operand.Plain) :
    (archive.expand operand).Plain ∧ (archive.expand operand).leaves ≤ leafLimit := by
  obtain ⟨target, filters⟩ := operand
  have hfilters := h.filters
  have hone : 1 ≤ leafLimit := by decide
  -- what becomes of an event that is missing, or too large to be inlined
  have hcall : ∀ name, target = .saved name →
      (Tree.call name).Plain ∧ (Tree.call name).leaves ≤ leafLimit := by
    rintro name rfl
    refine ⟨⟨h.quoteFree _ (by simp [Operand.strings, Target.text]), ?_⟩, hone⟩
    exact h.leafFree _ (by simp [Operand.labels, Target.reference?])
  cases target with
  | atomic predicate =>
      exact ⟨⟨h.quoteFree _ (by simp [Operand.strings, Target.text]), hfilters⟩, hone⟩
  | saved name =>
      simp only [expand]
      cases hfind : archive.find? name with
      | none => exact hcall name rfl
      | some definition =>
          have hplain := harchive definition (List.mem_of_find?_eq_some hfind)
          by_cases hlimit : leafLimit < definition.tree.leaves
          · simp only [if_pos hlimit]
            exact hcall name rfl
          · simp only [if_neg hlimit]
            exact ⟨⟨hfilters, hplain.tree⟩, Nat.le_of_not_lt hlimit⟩

theorem plain_define {request : Request} (h : request.Plain)
    (hrelation : request.relation.Decimal) : (archive.define request).Plain where
  tree := ⟨⟨h, hrelation⟩, (plain_expand harchive h.first).1, (plain_expand harchive h.second).1⟩
  first := (plain_expand harchive h.first).2
  second := (plain_expand harchive h.second).2

end Archive

/-! ## Agreement -/

/-- What an archive can tell of a saved event: its name, its schema and its algebra. -/
def Event.outline (event : Event) : String × List SchemaField × Option String :=
  (event.name, event.schema, event.definition)

/-- The outline of the event that a definition is saved in. -/
def Definition.outline (definition : Definition) : String × List SchemaField × Option String :=
  (definition.name, definition.schema, some (definition.tree.print 1))

/-- A library holds the events of an archive of plain definitions. -/
structure Library.Agrees (library : Library) (archive : Archive) : Prop where
  outline : library.events.map Event.outline = archive.map Definition.outline
  plain : ∀ definition ∈ archive, definition.Plain

/-- The schema of a projection does not depend on its sources. -/
theorem Projection.schema_remap (starts : Starts) (projection : Projection) :
    ((projection.remap starts).output .positional).schema =
      (projection.output .positional).schema := by
  rw [output, output, aliases_remap]
  simp only [remap, List.zipWith_map_left]
  rfl

namespace Library.Agrees

variable {library : Library} {archive : Archive} (h : library.Agrees archive)

include h

/-- Looking up a name gives the same outline on both sides. -/
theorem outline_get? (name : String) :
    (library.get? name).map Event.outline = (archive.find? name).map Definition.outline := by
  have hfind := congrArg
    (List.find? fun outline : String × List SchemaField × Option String => outline.1 = name)
    h.outline
  rw [List.find?_map, List.find?_map] at hfind
  exact hfind

/-- Erasing a name keeps the agreement. -/
theorem erase (name : String) : (library.erase name).Agrees (archive.remove name) where
  outline := by
    have hfilter := congrArg
      (List.filter fun outline : String × List SchemaField × Option String => outline.1 ≠ name)
      h.outline
    rw [List.filter_map, List.filter_map] at hfilter
    exact hfilter
  plain definition hmem := h.plain definition (List.mem_of_mem_filter hmem)

/-- The stored algebra of a kept definition. -/
theorem algebra?_of_find? {name : String} {definition : Definition}
    (hfind : archive.find? name = some definition) :
    ∃ event, library.get? name = some event ∧ event.schema = definition.schema ∧
      event.algebra? = some (definition.tree.print 1) := by
  have houtline := h.outline_get? name
  rw [hfind, Option.map_some, Option.map_eq_some_iff] at houtline
  obtain ⟨event, hget, heq⟩ := houtline
  simp only [Event.outline, Definition.outline, Prod.mk.injEq] at heq
  refine ⟨event, hget, heq.2.1, ?_⟩
  have hne : definition.tree.print 1 ≠ "" := Request.expression_ne_empty _ _ _ _ _
  simp [Event.algebra?, heq.2.2, Option.filter, definition.trim_print, hne]

/-- Resolving an operand prints its tree. The text of a saved event, printed from `1` on, is
renumbered to the start; the tree is printed from there. -/
theorem resolve {operand : Operand} (hplain : operand.Plain) (name : String) {start : Nat}
    (hpos : 1 ≤ start) (hstart : start ≤ 1 + leafLimit) :
    (library.resolve name operand start).fragment = (archive.expand operand).print start ∧
      (library.resolve name operand start).slots = (archive.expand operand).leaves := by
  obtain ⟨target, filters⟩ := operand
  cases target with
  | atomic predicate => exact ⟨rfl, rfl⟩
  | saved reference =>
      simp only [Library.resolve, resolveSaved, Archive.expand]
      cases hfind : archive.find? reference with
      | none =>
          have hget : library.get? reference = none := by
            have houtline := h.outline_get? reference
            rwa [hfind, Option.map_none, Option.map_eq_none_iff] at houtline
          simp only [hget]
          exact ⟨rfl, rfl⟩
      | some definition =>
          obtain ⟨event, hget, hschema, halgebra⟩ := h.algebra?_of_find? hfind
          have hdefinition := h.plain definition (List.mem_of_find?_eq_some hfind)
          simp only [hget, halgebra, Event.resolve, hdefinition.maxLeaf?_print, hschema]
          by_cases hlimit : leafLimit < definition.tree.leaves
          · simp only [if_pos hlimit]
            exact ⟨rfl, rfl⟩
          · -- moving the stored text by the slots in front is printing the tree from there
            have hshift : shift (definition.tree.print 1) (start - 1) =
                definition.tree.print start := by
              rw [Tree.shift_print hdefinition.tree]
              · congr 1
                omega
              · simp only [leafLimit, largestNat64] at *
                omega
            simp only [if_neg hlimit]
            refine ⟨?_, rfl⟩
            show Layout.grouped _ (shift _ _) = Layout.grouped _ _
            rw [hshift]
            -- the schema that orders the filters is the default one if there is none
            cases definition.schema with
            | nil => rfl
            | cons field fields => rfl

/-- Compiling a plain request prints its definition. -/
theorem compile {request : Request} (hplain : request.Plain) :
    (library.compile .positional request).expression = (archive.define request).tree.print 1 ∧
      (library.compile .positional request).leaves = (archive.define request).tree.leaves ∧
      (library.compile .positional request).schema = (archive.define request).schema := by
  obtain ⟨hfirst, hslots⟩ := h.resolve hplain.first request.name (Nat.le_refl 1) (by simp)
  have hlimit := (Archive.plain_expand h.plain hplain.first).2
  obtain ⟨hsecond, hslots'⟩ := h.resolve hplain.second request.name
    (show 1 ≤ 1 + (archive.expand request.first).leaves by omega) (by omega)
  have hstart := library.secondStart_compile .positional request
  have hleaves := library.leaves_compile .positional request
  rw [hslots] at hstart hleaves
  rw [hstart, hslots'] at hleaves
  have hadvance : (library.resolve request.name request.first 1).advance 1 =
      1 + (archive.expand request.first).leaves := hstart
  refine ⟨?_, hleaves, Projection.schema_remap _ _⟩
  simp only [Library.compile, hadvance, hfirst, hsecond]
  rfl

/-- Saving an event on both sides keeps the agreement. -/
theorem put {event : Event} {definition : Definition}
    (houtline : event.outline = definition.outline)
    (hplain : definition.Plain) :
    (library.put event).Agrees (archive.remove definition.name ++ [definition]) := by
  have hname : event.name = definition.name := congrArg Prod.fst houtline
  -- the event goes to the end on both sides, behind what is left without its name
  have hrest := h.erase event.name
  constructor
  · rw [Library.put, List.map_append, List.map_append, hrest.outline, hname, List.map_singleton,
      List.map_singleton, houtline]
  · intro kept hkept
    rcases List.mem_append.1 hkept with hkept | hkept
    · exact hrest.plain kept (hname ▸ hkept)
    · exact List.mem_singleton.1 hkept ▸ hplain

/-- A plain change keeps the agreement. -/
theorem apply {change : Change} (hplain : change.Plain) :
    (library.apply change).Agrees (archive.apply change) := by
  cases change with
  | delete name => exact h.erase name
  | save form date =>
      rw [Archive.apply]
      cases hvalidate : form.validate with
      | error fault =>
          rw [Library.apply_faulty hvalidate]
          exact h
      | ok request =>
          have hrequest : request.Plain := hplain request hvalidate
          have hrelation := Form.decimal_of_validate hvalidate
          obtain ⟨hexpression, -, hschema⟩ := h.compile hrequest
          rw [Library.apply_save hvalidate]
          apply h.put _ (Archive.plain_define h.plain hrequest hrelation)
          simp only [Event.outline, Compiled.toEvent, hexpression, hschema, Definition.trim_print]
          rfl

end Library.Agrees

/-- A plain history leads to a library and an archive that agree. -/
theorem Library.agrees_after {changes : List Change} (h : ∀ change ∈ changes, change.Plain) :
    (Library.after changes).Agrees (Archive.after changes) := by
  -- the agreement is the invariant; the two sides change together
  have hfold : ∀ (library : Library) (archive : Archive), library.Agrees archive →
      (changes.foldl Library.apply library).Agrees (changes.foldl Archive.apply archive) := by
    induction changes with
    | nil => exact fun library archive hagrees => hagrees
    | cons change changes ih =>
        intro library archive hagrees
        rw [List.forall_mem_cons] at h
        exact ih h.2 _ _ (hagrees.apply h.1)
  exact hfold .empty [] ⟨rfl, by simp⟩

/-- After any plain history of a store that is kept nowhere, the stored algebra of every event is
the print of the tree that an archive keeps for it. -/
theorem stored_algebra_eq_print {m : Type → Type} [Monad m] [Files m] [LawfulMonad m]
    (changes : List Change) (h : ∀ change ∈ changes, change.Plain) :
    Store.inMemory.performAll changes = (pure ⟨.after changes, none⟩ : m Store) ∧
      (Library.after changes).events.map Event.outline =
        (Archive.after changes).map Definition.outline :=
  ⟨Store.performAll_inMemory changes, (Library.agrees_after h).outline⟩

theorem stored_algebra_of_nestedHistory :
    (∀ change ∈ nestedHistory, change.Plain) ∧
      Store.inMemory.performAll nestedHistory =
        (pure ⟨.after nestedHistory, none⟩ : StateM Desk Store) ∧
      (Library.after nestedHistory).events.map Event.outline =
        (Archive.after nestedHistory).map Definition.outline :=
  have h : ∀ change ∈ nestedHistory, change.Plain := by decide +kernel
  ⟨h, stored_algebra_eq_print nestedHistory h⟩

/-- The archive of the nested history: the redefined event has the leaves of both its former
version and the event built on that. -/
example : (Archive.after nestedHistory).map (fun definition =>
    (definition.name, definition.tree.leaves)) = [("Pass", 6), ("Late", 7)] := by
  decide +kernel

end EventAlgebra
