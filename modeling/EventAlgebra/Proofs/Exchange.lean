import EventAlgebra.Proofs.Importing
import EventAlgebra.Proofs.Operations
import EventAlgebra.Proofs.Resolving

/-!
# Exchanging events

Events travel between libraries as texts: one is exported from a library, and imported into
another. Nothing is lost on the way (`importEvent_exportEvent`). What was read from a text once has
its kept value in normal form, and in its own text it stands as deep as before, so the exported
text is read as the same event.

Whether an imported event can be referred to is another matter. An import keeps the name as it is
written and demands only that it is not blank, while a reference drops the blanks around the name
that it gives. So a name with blanks around it leads past the imported event, to the one that
is saved under the name without blanks, if there is one (`resolve_imported`).
-/

set_option autoImplicit false

namespace EventAlgebra

open Text

/-! ## Accepted texts -/

/-- Importing what is read as an event saves it. -/
theorem Operation.effect_importEvent {text : String} {event : Event}
    (h : Event.ofExport text = .ok event) (library : Library) :
    (Operation.importEvent text).effect library = library.put event := by
  simp [effect, step?, h, Except.toOption, Step.effect]

/-- The steps of an import at a desk. The name is given if the file could be brought up to date. -/
theorem Desk.perform_importEvent (desk : Desk) (store : Store) (text : String) :
    desk.perform store (Store.importEvent text) =
      let kept := ((Operation.importEvent text).keep store : StateM Desk _).run desk
      ⟨kept.1.bind fun _ => (Event.ofExport text).map Event.name,
        { store with library := (Operation.importEvent text).effect store.library }, kept.2⟩ := by
  rw [Desk.perform, Store.run_importEvent_keep]
  rfl

/-- A name is given for a text only if an event of that name was read from it and saved. -/
theorem Desk.saved_of_importEvent {desk : Desk} {store : Store} {text name : String}
    (h : (desk.perform store (Store.importEvent text)).result = .ok name) :
    ∃ event, Event.ofExport text = .ok event ∧ event.name = name ∧
      (desk.perform store (Store.importEvent text)).store.library = store.library.put event := by
  rw [Desk.perform_importEvent] at h ⊢
  simp only at h ⊢
  -- no name is given if the file was not replaced, or if the text was refused
  cases hkept : (((Operation.importEvent text).keep store : StateM Desk _).run desk).1 with
  | error error =>
      rw [hkept] at h
      cases h
  | ok value =>
      rw [hkept] at h
      cases hread : Event.ofExport text with
      | error error =>
          rw [hread] at h
          cases h
      | ok event =>
          rw [hread] at h
          exact ⟨event, rfl, Except.ok.inj h, Operation.effect_importEvent hread store.library⟩

/-- An accepted text is always imported into a store that is kept nowhere. -/
theorem Desk.importEvent_inMemory (desk : Desk) (library : Library) {text : String} {event : Event}
    (h : Event.ofExport text = .ok event) :
    desk.perform ⟨library, none⟩ (Store.importEvent text) =
      ⟨.ok event.name, ⟨library.put event, none⟩, desk⟩ := by
  have hkeep : (Operation.importEvent text).keep ⟨library, none⟩ =
      (pure (.ok ()) : StateM Desk (Except Error Unit)) := ite_self _
  rw [Desk.perform_importEvent, hkeep, h]
  simp only [Operation.effect_importEvent h]
  rfl

/-- Saving an event leaves those of other names as they are, and in their order. -/
theorem Library.filter_events_put (library : Library) (event : Event) :
    (library.put event).events.filter (·.name ≠ event.name) =
      library.events.filter (·.name ≠ event.name) := by
  rw [put, List.filter_append, erase, List.filter_filter]
  simp

/-! ## Export and import -/

/-- Let an event be imported into any store, keeping no number other than an integer of 64 bits. It
is found there, and as long as it is, it can be exported. What is exported can be imported into
every library in memory, under the same name. The record found there is the one that was exported,
and the other records stay as they are and in their order. -/
theorem importEvent_exportEvent (desk : Desk) (store : Store) (text name : String)
    (himport : (desk.perform store (Store.importEvent text)).result = .ok name)
    (hwhole : ∀ event, Event.ofExport text = .ok event → event.isWhole = true) :
    ∃ event, Event.ofExport text = .ok event ∧
      (desk.perform store (Store.importEvent text)).store.library.get? name = some event ∧
      ∀ source : Library, source.get? name = some event →
        ∃ exported, source.exportEvent name = .ok exported ∧
          ∀ (target : Library) (site : Desk),
            let after := site.perform ⟨target, none⟩ (Store.importEvent exported)
            after.result = .ok name ∧ after.store.library.get? name = some event ∧
              (∀ other, other ≠ name → after.store.library.get? other = target.get? other) ∧
              after.store.library.events.filter (·.name ≠ name) =
                target.events.filter (·.name ≠ name) ∧
              after.store.file = none ∧ after.desk = site := by
  obtain ⟨event, hread, rfl, himported⟩ := Desk.saved_of_importEvent himport
  -- the first reading put the kept value in normal form, so the second one changes nothing
  have hheld : event.Held (Json.depthLimit - 1) := Event.held_of_ofExport hread (hwhole event hread)
  obtain ⟨-, hname, halgebra⟩ := Event.ofExport_eq_ok_iff.1 hread
  have hreread : Event.ofExport event.toExport = .ok event :=
    Event.ofExport_toExport hheld hheld.fitsInside hname halgebra
  refine ⟨event, hread, by rw [himported, Library.get?_put], fun source hsource => ?_⟩
  have hexport : source.exportEvent event.name = .ok event.toExport := by
    rw [Library.exportEvent, hsource]
  refine ⟨event.toExport, hexport, fun target site => ?_⟩
  intro after
  have hafter : after = ⟨.ok event.name, ⟨target.put event, none⟩, site⟩ :=
    Desk.importEvent_inMemory site target hreread
  rw [hafter]
  exact ⟨rfl, target.get?_put event, fun other hother => Library.get?_put_of_ne hother,
    target.filter_events_put event, rfl, rfl⟩

/-- A text in which the members of the kept value are out of order and one of them is given twice.
The date is null, the schema is left out, a member is unknown, and the name has escapes. -/
def untidyText : String :=
  "\x7b\"uiState\":\x7b\"b\":1,\"a\":[null,2],\"b\":-3\x7d,\"date\":null," ++
    "\"name\":\"\\u00c9\\\"t\",\"logicDefinition\":\"σ(M1)\",\"author\":\"x\"\x7d"

/-- A library that holds an older record of that name, and another one. -/
def staleLibrary : Library :=
  .ofEvents [.withAlgebra "É\"t" [] "(M2)", .stub "Pass" [⟨"who", "who"⟩]]

theorem importEvent_exportEvent_untidyText :
    let desk : Desk := .ofVolume ⟨[]⟩
    let source := desk.perform .inMemory (Store.importEvent untidyText)
    ∃ exported, source.result = .ok "É\"t" ∧
      source.store.library.exportEvent "É\"t" = .ok exported ∧
      let after := desk.perform ⟨staleLibrary, none⟩ (Store.importEvent exported)
      after.result = .ok "É\"t" ∧
        after.store.library.get? "É\"t" = source.store.library.get? "É\"t" ∧
        after.store.library.get? "Pass" = staleLibrary.get? "Pass" := by
  intro desk source
  have himport : source.result = .ok "É\"t" := by decide +kernel
  have hwhole : (Event.ofExport untidyText).toOption.all Event.isWhole = true := by decide +kernel
  obtain ⟨event, -, hsource, hlossless⟩ := importEvent_exportEvent desk .inMemory untidyText
    "É\"t" himport fun event hread => by simpa [hread, Except.toOption] using hwhole
  obtain ⟨exported, hexport, hafter⟩ := hlossless source.store.library hsource
  obtain ⟨hresult, hfound, hothers, -⟩ := hafter staleLibrary desk
  exact ⟨exported, himport, hexport, hresult, hfound.trans hsource.symm,
    hothers "Pass" (by decide)⟩

/-! ## References to imported events -/

/-- A slot that selects the event of a name refers to the name without the blanks around it. -/
theorem OperandForm.validate_saved {name : String} (h : trim name ≠ "") (slot : String)
    (filters : List Filter) :
    (OperandForm.mk savedMarker name filters).validate slot =
      .ok ⟨.saved (trim name), filters.filter (trim ·.value ≠ "")⟩ := by
  have hmarker : trim savedMarker = savedMarker := by decide
  have hne : savedMarker ≠ "" := by decide
  simp only [validate, target, hmarker, if_neg hne, if_neg h, if_true]
  rfl

/-- An event that was found is not reported as missing. -/
theorem Event.notFound_notMem_resolve (event : Event) (algebra name missing : String)
    (filters : List Filter) (start : Nat) (origin : Origin) :
    .notFound missing ∉ (event.resolve algebra name filters start origin).issues := by
  have hschema : .notFound missing ∉
      (if !event.schema.isEmpty then [] else [Issue.noSchema name]) := by
    split_ifs <;> simp
  simp only [Event.resolve]
  generalize (if !event.schema.isEmpty then [] else [Issue.noSchema name]) = issues at hschema ⊢
  cases maxLeaf? algebra with
  | none => simp [Resolved.splice, hschema]
  | some largest =>
      by_cases hlimit : leafLimit < largest
      · simp [hlimit, Resolved.call, hschema]
      · simp [hlimit, Resolved.splice, hschema]

/-- A reference is reported as missing exactly if nothing is found under its name. -/
theorem Library.notFound_mem_resolve_iff (library : Library) (definition name missing : String)
    (filters : List Filter) (start : Nat) :
    .notFound missing ∈ (library.resolve definition ⟨.saved name, filters⟩ start).issues ↔
      missing = name ∧ library.get? name = none := by
  simp only [resolve, resolveSaved]
  cases library.get? name with
  | none => simp [Resolved.call]
  | some event =>
      cases halgebra : event.algebra? with
      | none => simp [halgebra, Resolved.call]
      | some algebra =>
          simp only [halgebra, reduceCtorEq, and_false, iff_false]
          exact event.notFound_notMem_resolve algebra name missing filters start _

/-- What is found under a name has that name. -/
theorem Library.name_of_get? {library : Library} {name : String} {event : Event}
    (h : library.get? name = some event) : event.name = name := by
  simpa using List.find?_some h

/-- An event with algebra is found and resolved, under its own name. -/
theorem Library.resolve_of_get? {library : Library} {name algebra : String} {event : Event}
    (hget : library.get? name = some event) (halgebra : event.algebra? = some algebra)
    (definition : String) (filters : List Filter) (start : Nat) :
    library.resolve definition ⟨.saved name, filters⟩ start =
      event.resolve algebra name filters start
        (if name = definition then .priorVersion else .inlined) := by
  simp only [resolve, resolveSaved, hget, halgebra]

/-- An imported event is kept under the name that the import gave, and a slot that selects an event
by this name is always valid. It refers to the imported event exactly if there are no blanks around
the name. In that case the event is resolved as any other, for every definition and at every start.
Otherwise the reference leads to what was saved under the name without blanks before the import, and
is reported as missing if that is nothing. -/
theorem resolve_imported (desk : Desk) (store : Store) (text name slot : String)
    (filters : List Filter)
    (himport : (desk.perform store (Store.importEvent text)).result = .ok name) :
    let after := (desk.perform store (Store.importEvent text)).store.library
    ∃ event algebra operand, Event.ofExport text = .ok event ∧ event.name = name ∧
      event.algebra? = some algebra ∧ after.get? name = some event ∧
      (OperandForm.mk OperandForm.savedMarker name filters).validate slot = .ok operand ∧
      operand.target = .saved (trim name) ∧
      (after.get? (trim name) = some event ↔ trim name = name) ∧
      ∀ definition start,
        (trim name = name → after.resolve definition operand start =
          event.resolve algebra name operand.filters start
            (if name = definition then .priorVersion else .inlined)) ∧
        (trim name ≠ name → after.resolve definition operand start =
          store.library.resolve definition operand start) ∧
        ∀ missing, .notFound missing ∈ (after.resolve definition operand start).issues ↔
          missing = trim name ∧ trim name ≠ name ∧ store.library.get? (trim name) = none := by
  intro after
  obtain ⟨event, hread, rfl, hafter⟩ := Desk.saved_of_importEvent himport
  obtain ⟨-, hname, halgebra⟩ := Event.ofExport_eq_ok_iff.1 hread
  obtain ⟨algebra, halgebra⟩ := Option.isSome_iff_exists.1 halgebra
  -- the name without blanks is that of the event, or one that the import did not touch
  have hown : after.get? event.name = some event := by
    simp only [after, hafter, Library.get?_put]
  have hother : trim event.name ≠ event.name →
      after.get? (trim event.name) = store.library.get? (trim event.name) := by
    intro hblank
    simp only [after, hafter, Library.get?_put_of_ne hblank]
  refine ⟨event, algebra, _, hread, rfl, halgebra, hown,
    OperandForm.validate_saved hname slot filters, rfl, ?_, fun definition start => ⟨?_, ?_, ?_⟩⟩
  · constructor
    · intro hfound
      exact (Library.name_of_get? hfound).symm
    · intro htrim
      rw [htrim, hown]
  · intro htrim
    simp only [htrim]
    exact Library.resolve_of_get? hown halgebra definition _ start
  · intro hblank
    refine Library.resolve_congr ?_ definition start
    intro other htarget
    obtain rfl : trim event.name = other := Target.saved.inj htarget
    exact hother hblank
  · intro missing
    rw [Library.notFound_mem_resolve_iff]
    by_cases htrim : trim event.name = event.name
    · simp [htrim, hown]
    · simp [htrim, hother htrim]

/-- A text with an event whose name has blanks around it. -/
def paddedText : String :=
  "\x7b\"name\":\" A \",\"outputSchema\":[\x7b\"id\":\"who\",\"label\":\"who\"\x7d]," ++
    "\"logicDefinition\":\"(M1)\"\x7d"

theorem resolve_imported_paddedText :
    let desk : Desk := .ofVolume ⟨[]⟩
    let outcome := desk.perform .inMemory (Store.importEvent paddedText)
    ∃ event operand, outcome.result = .ok " A " ∧
      outcome.store.library.get? " A " = some event ∧
      (OperandForm.mk "EXISTING" " A " []).validate "op1" = .ok operand ∧
      ∀ definition start,
        .notFound "A" ∈ (outcome.store.library.resolve definition operand start).issues := by
  intro desk outcome
  have himport : outcome.result = .ok " A " := by decide +kernel
  obtain ⟨event, algebra, operand, -, -, -, hkept, hvalid, -, -, hresolve⟩ :=
    resolve_imported desk .inMemory paddedText " A " "op1" [] himport
  refine ⟨event, operand, himport, hkept, hvalid, fun definition start => ?_⟩
  obtain ⟨-, -, hmissing⟩ := hresolve definition start
  exact (hmissing "A").2 (by decide +kernel)

end EventAlgebra
