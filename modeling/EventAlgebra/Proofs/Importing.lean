import EventAlgebra.Proofs.Effects

/-!
# Importing into a kept library

An imported event is read from a text of its own, and then stands in the text of the library, one
container deeper. The containers of a kept value are counted from the outermost one of a text. So
an event can be read alone and not as part of a library: saving it makes the whole library
unreadable. It happens to exactly those events whose value opens one container more than a library
has room for (`open_importEvent`). In every other case the library that is opened afterwards is the
one in memory.
-/

set_option autoImplicit false

namespace EventAlgebra

open Text

/-! ## What is held after reading -/

/-- An opened store belongs to its file, and what it keeps is held. -/
theorem Desk.held_of_open {desk : Desk} {path : String} {store : Store}
    (h : desk.open path = .ok store)
    (hwhole : ∀ event ∈ store.library.events, event.isWhole = true) :
    store.file = some path ∧ store.library.Held (Json.depthLimit - 2) := by
  have hread : Store.ofReading path (desk.volume.readText path) = .ok store := h
  obtain ⟨hfile, hempty | ⟨text, htext⟩⟩ := Store.ofReading_cases hread
  · rw [hempty]
    exact ⟨hfile, Library.held_empty _⟩
  · exact ⟨hfile, Library.held_of_parse? htext hwhole⟩

/-- What was read as an exported event is held, where one container is around it. -/
theorem Event.held_of_ofExport {text : String} {event : Event} (h : Event.ofExport text = .ok event)
    (hwhole : event.isWhole = true) : event.Held (Json.depthLimit - 1) := by
  obtain ⟨value, hvalue⟩ := Event.ofJson?_of_ofExport h
  exact Event.held_of_ofJson? hvalue hwhole

/-- An event with a name and algebra is read from the text in which it was exported. -/
theorem Event.ofExport_toExport {depth : Nat} {event : Event} (h : event.Held depth)
    (hfits : event.fitsInside 0 = true) (hname : trim event.name ≠ "")
    (halgebra : event.algebra?.isSome = true) : Event.ofExport event.toExport = .ok event := by
  obtain ⟨hwritten, hwhole⟩ := h.writable
  have hread : (Json.parse? event.toExport).bind (Event.ofJson? 0) = some event := by
    rw [Event.toExport, Json.parse?_pretty hwritten hwhole, Option.bind_some,
      Event.ofJson?_toJson h 0, if_pos hfits]
  exact Event.ofExport_eq_ok_iff.2 ⟨hread, hname, halgebra⟩

/-! ## Importing -/

/-- Importing an event into a store that a file keeps. -/
theorem ensures_importEvent (library : Library) (path : String) {text : String} {event : Event}
    (h : Event.ofExport text = .ok event) :
    Ensures (fun store _ => store = ⟨library, some path⟩) (Store.importEvent text)
      (fun name store desk => name = event.name ∧ store = ⟨library.put event, some path⟩ ∧
        desk.volume.readText path = .text (library.put event).render)
      (fun error _ _ => error.kind = .fileAccess) := by
  have hread : Ensures (fun store _ => store = ⟨library, some path⟩)
      (ExceptT.mk (pure (Event.ofExport text)))
      (fun found store _ => found = event ∧ store = ⟨library, some path⟩)
      (fun error _ _ => error.kind = .fileAccess) := by
    rintro store desk rfl
    rw [h]
    exact ⟨rfl, rfl⟩
  refine hread.bind fun found => ?_
  rintro store desk ⟨rfl, hstore⟩
  have hname : Ensures (fun store _ => store = ⟨library, some path⟩)
      (do Store.put found; return found.name)
      (fun name store desk => name = found.name ∧ store = ⟨library.put found, some path⟩ ∧
        desk.volume.readText path = .text (library.put found).render)
      (fun error _ _ => error.kind = .fileAccess) :=
    (ensures_put library path found).bind fun _ =>
      Ensures.pure fun store desk hput => ⟨rfl, hput⟩
  exact hname store desk hstore

/-- Every event of a library that others were saved in fits, if the last one does. -/
theorem Library.all_fitsInside_put {library : Library}
    (h : library.Held (Json.depthLimit - 2)) (event : Event) :
    (library.put event).events.all (Event.fitsInside 1) = event.fitsInside 1 := by
  rw [Library.put, List.all_append, (h.erase event.name).all_fitsInside, Bool.true_and,
    List.all_cons, List.all_nil, Bool.and_true]

/-- Let a library be opened and an event be imported into it, none of them with a number other than
an integer of 64 bits. The event is in the store then. Opening the library again gives that store if
the value that the event keeps leaves room for two containers around it. Else it fails, and all the
library is lost to later commands. -/
theorem open_importEvent (path text name : String) (store : Store) (desk : Desk)
    (hopen : desk.open path = .ok store)
    (hlibrary : ∀ event ∈ store.library.events, event.isWhole = true)
    (hevent : ∀ event, Event.ofExport text = .ok event → event.isWhole = true)
    (himport : (desk.perform store (Store.importEvent text)).result = .ok name) :
    let after := desk.perform store (Store.importEvent text)
    ∃ event, Event.ofExport text = .ok event ∧ event.name = name ∧ event.fitsInside 0 = true ∧
      after.store = ⟨store.library.put event, some path⟩ ∧
      after.desk.open path =
        if event.fitsInside 1 then .ok after.store else .error (.libraryMalformed path) := by
  intro after
  obtain ⟨hfile, hheld⟩ := Desk.held_of_open hopen hlibrary
  obtain ⟨library, file⟩ := store
  obtain rfl : file = some path := hfile
  cases hread : Event.ofExport text with
  | error error =>
      -- a text that is not read as an event is not imported
      have hrefused : (desk.perform ⟨library, some path⟩ (Store.importEvent text)).result =
          .error error := by
        rw [Store.importEvent, hread, Desk.perform_bind]
        rfl
      rw [hrefused] at himport
      cases himport
  | ok event =>
      have hput := ensures_importEvent library path hread ⟨library, some path⟩ desk rfl
      simp only [himport] at hput
      obtain ⟨rfl, hstore, htext⟩ := hput
      have himported : event.Held (Json.depthLimit - 1) :=
        Event.held_of_ofExport hread (hevent event hread)
      refine ⟨event, rfl, rfl, himported.fitsInside, hstore, ?_⟩
      have hafter : (library.put event).Held (Json.depthLimit - 1) :=
        Library.Held.put (fun older holder => (hheld older holder).mono (by decide)) himported
      have hopened : after.desk.open path =
          Store.ofReading path (after.desk.volume.readText path) := rfl
      rw [hopened, htext, Store.ofReading_render hafter, Library.all_fitsInside_put hheld, hstore]

/-- Arrays inside each other, around an empty one. -/
def nestedArrays : Nat → Json
  | 0 => .array []
  | depth + 1 => .array [nestedArrays depth]

theorem held_nestedArrays (depth : Nat) : (nestedArrays depth).Held (depth + 1) := by
  induction depth with
  | zero => exact ⟨nofun, rfl, rfl, rfl⟩
  | succ depth ih =>
      refine ⟨nofun, ?_, ?_, ?_⟩
      · simp [nestedArrays, Json.normal, Json.normalItems, ih.normal]
      · simpa [nestedArrays, Json.fits, Json.fitsItems] using ih.fits
      · simpa [nestedArrays, Json.allNumbers, Json.allNumbersItems] using ih.whole

/-- An event that keeps as many arrays inside each other as can be read in its own text. -/
def deepEvent : Event :=
  ⟨"Deep", [], some "x", some (nestedArrays 125), none⟩

theorem open_importEvent_deepEvent :
    let desk : Desk := .ofVolume ⟨[]⟩
    let store : Store := ⟨.empty, some "/library.json"⟩
    let after := desk.perform store (Store.importEvent deepEvent.toExport)
    desk.open "/library.json" = .ok store ∧ after.result = .ok "Deep" ∧
      after.desk.open "/library.json" = .error (.libraryMalformed "/library.json") := by
  intro desk store after
  have hopen : desk.open "/library.json" = .ok store := rfl
  have hheld : deepEvent.Held (Json.depthLimit - 1) := by
    rintro state ⟨⟩
    exact held_nestedArrays 125
  have hread : Event.ofExport deepEvent.toExport = .ok deepEvent :=
    Event.ofExport_toExport hheld hheld.fitsInside (by decide) (by decide)
  have himport : after.result = .ok "Deep" := by
    show (desk.perform store (Store.importEvent deepEvent.toExport)).result = _
    rw [Store.importEvent, hread]
    rfl
  have hevent : ∀ event, Event.ofExport deepEvent.toExport = .ok event → event.isWhole = true := by
    rw [hread]
    rintro event ⟨⟩
    decide +kernel
  obtain ⟨event, hevent, -, -, -, hreopen⟩ := open_importEvent "/library.json" deepEvent.toExport
    "Deep" store desk hopen (by simp [store, Library.empty]) hevent himport
  obtain rfl : deepEvent = event := Except.ok.inj (hread.symm.trans hevent)
  exact ⟨hopen, himport, hreopen.trans (if_neg (by decide +kernel))⟩

end EventAlgebra
