import EventAlgebra.Desk
import EventAlgebra.Proofs.History
import EventAlgebra.Proofs.Replacing
import EventAlgebra.Proofs.StoredLibrary

/-!
# Effects of work on a store

`Ensures before work after failed` describes work on a store at a desk by three properties of a
store and a desk: what holds before, what holds after the work gave a value, and what holds after
it was given up. There is one rule for each way in which work is put together, and one for each
thing that a command does.

The rule for bringing a file up to date (`ensures_flush`) is where the volume comes in: once it
succeeds, reading the file gives the text of the library.
-/

set_option autoImplicit false

namespace EventAlgebra

open Text

/-- What work on a store leads to. -/
structure Outcome (α : Type) where
  result : Except Error α
  store : Store
  desk : Desk

/-- Do work on a store at a desk. -/
def Desk.perform {α : Type} (desk : Desk) (store : Store) (work : StoreM (StateM Desk) α) :
    Outcome α :=
  let ran := (work.run.run store).run desk
  ⟨ran.1.1, ran.1.2, ran.2⟩

/-- Work in two parts goes on with the second only if the first gives a value. -/
theorem Desk.perform_bind {α β : Type} (desk : Desk) (store : Store)
    (work : StoreM (StateM Desk) α) (next : α → StoreM (StateM Desk) β) :
    desk.perform store (work >>= next) =
      let first := desk.perform store work
      match first.result with
      | .ok value => first.desk.perform first.store (next value)
      | .error error => ⟨.error error, first.store, first.desk⟩ := by
  unfold Desk.perform
  rw [StoreM.run_bind, StateT.run_bind]
  obtain ⟨⟨result, store'⟩, desk'⟩ := (work.run.run store).run desk
  cases result with
  | ok value => rfl
  | error error => rfl

/-- Work at a desk, from any store and desk with a first property, leads to the second property if
it gives a value, and to the third if it is given up. -/
def Ensures {α : Type} (before : Store → Desk → Prop) (work : StoreM (StateM Desk) α)
    (after : α → Store → Desk → Prop) (failed : Error → Store → Desk → Prop) : Prop :=
  ∀ store desk, before store desk →
    let outcome := desk.perform store work
    match outcome.result with
    | .ok value => after value outcome.store outcome.desk
    | .error error => failed error outcome.store outcome.desk

/-! ## Rules -/

namespace Ensures

variable {α β : Type} {before before' : Store → Desk → Prop} {work : StoreM (StateM Desk) α}
  {after after' : α → Store → Desk → Prop} {failed failed' : Error → Store → Desk → Prop}

/-- Work in two parts: what the first part leads to is what the second starts from. -/
theorem bind {next : α → StoreM (StateM Desk) β} {final : β → Store → Desk → Prop}
    (h : Ensures before work after failed)
    (hnext : ∀ value, Ensures (after value) (next value) final failed) :
    Ensures before (work >>= next) final failed := by
  intro store desk hbefore
  have hfirst := h store desk hbefore
  rw [Desk.perform_bind]
  generalize desk.perform store work = first at hfirst ⊢
  obtain ⟨result, store', desk'⟩ := first
  cases result with
  | ok value => exact hnext value store' desk' hfirst
  | error error => exact hfirst

theorem consequence (h : Ensures before work after failed)
    (hbefore : ∀ store desk, before' store desk → before store desk)
    (hafter : ∀ value store desk, after value store desk → after' value store desk)
    (hfailed : ∀ error store desk, failed error store desk → failed' error store desk) :
    Ensures before' work after' failed' := by
  intro store desk hstart
  have hrun := h store desk (hbefore store desk hstart)
  generalize desk.perform store work = outcome at hrun ⊢
  obtain ⟨result, store', desk'⟩ := outcome
  cases result with
  | ok value => exact hafter value store' desk' hrun
  | error error => exact hfailed error store' desk' hrun

/-- What work leads to from one store and desk. -/
theorem cases (h : Ensures before work after failed) (store : Store) (desk : Desk)
    (hbefore : before store desk) :
    let outcome := desk.perform store work
    (∃ value, outcome.result = .ok value ∧ after value outcome.store outcome.desk) ∨
      ∃ error, outcome.result = .error error ∧ failed error outcome.store outcome.desk := by
  have hrun := h store desk hbefore
  generalize desk.perform store work = outcome at hrun ⊢
  obtain ⟨result, store', desk'⟩ := outcome
  cases result with
  | ok value => exact .inl ⟨value, rfl, hrun⟩
  | error error => exact .inr ⟨error, rfl, hrun⟩

/-- A fact that has to do with neither the store nor the desk. -/
theorem of_fact {fact : Prop} (h : fact → Ensures before work after failed) :
    Ensures (fun store desk => fact ∧ before store desk) work after failed :=
  fun store desk hbefore => h hbefore.1 store desk hbefore.2

theorem pure {value : α} (h : ∀ store desk, before store desk → after value store desk) :
    Ensures before (pure value) after failed :=
  fun store desk hbefore => h store desk hbefore

theorem throw {error : Error} (h : ∀ store desk, before store desk → failed error store desk) :
    Ensures before (throw error) after failed :=
  fun store desk hbefore => h store desk hbefore

theorem get {after : Store → Store → Desk → Prop}
    (h : ∀ store desk, before store desk → after store store desk) :
    Ensures before get after failed :=
  fun store desk hbefore => h store desk hbefore

theorem set {next : Store} {after : PUnit → Store → Desk → Prop}
    (h : ∀ store desk, before store desk → after ⟨⟩ next desk) :
    Ensures before (set next) after failed :=
  fun store desk hbefore => h store desk hbefore

theorem modify {change : Store → Store} {after : PUnit → Store → Desk → Prop}
    (h : ∀ store desk, before store desk → after ⟨⟩ (change store) desk) :
    Ensures before (modify change) after failed :=
  fun store desk hbefore => h store desk hbefore

/-- A question to the store that may have no answer. -/
theorem ask {question : Store → Except Error α}
    (h : ∀ store desk value, question store = .ok value → before store desk →
      after value store desk)
    (hfailed : ∀ store desk error, question store = .error error → before store desk →
      failed error store desk) :
    Ensures before (ExceptT.mk do return question (← MonadState.get)) after failed := by
  intro store desk hbefore
  show match question store with
    | .ok value => after value store desk
    | .error error => failed error store desk
  cases hquestion : question store with
  | ok value => exact h store desk value hquestion hbefore
  | error error => exact hfailed store desk error hquestion hbefore

/-- Something that was worked out without the store. -/
theorem result {result : Except Error α}
    (h : ∀ value, result = .ok value → ∀ store desk, before store desk → after value store desk)
    (hfailed : ∀ error, result = .error error → ∀ store desk, before store desk →
      failed error store desk) :
    Ensures before (ExceptT.mk (Pure.pure result)) after failed := by
  intro store desk hbefore
  cases result with
  | ok value => exact h value rfl store desk hbefore
  | error error => exact hfailed error rfl store desk hbefore

/-- Something done at the desk, whatever the store. -/
theorem lift {action : StateM Desk α}
    (h : ∀ store desk, before store desk →
      after (action.run desk).1 store (action.run desk).2) :
    Ensures before (ExceptT.lift (StateT.lift action)) after failed :=
  fun store desk hbefore => h store desk hbefore

/-- The same done for each item of a list. -/
theorem forM {γ : Type} {items : List γ} {each : γ → StoreM (StateM Desk) PUnit}
    (h : ∀ item, Ensures before (each item) (fun _ => before) failed) :
    Ensures before (items.forM each) (fun _ => before) failed := by
  induction items with
  | nil => exact pure fun store desk hbefore => hbefore
  | cons item items ih => exact bind (h item) fun _ => ih

end Ensures

/-! ## Actions of commands -/

section Actions

variable {before : Store → Desk → Prop} {failed : Error → Store → Desk → Prop}

/-- A property of a store and a desk that what was shown does not matter for. -/
def VolumeOnly (property : Store → Desk → Prop) : Prop :=
  ∀ store desk desk', desk.volume = desk'.volume → property store desk → property store desk'

theorem ensures_say (h : VolumeOnly before) (line : String) :
    Ensures before (Command.say line) (fun _ => before) failed :=
  Ensures.lift fun store desk hbefore => h store desk _ rfl hbefore

theorem ensures_warn (h : VolumeOnly before) (message : String) :
    Ensures before (Command.warn message) (fun _ => before) failed :=
  Ensures.lift fun store desk hbefore => h store desk _ rfl hbefore

/-- Reading a file changes nothing. -/
theorem ensures_readFile {path : String} {error : Error}
    (hfailed : ∀ store desk, before store desk → failed error store desk) :
    Ensures before (Command.readFile path error) (fun _ => before) failed := by
  have hread : Ensures before (ExceptT.lift (StateT.lift (Files.read path))) (fun _ => before)
      failed := Ensures.lift fun store desk hbefore => hbefore
  refine hread.bind fun reading => ?_
  cases reading.text? with
  | none => exact Ensures.throw hfailed
  | some content => exact Ensures.pure fun store desk hbefore => hbefore

/-- Giving out a result may change the volume, but not the store. -/
theorem ensures_emit {property : Store → Prop} (file : Option String) (text : String)
    (hfailed : ∀ path ∈ file, ∀ store desk, property store →
      failed (.outputUnwritable path) store desk) :
    Ensures (fun store _ => property store) (Command.emit file text)
      (fun _ store _ => property store) failed := by
  have hsay : ∀ line, Ensures (fun store _ => property store) (Command.say line)
      (fun _ store _ => property store) failed :=
    ensures_say fun store desk desk' hvolume hproperty => hproperty
  cases file with
  | none => exact hsay _
  | some path =>
      have hwrite : Ensures (fun store _ => property store)
          (ExceptT.lift (StateT.lift (Files.write path text))) (fun _ store _ => property store)
          failed := Ensures.lift fun store desk hproperty => hproperty
      refine hwrite.bind fun written => ?_
      cases written with
      | true => exact hsay _
      | false =>
          exact Ensures.throw fun store desk hproperty => hfailed path rfl store desk hproperty

end Actions

/-! ## Opening a file -/

/-- Open the library of a file at a desk. -/
def Desk.open (desk : Desk) (path : String) : Except Error Store :=
  ((Store.load path : StateM Desk (Except Error Store)).run desk).1

/-- An opened store belongs to its file, and its library is empty or was read from a text. -/
theorem Store.ofReading_cases {path : String} {reading : Reading} {store : Store}
    (h : Store.ofReading path reading = .ok store) :
    store.file = some path ∧
      (store.library = .empty ∨ ∃ text, Library.parse? text = some store.library) := by
  cases reading with
  | missing =>
      cases h
      exact ⟨rfl, .inl rfl⟩
  | unreadable => cases h
  | text content =>
      rw [Store.ofReading] at h
      split at h
      · cases h
        exact ⟨rfl, .inl rfl⟩
      · split at h
        · cases h
        · rename_i library hlibrary
          cases h
          exact ⟨rfl, .inr ⟨content, hlibrary⟩⟩

/-- Opening a file with the text of a library gives the library, if every value it keeps leaves
room for the library and the event around it. -/
theorem Store.ofReading_render {depth : Nat} {library : Library} (h : library.Held depth)
    (path : String) :
    Store.ofReading path (.text library.render) =
      if library.events.all (Event.fitsInside 1) then .ok ⟨library, some path⟩
      else .error (.libraryMalformed path) := by
  rw [Store.ofReading, if_neg library.trim_render_ne, Library.parse?_render h]
  by_cases hfits : library.events.all (Event.fitsInside 1) = true
  · simp [hfits]
  · simp [hfits]

theorem Store.ofReading_of_held {library : Library} (h : library.Held (Json.depthLimit - 2))
    (path : String) :
    Store.ofReading path (.text library.render) = .ok ⟨library, some path⟩ := by
  rw [Store.ofReading_render h, if_pos h.all_fitsInside]

/-! ## Bringing a file up to date -/

/-- Bringing the file of a store up to date is replacing it, and leaves the store as it is. -/
theorem Store.run_flush_file {m : Type → Type} [Monad m] [Files m] [LawfulMonad m]
    (library : Library) (path : String) :
    (Store.flush : StoreM m Unit).run.run ⟨library, some path⟩ =
      (fun result => (result, ⟨library, some path⟩)) <$> Store.replaceFile path library := by
  rw [Store.flush, StoreM.run_bind, StoreM.run_get, pure_bind, map_eq_pure_bind]
  rfl

/-- A change at a desk is made if it can be. -/
theorem Desk.run_tryChange (change : Volume → Option Volume) (desk : Desk) :
    (tryChange change).run desk =
      match change desk.volume with
      | none => (false, desk)
      | some volume => (true, { desk with volume := volume }) := by
  show StateT.run (match change desk.volume with
    | none => pure false
    | some volume => do
      set { desk with volume := volume }
      return true) desk = _
  cases change desk.volume with
  | none => rfl
  | some volume => rfl

/-- Replacing the file of a library at a desk: the temporary file is written and moved. -/
theorem Store.run_replaceFile (path : String) (library : Library) (desk : Desk) :
    (Store.replaceFile path library : StateM Desk (Except Error Unit)).run desk =
      match desk.volume.writeBytes? (temporary path) library.render.toUTF8 with
      | none => (.error (.libraryUnwritable (temporary path)), desk)
      | some written =>
        match written.move? (temporary path) path with
        | none => (.error (.libraryIrreplaceable path), { desk with volume := written })
        | some moved => (.ok (), { desk with volume := moved }) := by
  rw [replaceFile, StateT.run_bind]
  simp only [Files.write, Desk.run_tryChange]
  cases desk.volume.writeBytes? (temporary path) library.render.toUTF8 with
  | none => rfl
  | some written =>
      show StateT.run (Files.move (temporary path) path >>= fun moved =>
        if moved then pure (Except.ok ())
        else pure (Except.error (Error.libraryIrreplaceable path)))
          { desk with volume := written } = _
      rw [StateT.run_bind]
      simp only [Files.move, Desk.run_tryChange]
      cases written.move? (temporary path) path with
      | none => rfl
      | some moved => rfl

namespace Volume

/-- A text that was written to a file is read from it. -/
theorem readText_of_find {volume : Volume} {path text : String} {location : Location}
    (h : volume.find path = .present location (.file text.toUTF8)) :
    volume.readText path = .text text := by
  have hvalid : String.fromUTF8? text.toUTF8 = some text := by
    rw [String.toUTF8_eq_toByteArray, String.fromUTF8?, dif_pos text.isValidUTF8]
    rfl
  simp only [readText, h, hvalid]

end Volume


/-- Bringing the file of a store up to date: reading the file then gives the text of the library,
unless the file could not be written or replaced. -/
theorem ensures_flush (library : Library) (path : String) :
    Ensures (fun store _ => store = ⟨library, some path⟩) Store.flush
      (fun _ store desk => store = ⟨library, some path⟩ ∧
        desk.volume.readText path = .text library.render)
      (fun error _ _ => error.kind = .fileAccess) := by
  rintro store desk rfl
  rw [Desk.perform, Store.run_flush_file, StateT.run_map, Store.run_replaceFile]
  cases hwritten : desk.volume.writeBytes? (Store.temporary path) library.render.toUTF8 with
  | none => exact rfl
  | some written =>
      simp only
      cases hmoved : written.move? (Store.temporary path) path with
      | none => exact rfl
      | some moved =>
          -- what is moved is what was written
          obtain ⟨location, hfound⟩ := Volume.find_writeBytes? hwritten
          obtain ⟨origin, place, content, hsource, htarget⟩ := Volume.find_move? hmoved
          rw [hfound] at hsource
          cases hsource
          exact ⟨rfl, Volume.readText_of_find htarget⟩

/-- Bringing the file of a store up to date leaves the store as it is. It may fail, if there is a
file. -/
theorem ensures_flush_same (store : Store) :
    Ensures (fun found _ => found = store) Store.flush (fun _ found _ => found = store)
      (fun error found _ => error.kind = .fileAccess ∧ store.file ≠ none ∧ found = store) := by
  obtain ⟨library, file⟩ := store
  cases file with
  | none =>
      rintro _ desk rfl
      rw [Desk.perform, Store.run_flush]
      rfl
  | some path =>
      rintro _ desk rfl
      rw [Desk.perform, Store.run_flush_file, StateT.run_map, Store.run_replaceFile]
      cases desk.volume.writeBytes? (Store.temporary path) library.render.toUTF8 with
      | none => exact ⟨rfl, by simp, rfl⟩
      | some written =>
          simp only
          cases written.move? (Store.temporary path) path with
          | none => exact ⟨rfl, by simp, rfl⟩
          | some moved => exact rfl

/-- Saving an event in a store that a file keeps. -/
theorem ensures_put (library : Library) (path : String) (event : Event) :
    Ensures (fun store _ => store = ⟨library, some path⟩) (Store.put event)
      (fun _ store desk => store = ⟨library.put event, some path⟩ ∧
        desk.volume.readText path = .text (library.put event).render)
      (fun error _ _ => error.kind = .fileAccess) := by
  have hmodify : Ensures (fun store _ => store = ⟨library, some path⟩)
      (modify fun store => { store with library := store.library.put event })
      (fun _ store _ => store = ⟨library.put event, some path⟩)
      (fun error _ _ => error.kind = .fileAccess) := by
    apply Ensures.modify
    rintro store desk rfl
    rfl
  exact hmodify.bind fun _ => ensures_flush (library.put event) path

/-- Saving an event changes the store in memory, also where the file cannot be written. -/
theorem ensures_put_store (store : Store) (event : Event) :
    let saved : Store := { store with library := store.library.put event }
    Ensures (fun found _ => found = store) (Store.put event) (fun _ found _ => found = saved)
      (fun error found _ => error.kind = .fileAccess ∧ store.file ≠ none ∧ found = saved) := by
  intro saved
  have hmodify : Ensures (fun found _ => found = store)
      (modify fun store => { store with library := store.library.put event })
      (fun _ found _ => found = saved)
      (fun error found _ => error.kind = .fileAccess ∧ store.file ≠ none ∧ found = saved) := by
    apply Ensures.modify
    rintro found desk rfl
    rfl
  exact hmodify.bind fun _ => ensures_flush_same saved

end EventAlgebra
