import EventAlgebra.Store
import EventAlgebra.Proofs.Expression

/-!
# Histories

A history is a sequence of changes to a store: a form is compiled and its event saved, or an event
is deleted. A form with a fault changes nothing. `Change.perform` runs a change with the operations
of the store, and goes on with the store also when the change fails.

On a store that is kept nowhere a change comes down to its effect on the library
(`Change.perform_inMemory`), and a history to the library that it leaves
(`Store.performAll_inMemory`).
-/

set_option autoImplicit false

namespace EventAlgebra

/-! ## Running the operations of a store -/

namespace StoreM

variable {m : Type → Type} [Monad m] {α β : Type}

/-- Work that is done in two parts goes on with the second only if the first succeeds. -/
theorem run_bind (action : StoreM m α) (next : α → StoreM m β) (store : Store) :
    (action >>= next).run.run store = action.run.run store >>= fun result =>
      match result with
      | (.ok value, store) => (next value).run.run store
      | (.error error, store) => pure (.error error, store) := by
  -- the store goes on through the state, also past an error
  show (StateT.bind action (ExceptT.bindCont next)) store = _
  apply bind_congr
  rintro ⟨result, store⟩
  cases result with
  | ok value => rfl
  | error error => rfl

variable [LawfulMonad m]

@[simp] theorem run_get (store : Store) :
    (get : StoreM m Store).run.run store = pure (.ok store, store) := by
  show (pure (store, store) >>= fun found => pure (Except.ok found.1, found.2)) = _
  rw [pure_bind]

@[simp] theorem run_set (next store : Store) :
    (set next : StoreM m Unit).run.run store = pure (.ok (), next) := by
  show (pure (PUnit.unit, next) >>= fun found => pure (Except.ok found.1, found.2)) = _
  rw [pure_bind]

@[simp] theorem run_modify (change : Store → Store) (store : Store) :
    (modify change : StoreM m Unit).run.run store = pure (.ok (), change store) := by
  show (pure (PUnit.unit, change store) >>= fun found => pure (Except.ok found.1, found.2)) = _
  rw [pure_bind]

end StoreM

/-- A store that is kept nowhere has no file to bring up to date. -/
theorem Store.run_flush {m : Type → Type} [Monad m] [Files m] [LawfulMonad m] (library : Library) :
    (Store.flush : StoreM m Unit).run.run ⟨library, none⟩ = pure (.ok (), ⟨library, none⟩) := by
  rw [Store.flush, StoreM.run_bind, StoreM.run_get, pure_bind]
  simp

/-! ## Changes -/

/-- A change to a store. -/
inductive Change where
  /-- Compile a form, naming columns by position, and save the event with a date. -/
  | save (form : Form) (date : String)
  /-- Delete the event of a name. -/
  | delete (name : String)

/-- Make a change to a store. The store is kept also when the change fails. -/
def Change.perform {m : Type → Type} [Monad m] [Files m] (store : Store) : Change → m Store
  | .save form date => Prod.snd <$> (Store.compileForm date form true).run.run store
  | .delete name => Prod.snd <$> (Store.delete name).run.run store

/-- Make changes to a store one after the other. -/
def Store.performAll {m : Type → Type} [Monad m] [Files m] (store : Store)
    (changes : List Change) : m Store :=
  changes.foldlM Change.perform store

namespace Library

/-- The effect of a change on a library. -/
def apply (library : Library) : Change → Library
  | .save form date =>
    match library.compileForm true form with
    | .error _ => library
    | .ok compiled => library.put (compiled.toEvent form date)
  | .delete name => library.erase name

/-- The library that changes to the empty one lead to. -/
def after (changes : List Change) : Library :=
  changes.foldl apply empty

theorem compileForm_of_validate (library : Library) {form : Form} {request : Request}
    (h : form.validate = .ok request) :
    library.compileForm true form = .ok (library.compile .positional request) := by
  simp only [compileForm, h]
  rfl

theorem apply_save {library : Library} {form : Form} {request : Request}
    (h : form.validate = .ok request) (date : String) :
    library.apply (.save form date) =
      library.put ((library.compile .positional request).toEvent form date) := by
  rw [apply, compileForm_of_validate library h]

theorem apply_faulty {library : Library} {form : Form} {fault : Fault}
    (h : form.validate = .error fault) (date : String) :
    library.apply (.save form date) = library := by
  simp only [apply, compileForm, h]

theorem erase_of_not_contains {library : Library} {name : String}
    (h : library.contains name = false) : library.erase name = library := by
  obtain ⟨events, distinct⟩ := library
  have hfilter : events.filter (·.name ≠ name) = events := by
    rw [List.filter_eq_self]
    intro event hevent
    have hname : ∀ event ∈ events, ¬ event.name = name := by simpa [contains] using h
    simpa using hname event hevent
  rw [erase]
  congr

/-- A saved event is found under its name. -/
theorem get?_put (library : Library) (event : Event) :
    (library.put event).get? event.name = some event := by
  have hnone : (library.erase event.name).events.find? (·.name = event.name) = none := by
    rw [List.find?_eq_none]
    intro older holder
    simpa using name_ne_of_mem_erase holder
  rw [get?, put, List.find?_append, hnone]
  simp

/-- Saving an event leaves the others as they are. -/
theorem get?_put_of_ne {library : Library} {event : Event} {name : String}
    (h : name ≠ event.name) : (library.put event).get? name = library.get? name := by
  have hname : (fun older : Event =>
      decide (decide (older.name ≠ event.name) = true ∧ decide (older.name = name) = true)) =
      fun older => decide (older.name = name) := by
    funext older
    by_cases holder : older.name = name
    · simp [holder, h]
    · simp [holder]
  rw [get?, put, List.find?_append, erase, get?, List.find?_filter, hname]
  simp [h.symm]

end Library

section InMemory

variable {m : Type → Type} [Monad m] [Files m] [LawfulMonad m]

theorem Store.run_put (event : Event) (library : Library) :
    (Store.put event).run.run ⟨library, none⟩ =
      (pure (.ok (), ⟨library.put event, none⟩) : m (Except Error Unit × Store)) := by
  rw [Store.put, StoreM.run_bind, StoreM.run_modify, pure_bind]
  exact Store.run_flush (library.put event)

/-- Compiling and saving in a store that is kept nowhere. -/
theorem Store.run_compileForm (date : String) (form : Form) (library : Library) :
    (Store.compileForm date form true).run.run ⟨library, none⟩ =
      (pure (library.compileForm true form, ⟨library.apply (.save form date), none⟩) :
        m (Except Error Compiled × Store)) := by
  have hask : (ExceptT.mk do return (← get).library.compileForm true form :
      StoreM m Compiled).run.run ⟨library, none⟩ =
        pure (library.compileForm true form, ⟨library, none⟩) := by
    simp
  rw [Library.apply, Store.compileForm, StoreM.run_bind, hask, pure_bind]
  cases library.compileForm true form with
  | error error => rfl
  | ok compiled =>
      simp only [if_true]
      rw [StoreM.run_bind, Store.run_put, pure_bind]
      rfl

/-- Deleting in a store that is kept nowhere. -/
theorem Store.run_delete (name : String) (library : Library) :
    (Store.delete name).run.run ⟨library, none⟩ =
      (pure (.ok (library.contains name), ⟨library.erase name, none⟩) :
        m (Except Error Bool × Store)) := by
  rw [Store.delete, StoreM.run_bind, StoreM.run_get, pure_bind]
  cases hcontains : library.contains name with
  | false =>
      simp only [hcontains, Bool.false_eq_true, if_false]
      rw [Library.erase_of_not_contains hcontains]
      rfl
  | true =>
      simp only [hcontains, if_true]
      rw [StoreM.run_bind, StoreM.run_set, pure_bind]
      show (do Store.flush; return true : StoreM m Bool).run.run ⟨library.erase name, none⟩ = _
      rw [StoreM.run_bind, Store.run_flush, pure_bind]
      rfl

/-- A change to a store that is kept nowhere has the effect on its library and no other. -/
theorem Change.perform_inMemory (change : Change) (library : Library) :
    change.perform ⟨library, none⟩ = (pure ⟨library.apply change, none⟩ : m Store) := by
  cases change with
  | save form date => rw [perform, Store.run_compileForm, map_pure]
  | delete name =>
      rw [perform, Store.run_delete, map_pure]
      rfl

/-- A history of a store that is kept nowhere leads to the library that the effects lead to. -/
theorem Store.performAll_inMemory (changes : List Change) :
    Store.inMemory.performAll changes = (pure ⟨.after changes, none⟩ : m Store) := by
  have hfold : ∀ library : Library, changes.foldlM Change.perform ⟨library, none⟩ =
      (pure ⟨changes.foldl Library.apply library, none⟩ : m Store) := by
    induction changes with
    | nil => exact fun library => rfl
    | cons change changes ih =>
        intro library
        rw [List.foldlM_cons, Change.perform_inMemory, pure_bind, ih, List.foldl_cons]
  exact hfold .empty

end InMemory

/-! ## Plain histories -/

/-- A form whose request, if it has no fault, is plain. -/
def Form.Plain (form : Form) : Prop :=
  ∀ request, form.validate = .ok request → request.Plain

instance (form : Form) : Decidable form.Plain :=
  match hvalidate : form.validate with
  | .error fault => isTrue fun request h => by rw [hvalidate] at h; cases h
  | .ok request =>
    decidable_of_iff request.Plain
      ⟨fun hplain request' h => by rw [hvalidate] at h; exact Except.ok.inj h ▸ hplain,
        fun h => h request hvalidate⟩

/-- A change that saves nothing but the event of a plain form. -/
def Change.Plain : Change → Prop
  | .save form _ => form.Plain
  | .delete _ => True

instance (change : Change) : Decidable change.Plain :=
  match change with
  | .save form _ => inferInstanceAs (Decidable form.Plain)
  | .delete _ => inferInstanceAs (Decidable True)

/-- A plain history with nested references, an event defined by its former version, and a reference
to a deleted event. -/
def nestedHistory : List Change :=
  let saved (name : String) (filters : List Filter) : OperandForm := ⟨"EXISTING", name, filters⟩
  let before : RelationForm := ⟨"sequential", "", "", "", "", ""⟩
  let during : RelationForm := ⟨"overlapping", "", "", "DJ", "5", ""⟩
  [.save ⟨"Pass", ⟨"hasBall", "", [⟨"arg1", "M7"⟩]⟩, ⟨"inArea", "", []⟩, before,
      [⟨"M1.arg1", "=", "M2.arg1", "+2"⟩], false, ⟨"", "", [⟨"M1.arg1", "player"⟩]⟩⟩ "d1",
    .save ⟨"Double", saved "Pass" [⟨"player", "x"⟩], saved "Pass" [], during, [], false,
      ⟨"M2.sf", "", [⟨"M2.player", ""⟩]⟩⟩ "d2",
    .save ⟨"Pass", saved "Pass" [], saved "Double" [], before, [⟨"M2.sf", ">", "M1.ef", ""⟩], true,
      .blank⟩ "d3",
    .delete "Double",
    .save ⟨"Late", saved "Double" [], saved "Pass" [], before, [], false, .blank⟩ "d4"]

end EventAlgebra
