import EventAlgebra.Proofs.Machines

/-!
# Operations on a store

Three things can be asked of a store that change it: to save an event, to delete one, and to import
one from a text. An import whose text is refused leaves no trace. Every other operation comes down
to a step (`Operation.step?`).

`Operation.run_perform` says all that an operation does, to any store and wherever the store is
kept: the library in memory is changed first, then the file is brought up to date, and the answer
is an error if that fails. So the library that operations lead to depends on their steps only
(`Store.snd_operateAll`), and on a store that is kept nowhere nothing can fail but the reading of a
text (`Store.operateAll_inMemory`).
-/

set_option autoImplicit false

namespace EventAlgebra

/-! ## Steps -/

namespace Step

/-- The name that a step is on. -/
def name : Step → String
  | put event => event.name
  | delete name => name

/-- The event that a step saves, if it does. -/
def event? : Step → Option Event
  | put event => some event
  | delete _ => none

end Step

/-- Nothing is found under an erased name. -/
theorem Library.get?_erase (library : Library) (name : String) :
    (library.erase name).get? name = none := by
  rw [get?, List.find?_eq_none]
  intro event hevent
  simpa using name_ne_of_mem_erase hevent

/-- Erasing a name leaves the events of the others as they are. -/
theorem Library.get?_erase_of_ne {library : Library} {name other : String} (h : other ≠ name) :
    (library.erase name).get? other = library.get? other := by
  rw [get?, erase, List.find?_filter, get?]
  congr 1
  funext event
  by_cases hother : event.name = other
  · simp [hother, h]
  · simp [hother]

/-- A step decides what is found under its name, and nothing else. -/
theorem Step.get?_effect (step : Step) (library : Library) (name : String) :
    (step.effect library).get? name =
      if step.name = name then step.event? else library.get? name := by
  cases step with
  | put event =>
      by_cases h : event.name = name
      · subst h
        simp [effect, Step.name, event?, Library.get?_put]
      · rw [effect, Library.get?_put_of_ne (Ne.symm h)]
        exact (if_neg h).symm
  | delete erased =>
      by_cases h : erased = name
      · subst h
        simp [effect, Step.name, event?, Library.get?_erase]
      · rw [effect, Library.get?_erase_of_ne (Ne.symm h)]
        exact (if_neg h).symm

/-! ## Operations -/

/-- Something asked of a store that may change it. -/
inductive Operation where
  /-- Save an event. -/
  | put (event : Event)
  /-- Delete the event of a name. -/
  | delete (name : String)
  /-- Save an event from the text in which it was exported. -/
  | importEvent (text : String)

/-- What a store answers to an operation. -/
inductive Answer where
  | saved
  /-- Whether there was an event to delete. -/
  | deleted (found : Bool)
  /-- The name of the imported event. -/
  | imported (name : String)
deriving DecidableEq, Repr

/-- Bring the file of a store up to date, if there is one. -/
def Store.keep {m : Type → Type} [Monad m] [Files m] (store : Store) : m (Except Error Unit) :=
  match store.file with
  | none => pure (.ok ())
  | some path => Store.replaceFile path store.library

namespace Operation

/-- The step that an operation comes down to. A text that is refused leads to none. -/
def step? : Operation → Option Step
  | put event => some (.put event)
  | delete name => some (.delete name)
  | importEvent text => (Event.ofExport text).toOption.map Step.put

/-- The effect of an operation on the library in memory. -/
def effect (library : Library) (operation : Operation) : Library :=
  match operation.step? with
  | some step => step.effect library
  | none => library

/-- The answer to an operation, unless the file of the store cannot be brought up to date. -/
def answer (library : Library) : Operation → Except Error Answer
  | put _ => .ok .saved
  | delete name => .ok (.deleted (library.contains name))
  | importEvent text => (Event.ofExport text).map fun event => .imported event.name

/-- Whether an operation leaves the file of a store alone. -/
def isIdle (library : Library) (operation : Operation) : Bool :=
  operation.step?.all (Step.isIdle library)

section Running

variable {m : Type → Type} [Monad m] [Files m]

/-- Perform an operation on a store. -/
def perform : Operation → StoreM m Answer
  | put event => do
    Store.put event
    return .saved
  | delete name => return .deleted (← Store.delete name)
  | importEvent text => return .imported (← Store.importEvent text)

/-- What is done to the file of a store, after the library in memory was changed. -/
def keep (operation : Operation) (store : Store) : m (Except Error Unit) :=
  if operation.isIdle store.library then pure (.ok ())
  else Store.keep { store with library := operation.effect store.library }

end Running

end Operation

/-- Perform operations one after the other, and give the answers in order. An operation that fails
does not end the series. -/
def Store.operateAll {m : Type → Type} [Monad m] [Files m] (store : Store) :
    List Operation → m (List (Except Error Answer) × Store)
  | [] => pure ([], store)
  | operation :: operations => do
    let (answer, next) ← operation.perform.run.run store
    let (answers, last) ← next.operateAll operations
    return (answer :: answers, last)

section Running

variable {m : Type → Type} [Monad m] [Files m] [LawfulMonad m]

omit [Files m] in
/-- Work that ends in a value worked out from that of its first part. -/
theorem StoreM.run_map_of_eq {α β γ : Type} {work : StoreM m α} {store after : Store}
    {action : m γ} {result : γ → Except Error α} (next : α → β)
    (h : work.run.run store = (fun found => (result found, after)) <$> action) :
    (do return next (← work) : StoreM m β).run.run store =
      (fun found => ((result found).map next, after)) <$> action := by
  rw [StoreM.run_bind, h, map_eq_pure_bind, map_eq_pure_bind, bind_assoc]
  refine bind_congr fun found => ?_
  rw [pure_bind]
  cases result found with
  | ok value => rfl
  | error error => rfl

/-- Bringing the file up to date leaves the store as it is. -/
theorem Store.run_flush_keep (store : Store) :
    (Store.flush : StoreM m Unit).run.run store = (fun kept => (kept, store)) <$> store.keep := by
  obtain ⟨library, file⟩ := store
  cases file with
  | none => rw [Store.run_flush, keep, map_pure]
  | some path => exact Store.run_flush_file library path

/-- Saving an event changes the library in memory, and then the file is brought up to date. -/
theorem Store.run_put_keep (event : Event) (store : Store) :
    (Store.put event : StoreM m Unit).run.run store =
      let changed : Store := { store with library := store.library.put event }
      (fun kept => (kept, changed)) <$> changed.keep := by
  rw [Store.put, StoreM.run_bind, StoreM.run_modify, pure_bind]
  exact Store.run_flush_keep _

/-- Deleting an event is erasing its name. The file is left alone if there is no such event. -/
theorem Store.run_delete_keep (name : String) (store : Store) :
    (Store.delete name : StoreM m Bool).run.run store =
      (fun kept => (kept.map fun _ => store.library.contains name,
        { store with library := store.library.erase name })) <$>
          (Operation.delete name).keep store := by
  rw [Store.delete, StoreM.run_bind, StoreM.run_get, pure_bind]
  cases hcontains : store.library.contains name with
  | false =>
      have hidle : (Operation.delete name).isIdle store.library = true := by
        simp [Operation.isIdle, Operation.step?, Step.isIdle, hcontains]
      rw [Operation.keep, if_pos hidle, Library.erase_of_not_contains hcontains, map_pure]
      simp [hcontains, Except.map]
  | true =>
      have hbusy : ¬ (Operation.delete name).isIdle store.library = true := by
        simp [Operation.isIdle, Operation.step?, Step.isIdle, hcontains]
      rw [Operation.keep, if_neg hbusy]
      simp only [hcontains, if_true]
      rw [StoreM.run_bind, StoreM.run_set, pure_bind]
      exact StoreM.run_map_of_eq (fun _ => true) (Store.run_flush_keep _)

/-- Importing an event is saving what is read from the text. -/
theorem Store.run_importEvent_keep (text : String) (store : Store) :
    (Store.importEvent text : StoreM m String).run.run store =
      (fun kept => (kept.bind fun _ => (Event.ofExport text).map Event.name,
        { store with library := (Operation.importEvent text).effect store.library })) <$>
          (Operation.importEvent text).keep store := by
  have hresult : (ExceptT.mk (pure (Event.ofExport text)) : StoreM m Event).run.run store =
      pure (Event.ofExport text, store) := rfl
  rw [Store.importEvent, StoreM.run_bind, hresult, pure_bind]
  cases hread : Event.ofExport text with
  | error error =>
      have hstep : (Operation.importEvent text).step? = none := by
        simp [Operation.step?, hread, Except.toOption]
      simp only [Operation.keep, Operation.isIdle, Operation.effect, hstep, Option.all_none,
        if_true, map_pure]
      rfl
  | ok event =>
      have hstep : (Operation.importEvent text).step? = some (.put event) := by
        simp [Operation.step?, hread, Except.toOption]
      simp only [Operation.keep, Operation.isIdle, Operation.effect, hstep]
      exact StoreM.run_map_of_eq (fun _ => event.name) (Store.run_put_keep event store)

/-- An operation changes the library in memory, whatever becomes of the file. The answer is the one
worked out before the change, or the error of the file. -/
theorem Operation.run_perform (operation : Operation) (store : Store) :
    (operation.perform : StoreM m Answer).run.run store =
      (fun kept => (kept.bind fun _ => operation.answer store.library,
        { store with library := operation.effect store.library })) <$> operation.keep store := by
  cases operation with
  | put event => exact StoreM.run_map_of_eq (fun _ => Answer.saved) (Store.run_put_keep event store)
  | delete name =>
      refine (StoreM.run_map_of_eq Answer.deleted (Store.run_delete_keep name store)).trans ?_
      congr 1
      funext kept
      cases kept with
      | ok value => rfl
      | error error => rfl
  | importEvent text =>
      refine (StoreM.run_map_of_eq Answer.imported (Store.run_importEvent_keep text store)).trans ?_
      congr 1
      funext kept
      cases kept with
      | error error => rfl
      | ok value =>
          simp only [answer, Except.bind]
          cases Event.ofExport text with
          | error error => rfl
          | ok event => rfl

/-- An operation on a store that is kept nowhere. -/
theorem Operation.run_perform_inMemory (operation : Operation) (library : Library) :
    (operation.perform : StoreM m Answer).run.run ⟨library, none⟩ =
      pure (operation.answer library, ⟨operation.effect library, none⟩) := by
  have hkeep : operation.keep ⟨library, none⟩ = (pure (.ok ()) : m (Except Error Unit)) :=
    ite_self _
  rw [run_perform, hkeep, map_pure]
  rfl

/-! ## Series of operations -/

omit [Monad m] [Files m] [LawfulMonad m] in
/-- The effect of operations is that of the steps they come down to. -/
theorem Operation.foldl_effect (operations : List Operation) (library : Library) :
    operations.foldl effect library =
      (operations.filterMap step?).foldl Step.effect library := by
  rw [List.foldl_filterMap]
  congr 1
  funext library operation
  rw [effect]
  cases operation.step? with
  | some step => rfl
  | none => rfl

/-- The answers to operations on a library in memory, one after the other. -/
def Library.answers (library : Library) : List Operation → List (Except Error Answer)
  | [] => []
  | operation :: operations =>
    operation.answer library :: (operation.effect library).answers operations

/-- Whatever becomes of the file in a series of operations, the library in memory at the end is the
one that the effects lead to. -/
theorem Store.snd_operateAll (operations : List Operation) (store : Store) :
    Prod.snd <$> (store.operateAll operations : m (List (Except Error Answer) × Store)) =
      (fun _ => { store with library := operations.foldl Operation.effect store.library }) <$>
        store.operateAll operations := by
  induction operations generalizing store with
  | nil => simp [operateAll]
  | cons operation operations ih =>
      have hnext := ih { store with library := operation.effect store.library }
      simp only [operateAll, Operation.run_perform, bind_map_left, map_bind, map_pure] at hnext ⊢
      refine bind_congr fun kept => ?_
      simpa only [map_eq_pure_bind, List.foldl_cons] using hnext

/-- Operations on a store that is kept nowhere. -/
theorem Store.operateAll_inMemory (operations : List Operation) (library : Library) :
    (Store.mk library none).operateAll operations =
      (pure (library.answers operations, ⟨operations.foldl Operation.effect library, none⟩) :
        m (List (Except Error Answer) × Store)) := by
  induction operations generalizing library with
  | nil => rfl
  | cons operation operations ih =>
      rw [operateAll, Operation.run_perform_inMemory, pure_bind]
      simp only [ih, pure_bind]
      rfl

end Running

end EventAlgebra
