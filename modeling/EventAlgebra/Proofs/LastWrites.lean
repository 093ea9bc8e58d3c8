import EventAlgebra.Proofs.Operations

/-!
# The last write wins

What a store holds is told by the history of its steps alone. Under a name there is the event that
the last step on the name saved, if that step saved one (`lastWrite?`), and the events stand in the
order of these steps (`lastWrites`). Both are read off the whole history, the first by looking back
from its end and the second by looking ahead from each step; neither has a library in it.

`Library.get?_foldl` and `Library.events_foldl` tie them to a library that is changed step by step.
From this follows all that can be observed of a store that is kept nowhere (`last_write_wins`),
whichever events it was made of and whatever was asked of it.
-/

set_option autoImplicit false

namespace EventAlgebra

/-! ## Histories of steps -/

namespace Step

/-- The last step on a name. -/
def last? (history : List Step) (name : String) : Option Step :=
  (history.filter (·.name = name)).getLast?

/-- The event that the last step on a name saved, if it saved one. -/
def lastWrite? (history : List Step) (name : String) : Option Event :=
  (last? history name).bind event?

/-- The events saved by steps that no later step is on the name of, by the order of the steps. -/
def lastWrites : List Step → List Event
  | [] => []
  | step :: later =>
    (if later.any (·.name = step.name) then [] else step.event?.toList) ++ lastWrites later

theorem last?_concat (history : List Step) (step : Step) (name : String) :
    last? (history ++ [step]) name =
      if step.name = name then some step else last? history name := by
  by_cases h : step.name = name
  · simp [last?, h]
  · simp [last?, h]

end Step

namespace Library

open Step

/-- What a history of steps leaves under a name. A name that no step is on keeps what was there at
first. -/
theorem get?_foldl (history : List Step) (library : Library) (name : String) :
    (history.foldl Step.effect library).get? name =
      match last? history name with
      | none => library.get? name
      | some step => step.event? := by
  induction history using List.reverseRecOn with
  | nil => rfl
  | append_singleton history step ih =>
      rw [List.foldl_append, List.foldl_cons, List.foldl_nil, Step.get?_effect, last?_concat, ih]
      by_cases h : step.name = name
      · rw [if_pos h, if_pos h]
      · rw [if_neg h, if_neg h]

/-- The events that are left, and the one that is added, by a step. -/
theorem events_effect (step : Step) (library : Library) :
    (step.effect library).events =
      library.events.filter (·.name ≠ step.name) ++ step.event?.toList := by
  cases step with
  | put event => rfl
  | delete name => exact (List.append_nil _).symm

/-- The events that a history of steps leaves. Those that no step is on the name of come first. -/
theorem events_foldl (history : List Step) (library : Library) :
    (history.foldl Step.effect library).events =
      library.events.filter (fun event => !history.any (·.name = event.name)) ++
        lastWrites history := by
  induction history generalizing library with
  | nil => simp [lastWrites]
  | cons step later ih =>
      -- the step saves its event behind those that are left, and the later ones may take it away
      have hown : step.event?.toList.filter (fun event => !later.any (·.name = event.name)) =
          if later.any (·.name = step.name) then [] else step.event?.toList := by
        cases step with
        | put event =>
            show List.filter _ [event] = if later.any (·.name = event.name) then [] else [event]
            cases hlater : later.any (·.name = event.name) with
            | false => simp [hlater]
            | true => simp [hlater]
        | delete name => exact (ite_self _).symm
      have hkept : (fun event : Event => !(step :: later).any (·.name = event.name)) =
          fun event => !later.any (·.name = event.name) && decide (event.name ≠ step.name) := by
        funext event
        rw [List.any_cons, Bool.not_or, Bool.and_comm]
        simp [eq_comm]
      rw [List.foldl_cons, ih, events_effect, List.filter_append, List.filter_filter, hown, hkept,
        lastWrites, List.append_assoc]

/-- What was saved under a name is told by the last step on it. -/
theorem get?_foldl_empty (history : List Step) (name : String) :
    (history.foldl Step.effect empty).get? name = lastWrite? history name := by
  rw [get?_foldl, lastWrite?]
  cases last? history name with
  | none => rfl
  | some step => rfl

theorem contains_eq (library : Library) (name : String) :
    library.contains name = (library.get? name).isSome := by
  rw [contains, get?, List.isSome_find?]

/-- A library made of events is what saving them one after the other leads to. -/
theorem ofEvents_eq (events : List Event) :
    ofEvents events = (events.map Step.put).foldl Step.effect empty := by
  rw [List.foldl_map]
  rfl

/-- An operation of a series is answered by the library that the earlier ones lead to. -/
theorem getElem?_answers (before : List Operation) (operation : Operation)
    (after : List Operation) (library : Library) :
    (library.answers (before ++ operation :: after))[before.length]? =
      some (operation.answer (before.foldl Operation.effect library)) := by
  induction before generalizing library with
  | nil => rfl
  | cons first before ih => exact ih (first.effect library)

end Library

/-! ## What can be observed -/

/-- The steps of a store: those that made it, and those that operations came down to. -/
def stepsOf (initial : List Event) (operations : List Operation) : List Step :=
  initial.map Step.put ++ operations.filterMap Operation.step?

theorem Library.foldl_stepsOf (initial : List Event) (operations : List Operation) :
    operations.foldl Operation.effect (ofEvents initial) =
      (stepsOf initial operations).foldl Step.effect empty := by
  rw [Operation.foldl_effect, ofEvents_eq, stepsOf, List.foldl_append]

/-- Let a store that is kept nowhere be made of any events, names repeated or not, and let any
operations be performed on it. Nothing is left of an import that was refused. In the end no two
events share a name, the events are the last writes in the order in which they were made, and
looking up a name gives the last write on it, unless the name was deleted since or never used. Each
deletion tells whether there was such a write at its time. The store made of the listed events is
the same one. -/
theorem last_write_wins {m : Type → Type} [Monad m] [Files m] [LawfulMonad m]
    (initial : List Event) (operations : List Operation) :
    let history := stepsOf initial operations
    ∃ (answers : List (Except Error Answer)) (library : Library),
      (Store.mk (.ofEvents initial) none).operateAll operations =
          (pure (answers, ⟨library, none⟩) : m (List (Except Error Answer) × Store)) ∧
        (library.events.map Event.name).Nodup ∧
        library.events = Step.lastWrites history ∧
        (∀ name, library.get? name = Step.lastWrite? history name) ∧
        (∀ before name after, operations = before ++ .delete name :: after →
          answers[before.length]? = some (.ok (.deleted
            (Step.lastWrite? (stepsOf initial before) name).isSome))) ∧
        Library.ofEvents library.events = library := by
  intro history
  refine ⟨_, _, Store.operateAll_inMemory operations (.ofEvents initial), ?_, ?_, ?_, ?_,
    Library.ofEvents_events _⟩
  · exact List.pairwise_map.2 (Library.distinct _)
  · rw [Library.foldl_stepsOf, Library.events_foldl]
    rfl
  · intro name
    rw [Library.foldl_stepsOf, Library.get?_foldl_empty]
  · rintro before name after rfl
    rw [Library.getElem?_answers, Operation.answer, Library.contains_eq, Library.foldl_stepsOf,
      Library.get?_foldl_empty]

/-- Events with a name that is used twice. -/
def busyEvents : List Event :=
  [.withAlgebra "Pass" [] "M1", .withAlgebra "Shot" [] "M1", .withAlgebra "Pass" [] "M2"]

/-- Operations on a store of these events: two texts are refused, an event is deleted and saved
again, one that is not there is deleted, and one is replaced by an imported event. -/
def busyOperations : List Operation :=
  [.importEvent "\x7b\"name\": \"Goal\"", .delete "Shot", .delete "Goal",
    .put (.withAlgebra "Shot" [] "M3"), .importEvent "[\"Goal\", [], \" \"]",
    .importEvent "[\"Pass\", [], \"M4\"]", .put (.stub "Goal" [])]

theorem last_write_wins_busyOperations :
    ∃ (answers : List (Except Error Answer)) (library : Library),
      (Store.mk (.ofEvents busyEvents) none).operateAll busyOperations =
          (pure (answers, ⟨library, none⟩) : StateM Desk (List (Except Error Answer) × Store)) ∧
        library.events.map (fun event => (event.name, event.definition)) =
          [("Shot", some "M3"), ("Pass", some "M4"), ("Goal", none)] ∧
        answers[1]? = some (.ok (.deleted true)) ∧ answers[2]? = some (.ok (.deleted false)) ∧
        (library.get? "Pass").map Event.definition = some (some "M4") := by
  obtain ⟨answers, library, hrun, -, hevents, hget, hdelete, -⟩ :=
    last_write_wins (m := StateM Desk) busyEvents busyOperations
  have hshot : (Step.lastWrite? (stepsOf busyEvents (busyOperations.take 1)) "Shot").isSome =
      true := by decide +kernel
  have hgoal : (Step.lastWrite? (stepsOf busyEvents (busyOperations.take 2)) "Goal").isSome =
      false := by decide +kernel
  refine ⟨answers, library, hrun, ?_, ?_, ?_, ?_⟩
  · rw [hevents]
    decide +kernel
  · rw [← hshot]
    exact hdelete (busyOperations.take 1) "Shot" (busyOperations.drop 2) rfl
  · rw [← hgoal]
    exact hdelete (busyOperations.take 2) "Goal" (busyOperations.drop 3) rfl
  · rw [hget]
    decide +kernel

end EventAlgebra
