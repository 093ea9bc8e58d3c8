import EventAlgebra.Proofs.Effects

/-!
# Machines that fail

A program may be stopped at any time, and a call that writes or moves a file may fail, or leave a
file half written. A machine is a volume with a list of what is going to happen to the calls on
files. So a statement about all machines is one about all failures.

Whatever happens, the file of a library is replaced as a whole or not at all, and what the program
is told of it is true (`Machine.replaceFile_cases`). A change to a store is made in memory first,
and then its file is replaced, unless there is nothing to do (`Step.run_perform`).
-/

set_option autoImplicit false

namespace EventAlgebra

/-! ## Machines that fail -/

/-- What happens to a call that writes or moves a file. -/
structure Fate where
  /-- Whether the call is carried out, if the volume allows it at all. -/
  carriedOut : Bool
  /-- What a write that is not carried out leaves in the file, if anything. -/
  left : Option ByteArray
  /-- Whether the program is stopped then, before it learns of the outcome. -/
  stops : Bool

/-- The call is carried out and the program goes on. -/
def Fate.smooth : Fate := ⟨true, none, false⟩

/-- A volume and what happens to the calls to come, one fate for each. Calls beyond the last fate
go well. -/
structure Machine where
  volume : Volume
  fates : List Fate
  /-- How many moves were carried out. -/
  moves : Nat

namespace Machine

/-- What happens to the next call. -/
def fate (machine : Machine) : Fate :=
  machine.fates.headD .smooth

/-- Write a file. The answer is missing if the program is stopped. -/
def write (machine : Machine) (path : String) (content : ByteArray) : Option Bool × Machine :=
  let written := if machine.fate.carriedOut then machine.volume.writeBytes? path content else none
  let left := machine.fate.left.bind (machine.volume.writeBytes? path)
  (if machine.fate.stops then none else some written.isSome,
    { machine with
      volume := (written.or left).getD machine.volume
      fates := machine.fates.tail })

/-- Move a file, in one go. -/
def move (machine : Machine) (source target : String) : Option Bool × Machine :=
  let moved := if machine.fate.carriedOut then machine.volume.move? source target else none
  (if machine.fate.stops then none else some moved.isSome,
    { machine with
      volume := moved.getD machine.volume
      fates := machine.fates.tail
      moves := if moved.isSome then machine.moves + 1 else machine.moves })

instance : Files (OptionT (StateM Machine)) where
  read path := do return (← get).volume.readText path
  write path content := OptionT.mk fun machine => machine.write path content.toUTF8
  move source target := OptionT.mk fun machine => machine.move source target

/-- A write to the temporary file of a library does not touch the library. If it is said to have
succeeded, the file has the content. -/
theorem write_cases (machine : Machine) (path : String) (content : ByteArray) :
    let after := machine.write (Store.temporary path) content
    after.2.moves = machine.moves ∧ after.2.volume.find path = machine.volume.find path ∧
      (after.1 = some true → ∃ location,
        after.2.volume.find (Store.temporary path) = .present location (.file content)) := by
  refine ⟨rfl, ?_⟩
  simp only [write]
  cases hwritten : (if machine.fate.carriedOut then
      machine.volume.writeBytes? (Store.temporary path) content else none) with
  | some written =>
      obtain ⟨-, hwritten⟩ := Option.ite_none_right_eq_some.1 hwritten
      exact ⟨Volume.find_writeBytes?_temporary hwritten, fun _ =>
        Volume.find_writeBytes? hwritten⟩
  | none =>
      refine ⟨?_, by simp⟩
      cases hleft : machine.fate.left.bind
          (machine.volume.writeBytes? (Store.temporary path)) with
      | none => rfl
      | some left =>
          obtain ⟨bytes, -, hbytes⟩ := Option.bind_eq_some_iff.1 hleft
          exact Volume.find_writeBytes?_temporary hbytes

/-- A move is carried out, or nothing happens. What is said of it is true. -/
theorem move_cases (machine : Machine) (source target : String) :
    let after := machine.move source target
    (after.2.volume = machine.volume ∧ after.2.moves = machine.moves ∧ after.1 ≠ some true) ∨
      (machine.volume.move? source target = some after.2.volume ∧
        after.2.moves = machine.moves + 1 ∧ after.1 ≠ some false) := by
  simp only [move]
  cases hmoved : (if machine.fate.carriedOut then machine.volume.move? source target else none) with
  | none => exact .inl ⟨rfl, rfl, by simp⟩
  | some moved =>
      obtain ⟨-, hmoved⟩ := Option.ite_none_right_eq_some.1 hmoved
      exact .inr ⟨hmoved, rfl, by simp⟩

/-- Replacing a file, call by call. -/
theorem run_replaceFile (machine : Machine) (path : String) (library : Library) :
    let written := machine.write (Store.temporary path) library.render.toUTF8
    let moved := written.2.move (Store.temporary path) path
    (Store.replaceFile path library : OptionT (StateM Machine) (Except Error Unit)).run.run
        machine =
      if written.1 = some true then
        (moved.1.map fun done => if done then .ok () else .error (.libraryIrreplaceable path),
          moved.2)
      else (written.1.map fun _ => .error (.libraryUnwritable (Store.temporary path)),
        written.2) := by
  intro written moved
  have hwrite : (Files.write (Store.temporary path) library.render :
      OptionT (StateM Machine) Bool).run.run machine = written := rfl
  have hmove : (Files.move (Store.temporary path) path :
      OptionT (StateM Machine) Bool).run.run written.2 = moved := rfl
  rw [Store.replaceFile, OptionT.run_bind, Option.elimM, StateT.run_bind, hwrite]
  clear_value moved
  clear_value written
  obtain ⟨answer, halfway⟩ := written
  cases answer with
  | none => rfl
  | some succeeded =>
      cases succeeded with
      | false => rfl
      | true =>
          -- only a complete temporary file is moved
          show StateT.run (OptionT.run (Files.move (Store.temporary path) path >>= fun moved =>
            if moved then pure (Except.ok ())
            else pure (Except.error (Error.libraryIrreplaceable path)))) halfway = _
          rw [OptionT.run_bind, Option.elimM, StateT.run_bind, hmove]
          obtain ⟨answer, last⟩ := moved
          rcases answer with _ | _ | _ <;> rfl

/-- What replacing a file leads to: nothing happens to it and that is not taken for a success, or
it holds the text of the library and that is not taken for a failure. -/
theorem replaceFile_cases (machine : Machine) (path : String) (library : Library) :
    let after := (Store.replaceFile path library : OptionT (StateM Machine) _).run.run machine
    (after.2.moves = machine.moves ∧ after.2.volume.find path = machine.volume.find path ∧
        ∀ result ∈ after.1, ∃ error, result = .error error) ∨
      (after.2.moves = machine.moves + 1 ∧
        (∃ location, after.2.volume.find path = .present location (.file library.render.toUTF8)) ∧
        ∀ result ∈ after.1, result = .ok ()) := by
  rw [run_replaceFile]
  obtain ⟨hmoves, hfind, htemporary⟩ := machine.write_cases path library.render.toUTF8
  generalize machine.write (Store.temporary path) library.render.toUTF8 = written at *
  obtain ⟨answer, halfway⟩ := written
  by_cases hwritten : answer = some true
  · obtain ⟨location, hcontent⟩ := htemporary hwritten
    have hmove := halfway.move_cases (Store.temporary path) path
    rw [if_pos hwritten]
    generalize halfway.move (Store.temporary path) path = moved at *
    obtain ⟨answer, last⟩ := moved
    rcases hmove with ⟨hvolume, hsame, hanswer⟩ | ⟨hmoved, hmore, hanswer⟩
    · refine .inl ⟨hsame.trans hmoves, (congrArg (·.find path) hvolume).trans hfind, ?_⟩
      intro result hresult
      obtain ⟨done, hdone, rfl⟩ := Option.map_eq_some_iff.1 hresult
      cases done with
      | true => exact absurd hdone hanswer
      | false => exact ⟨_, rfl⟩
    · -- what was moved is what was written
      obtain ⟨origin, place, content, hsource, htarget⟩ := Volume.find_move? hmoved
      rw [hcontent] at hsource
      cases hsource
      refine .inr ⟨?_, ⟨place, htarget⟩, ?_⟩
      · rw [← hmoves]
        exact hmore
      · intro result hresult
        obtain ⟨done, hdone, rfl⟩ := Option.map_eq_some_iff.1 hresult
        cases done with
        | true => rfl
        | false => exact absurd hdone hanswer
  · rw [if_neg hwritten]
    refine .inl ⟨hmoves, hfind, ?_⟩
    intro result hresult
    obtain ⟨done, -, rfl⟩ := Option.map_eq_some_iff.1 hresult
    exact ⟨_, rfl⟩

end Machine

/-! ## Steps -/

/-- A change to a store. -/
inductive Step where
  | put (event : Event)
  | delete (name : String)

namespace Step

/-- The effect of a change on a library in memory. -/
def effect (library : Library) : Step → Library
  | put event => library.put event
  | delete name => library.erase name

/-- Whether a change finds nothing to do. -/
def isIdle (library : Library) : Step → Bool
  | put _ => false
  | delete name => !library.contains name

theorem effect_of_isIdle {library : Library} {step : Step} (h : step.isIdle library = true) :
    step.effect library = library := by
  cases step with
  | put event => cases h
  | delete name => exact Library.erase_of_not_contains (by simpa [isIdle] using h)

section Running

variable {m : Type → Type} [Monad m] [Files m]

/-- Make a change to a store and tell whether there was anything to do. -/
def perform : Step → StoreM m Bool
  | put event => do
    Store.put event
    return true
  | delete name => Store.delete name

/-- A change is made in memory first, and then the file is replaced. -/
theorem run_perform [LawfulMonad m] (step : Step) (library : Library) (path : String) :
    (step.perform : StoreM m Bool).run.run ⟨library, some path⟩ =
      if step.isIdle library then pure (.ok false, ⟨library, some path⟩)
      else (fun result => (result.map fun _ => true, ⟨step.effect library, some path⟩)) <$>
        Store.replaceFile path (step.effect library) := by
  have hflush : ∀ library : Library, ((do Store.flush; return true : StoreM m Bool).run.run
      ⟨library, some path⟩) =
        (fun result => (result.map fun _ => true, ⟨library, some path⟩)) <$>
          Store.replaceFile path library := by
    intro library
    rw [StoreM.run_bind, Store.run_flush_file, map_eq_pure_bind, map_eq_pure_bind, bind_assoc]
    refine bind_congr fun result => ?_
    rw [pure_bind]
    cases result with
    | ok value => rfl
    | error error => rfl
  cases step with
  | put event =>
      rw [if_neg (by simp [isIdle]), perform, Store.put, bind_assoc, StoreM.run_bind,
        StoreM.run_modify, pure_bind]
      exact hflush (library.put event)
  | delete name =>
      rw [perform, Store.delete, StoreM.run_bind, StoreM.run_get, pure_bind]
      cases hcontains : library.contains name with
      | false =>
          simp only [hcontains, isIdle, Bool.false_eq_true, if_false, Bool.not_false, if_true]
          rfl
      | true =>
          simp only [hcontains, isIdle, Bool.not_true, Bool.false_eq_true, if_false, if_true]
          rw [StoreM.run_bind, StoreM.run_set, pure_bind]
          exact hflush (library.erase name)

end Running

end Step

end EventAlgebra
