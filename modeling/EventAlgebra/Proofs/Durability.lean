import EventAlgebra.Proofs.Machines

/-!
# Durability

Changes are made to a store one after the other, on a machine on which anything can go wrong.
`Course.take` makes one change and `Course.Taken` says all that it can lead to; what holds in
every run follows from that, change by change.

The file of a library has the bytes that it had at first, or the text of the library as it was when
the file was last replaced, while the library in memory may be ahead of it
(`library_file_replaced`). Every moment of a run is the end of a run that is stopped there, so this
holds at every moment.

What is acknowledged is not always in the file. A change that could not be written stays in memory,
and deleting an event that is left in the file only is taken for done (`open_acknowledged`).
-/

set_option autoImplicit false

namespace EventAlgebra

/-! ## Runs -/

/-- The course of the changes that a program makes to a library, as far as it has come. -/
structure Course where
  /-- The library in memory, unless the program was stopped. -/
  memory : Option Library
  machine : Machine
  /-- The library in memory as it was when the file was last replaced, if it ever was. -/
  flushed : Option Library
  /-- What the program learned of its changes, in order. -/
  results : List (Except Error Bool)

namespace Course

/-- A program that has opened a library. -/
def begun (library : Library) (machine : Machine) : Course :=
  ⟨some library, machine, none, []⟩

/-- Make a change to the library of a file, unless the program was stopped before. -/
def take (path : String) (course : Course) (step : Step) : Course :=
  match course.memory with
  | none => course
  | some library =>
    let after := OptionT.run ((step.perform : StoreM (OptionT (StateM Machine)) Bool).run.run
      ⟨library, some path⟩) |>.run course.machine
    { memory := after.1.map fun found => found.2.library
      machine := after.2
      flushed :=
        if after.2.moves = course.machine.moves then course.flushed
        else some (step.effect library)
      results := course.results ++ (after.1.map Prod.fst).toList }

/-- Make changes one after the other. -/
def run (path : String) (course : Course) (steps : List Step) : Course :=
  steps.foldl (take path) course

/-- The file of a library was last replaced with the text of a library. -/
def Wrote (path : String) (course : Course) (library : Library) : Prop :=
  course.flushed = some library ∧ ∃ location, course.machine.volume.find path =
    .present location (.file library.render.toUTF8)

/-- The file of a library is the same as before. -/
def SameFile (path : String) (before after : Course) : Prop :=
  after.flushed = before.flushed ∧
    after.machine.volume.find path = before.machine.volume.find path

/-- What a change to a library in memory can lead to. -/
inductive Taken (path : String) (library : Library) (step : Step) (before after : Course) : Prop
  /-- There is nothing to do. -/
  | idle (hidle : step.isIdle library = true) (hmemory : after.memory = some library)
      (hresults : after.results = before.results ++ [.ok false])
      (hfile : before.SameFile path after)
  /-- The file could not be replaced. The change stays in memory. -/
  | failed (error : Error) (hmemory : after.memory = some (step.effect library))
      (hresults : after.results = before.results ++ [.error error])
      (hfile : before.SameFile path after)
  | replaced (hmemory : after.memory = some (step.effect library))
      (hresults : after.results = before.results ++ [.ok true])
      (hfile : after.Wrote path (step.effect library))
  /-- The program was stopped, before the file was replaced or after that. -/
  | stopped (hmemory : after.memory = none) (hresults : after.results = before.results)
      (hfile : before.SameFile path after ∨ after.Wrote path (step.effect library))

/-- Every change leads to one of these. -/
theorem taken (path : String) {library : Library} {course : Course}
    (hmemory : course.memory = some library) (step : Step) :
    Taken path library step course (course.take path step) := by
  rw [take, hmemory]
  simp only [Step.run_perform]
  cases hidle : step.isIdle library with
  | true =>
      refine .idle hidle rfl rfl ⟨if_pos rfl, rfl⟩
  | false =>
      have hcases := course.machine.replaceFile_cases path (step.effect library)
      simp only [Bool.false_eq_true, if_false, OptionT.run_map, StateT.run_map]
      generalize (Store.replaceFile path (step.effect library) :
        OptionT (StateM Machine) (Except Error Unit)).run.run course.machine = ran at hcases ⊢
      obtain ⟨answer, machine⟩ := ran
      -- Only a move puts a new file in place, so the count of moves tells the two cases apart.
      rcases hcases with ⟨hmoves, hfind, hanswer⟩ | ⟨hmoves, hfound, hanswer⟩
      · cases answer with
        | none => exact .stopped rfl (List.append_nil _) (.inl ⟨if_pos hmoves, hfind⟩)
        | some result =>
            obtain ⟨error, rfl⟩ := hanswer result rfl
            exact .failed error rfl rfl ⟨if_pos hmoves, hfind⟩
      · have hcount : machine.moves = course.machine.moves + 1 := hmoves
        have hmore : machine.moves ≠ course.machine.moves := by omega
        cases answer with
        | none => exact .stopped rfl (List.append_nil _) (.inr ⟨if_neg hmore, hfound⟩)
        | some result =>
            obtain rfl := hanswer result rfl
            exact .replaced rfl rfl ⟨if_neg hmore, hfound⟩

/-- A program that was stopped makes no more changes. -/
theorem take_of_stopped {path : String} {course : Course} (h : course.memory = none)
    (step : Step) : course.take path step = course := by
  rw [take, h]

theorem run_concat (path : String) (course : Course) (steps : List Step) (step : Step) :
    course.run path (steps ++ [step]) = (course.run path steps).take path step := by
  rw [run, List.foldl_append]
  rfl

/-- What holds at the start of a run, and is kept by each change and after a stop, holds at its
end. -/
theorem run_induction {path : String} {start : Course} {motive : List Step → Course → Prop}
    (hstart : motive [] start)
    (hstopped : ∀ steps step before, motive steps before → before.memory = none →
      motive (steps ++ [step]) before)
    (htaken : ∀ steps step library before after, motive steps before →
      before.memory = some library → Taken path library step before after →
      motive (steps ++ [step]) after) (steps : List Step) :
    motive steps (start.run path steps) := by
  induction steps using List.reverseRecOn with
  | nil => exact hstart
  | append_singleton steps step ih =>
      -- The last change is the one that `taken` speaks of.
      rw [run_concat]
      cases hmemory : (start.run path steps).memory with
      | none =>
          rw [take_of_stopped hmemory]
          exact hstopped steps step _ ih hmemory
      | some library => exact htaken steps step library _ _ ih hmemory (taken path hmemory step)

/-- What is found at the path of a library is what was found there at first, or the text of the
library as of the last replacement. -/
def Faithful (path : String) (original : Volume) (course : Course) : Prop :=
  match course.flushed with
  | none => course.machine.volume.find path = original.find path
  | some library => ∃ location,
      course.machine.volume.find path = .present location (.file library.render.toUTF8)

theorem Faithful.of_sameFile {path : String} {original : Volume} {before after : Course}
    (h : before.Faithful path original) (hfile : before.SameFile path after) :
    after.Faithful path original := by
  rw [Faithful, hfile.1, hfile.2]
  exact h

theorem Faithful.of_wrote {path : String} {original : Volume} {after : Course}
    {library : Library} (hfile : after.Wrote path library) : after.Faithful path original := by
  rw [Faithful, hfile.1]
  exact hfile.2

/-- The file of a library stays faithful in a run, whatever happens to a change. -/
theorem faithful_run (path : String) (library : Library) (machine : Machine) (steps : List Step) :
    ((begun library machine).run path steps).Faithful path machine.volume := by
  refine run_induction (motive := fun _ course => course.Faithful path machine.volume) ?_ ?_ ?_
    steps
  · rfl
  · exact fun steps step before h hstopped => h
  · intro steps step library before after h hmemory htaken
    cases htaken with
    | idle _ _ _ hfile => exact h.of_sameFile hfile
    | failed _ _ _ hfile => exact h.of_sameFile hfile
    | replaced _ _ hfile => exact .of_wrote hfile
    | stopped _ _ hfile =>
        rcases hfile with hsame | hwrote
        · exact h.of_sameFile hsame
        · exact .of_wrote hwrote

/-- All changes of a run are made in memory, also those that failed. -/
theorem memory_run (path : String) (library : Library) (machine : Machine) (steps : List Step) :
    ∀ memory, ((begun library machine).run path steps).memory = some memory →
      memory = steps.foldl Step.effect library := by
  refine run_induction (motive := fun steps course => ∀ memory, course.memory = some memory →
    memory = steps.foldl Step.effect library) ?_ ?_ ?_ steps
  · intro memory hmemory
    exact (Option.some.inj hmemory).symm
  · intro steps step before h hstopped memory hmemory
    rw [hstopped] at hmemory
    cases hmemory
  · intro steps step former before after h hbefore htaken memory hmemory
    rw [List.foldl_append, ← h former hbefore]
    cases htaken with
    | idle hidle hafter _ _ =>
        have hsame : step.effect former = former := Step.effect_of_isIdle hidle
        rw [hafter] at hmemory
        exact (Option.some.inj hmemory).symm.trans hsame.symm
    | failed _ hafter _ _ =>
        rw [hafter] at hmemory
        exact (Option.some.inj hmemory).symm
    | replaced hafter _ _ =>
        rw [hafter] at hmemory
        exact (Option.some.inj hmemory).symm
    | stopped hafter _ _ =>
        rw [hafter] at hmemory
        cases hmemory

/-- What the program learns of a change tells what has become of the file. -/
theorem file_of_results {path : String} {course : Course} {step : Step}
    {result : Except Error Bool}
    (h : (course.take path step).results = course.results ++ [result]) :
    ∃ library, course.memory = some library ∧
      (course.take path step).memory = some (step.effect library) ∧
      (result = .ok true → (course.take path step).Wrote path (step.effect library)) ∧
      (result ≠ .ok true → course.SameFile path (course.take path step)) := by
  cases hmemory : course.memory with
  | none => simp [take_of_stopped hmemory] at h
  | some library =>
      refine ⟨library, rfl, ?_⟩
      cases taken path hmemory step with
      | idle hidle hafter hresults hfile =>
          obtain rfl : .ok false = result := by simpa [hresults] using h
          refine ⟨?_, nofun, fun _ => hfile⟩
          rw [hafter, Step.effect_of_isIdle hidle]
      | failed error hafter hresults hfile =>
          obtain rfl : .error error = result := by simpa [hresults] using h
          exact ⟨hafter, nofun, fun _ => hfile⟩
      | replaced hafter hresults hfile =>
          obtain rfl : .ok true = result := by simpa [hresults] using h
          exact ⟨hafter, fun _ => hfile, fun hfalse => absurd rfl hfalse⟩
      | stopped hafter hresults hfile => simp [hresults] at h

end Course

/-! ## The file of a library -/

/-- The bytes of the file that a path leads to. -/
def Volume.bytesAt? (volume : Volume) (path : String) : Option ByteArray :=
  match volume.find path with
  | .present _ (.file content) => some content
  | _ => none

/-- Let changes be made to a library, with any of the calls on files failing, leaving a file half
written, or being the last thing before the program is stopped. At every moment the file has the
bytes that it had at first, if it was never replaced, or those of the text of the library in memory
as it was when the file was last replaced. In memory all changes are made, also those that failed. A
change that fails, or has nothing to do, leaves the file as it is. One that succeeds puts all of the
library in memory into it, with the changes that had failed before. -/
theorem library_file_replaced (path : String) (library : Library) (machine : Machine)
    (steps : List Step) :
    let reached := (Course.begun library machine).run path steps
    reached.machine.volume.bytesAt? path =
        (match reached.flushed with
        | none => machine.volume.bytesAt? path
        | some kept => some kept.render.toUTF8) ∧
      (∀ memory ∈ reached.memory, memory = steps.foldl Step.effect library) ∧
      ∀ step result,
        let next := reached.take path step
        next.results = reached.results ++ [result] →
          (result = .ok true →
            next.flushed = some ((steps ++ [step]).foldl Step.effect library)) ∧
          (result ≠ .ok true → next.flushed = reached.flushed ∧
            next.machine.volume.bytesAt? path = reached.machine.volume.bytesAt? path) := by
  intro reached
  refine ⟨?_, Course.memory_run path library machine steps, ?_⟩
  · have hfaithful : reached.Faithful path machine.volume :=
      Course.faithful_run path library machine steps
    unfold Course.Faithful at hfaithful
    cases hflushed : reached.flushed with
    | none =>
        simp only [hflushed] at hfaithful
        simp only [Volume.bytesAt?, hfaithful]
    | some kept =>
        simp only [hflushed] at hfaithful
        obtain ⟨location, hfound⟩ := hfaithful
        simp only [Volume.bytesAt?, hfound]
  · intro step result next hresults
    obtain ⟨memory, hmemory, -, hwrote, hsame⟩ := Course.file_of_results hresults
    constructor
    · intro hok
      rw [List.foldl_append, ← Course.memory_run path library machine steps memory hmemory]
      exact (hwrote hok).1
    · intro hnot
      obtain ⟨hflushed, hfind⟩ := hsame hnot
      exact ⟨hflushed, by rw [Volume.bytesAt?, hfind, Volume.bytesAt?]⟩

/-- A machine with an empty library outside of the working directory. The first write leaves a part
of a file and fails, and the program is stopped right after the second move. -/
def faultyMachine : Machine where
  volume := ⟨[(["srv"], .directory), (["srv", "library.json"], .file "[]".toUTF8)]⟩
  fates := [⟨false, some "[\n".toUTF8, false⟩, .smooth, .smooth, .smooth, ⟨true, none, true⟩]
  moves := 0

/-- The changes made on that machine. -/
def faultySteps : List Step :=
  [.put (.withAlgebra "A" [] "x"), .put (.withAlgebra "B" [] "y"), .delete "A"]

/-- The course of the first of these changes. -/
def faultyCourse (count : Nat) : Course :=
  (Course.begun .empty faultyMachine).run "/srv/library.json" (faultySteps.take count)

/-- The first change fails and leaves the file alone. The second one writes both events. The third
one is in the file although the program has not learned of it. -/
theorem library_file_replaced_faultySteps :
    let second := Step.put (.withAlgebra "B" [] "y")
    (faultyCourse 1).machine.volume.bytesAt? "/srv/library.json" = some "[]".toUTF8 ∧
      ((faultyCourse 1).take "/srv/library.json" second).flushed =
        some ((faultySteps.take 1 ++ [second]).foldl Step.effect .empty) ∧
      (faultyCourse 3).memory = none ∧ ∃ kept : Library, kept.events.map Event.name = ["B"] ∧
        (faultyCourse 3).machine.volume.bytesAt? "/srv/library.json" =
          some kept.render.toUTF8 := by
  intro second
  obtain ⟨hfailed, -, hnext⟩ :=
    library_file_replaced "/srv/library.json" .empty faultyMachine (faultySteps.take 1)
  obtain ⟨hstopped, -⟩ :=
    library_file_replaced "/srv/library.json" .empty faultyMachine (faultySteps.take 3)
  rw [← faultyCourse] at hfailed hstopped hnext
  have hnever : (faultyCourse 1).flushed = none := by
    rw [← Option.isNone_iff_eq_none]
    decide +kernel
  have hmemory : (faultyCourse 3).memory = none := by
    rw [← Option.isNone_iff_eq_none]
    decide +kernel
  have hlast : (faultyCourse 3).flushed.map (fun kept => kept.events.map Event.name) =
      some ["B"] := by decide +kernel
  obtain ⟨kept, hkept, hnames⟩ := Option.map_eq_some_iff.1 hlast
  have hresults : ((faultyCourse 1).take "/srv/library.json" second).results =
      (faultyCourse 1).results ++ [.ok true] := rfl
  rw [hnever] at hfailed
  rw [hkept] at hstopped
  exact ⟨hfailed, (hnext second (.ok true) hresults).1 rfl, hmemory, kept, hnames, hstopped⟩

/-! ## What is acknowledged -/

/-- A change that saves no value with its event. -/
def Step.Stateless : Step → Prop
  | put event => event.state = none
  | delete _ => True

theorem Step.Stateless.held_effect {step : Step} (h : step.Stateless) {depth : Nat}
    {library : Library} (hheld : library.Held depth) : (step.effect library).Held depth := by
  cases step with
  | put event =>
      refine hheld.put fun state hstate => ?_
      rw [show event.state = none from h] at hstate
      cases hstate
  | delete name => exact hheld.erase name

namespace Course

/-- What is in memory and what was last written can both be read back. -/
def Readable (course : Course) : Prop :=
  (∀ library ∈ course.memory, library.Held (Json.depthLimit - 2)) ∧
    ∀ library ∈ course.flushed, library.Held (Json.depthLimit - 2)

theorem readable_run (path : String) (machine : Machine) (steps : List Step) :
    (∀ step ∈ steps, step.Stateless) → ((begun .empty machine).run path steps).Readable := by
  refine run_induction (motive := fun steps course => (∀ step ∈ steps, step.Stateless) →
    course.Readable) ?_ ?_ ?_ steps
  · intro _
    simpa [begun, Readable] using Library.held_empty _
  · intro steps step before h hstopped hsteps
    exact h (List.forall_mem_append.1 hsteps).1
  · intro steps step library before after h hmemory htaken hsteps
    rw [List.forall_mem_append, List.forall_mem_singleton] at hsteps
    have hbefore := h hsteps.1
    have heffect := hsteps.2.held_effect (hbefore.1 library hmemory)
    cases htaken with
    | idle _ hafter _ hfile =>
        simpa [Readable, hafter, hfile.1] using ⟨hbefore.1 library hmemory, hbefore.2⟩
    | failed _ hafter _ hfile => simpa [Readable, hafter, hfile.1] using ⟨heffect, hbefore.2⟩
    | replaced hafter _ hfile => simpa [Readable, hafter, hfile.1] using heffect
    | stopped hafter _ hfile =>
        rcases hfile with hsame | hwrote
        · simpa [Readable, hafter, hsame.1] using hbefore.2
        · simpa [Readable, hafter, hwrote.1] using heffect

/-- As long as no change has failed, memory is not ahead of the file. -/
theorem flushed_of_all_ok (path : String) (machine : Machine) (steps : List Step) :
    ∀ memory, ((begun .empty machine).run path steps).memory = some memory →
      (∀ result ∈ ((begun .empty machine).run path steps).results,
        ∃ changed, result = .ok changed) →
      ((begun .empty machine).run path steps).flushed.getD .empty = memory := by
  refine run_induction (motive := fun _ course => ∀ memory, course.memory = some memory →
    (∀ result ∈ course.results, ∃ changed, result = .ok changed) →
      course.flushed.getD .empty = memory) ?_ ?_ ?_ steps
  · intro memory hmemory _
    exact Option.some.inj hmemory
  · exact fun steps step before h hstopped => h
  · intro steps step former before after h hbefore htaken memory hmemory hok
    cases htaken with
    | idle _ hafter hresults hfile =>
        rw [hafter] at hmemory
        rw [hresults, List.forall_mem_append] at hok
        rw [hfile.1, ← Option.some.inj hmemory]
        exact h former hbefore hok.1
    | failed error _ hresults _ =>
        -- Memory would be ahead now, but the program has learned of the failure.
        rw [hresults, List.forall_mem_append, List.forall_mem_singleton] at hok
        obtain ⟨changed, hfalse⟩ := hok.2
        cases hfalse
    | replaced hafter _ hfile =>
        rw [hafter] at hmemory
        rw [hfile.1, ← Option.some.inj hmemory]
        rfl
    | stopped hafter _ _ =>
        rw [hafter] at hmemory
        cases hmemory

/-- Opening the file gives the library that was last written. -/
theorem open_eq {path : String} {original : Volume} {course : Course}
    (hmissing : original.readText path = .missing) (hfaithful : course.Faithful path original)
    (hreadable : course.Readable) :
    (Desk.ofVolume course.machine.volume).open path =
      .ok ⟨course.flushed.getD .empty, some path⟩ := by
  have hopen : (Desk.ofVolume course.machine.volume).open path =
      Store.ofReading path (course.machine.volume.readText path) := rfl
  unfold Faithful at hfaithful
  cases hflushed : course.flushed with
  | none =>
      simp only [hflushed] at hfaithful
      have hread : course.machine.volume.readText path = .missing := by
        rw [← hmissing, Volume.readText, hfaithful, Volume.readText]
      rw [hopen, hread]
      rfl
  | some library =>
      simp only [hflushed] at hfaithful
      obtain ⟨location, hfound⟩ := hfaithful
      rw [hopen, Volume.readText_of_find hfound,
        Store.ofReading_of_held (hreadable.2 library hflushed)]
      rfl

end Course

/-- Let changes without kept values be made to a library that does not exist at first, with any of
the calls on files failing. If a change is acknowledged, the library can be opened. After a change
that had something to do it is the library in memory. After one that had not, it is the library as
it was when the file was last replaced, and that is the one in memory if no change has failed
before. -/
theorem open_acknowledged (path : String) (machine : Machine) (steps : List Step) (step : Step)
    (hmissing : machine.volume.readText path = .missing)
    (hsteps : ∀ step' ∈ steps ++ [step], step'.Stateless) (changed : Bool) :
    let before := (Course.begun .empty machine).run path steps
    let after := before.take path step
    after.results = before.results ++ [.ok changed] →
      ∃ memory, after.memory = some memory ∧
        memory = (steps ++ [step]).foldl Step.effect .empty ∧
        (Desk.ofVolume after.machine.volume).open path =
          .ok ⟨if changed then memory else before.flushed.getD .empty, some path⟩ ∧
        ((∀ result ∈ before.results, ∃ changed, result = .ok changed) →
          (Desk.ofVolume after.machine.volume).open path = .ok ⟨memory, some path⟩) := by
  intro before after hresults
  have hafter : after = (Course.begun .empty machine).run path (steps ++ [step]) :=
    (Course.run_concat path _ steps step).symm
  obtain ⟨library, hlibrary, hmemory, hwrote, hsame⟩ := Course.file_of_results hresults
  have hopen : (Desk.ofVolume after.machine.volume).open path =
      .ok ⟨after.flushed.getD .empty, some path⟩ := by
    rw [hafter]
    exact Course.open_eq hmissing (Course.faithful_run path .empty machine _)
      (Course.readable_run path machine _ hsteps)
  refine ⟨step.effect library, hmemory, ?_, ?_, ?_⟩
  · rw [List.foldl_append, ← Course.memory_run path .empty machine steps library hlibrary]
    rfl
  · cases changed with
    | true =>
        rw [hopen, (hwrote rfl).1]
        rfl
    | false =>
        rw [hopen, (hsame nofun).1]
        rfl
  · intro hok
    have hall : ∀ result ∈ ((Course.begun .empty machine).run path (steps ++ [step])).results,
        ∃ changed, result = .ok changed := by
      rw [← hafter, hresults, List.forall_mem_append, List.forall_mem_singleton]
      exact ⟨hok, changed, rfl⟩
    have hlast : ((Course.begun .empty machine).run path (steps ++ [step])).memory =
        some (step.effect library) := by
      rw [← hafter]
      exact hmemory
    rw [hopen, hafter, Course.flushed_of_all_ok path machine _ _ hlast hall]

/-- A machine that has no files yet and fails to write the second time. -/
def hesitantMachine : Machine :=
  ⟨⟨[]⟩, [.smooth, .smooth, ⟨false, none, false⟩], 0⟩

/-- An event is saved and deleted. -/
def brieflySaved : List Step :=
  [.put (.withAlgebra "A" [] "x"), .delete "A"]

/-- An event whose deletion failed is deleted again. That is taken for done, and the event is still
in the file. -/
theorem open_acknowledged_deletion :
    let before := (Course.begun .empty hesitantMachine).run "/library.json" brieflySaved
    let after := before.take "/library.json" (.delete "A")
    after.results = before.results ++ [.ok false] ∧ after.memory = some .empty ∧
      (Desk.ofVolume after.machine.volume).open "/library.json" =
        .ok ⟨Library.empty.put (.withAlgebra "A" [] "x"), some "/library.json"⟩ := by
  intro before after
  have hmissing : hesitantMachine.volume.readText "/library.json" = .missing := by decide +kernel
  have hsteps : ∀ step ∈ brieflySaved ++ [.delete "A"], step.Stateless := by
    simp [brieflySaved, Step.Stateless, Event.withAlgebra]
  have hresults : after.results = before.results ++ [.ok false] := rfl
  have hflushed : before.flushed = some (Library.empty.put (.withAlgebra "A" [] "x")) := rfl
  have hempty : after.memory = some .empty := rfl
  obtain ⟨memory, -, -, hopen, -⟩ := open_acknowledged "/library.json" hesitantMachine brieflySaved
    (.delete "A") hmissing hsteps false hresults
  refine ⟨hresults, hempty, hopen.trans ?_⟩
  rw [if_neg (by decide), show Course.flushed _ = _ from hflushed]
  rfl

end EventAlgebra
