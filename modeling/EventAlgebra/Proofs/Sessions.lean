import EventAlgebra.Proofs.Effects

/-!
# Sessions

A session carries out commands one after the other on a store that stays open. The program itself
runs once for each command, and opens the library each time. As long as no access to a file fails,
there is no difference: between two commands that save or delete, the file gives back exactly the
store that a session has in memory (`Store.Kept`).

One command keeps that up (`Command.ensures_kept`), hence a session does (`Store.Kept.session`).
Opening the library anew then changes nothing, wherever and however often it is done
(`Store.Kept.processes_eq`), and a session gives what the program gives command by command.
-/

set_option autoImplicit false

namespace EventAlgebra

open Text

/-! ## Jobs -/

/-- A command and the date on which it is given. -/
structure Job where
  command : Command
  date : String

/-- Carry out a job on an open store at a desk. -/
def Job.perform (job : Job) (store : Store) (desk : Desk) : Outcome Unit :=
  desk.perform store (job.command.perform job.date)

/-- Commands that save a definition or delete an event. -/
def Command.isSaving : Command → Bool
  | compile _ _ save => save
  | recompile _ _ save => save
  | delete _ => true
  | _ => false

/-- Whether a command was given up because a file could not be read or written. -/
def deniedAccess : Except Error Unit → Bool
  | .ok _ => false
  | .error error => error.kind = .fileAccess

/-- What a session leads to: the result of each command, the store in memory, and the desk. -/
structure Session where
  results : List (Except Error Unit)
  store : Store
  desk : Desk

/-- Carry out jobs one after the other on a store that stays open. A command that is given up does
not end the session. -/
def Store.session (store : Store) (desk : Desk) : List Job → Session
  | [] => ⟨[], store, desk⟩
  | job :: jobs =>
    let outcome := job.perform store desk
    let rest := outcome.store.session outcome.desk jobs
    { rest with results := outcome.result :: rest.results }

/-- Carry out lists of jobs, each by a process of its own, which opens the library when it starts
and drops it at its end. -/
def Desk.processes (desk : Desk) (path : String) :
    List (List Job) → Except Error (List (Except Error Unit) × Desk)
  | [] => .ok ([], desk)
  | jobs :: rest => do
    let store ← desk.open path
    let session := store.session desk jobs
    let (results, desk) ← session.desk.processes path rest
    return (session.results ++ results, desk)

/-- Give jobs to the program one after the other. -/
def invocations (path : String) (jobs : List Job) : StateM Desk (List (Except Error Unit)) :=
  jobs.mapM fun job => Invocation.run ⟨path, job.command⟩ job.date

/-! ## Kept stores -/

/-- A store that its file gives back. -/
structure Store.Kept (path : String) (store : Store) (desk : Desk) : Prop where
  file : store.file = some path
  held : store.library.Held (Json.depthLimit - 2)
  opens : Store.ofReading path (desk.volume.readText path) = .ok store

namespace Store.Kept

variable {path : String} {store : Store} {desk : Desk}

theorem open_eq (h : store.Kept path desk) : desk.open path = .ok store :=
  h.opens

/-- A library that does not exist yet is an empty one. -/
theorem of_missing (h : desk.volume.readText path = .missing) :
    (⟨.empty, some path⟩ : Store).Kept path desk :=
  ⟨rfl, Library.held_empty _, by rw [h]; rfl⟩

/-- A file that was brought up to date gives its store back. -/
theorem of_render {library : Library} (hheld : library.Held (Json.depthLimit - 2))
    (h : desk.volume.readText path = .text library.render) :
    (⟨library, some path⟩ : Store).Kept path desk := by
  refine ⟨rfl, hheld, ?_⟩
  rw [h, Store.ofReading_of_held hheld]

theorem volumeOnly : VolumeOnly (Store.Kept path) := by
  intro store desk desk' hvolume hkept
  exact ⟨hkept.file, hkept.held, hvolume ▸ hkept.opens⟩

end Store.Kept

/-! ## One command -/

/-- A store that a file is to keep, whatever the file holds. -/
def Store.Ready (path : String) (store : Store) : Prop :=
  store.file = some path ∧ store.library.Held (Json.depthLimit - 2)

/-- Either an access to a file failed, or the store is still kept. -/
def DeniedOrKept (path : String) (error : Error) (store : Store) (desk : Desk) : Prop :=
  error.kind = .fileAccess ∨ store.Kept path desk

theorem Store.ensures_kept_get (path : String) :
    Ensures (Store.Kept path) get (fun _ => Store.Kept path) (DeniedOrKept path) :=
  Ensures.get fun _ _ hkept => hkept

/-- Bringing its file up to date makes a store kept, whatever the file held before. -/
theorem Store.ensures_kept_flush (path : String) :
    Ensures (fun store _ => store.Ready path) Store.flush (fun _ => Store.Kept path)
      (DeniedOrKept path) := by
  rintro ⟨library, file⟩ desk ⟨rfl, hheld⟩
  refine (ensures_flush library path).consequence (fun _ _ h => h) ?_ ?_ _ desk rfl
  · rintro _ store desk ⟨rfl, hread⟩
    exact .of_render hheld hread
  · exact fun error store desk hdenied => .inl hdenied

theorem Store.ensures_kept_put (path : String) {event : Event}
    (hevent : event.Held (Json.depthLimit - 2)) :
    Ensures (fun store _ => store.Ready path) (Store.put event) (fun _ => Store.Kept path)
      (DeniedOrKept path) := by
  have hmodify : Ensures (fun store _ => store.Ready path)
      (modify fun store => { store with library := store.library.put event })
      (fun _ store _ => store.Ready path) (DeniedOrKept path) :=
    Ensures.modify fun store desk hready => ⟨hready.1, hready.2.put hevent⟩
  exact hmodify.bind fun _ => Store.ensures_kept_flush path

theorem Store.ensures_kept_delete (path name : String) :
    Ensures (Store.Kept path) (Store.delete name) (fun _ => Store.Kept path)
      (DeniedOrKept path) := by
  have hget : Ensures (Store.Kept path) get
      (fun found store desk => found = store ∧ store.Kept path desk) (DeniedOrKept path) :=
    Ensures.get fun store desk hkept => ⟨rfl, hkept⟩
  refine hget.bind fun found => ?_
  split
  · have hset : Ensures (fun store desk => found = store ∧ store.Kept path desk)
        (set { found with library := found.library.erase name })
        (fun _ store _ => store.Ready path) (DeniedOrKept path) := by
      apply Ensures.set
      rintro store desk ⟨rfl, hkept⟩
      exact ⟨hkept.file, hkept.held.erase name⟩
    refine hset.bind fun _ => (Store.ensures_kept_flush path).bind fun _ => ?_
    exact Ensures.pure fun store desk hkept => hkept
  · exact Ensures.pure fun store desk h => h.2

theorem Command.ensures_kept_define (path date : String) (form : Form) (output : Output) :
    Ensures (Store.Kept path) (Command.define date form output true) (fun _ => Store.Kept path)
      (DeniedOrKept path) := by
  have hcompile : Ensures (Store.Kept path)
      (ExceptT.mk do return (← MonadState.get).library.compileForm true form)
      (fun _ => Store.Kept path) (DeniedOrKept path) :=
    Ensures.ask (fun store desk compiled _ hkept => hkept)
      (fun store desk error _ hkept => .inr hkept)
  refine hcompile.bind fun compiled => ?_
  have hwarn : Ensures (Store.Kept path) (compiled.warnings.forM Command.warn)
      (fun _ store _ => store.Ready path) (DeniedOrKept path) :=
    (Ensures.forM (ensures_warn Store.Kept.volumeOnly)).consequence (fun _ _ h => h)
      (fun _ store desk hkept => ⟨hkept.file, hkept.held⟩) (fun _ _ _ h => h)
  refine hwarn.bind fun _ => ?_
  -- the result may be written over anything, even over the library, which is then written again
  refine (ensures_emit output.file _ fun file _ store desk hready => .inl rfl).bind fun _ => ?_
  have hevent : (compiled.toEvent form date).Held (Json.depthLimit - 2) :=
    compiled.held_toEvent form date (by decide)
  refine (Store.ensures_kept_put path hevent).bind fun _ => ?_
  exact (Store.ensures_kept_get path).bind fun _ => ensures_say Store.Kept.volumeOnly _

/-- What is read off a text, without the store and the desk, leaves both as they are. -/
theorem ensures_kept_result {α : Type} (path : String) (result : Except Error α) :
    Ensures (Store.Kept path) (ExceptT.mk (pure result)) (fun _ => Store.Kept path)
      (DeniedOrKept path) := by
  intro store desk hkept
  cases result with
  | ok value => exact hkept
  | error error => exact .inr hkept

/-- A command that saves or deletes leaves a kept store kept, unless an access to a file fails. -/
theorem Command.ensures_kept (path date : String) {command : Command}
    (hsaving : command.isSaving = true) :
    Ensures (Store.Kept path) (command.perform date) (fun _ => Store.Kept path)
      (DeniedOrKept path) := by
  cases command with
  | compile requestFile output save =>
      obtain rfl : save = true := hsaving
      refine (ensures_readFile fun store desk hkept => .inl rfl).bind fun text => ?_
      refine (ensures_kept_result path _).bind fun form => ?_
      exact Command.ensures_kept_define path date form output
  | recompile name output save =>
      obtain rfl : save = true := hsaving
      refine (Store.ensures_kept_get path).bind fun found => ?_
      cases found.library.get? name with
      | none => exact Ensures.throw fun store desk hkept => .inr hkept
      | some event =>
          refine (ensures_kept_result path event.form?).bind fun form? => ?_
          cases form? with
          | none => exact Ensures.throw fun store desk hkept => .inr hkept
          | some form => exact Command.ensures_kept_define path date form output
  | delete name =>
      refine (Store.ensures_kept_delete path name).bind fun removed => ?_
      cases removed with
      | true => exact ensures_say Store.Kept.volumeOnly _
      | false => exact ensures_warn Store.Kept.volumeOnly _
  | list => cases hsaving
  | exportEvent name file => cases hsaving
  | importEvent file => cases hsaving

/-! ## Sessions -/

/-- A session that goes on. -/
theorem Store.session_append (store : Store) (desk : Desk) (before after : List Job) :
    store.session desk (before ++ after) =
      let midway := store.session desk before
      let rest := midway.store.session midway.desk after
      { rest with results := midway.results ++ rest.results } := by
  induction before generalizing store desk with
  | nil => rfl
  | cons job before ih =>
      rw [List.cons_append, Store.session, ih]
      rfl

/-- One job of a session, as a fact about what it leads to. -/
theorem Store.Kept.perform {path : String} {store : Store} {desk : Desk} {job : Job}
    (hkept : store.Kept path desk) (hsaving : job.command.isSaving = true)
    (haccess : deniedAccess (job.perform store desk).result = false) :
    (job.perform store desk).store.Kept path (job.perform store desk).desk := by
  have hstep := Command.ensures_kept path job.date hsaving store desk hkept
  rw [← Job.perform] at hstep
  generalize job.perform store desk = outcome at hstep haccess ⊢
  obtain ⟨result, store', desk'⟩ := outcome
  cases result with
  | ok value => exact hstep
  | error error =>
      rcases hstep with hdenied | hstill
      · exact absurd haccess (by simp [deniedAccess, hdenied])
      · exact hstill

/-- Commands that save or delete leave a kept store kept, if no access to a file fails. -/
theorem Store.Kept.session {path : String} {store : Store} {desk : Desk} {jobs : List Job}
    (hkept : store.Kept path desk) (hsaving : ∀ job ∈ jobs, job.command.isSaving = true)
    (haccess : ∀ result ∈ (store.session desk jobs).results, deniedAccess result = false) :
    (store.session desk jobs).store.Kept path (store.session desk jobs).desk := by
  induction jobs generalizing store desk with
  | nil => exact hkept
  | cons job jobs ih =>
      rw [Store.session] at haccess ⊢
      rw [List.forall_mem_cons] at haccess hsaving
      exact ih (hkept.perform hsaving.1 haccess.1) hsaving.2 haccess.2

/-- Opening the library anew between lists of jobs makes no difference. -/
theorem Store.Kept.processes_eq {path : String} {store : Store} {desk : Desk}
    {parts : List (List Job)} (hkept : store.Kept path desk)
    (hsaving : ∀ job ∈ parts.flatten, job.command.isSaving = true)
    (haccess : ∀ result ∈ (store.session desk parts.flatten).results,
      deniedAccess result = false) :
    desk.processes path parts = .ok ((store.session desk parts.flatten).results,
      (store.session desk parts.flatten).desk) := by
  induction parts generalizing store desk with
  | nil => rfl
  | cons jobs parts ih =>
      rw [List.flatten_cons] at hsaving haccess ⊢
      rw [Store.session_append] at haccess ⊢
      simp only [List.forall_mem_append] at hsaving haccess
      have hmidway := hkept.session hsaving.1 haccess.1
      rw [Desk.processes, hkept.open_eq]
      show (Desk.processes _ path parts >>= _) = _
      rw [ih hmidway hsaving.2 haccess.2]
      rfl

/-- The program, run once for each command, gives what a session gives. -/
theorem Store.Kept.invocations_eq {path : String} {store : Store} {desk : Desk} {jobs : List Job}
    (hkept : store.Kept path desk) (hsaving : ∀ job ∈ jobs, job.command.isSaving = true)
    (haccess : ∀ result ∈ (store.session desk jobs).results, deniedAccess result = false) :
    (invocations path jobs).run desk =
      ((store.session desk jobs).results, (store.session desk jobs).desk) := by
  induction jobs generalizing store desk with
  | nil => rfl
  | cons job jobs ih =>
      rw [Store.session] at haccess ⊢
      rw [List.forall_mem_cons] at haccess hsaving
      have hrest := ih (hkept.perform hsaving.1 haccess.1) hsaving.2 haccess.2
      have hload : (Store.load path : StateM Desk (Except Error Store)).run desk =
          (.ok store, desk) := congrArg (·, desk) hkept.opens
      have hrun : (Invocation.run ⟨path, job.command⟩ job.date :
          StateM Desk (Except Error Unit)).run desk =
            ((job.perform store desk).result, (job.perform store desk).desk) := by
        rw [Invocation.run, StateT.run_bind, hload]
        rfl
      rw [invocations, List.mapM_cons, StateT.run_bind, hrun]
      generalize job.perform store desk = outcome at hrest ⊢
      show (let later := (invocations path jobs).run outcome.desk
        (outcome.result :: later.1, later.2)) = _
      rw [hrest]

/-- Let commands that save or delete be carried out on a library that does not exist at first, with
no access to a file failing. After any of them the store can be dropped and opened again: the file
gives back the store in memory. So the results and what is left at the desk are the same for one
session, for any division of the jobs among processes, and for the program run once for each
command. -/
theorem session_reopened (path : String) (jobs : List Job) (desk : Desk)
    (hmissing : desk.volume.readText path = .missing)
    (hsaving : ∀ job ∈ jobs, job.command.isSaving = true)
    (haccess : ∀ result ∈ ((Store.mk .empty (some path)).session desk jobs).results,
      deniedAccess result = false) :
    let whole := (Store.mk .empty (some path)).session desk jobs
    (∀ before after, jobs = before ++ after →
      let midway := (Store.mk .empty (some path)).session desk before
      midway.desk.open path = .ok midway.store) ∧
    (∀ parts : List (List Job), parts.flatten = jobs →
      desk.processes path parts = .ok (whole.results, whole.desk)) ∧
    (invocations path jobs).run desk = (whole.results, whole.desk) := by
  have hstart : (Store.mk .empty (some path)).Kept path desk := .of_missing hmissing
  refine ⟨?_, ?_, hstart.invocations_eq hsaving haccess⟩
  · rintro before after rfl
    rw [Store.session_append] at haccess
    simp only [List.forall_mem_append] at hsaving haccess
    exact (hstart.session hsaving.1 haccess.1).open_eq
  · rintro parts rfl
    exact hstart.processes_eq hsaving haccess

/-- A desk with a request document, written as a list, in a working directory that is two steps
below the root, and with another directory. -/
def requestDesk : Desk :=
  let document := "[\"Pass\", [\"hasBall\", \"\", \x7b\"zone\": \"é\\n\"\x7d], [\"inArea\"]," ++
    "[\"sequential\"]]"
  .ofVolume
    { entries := [(["tmp"], .directory), (["srv", "match", "pass.json"], .file document.toUTF8)]
      working := ⟨["srv", "match"], by decide⟩ }

/-- Jobs at that desk, for a library in the other directory. One writes its result over the library
before it saves, one deletes what is not there, and the last one is given up since its event was
deleted. -/
def requestJobs : List Job :=
  [⟨.compile "pass.json" ⟨none, false⟩ true, "d1"⟩,
    ⟨.recompile "Pass" ⟨some "../../tmp/library.json", false⟩ true, "d2"⟩,
    ⟨.delete "Late", "d3"⟩, ⟨.delete "Pass", "d4"⟩,
    ⟨.recompile "Pass" ⟨none, false⟩ true, "d5"⟩]

theorem session_reopened_requestJobs :
    let start : Store := ⟨.empty, some "/tmp/library.json"⟩
    let midway := start.session requestDesk (requestJobs.take 2)
    let whole := start.session requestDesk requestJobs
    requestDesk.volume.readText "/tmp/library.json" = .missing ∧
      (∀ job ∈ requestJobs, job.command.isSaving = true) ∧
      (∀ result ∈ whole.results, deniedAccess result = false) ∧
      midway.store.library.events.map Event.date = [some "d2"] ∧
      midway.desk.open "/tmp/library.json" = .ok midway.store ∧
      requestDesk.processes "/tmp/library.json" [requestJobs.take 2, [], requestJobs.drop 2] =
        .ok (whole.results, whole.desk) ∧
      (invocations "/tmp/library.json" requestJobs).run requestDesk =
        (whole.results, whole.desk) := by
  intro start midway whole
  have hmissing : requestDesk.volume.readText "/tmp/library.json" = .missing := by decide +kernel
  have hsaving : ∀ job ∈ requestJobs, job.command.isSaving = true := by decide
  have haccess : ∀ result ∈ whole.results, deniedAccess result = false := by decide +kernel
  have hdates : midway.store.library.events.map Event.date = [some "d2"] := by decide +kernel
  obtain ⟨hopen, hprocesses, hinvocations⟩ :=
    session_reopened "/tmp/library.json" requestJobs requestDesk hmissing hsaving haccess
  have hparts : [requestJobs.take 2, [], requestJobs.drop 2].flatten = requestJobs := by simp
  exact ⟨hmissing, hsaving, haccess, hdates,
    hopen _ _ (List.take_append_drop 2 requestJobs).symm, hprocesses _ hparts, hinvocations⟩

end EventAlgebra
