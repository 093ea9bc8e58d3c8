import EventAlgebra.Proofs.Canonical
import EventAlgebra.Proofs.Recompile

/-!
# Recompiling and saving twice

Recompiling an event and saving it puts the event that its form is compiled to in its place, at the
end of the library. The form that is kept with it is the form that it was compiled from, since the
library is canonical. Recompiling and saving once more changes nothing but the date
(`recompile_twice`).

The name of an event is the name in its form, but a request has that name without blanks around
it. They are the same for an identifier, which has no blanks (`trim_of_isIdentifier`).
-/

set_option autoImplicit false

namespace EventAlgebra

open Text

/-! ## Identifiers -/

namespace Text

/-- The characters of a class. -/
def CodeRanges.characters (ranges : CodeRanges) : List Char :=
  ranges.flatMap fun range => (List.range' range.1 (range.2 + 1 - range.1)).map Char.ofNat

theorem CodeRanges.mem_characters {ranges : CodeRanges} {c : Char} (h : ranges.covers c = true) :
    c ∈ ranges.characters := by
  obtain ⟨range, hrange, hlow, hhigh⟩ := (ranges.covers_iff c).1 h
  apply List.mem_flatMap.2
  refine ⟨range, hrange, List.mem_map.2 ⟨c.toNat, ?_, Char.ofNat_toNat c⟩⟩
  rw [List.mem_range'_1]
  omega

end Text

/-- The characters of identifiers are no blanks. -/
theorem isBlank_eq_false {c : Char} (h : (isLetter c || isNumeral c || c == '_') = true) :
    isBlank c = false := by
  have hblanks :
      (blanks.characters.all fun c => !(isLetter c || isNumeral c || c == '_')) = true := by
    decide +kernel
  rw [Bool.eq_false_iff]
  intro hblank
  have hother := List.all_eq_true.1 hblanks c (CodeRanges.mem_characters hblank)
  rw [h] at hother
  cases hother

/-- An identifier has no blanks. -/
theorem trim_of_isIdentifier {name : String} (h : isIdentifier name = true) : trim name = name := by
  have hname := (isIdentifier_iff.1 h).2
  exact trim_of_not_isBlank fun c hc => isBlank_eq_false (hname c hc)

/-- The name of a request is the name in its form, where that is an identifier. -/
theorem Form.validateName_of_isIdentifier {input name : String} (hinput : isIdentifier input = true)
    (h : Form.validateName input = .ok name) : name = input := by
  simp only [Form.validateName, trim_of_isIdentifier hinput, hinput, if_true] at h
  split at h
  · cases h
  · exact (Except.ok.inj h).symm

/-! ## One recompilation -/

/-- Compiling a form for saving gives out the result, and then saves the event in memory and in
the file. So it fails only where a file cannot be written, with the event saved or not. -/
theorem Command.ensures_define {form : Form} {request : Request}
    (h : form.validate = .ok request) (store : Store) (output : Output) (date : String) :
    let compiled := store.library.compile .positional request
    let saved : Store := { store with library := store.library.put (compiled.toEvent form date) }
    Ensures (fun found _ => found = store) (Command.define date form output true)
      (fun _ found _ => found = saved)
      (fun error found _ => error.kind = .fileAccess ∧ (store.file ≠ none ∨ output.file ≠ none) ∧
        (found = store ∨ found = saved)) := by
  intro compiled saved
  have hsame : ∀ property : Store → Prop, VolumeOnly fun found _ => property found :=
    fun _ _ _ _ _ hproperty => hproperty
  -- a form that is valid is compiled, so no error comes from here
  have hcompile : Ensures (fun found _ => found = store)
      (ExceptT.mk do return (← MonadState.get).library.compileForm true form)
      (fun value found _ => value = compiled ∧ found = store)
      (fun error found _ => error.kind = .fileAccess ∧ (store.file ≠ none ∨ output.file ≠ none) ∧
        (found = store ∨ found = saved)) := by
    apply Ensures.ask
    · rintro found desk value hvalue rfl
      rw [Library.compileForm_of_validate _ h] at hvalue
      exact ⟨(Except.ok.inj hvalue).symm, rfl⟩
    · rintro found desk error herror rfl
      rw [Library.compileForm_of_validate _ h] at herror
      cases herror
  refine hcompile.bind fun value => Ensures.of_fact fun hvalue => ?_
  subst hvalue
  refine (Ensures.forM (ensures_warn (hsame _))).bind fun _ => ?_
  refine (ensures_emit output.file _ ?_).bind fun _ => ?_
  · rintro path hpath found desk hfound
    exact ⟨rfl, .inr (by simp [Option.mem_def.1 hpath]), .inl hfound⟩
  · refine ((ensures_put_store store (compiled.toEvent form date)).consequence
      (fun _ _ hfound => hfound) (fun _ _ _ hsaved => hsaved) ?_).bind fun _ => ?_
    · rintro error found desk ⟨hkind, hfile, hfound⟩
      exact ⟨hkind, .inl hfile, .inr hfound⟩
    exact (Ensures.get fun _ _ hsaved => hsaved).bind fun _ => ensures_say (hsame _) _

/-- Recompiling an event compiles its form. -/
theorem Command.perform_recompile {store : Store} {name : String} {event : Event} {form : Form}
    (hget : store.library.get? name = some event) (hform : event.form? = .ok (some form))
    (output : Output) (save : Bool) (date : String) (desk : Desk) :
    desk.perform store ((Command.recompile name output save).perform date) =
      desk.perform store (Command.define date form output save) := by
  have hstore : desk.perform store MonadState.get = ⟨.ok store, store, desk⟩ := rfl
  have hfound : desk.perform store (ExceptT.mk (pure (.ok (some form)))) =
      ⟨.ok (some form), store, desk⟩ := rfl
  rw [Command.perform, Desk.perform_bind, hstore]
  simp only [hget, hform]
  rw [Desk.perform_bind, hfound]

/-- What recompiling and saving an event leads to. -/
theorem Command.recompile_outcome {store : Store} {name : String} {event : Event} {form : Form}
    {request : Request} (hget : store.library.get? name = some event)
    (hform : event.form? = .ok (some form)) (hvalidate : form.validate = .ok request)
    (output : Output) (date : String) (desk : Desk) :
    let compiled := store.library.compile .positional request
    let saved : Store := ⟨store.library.put (compiled.toEvent form date), store.file⟩
    let outcome := desk.perform store ((Command.recompile name output true).perform date)
    (outcome.store = store ∨ outcome.store = saved) ∧
      (outcome.result = .ok () → outcome.store = saved) ∧
      ∀ error, outcome.result = .error error →
        error.kind = .fileAccess ∧ (store.file ≠ none ∨ output.file ≠ none) := by
  intro compiled saved outcome
  have houtcome : outcome = desk.perform store (Command.define date form output true) :=
    Command.perform_recompile hget hform output true date desk
  rcases (Command.ensures_define hvalidate store output date).cases store desk rfl with
    ⟨value, hresult, hstore⟩ | ⟨error, hresult, hkind, hfile, hstore⟩
  · rw [← houtcome] at hresult hstore
    refine ⟨.inr hstore, fun _ => hstore, fun error herror => ?_⟩
    cases hresult.symm.trans herror
  · rw [← houtcome] at hresult hstore
    refine ⟨hstore, fun hok => ?_, fun other hother => ?_⟩
    · cases hresult.symm.trans hok
    · cases hresult.symm.trans hother
      exact ⟨hkind, hfile⟩

/-! ## Two recompilations -/

namespace Library

/-- A library with another date for the event of a name. -/
def redate (library : Library) (name date : String) : Library where
  events := library.events.map fun event =>
    if event.name = name then { event with date := some date } else event
  distinct := by
    apply List.pairwise_map.2
    refine library.distinct.imp fun hne => ?_
    split <;> split <;> exact hne

/-- Saving an event under a name that was just used replaces the event. -/
theorem put_put (library : Library) (older newer : Event) (h : older.name = newer.name) :
    (library.put older).put newer = library.put newer := by
  apply ext_events
  have hkept : (library.erase newer.name).events.filter (·.name ≠ newer.name) =
      (library.erase newer.name).events := by
    rw [List.filter_eq_self]
    intro event hevent
    simpa using name_ne_of_mem_erase hevent
  show ((library.erase older.name).events ++ [older]).filter (·.name ≠ newer.name) ++ [newer] =
    (library.erase newer.name).events ++ [newer]
  rw [List.filter_append, h, hkept]
  simp [h]

/-- The event that was just saved stands alone at the end, so that its date can be changed by
saving it again. -/
theorem redate_put (library : Library) (event : Event) (date : String) :
    (library.put event).redate event.name date =
      library.put { event with date := some date } := by
  apply ext_events
  have hkept : (library.erase event.name).events.map (fun other =>
      if other.name = event.name then { other with date := some date } else other) =
        (library.erase event.name).events := by
    refine (List.map_congr_left fun other hother => ?_).trans (List.map_id _)
    exact if_neg (name_ne_of_mem_erase hother)
  show ((library.erase event.name).events ++ [event]).map _ = _
  rw [List.map_append, hkept]
  simp [put]

/-- What was compiled and saved is saved once more with another date. -/
theorem put_toEvent_twice (library : Library) (compiled : Compiled) (form : Form)
    (date date' : String) :
    (library.put (compiled.toEvent form date)).put (compiled.toEvent form date') =
      (library.put (compiled.toEvent form date)).redate compiled.name date' := by
  rw [library.put_put (compiled.toEvent form date) (compiled.toEvent form date') rfl]
  exact (library.redate_put (compiled.toEvent form date) date').symm

/-- Saving an event changes nothing for a request that does not refer to it. -/
theorem compile_put (library : Library) {event : Event} {request : Request}
    (hfirst : request.first.target ≠ .saved event.name)
    (hsecond : request.second.target ≠ .saved event.name) (naming : Naming) :
    (library.put event).compile naming request = library.compile naming request := by
  have hother : ∀ target : Target, target ≠ .saved event.name → ∀ name, target = .saved name →
      (library.put event).get? name = library.get? name := by
    intro target hne name htarget
    refine get?_put_of_ne ?_
    rintro rfl
    exact hne htarget
  exact compile_congr (hother _ hfirst) (hother _ hsecond) naming

end Library

/-- Take an event of a canonical library whose name is an identifier and whose form is valid and
does not refer to the event itself. Recompiling and saving it puts the event that the form is
compiled to in its place. Doing so again gives the same store, but for the date of that event,
whatever has become of the files in between and wherever the results are given out. Neither fails
unless there is a file that cannot be written. -/
theorem recompile_twice {store : Store} {event : Event} {form : Form} {request : Request}
    (hcanonical : store.library.Canonical)
    (hget : store.library.get? event.name = some event) (hname : isIdentifier event.name = true)
    (hform : event.form? = .ok (some form)) (hvalidate : form.validate = .ok request)
    (hfirst : request.first.target ≠ .saved event.name)
    (hsecond : request.second.target ≠ .saved event.name)
    (output output' : Output) (date date' : String) (desk desk' : Desk) :
    let compiled := store.library.compile .positional request
    let once := desk.perform store ((Command.recompile event.name output true).perform date)
    let twice := desk'.perform once.store
      ((Command.recompile event.name output' true).perform date')
    (once.result = .ok () →
      once.store = ⟨store.library.put (compiled.toEvent form date), store.file⟩ ∧
      (twice.result = .ok () →
        twice.store = ⟨once.store.library.redate event.name date', once.store.file⟩)) ∧
    ∀ error, once.result = .error error ∨ twice.result = .error error →
      error.kind = .fileAccess ∧
        (store.file ≠ none ∨ output.file ≠ none ∨ output'.file ≠ none) := by
  intro compiled once twice
  obtain ⟨hrestored, hformName⟩ :=
    (hcanonical event (List.mem_of_find?_eq_some hget)).restored_form hform
  have hrequest : request.name = event.name := by
    have hvalid := (Form.validate_eq_ok_iff.1 hvalidate).1
    rw [hformName] at hvalid
    exact Form.validateName_of_isIdentifier hname hvalid
  let saved : Store := ⟨store.library.put (compiled.toEvent form date), store.file⟩
  -- the event can be recompiled from the same form before and after it was saved
  have hsaved : saved.library.get? event.name = some (compiled.toEvent form date) := by
    rw [← hrequest]
    exact store.library.get?_put (compiled.toEvent form date)
  have hsavedForm : (compiled.toEvent form date).form? = .ok (some form) := by
    rw [Compiled.form?_toEvent]
    show Except.ok (some (form.restored request.name)) = _
    rw [hrequest, hrestored]
  have hcompiled : saved.library.compile .positional request = compiled := by
    rw [← hrequest] at hfirst hsecond
    exact store.library.compile_put hfirst hsecond .positional
  obtain ⟨hstore, honce, hfailed⟩ :=
    Command.recompile_outcome hget hform hvalidate output date desk
  obtain ⟨-, htwice, hfailed'⟩ :=
    Command.recompile_outcome hsaved hsavedForm hvalidate output' date' desk'
  constructor
  · intro hok
    refine ⟨honce hok, fun hok' => ?_⟩
    simp only [twice, once, honce hok] at hok' ⊢
    rw [htwice hok', hcompiled, ← hrequest]
    exact congrArg (Store.mk · store.file)
      (store.library.put_toEvent_twice compiled form date date')
  · rintro error (herror | herror)
    · exact ⟨(hfailed error herror).1, (hfailed error herror).2.imp_right .inl⟩
    · -- the first one may have failed before or after the event was saved in memory
      have hfiles : error.kind = .fileAccess ∧ (store.file ≠ none ∨ output'.file ≠ none) := by
        rcases hstore with hsame | hsaved
        · simp only [twice, once, hsame] at herror
          exact (Command.recompile_outcome hget hform hvalidate output' date' desk').2.2 error
            herror
        · simp only [twice, once, hsaved] at herror
          exact hfailed' error herror
      exact ⟨hfiles.1, hfiles.2.imp_right .inr⟩

/-- An event whose form is kept as an array, with another name in it and fields left out. -/
def importedEvent : Event :=
  ⟨"Echo", [], some "M1", some (.array [.string "Old",
    .array [.string "hasBall", .string "",
      .object [("speed", .string "9"), ("zone", .string "left")]],
    .object [("existName", .string " Base "), ("pred", .string "EXISTING")],
    .array [.string "sequential"]]), none⟩

/-- That event in front of the one it refers to. -/
def importedLibrary : Library :=
  .ofEvents [importedEvent, .withAlgebra "Base" [] "M1 ⋈ M2"]

/-- The form of the event. -/
def importedForm : Form :=
  ⟨"Echo", ⟨"hasBall", "", [⟨"speed", "9"⟩, ⟨"zone", "left"⟩]⟩, ⟨"EXISTING", " Base ", []⟩,
    ⟨"sequential", "", "", "", "", ""⟩, [], false, .blank⟩

/-- The request of that form. -/
def importedRequest : Request :=
  .plain "Echo" ⟨.atomic "hasBall", [⟨"speed", "9"⟩, ⟨"zone", "left"⟩]⟩ ⟨.saved "Base", []⟩ .before

theorem recompile_twice_imported :
    let desk : Desk := .ofVolume ⟨[]⟩
    let recompile := Command.recompile "Echo" ⟨none, false⟩ true
    let once := desk.perform ⟨importedLibrary, none⟩ (recompile.perform "d1")
    let twice := desk.perform once.store (recompile.perform "d2")
    importedLibrary.Canonical ∧ importedLibrary.get? "Echo" = some importedEvent ∧
      isIdentifier "Echo" = true ∧ importedEvent.form? = .ok (some importedForm) ∧
      importedForm.validate = .ok importedRequest ∧
      importedRequest.first.target ≠ .saved "Echo" ∧
      importedRequest.second.target ≠ .saved "Echo" ∧
      once.result = .ok () ∧ twice.result = .ok () ∧
      once.store.library.events.map (·.name) = ["Base", "Echo"] ∧
      twice.store = ⟨once.store.library.redate "Echo" "d2", none⟩ := by
  intro desk recompile once twice
  have hkeys : ¬ "zone" < "speed" ∧ ¬ "pred" < "existName" := by decide +kernel
  have hcanonical : importedLibrary.Canonical := by
    refine Library.forall_mem_put (Library.forall_mem_put (by simp [Library.empty]) ?_) ?_
    · rintro state ⟨⟩
      simp [Json.normal, Json.normalItems, Json.normalMembers, Json.sortMembers,
        Json.insertMember, hkeys]
    · rintro state ⟨⟩
  have hget : importedLibrary.get? "Echo" = some importedEvent := rfl
  have hname : isIdentifier "Echo" = true := by decide
  have hform : importedEvent.form? = .ok (some importedForm) := rfl
  have hvalidate : importedForm.validate = .ok importedRequest := rfl
  have hfirst : importedRequest.first.target ≠ .saved "Echo" := by decide
  have hsecond : importedRequest.second.target ≠ .saved "Echo" := by decide
  let store : Store := ⟨importedLibrary, none⟩
  obtain ⟨hsaved, hfailed⟩ := @recompile_twice store _ _ _ hcanonical hget hname hform hvalidate
    hfirst hsecond ⟨none, false⟩ ⟨none, false⟩ "d1" "d2" desk desk
  -- no file is written, so that nothing can fail
  have honce : once.result = .ok () := by
    cases hresult : once.result with
    | ok value => rfl
    | error error => exact absurd (hfailed error (.inl hresult)).2 (by simp [store])
  have htwice : twice.result = .ok () := by
    cases hresult : twice.result with
    | ok value => rfl
    | error error => exact absurd (hfailed error (.inr hresult)).2 (by simp [store])
  let compiled := importedLibrary.compile .positional importedRequest
  have hstore : once.store = ⟨importedLibrary.put (compiled.toEvent importedForm "d1"), none⟩ :=
    (hsaved honce).1
  have hnames : once.store.library.events.map (·.name) = ["Base", "Echo"] := by
    rw [hstore]
    rfl
  have hlast : twice.store = ⟨once.store.library.redate "Echo" "d2", once.store.file⟩ :=
    (hsaved honce).2 htwice
  have hfile : once.store.file = none := congrArg Store.file hstore
  rw [hfile] at hlast
  exact ⟨hcanonical, hget, hname, hform, hvalidate, hfirst, hsecond, honce, htwice, hnames, hlast⟩

end EventAlgebra
