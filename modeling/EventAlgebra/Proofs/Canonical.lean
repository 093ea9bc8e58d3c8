import EventAlgebra.Proofs.NormalForm
import EventAlgebra.Proofs.Sessions

/-!
# Canonical libraries

The values that events keep are in normal form: this holds in every library that is opened
(`Store.canonical_of_ofReading`), every command keeps it, whether it succeeds or fails
(`Command.maintains_canonical`), and so it holds all through a session
(`Store.canonical_session`).

A value in normal form gives filters in the order of their fields. So the form of an event in a
canonical library is its own normal form, whether it was kept as an object or as an array, and
whatever fields were left out (`Event.Canonical.restored_form`).
-/

set_option autoImplicit false

namespace EventAlgebra

/-! ## Forms read from values in normal form -/

namespace Json

theorem normal_of_mem_array {items : List Json} (h : (array items).normal = array items)
    {item : Json} (hitem : item ∈ items) : item.normal = item := by
  rw [normal, normalItems_eq_map, array.injEq] at h
  have hitems : items.map normal = items.map id := h.trans (List.map_id items).symm
  exact List.map_inj_left.1 hitems item hitem

/-- The members of an object in normal form stand in the order of their keys. -/
theorem pairwise_of_normal {members : List (String × Json)}
    (h : (object members).normal = object members) : members.Pairwise fun a b => a.1 < b.1 := by
  rw [normal_object, object.injEq] at h
  rw [← h, List.pairwise_map]
  exact pairwise_sortMembers members

theorem normal_of_mem_object {members : List (String × Json)}
    (h : (object members).normal = object members) {member : String × Json}
    (hmember : member ∈ members) : member.2.normal = member.2 := by
  have hsorted := sortMembers_of_pairwise (pairwise_of_normal h)
  rw [normal_object, hsorted, object.injEq] at h
  have hmembers : members.map (fun member => (member.1, member.2.normal)) = members.map id :=
    h.trans (List.map_id members).symm
  exact congrArg Prod.snd (List.map_inj_left.1 hmembers member hmember)

/-- What a value in normal form gives for the fields of a record is in normal form. -/
theorem normal_of_mem_fields? {names : List String} {value : Json} (h : value.normal = value)
    {fields : List (Option Json)} (hfields : value.fields? names = some fields) {given : Json}
    (hgiven : some given ∈ fields) : given.normal = given := by
  cases value with
  | array items =>
      simp only [fields?, Option.ite_none_right_eq_some, Option.some.injEq] at hfields
      obtain ⟨-, rfl⟩ := hfields
      -- the items, and nothing for the fields that come after them
      have hitem : given ∈ items := by simpa using hgiven
      exact normal_of_mem_array h hitem
  | object members =>
      simp only [fields?, Option.ite_none_right_eq_some, Option.some.injEq] at hfields
      obtain ⟨-, rfl⟩ := hfields
      obtain ⟨name, -, hlookup⟩ := List.mem_map.1 hgiven
      obtain ⟨before, after, rfl, -⟩ := List.lookup_eq_some_iff.1 hlookup
      exact normal_of_mem_object h (List.mem_append_right before List.mem_cons_self)
  | null => cases hfields
  | bool value => cases hfields
  | number value => cases hfields
  | string value => cases hfields
  | unreadable => cases hfields

theorem eq_object_of_object? {value : Json} {members : List (String × Json)}
    (h : value.object? = some members) : value = object members := by
  cases value with
  | object found => rw [Option.some.inj h]
  | null => cases h
  | bool value => cases h
  | number value => cases h
  | string value => cases h
  | array items => cases h
  | unreadable => cases h

/-- A field with a default, read from what was given for it. -/
theorem fieldOr_cases {α : Type} {default : α} {read : Json → Option α} {given : Option Json}
    {result : α} (h : fieldOr default read given = some result) :
    result = default ∨ ∃ value, given = some value ∧ read value = some result := by
  cases given with
  | none => exact .inl (Option.some.inj h).symm
  | some value => exact .inr ⟨value, rfl, h⟩

end Json

/-- The filters in an object are those on its keys. -/
theorem OperandForm.fields_of_mapM {members : List (String × Json)} {filters : List Filter}
    (h : members.mapM (fun member => member.2.string?.map (Filter.mk member.1)) = some filters) :
    filters.map (·.field) = members.map (·.1) := by
  induction members generalizing filters with
  | nil =>
      obtain rfl := Option.some.inj h
      rfl
  | cons member members ih =>
      simp only [List.mapM_cons, Option.bind_eq_bind, Option.bind_eq_some_iff,
        Option.map_eq_some_iff] at h
      obtain ⟨filter, ⟨value, -, rfl⟩, rest, hrest, hfilters⟩ := h
      obtain rfl := Option.some.inj hfilters
      rw [List.map_cons, List.map_cons, ih hrest]

/-- A slot that is read from a value in normal form has its filters in the order of their fields. -/
theorem OperandForm.increasingFields_of_ofJson? {value : Json} (h : value.normal = value)
    {slot : OperandForm} (hslot : OperandForm.ofJson? value = some slot) :
    IncreasingFields slot.filters := by
  simp only [OperandForm.ofJson?, Option.bind_eq_bind, Option.bind_eq_some_iff] at hslot
  obtain ⟨fields, hfields, hslot⟩ := hslot
  split at hslot
  · rename_i predicate savedName filters
    simp only [Option.bind_eq_some_iff] at hslot
    obtain ⟨_, -, _, -, found, hfound, hslot⟩ := hslot
    obtain rfl := Option.some.inj hslot
    rcases Json.fieldOr_cases hfound with rfl | ⟨given, rfl, hread⟩
    · exact List.Pairwise.nil
    · have hgiven : given.normal = given := Json.normal_of_mem_fields? h hfields (by simp)
      obtain ⟨members, hmembers, hread⟩ := Option.bind_eq_some_iff.1 hread
      obtain rfl := Json.eq_object_of_object? hmembers
      rw [increasingFields_iff, ← List.pairwise_map (f := Filter.field), fields_of_mapM hread,
        List.pairwise_map]
      exact Json.pairwise_of_normal hgiven
  · cases hslot

/-- The same for a slot that is read from a field, which may be left out. -/
theorem OperandForm.increasingFields_of_fieldOr {names : List String} {value : Json}
    (h : value.normal = value) {fields : List (Option Json)}
    (hfields : value.fields? names = some fields) {given : Option Json} (hgiven : given ∈ fields)
    {slot : OperandForm}
    (hslot : Json.fieldOr OperandForm.blank OperandForm.ofJson? given = some slot) :
    IncreasingFields slot.filters := by
  rcases Json.fieldOr_cases hslot with rfl | ⟨part, rfl, hread⟩
  · exact List.Pairwise.nil
  · have hpart : part.normal = part := Json.normal_of_mem_fields? h hfields hgiven
    exact OperandForm.increasingFields_of_ofJson? hpart hread

/-- A form that is read from a value in normal form is its own normal form. -/
theorem Form.restored_of_ofJson? {value : Json} (h : value.normal = value) {form : Form}
    (hform : Form.ofJson? value = some form) (name : String) :
    form.restored name = { form with name := name } := by
  simp only [Form.ofJson?, Option.bind_eq_bind, Option.bind_eq_some_iff] at hform
  obtain ⟨fields, hfields, hform⟩ := hform
  split at hform
  · simp only [Option.bind_eq_some_iff] at hform
    obtain ⟨_, -, slot, hslot, slot', hslot', _, -, _, -, _, -, _, -, hform⟩ := hform
    obtain rfl := Option.some.inj hform
    rw [Form.restored_eq_iff, sortFilters_eq_self_iff, sortFilters_eq_self_iff]
    constructor
    · exact OperandForm.increasingFields_of_fieldOr h hfields (by simp) hslot
    · exact OperandForm.increasingFields_of_fieldOr h hfields (by simp) hslot'
  · cases hform

/-! ## Canonical libraries -/

/-- The value that an event keeps, if there is one, is in normal form. -/
def Event.Canonical (event : Event) : Prop :=
  ∀ state ∈ event.state, state.normal = state

/-- The form of a canonical event is stored as it is. -/
theorem Event.Canonical.restored_form {event : Event} (h : event.Canonical) {form : Form}
    (hform : event.form? = .ok (some form)) :
    form.restored event.name = form ∧ form.name = event.name := by
  unfold Event.form? at hform
  split at hform
  · cases hform
  · rename_i state hstate
    split at hform
    · cases hform
    · rename_i found hfound
      obtain rfl := Option.some.inj (Except.ok.inj hform)
      exact ⟨Form.restored_of_ofJson? (h state hstate) hfound event.name, rfl⟩

theorem Event.canonical_of_ofJson? {outer : Nat} {value : Json} {event : Event}
    (h : Event.ofJson? outer value = some event) : event.Canonical := by
  intro state hstate
  obtain ⟨given, hgiven⟩ := Event.optionalField_of_ofJson? h
  rw [Option.mem_def.1 hstate] at hgiven
  obtain ⟨value, -, -, rfl⟩ := Json.eq_normal_of_optionalField hgiven
  exact Json.normal_normal value

theorem Event.canonical_of_ofExport {text : String} {event : Event}
    (h : Event.ofExport text = .ok event) : event.Canonical := by
  obtain ⟨value, hvalue⟩ := Event.ofJson?_of_ofExport h
  exact Event.canonical_of_ofJson? hvalue

theorem Compiled.canonical_toEvent (compiled : Compiled) (form : Form) (date : String) :
    (compiled.toEvent form date).Canonical := by
  rintro state ⟨⟩
  exact Json.normal_normal _

namespace Library

/-- All values that the events of a library keep are in normal form. -/
def Canonical (library : Library) : Prop :=
  ∀ event ∈ library.events, event.Canonical

theorem canonical_of_parse? {text : String} {library : Library} (h : parse? text = some library) :
    library.Canonical := by
  intro event hevent
  obtain ⟨value, hvalue⟩ := ofJson?_of_parse? h hevent
  exact Event.canonical_of_ofJson? hvalue

end Library

/-- Every library that is opened is canonical. -/
theorem Store.canonical_of_ofReading {path : String} {reading : Reading} {store : Store}
    (h : Store.ofReading path reading = .ok store) : store.library.Canonical := by
  obtain ⟨-, hempty | ⟨text, htext⟩⟩ := Store.ofReading_cases h
  · rw [hempty]
    simp [Library.Canonical, Library.empty]
  · exact Library.canonical_of_parse? htext

/-! ## What commands keep -/

/-- Work that keeps a property of the store, whether it is given up or not. -/
def Maintains {α : Type} (property : Store → Prop) (work : StoreM (StateM Desk) α) : Prop :=
  Ensures (fun store _ => property store) work (fun _ store _ => property store)
    (fun _ store _ => property store)

namespace Maintains

variable {property : Store → Prop}

theorem flush : Maintains property Store.flush := by
  intro store desk hproperty
  have hflush : Ensures (fun found _ => found = store) Store.flush
      (fun _ found _ => property found) (fun _ found _ => property found) := by
    refine (ensures_flush_same store).consequence (fun _ _ h => h) ?_ ?_
    · rintro _ found desk rfl
      exact hproperty
    · rintro error found desk ⟨-, -, rfl⟩
      exact hproperty
  exact hflush store desk rfl

theorem say (line : String) : Maintains property (Command.say line) :=
  ensures_say (fun _ _ _ _ hproperty => hproperty) line

theorem warn (message : String) : Maintains property (Command.warn message) :=
  ensures_warn (fun _ _ _ _ hproperty => hproperty) message

theorem emit (file : Option String) (text : String) :
    Maintains property (Command.emit file text) :=
  ensures_emit file text fun _ _ _ _ hproperty => hproperty

theorem readFile (path : String) (error : Error) :
    Maintains property (Command.readFile path error) :=
  ensures_readFile fun _ _ hproperty => hproperty

theorem result {α : Type} (result : Except Error α) :
    Maintains property (ExceptT.mk (pure result)) :=
  Ensures.result (fun _ _ _ _ hproperty => hproperty) (fun _ _ _ _ hproperty => hproperty)

theorem ask {α : Type} (question : Store → Except Error α) :
    Maintains property (ExceptT.mk do return question (← MonadState.get)) :=
  Ensures.ask (fun _ _ _ _ hproperty => hproperty) (fun _ _ _ _ hproperty => hproperty)

theorem get : Maintains property get :=
  Ensures.get fun _ _ hproperty => hproperty

theorem throw {α : Type} (error : Error) :
    Maintains property (throw error : StoreM (StateM Desk) α) :=
  Ensures.throw fun _ _ hproperty => hproperty

end Maintains

/-- Saving a canonical event keeps a library canonical. -/
theorem maintains_canonical_put {event : Event} (h : event.Canonical) :
    Maintains (·.library.Canonical) (Store.put event) := by
  have hmodify : Maintains (·.library.Canonical)
      (modify fun store => { store with library := store.library.put event }) :=
    Ensures.modify fun store desk hcanonical => Library.forall_mem_put hcanonical h
  exact hmodify.bind fun _ => Maintains.flush

theorem maintains_canonical_delete (name : String) :
    Maintains (·.library.Canonical) (Store.delete name) := by
  -- the store that is set is made from the store that was read, so the two are kept equal
  have hget : Ensures (fun store _ => store.library.Canonical) MonadState.get
      (fun found store _ => found = store ∧ store.library.Canonical)
      (fun _ store _ => store.library.Canonical) :=
    Ensures.get fun store desk hcanonical => ⟨rfl, hcanonical⟩
  refine hget.bind fun found => ?_
  split
  · have hset : Ensures (fun store _ => found = store ∧ store.library.Canonical)
        (set { found with library := found.library.erase name })
        (fun _ store _ => store.library.Canonical) (fun _ store _ => store.library.Canonical) := by
      apply Ensures.set
      rintro store desk ⟨rfl, hcanonical⟩
      exact Library.forall_mem_erase hcanonical name
    exact hset.bind fun _ => Maintains.flush.bind fun _ => Ensures.pure fun _ _ h => h
  · exact Ensures.pure fun store desk h => h.2

theorem Command.maintains_canonical_define (date : String) (form : Form) (output : Output)
    (save : Bool) : Maintains (·.library.Canonical) (Command.define date form output save) := by
  refine (Maintains.ask _).bind fun compiled => ?_
  refine (Ensures.forM Maintains.warn).bind fun _ => ?_
  refine (Maintains.emit output.file _).bind fun _ => ?_
  cases save with
  | false => exact Ensures.pure fun _ _ hcanonical => hcanonical
  | true =>
      refine (maintains_canonical_put (compiled.canonical_toEvent form date)).bind fun _ => ?_
      exact Maintains.get.bind fun _ => Maintains.say _

/-- Every command keeps a canonical library canonical, whether it succeeds or fails. -/
theorem Command.maintains_canonical (date : String) (command : Command) :
    Maintains (·.library.Canonical) (command.perform date) := by
  cases command with
  | compile requestFile output save =>
      refine (Maintains.readFile _ _).bind fun text => ?_
      refine (Maintains.result _).bind fun form => ?_
      exact Command.maintains_canonical_define date form output save
  | recompile name output save =>
      refine Maintains.get.bind fun found => ?_
      cases found.library.get? name with
      | none => exact Maintains.throw _
      | some event =>
          refine (Maintains.result event.form?).bind fun form? => ?_
          cases form? with
          | none => exact Maintains.throw _
          | some form => exact Command.maintains_canonical_define date form output save
  | list => exact Maintains.get.bind fun found => Ensures.forM fun event => Maintains.say _
  | delete name =>
      refine (maintains_canonical_delete name).bind fun removed => ?_
      cases removed with
      | true => exact Maintains.say _
      | false => exact Maintains.warn _
  | exportEvent name file =>
      exact (Maintains.ask _).bind fun text => Maintains.emit file text
  | importEvent file =>
      refine (Maintains.readFile _ _).bind fun text => ?_
      refine Ensures.bind ?_ fun name => Maintains.say _
      -- an imported event is canonical, since it was read
      have hread : Ensures (fun store _ => store.library.Canonical)
          (ExceptT.mk (pure (Event.ofExport text)))
          (fun event store _ => event.Canonical ∧ store.library.Canonical)
          (fun _ store _ => store.library.Canonical) :=
        Ensures.result
          (fun event hevent store desk hcanonical =>
            ⟨Event.canonical_of_ofExport hevent, hcanonical⟩)
          (fun _ _ _ _ hcanonical => hcanonical)
      refine hread.bind fun event => ?_
      refine Ensures.of_fact fun hevent => ?_
      exact (maintains_canonical_put hevent).bind fun _ => Ensures.pure fun _ _ h => h

/-- A library that is opened stays canonical, whatever commands are carried out on it. -/
theorem Store.canonical_session {path : String} {reading : Reading} {store : Store}
    (h : Store.ofReading path reading = .ok store) (desk : Desk) (jobs : List Job) :
    (store.session desk jobs).store.library.Canonical := by
  -- each job leaves a canonical library to the next one, also where it fails
  have hjobs : ∀ (found : Store) (desk : Desk), found.library.Canonical →
      (found.session desk jobs).store.library.Canonical := by
    induction jobs with
    | nil => exact fun found desk hcanonical => hcanonical
    | cons job jobs ih =>
        intro found desk hcanonical
        apply ih
        rcases (job.command.maintains_canonical job.date).cases found desk hcanonical with
          ⟨value, -, hnext⟩ | ⟨error, -, hnext⟩
        · exact hnext
        · exact hnext
  exact hjobs store desk (Store.canonical_of_ofReading h)

end EventAlgebra
