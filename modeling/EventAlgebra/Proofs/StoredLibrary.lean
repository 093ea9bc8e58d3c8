import EventAlgebra.Library
import EventAlgebra.Proofs.Reading
import EventAlgebra.Proofs.StoredForm
import EventAlgebra.Proofs.Trimming

/-!
# Stored libraries

A library is kept as the text of a JSON array. Reading the text gives the library again, event by
event and in the same order: every text of a record is read back, and what is absent stays absent.
The form that an event keeps comes back if it is as a reader leaves it: in normal form, readable
throughout, and with no number but integers of 64 bits (`Json.Held`).

One thing can go wrong. The containers of a kept value are counted from the outermost one of the
text, and in a library there is one more around an event than in the text of the event alone. So a
library is read back exactly if every value it keeps leaves room for two containers around it
(`Library.parse?_render`).
-/

set_option autoImplicit false

namespace EventAlgebra

open Text

namespace Json

/-! ## Normal forms -/

/-- Members in the order of their keys are sorted already. -/
theorem sortMembers_of_pairwise {α : Type} {members : List (String × α)}
    (h : members.Pairwise fun a b => a.1 < b.1) : sortMembers members = members := by
  have hperm : (sortMembers members).Perm members :=
    perm_sortMembers (h.imp fun hab => ne_of_lt hab)
  refine List.Perm.eq_of_pairwise ?_ (pairwise_sortMembers members) h hperm
  intro a b _ _ hab hba
  exact absurd hba (lt_asymm hab)

/-- A normal form is its own normal form. -/
theorem normal_normal (value : Json) : normal (normal value) = normal value := by
  induction value using values_induction with
  | null => simp [normal]
  | bool value => simp [normal]
  | number value => simp [normal]
  | string value => simp [normal]
  | unreadable => simp [normal]
  | array items ih =>
      simp only [normal, normalItems_eq_map, List.map_map, array.injEq]
      exact List.map_congr_left ih
  | object members ih =>
      rw [normal_object, normal_object, sortMembers_map,
        sortMembers_of_pairwise (pairwise_sortMembers members), List.map_map]
      congr 1
      refine List.map_congr_left fun member hmember => ?_
      exact Prod.ext rfl (ih member ((subperm_sortMembers members).subset hmember))

/-- The normal form of a value fits wherever the value does. -/
theorem fits_normal {depth : Nat} {value : Json} (h : fits depth value = true) :
    fits depth (normal value) = true := by
  induction value using values_induction generalizing depth with
  | null => simpa only [normal] using h
  | bool value => simpa only [normal] using h
  | number value => simpa only [normal] using h
  | string value => simpa only [normal] using h
  | unreadable => simpa only [normal] using h
  | array items ih =>
      cases depth with
      | zero => simp [fits] at h
      | succ depth =>
          simp only [fits, fitsItems_iff] at h
          simp only [normal, normalItems_eq_map, fits, fitsItems_iff, List.forall_mem_map]
          exact fun item hitem => ih item hitem (h item hitem)
  | object members ih =>
      cases depth with
      | zero => simp [fits] at h
      | succ depth =>
          simp only [fits, fitsMembers_iff] at h
          simp only [normal_object, fits, fitsMembers_iff, List.forall_mem_map]
          intro member hmember
          have hmem := (subperm_sortMembers members).subset hmember
          exact ih member hmem (h member hmem)

/-- The normal form of a value has no other numbers. -/
theorem allNumbers_normal {test : Number → Bool} {value : Json}
    (h : allNumbers test value = true) : allNumbers test (normal value) = true := by
  induction value using values_induction with
  | null => simpa only [normal] using h
  | bool value => simpa only [normal] using h
  | number value => simpa only [normal] using h
  | string value => simpa only [normal] using h
  | unreadable => simpa only [normal] using h
  | array items ih =>
      simp only [allNumbers, allNumbersItems_iff] at h
      simp only [normal, normalItems_eq_map, allNumbers, allNumbersItems_iff, List.forall_mem_map]
      exact fun item hitem => ih item hitem (h item hitem)
  | object members ih =>
      simp only [allNumbers, allNumbersMembers_iff] at h
      simp only [normal_object, allNumbers, allNumbersMembers_iff, List.forall_mem_map]
      intro member hmember
      have hmem := (subperm_sortMembers members).subset hmember
      exact ih member hmem (h member hmem)

/-- A value that fits somewhere fits where there is more room. -/
theorem fits_mono {depth larger : Nat} (hle : depth ≤ larger) {value : Json}
    (h : fits depth value = true) : fits larger value = true := by
  induction value using values_induction generalizing depth larger with
  | null => simp [fits]
  | bool value => simp [fits]
  | number value => simp [fits]
  | string value => simp [fits]
  | unreadable => simp [fits] at h
  | array items ih =>
      cases depth with
      | zero => simp [fits] at h
      | succ depth =>
          obtain ⟨larger, rfl⟩ : ∃ more, larger = more + 1 := ⟨larger - 1, by omega⟩
          simp only [fits, fitsItems_iff] at h ⊢
          exact fun item hitem => ih item hitem (Nat.le_of_succ_le_succ hle) (h item hitem)
  | object members ih =>
      cases depth with
      | zero => simp [fits] at h
      | succ depth =>
          obtain ⟨larger, rfl⟩ : ∃ more, larger = more + 1 := ⟨larger - 1, by omega⟩
          simp only [fits, fitsMembers_iff] at h ⊢
          exact fun member hmember =>
            ih member hmember (Nat.le_of_succ_le_succ hle) (h member hmember)

/-- A value as a reader leaves it where `depth` more containers may be opened: there is a value, it
is in normal form and readable, and its numbers are integers of 64 bits. -/
structure Held (depth : Nat) (value : Json) : Prop where
  present : value ≠ .null
  normal : value.normal = value
  fits : value.fits depth = true
  whole : value.allNumbers Number.isWhole = true

/-- A kept value is kept as it is wherever there is room for it. -/
theorem Held.held?_eq {depth : Nat} {value : Json} (h : value.Held depth) (outer : Nat) :
    held? outer value = if value.fits (depthLimit - outer) then some value else none := by
  rw [held?, h.normal]

/-- An optional value that a reader leaves is the normal form of one that fits. -/
theorem eq_normal_of_optionalField {outer : Nat} {given : Option Json} {state : Json}
    (h : optionalField (held? outer) given = some (some state)) :
    ∃ value : Json, value ≠ .null ∧ value.fits (depthLimit - outer) = true ∧
      state = value.normal := by
  unfold optionalField at h
  split at h
  · cases h
  · cases h
  · rename_i value hnull
    simp only [held?, Option.map_eq_some_iff, Option.some.injEq] at h
    obtain ⟨held, hheld, rfl⟩ := h
    split at hheld
    · rename_i hfits
      exact ⟨value, hnull, hfits, (Option.some.inj hheld).symm⟩
    · cases hheld

/-- An optional value that a reader leaves is held. -/
theorem held_of_optionalField {outer : Nat} {given : Option Json} {state : Json}
    (h : optionalField (held? outer) given = some (some state))
    (hwhole : state.allNumbers Number.isWhole = true) : state.Held (depthLimit - outer) := by
  obtain ⟨value, hnull, hfits, rfl⟩ := eq_normal_of_optionalField h
  refine ⟨fun hnormal => hnull ?_, normal_normal value, fits_normal hfits, hwhole⟩
  -- no other value has the normal form `null`
  cases value with
  | null => rfl
  | bool value => simp [Json.normal] at hnormal
  | number value => simp [Json.normal] at hnormal
  | string value => simp [Json.normal] at hnormal
  | array items => simp [Json.normal] at hnormal
  | object members => simp [Json.normal] at hnormal
  | unreadable => simp [Json.normal] at hnormal

end Json

/-! ## Events -/

/-- An event that keeps no value, or one that is held where `depth` more containers may be
opened. -/
def Event.Held (depth : Nat) (event : Event) : Prop :=
  ∀ state ∈ event.state, state.Held depth

/-- Whether the value that an event keeps has no numbers but integers of 64 bits. -/
def Event.isWhole (event : Event) : Bool :=
  event.state.all (Json.allNumbers Json.Number.isWhole)

/-- Whether the value that an event keeps leaves room for the containers around the event. -/
def Event.fitsInside (outer : Nat) (event : Event) : Bool :=
  event.state.all (Json.fits (Json.depthLimit - (outer + 1)))

theorem SchemaField.ofJson?_toJson (field : SchemaField) :
    SchemaField.ofJson? field.toJson = some field :=
  rfl

/-- The members of a written event, by the fields of an event. -/
theorem Event.fields?_toJson (event : Event) :
    event.toJson.fields? ["name", "outputSchema", "logicDefinition", "uiState", "date"] =
      some [some (.string event.name), some (.array (event.schema.map SchemaField.toJson)),
        event.definition.map .string, event.state, event.date.map .string] := by
  obtain ⟨name, schema, definition, state, date⟩ := event
  cases definition
  all_goals cases state
  all_goals cases date
  all_goals rfl

theorem Json.optionalField_string (text : Option String) :
    Json.optionalField Json.string? (text.map .string) = some text := by
  cases text with
  | none => rfl
  | some text => rfl

/-- A written event is read back if the value it keeps leaves room for the containers around it,
and else it is not read at all. -/
theorem Event.ofJson?_toJson {depth : Nat} {event : Event} (h : event.Held depth) (outer : Nat) :
    Event.ofJson? outer event.toJson = if event.fitsInside outer then some event else none := by
  have hschema : Json.listField SchemaField.ofJson?
      (some (.array (event.schema.map SchemaField.toJson))) = some event.schema :=
    Json.listField_map SchemaField.ofJson?_toJson event.schema
  have hstate : Json.optionalField (Json.held? (outer + 1)) event.state =
      if event.fitsInside outer then some event.state else none := by
    cases hstate : event.state with
    | none => simp [Json.optionalField, fitsInside, hstate]
    | some state =>
        have hheld := h state hstate
        rw [fitsInside, hstate, Json.optionalField, hheld.held?_eq (outer + 1)]
        · by_cases hfits : state.fits (Json.depthLimit - (outer + 1)) = true
          · simp [hfits]
          · simp [hfits]
        · exact hheld.present
  rw [Event.ofJson?, Event.fields?_toJson]
  simp only [Option.bind_eq_bind, Option.bind_some, hschema, hstate, Json.optionalField_string,
    Json.requiredField, Json.string?]
  by_cases hfits : event.fitsInside outer = true
  · simp [hfits]
  · simp [hfits]

/-- The value that an event keeps was read as an optional one. -/
theorem Event.optionalField_of_ofJson? {outer : Nat} {value : Json} {event : Event}
    (h : Event.ofJson? outer value = some event) :
    ∃ given, Json.optionalField (Json.held? (outer + 1)) given = some event.state := by
  simp only [Event.ofJson?, Option.bind_eq_bind, Option.bind_eq_some_iff] at h
  obtain ⟨fields, -, h⟩ := h
  split at h
  · simp only [Option.bind_eq_some_iff] at h
    obtain ⟨name, -, schema, -, definition, -, state, hstate, date, -, hevent⟩ := h
    obtain rfl := Option.some.inj hevent
    exact ⟨_, hstate⟩
  · cases h

/-- What was read as an event is held, if its numbers are integers of 64 bits. -/
theorem Event.held_of_ofJson? {outer : Nat} {value : Json} {event : Event}
    (h : Event.ofJson? outer value = some event)
    (hwhole : event.isWhole = true) : event.Held (Json.depthLimit - (outer + 1)) := by
  intro state hstate
  rw [Event.isWhole, Option.all_eq_true] at hwhole
  obtain ⟨given, hgiven⟩ := Event.optionalField_of_ofJson? h
  rw [Option.mem_def.1 hstate] at hgiven
  exact Json.held_of_optionalField hgiven (hwhole state hstate)

/-- A text is accepted as an exported event exactly if it is read as one with a name that is not
blank, and with algebra. -/
theorem Event.ofExport_eq_ok_iff {text : String} {event : Event} :
    Event.ofExport text = .ok event ↔
      (Json.parse? text).bind (Event.ofJson? 0) = some event ∧ trim event.name ≠ "" ∧
        event.algebra?.isSome = true := by
  rw [Event.ofExport]
  cases (Json.parse? text).bind (Event.ofJson? 0) with
  | none => simp
  | some found =>
      constructor
      · intro h
        simp only at h
        split_ifs at h with hname halgebra
        cases h
        exact ⟨rfl, hname, by simpa [Option.isSome_iff_ne_none] using halgebra⟩
      · rintro ⟨⟨⟩, hname, halgebra⟩
        have hsome : event.algebra?.isNone = false := by simpa using halgebra
        simp only [if_neg hname, hsome, Bool.false_eq_true, if_false]

/-- An imported event was read from a value. -/
theorem Event.ofJson?_of_ofExport {text : String} {event : Event}
    (h : Event.ofExport text = .ok event) : ∃ value, Event.ofJson? 0 value = some event := by
  obtain ⟨value, -, hvalue⟩ := Option.bind_eq_some_iff.1 (Event.ofExport_eq_ok_iff.1 h).1
  exact ⟨value, hvalue⟩

/-- A held event fits where its value was counted from. -/
theorem Event.Held.fitsInside {outer : Nat} {event : Event}
    (h : event.Held (Json.depthLimit - (outer + 1))) : event.fitsInside outer = true := by
  rw [Event.fitsInside, Option.all_eq_true]
  exact fun state hstate => (h state hstate).fits

theorem Event.Held.mono {depth larger : Nat} (hle : depth ≤ larger) {event : Event}
    (h : event.Held depth) : event.Held larger := by
  intro state hstate
  obtain ⟨hpresent, hnormal, hfits, hwhole⟩ := h state hstate
  exact ⟨hpresent, hnormal, Json.fits_mono hle hfits, hwhole⟩

/-- A written event holds nothing that cannot be read back. -/
theorem Event.Held.writable {depth : Nat} {event : Event} (h : event.Held depth) :
    event.toJson.fits (depth + 3) = true ∧
      event.toJson.allNumbers Json.Number.isWhole = true := by
  obtain ⟨name, schema, definition, state, date⟩ := event
  have hstate : ∀ value ∈ state,
      value.fits (depth + 2) = true ∧ value.allNumbers Json.Number.isWhole = true :=
    fun value hvalue => ⟨Json.fits_mono (by omega) (h value hvalue).fits, (h value hvalue).whole⟩
  have hmembers : ∀ member ∈ Event.member? "uiState" state,
      member.2.fits (depth + 2) = true ∧ member.2.allNumbers Json.Number.isWhole = true := by
    simpa [Event.member?] using hstate
  constructor
  · simp only [Event.toJson, Json.fits, Json.fitsMembers_iff, List.forall_mem_append]
    refine ⟨⟨⟨?_, ?_⟩, fun member hmember => (hmembers member hmember).1⟩, ?_⟩
    · simp [Json.fits, SchemaField.toJson]
    · simp [Event.member?, Json.fits]
    · simp [Event.member?, Json.fits]
  · simp only [Event.toJson, Json.allNumbers, Json.allNumbersMembers_iff, List.forall_mem_append]
    refine ⟨⟨⟨?_, ?_⟩, fun member hmember => (hmembers member hmember).2⟩, ?_⟩
    · simp [Json.allNumbers, SchemaField.toJson]
    · simp [Event.member?, Json.allNumbers]
    · simp [Event.member?, Json.allNumbers]

/-- A written form has no more than four containers inside each other, and no numbers. -/
theorem Form.writable_toJson (form : Form) :
    form.toJson.fits 4 = true ∧ form.toJson.allNumbers Json.Number.isWhole = true := by
  obtain ⟨name, first, second, relation, constraints, exclusion, projection⟩ := form
  constructor
  · by_cases hname : name = ""
    all_goals simp [Form.toJson, OperandForm.toJson, RelationForm.toJson, ConstraintForm.toJson,
      ProjectionForm.toJson, FieldForm.toJson, Json.fits, hname]
  · by_cases hname : name = ""
    all_goals simp [Form.toJson, OperandForm.toJson, RelationForm.toJson, ConstraintForm.toJson,
      ProjectionForm.toJson, FieldForm.toJson, Json.allNumbers, hname]

/-- The event of a compiled definition is held, with room to spare. -/
theorem Compiled.held_toEvent (compiled : Compiled) (form : Form) (date : String) {depth : Nat}
    (hdepth : 4 ≤ depth) : (compiled.toEvent form date).Held depth := by
  intro state hstate
  obtain rfl := Option.some.inj hstate
  obtain ⟨hfits, hwhole⟩ := Form.writable_toJson { form with name := "" }
  exact ⟨by simp [Form.toJson, Json.normal], Json.normal_normal _,
    Json.fits_mono hdepth (Json.fits_normal hfits), Json.allNumbers_normal hwhole⟩

/-! ## Libraries -/

namespace Library

theorem ext_events {library other : Library} (h : library.events = other.events) :
    library = other := by
  obtain ⟨events, distinct⟩ := library
  obtain ⟨events', distinct'⟩ := other
  obtain rfl : events = events' := h
  rfl

/-- Saving an event under a new name adds it at the end. -/
theorem events_put_of_new {library : Library} {event : Event}
    (h : ∀ older ∈ library.events, older.name ≠ event.name) :
    (library.put event).events = library.events ++ [event] := by
  have herase : library.events.filter (·.name ≠ event.name) = library.events := by
    rw [List.filter_eq_self]
    intro older holder
    simpa using h older holder
  exact congrArg (· ++ [event]) herase

/-- The events of a library, saved one after the other, give the library again. -/
theorem ofEvents_events (library : Library) : ofEvents library.events = library := by
  have hfold : ∀ (events : List Event) (start : Library),
      (start.events ++ events).Pairwise (fun a b => a.name ≠ b.name) →
        (events.foldl put start).events = start.events ++ events := by
    intro events
    induction events with
    | nil => simp
    | cons event events ih =>
        intro start hdistinct
        have hnew : (start.put event).events = start.events ++ [event] := by
          refine events_put_of_new fun older holder => ?_
          exact (List.pairwise_append.1 hdistinct).2.2 older holder event List.mem_cons_self
        rw [List.foldl_cons, ih (start.put event), hnew, List.append_assoc, List.singleton_append]
        rwa [hnew, List.append_assoc, List.singleton_append]
  exact ext_events (hfold library.events empty library.distinct)

/-- What holds of all events of a library holds of those that are left after one is erased. -/
theorem forall_mem_erase {property : Event → Prop} {library : Library}
    (h : ∀ event ∈ library.events, property event) (name : String) :
    ∀ event ∈ (library.erase name).events, property event :=
  fun event hevent => h event (List.mem_filter.1 hevent).1

/-- What holds of all events of a library and of a new one holds after it is saved. -/
theorem forall_mem_put {property : Event → Prop} {library : Library}
    (h : ∀ event ∈ library.events, property event) {event : Event} (hevent : property event) :
    ∀ other ∈ (library.put event).events, property other := by
  intro other hother
  rcases List.mem_append.1 hother with holder | hnewer
  · exact forall_mem_erase h event.name other holder
  · rw [List.mem_singleton.1 hnewer]
    exact hevent

/-- A library each of whose events is held. -/
def Held (depth : Nat) (library : Library) : Prop :=
  ∀ event ∈ library.events, event.Held depth

theorem held_empty (depth : Nat) : empty.Held depth := by
  simp [Held, empty]

theorem Held.erase {depth : Nat} {library : Library} (h : library.Held depth) (name : String) :
    (library.erase name).Held depth :=
  forall_mem_erase h name

theorem Held.put {depth : Nat} {library : Library} (h : library.Held depth) {event : Event}
    (hevent : event.Held depth) : (library.put event).Held depth :=
  forall_mem_put h hevent

/-- What is held inside of a library leaves room for the library and the event around it. -/
theorem Held.all_fitsInside {library : Library} (h : library.Held (Json.depthLimit - 2)) :
    library.events.all (Event.fitsInside 1) = true :=
  List.all_eq_true.2 fun event hevent => (h event hevent).fitsInside

/-- The text of a library is read as the library, if every value it keeps leaves room for the
library and the event around it. Else nothing is read. -/
theorem parse?_render {depth : Nat} {library : Library} (h : library.Held depth) :
    parse? library.render =
      if library.events.all (Event.fitsInside 1) then some library else none := by
  have hvalue : Json.parse? library.render = some (.array (library.events.map Event.toJson)) := by
    have hfits : Json.fits (depth + 4) (.array (library.events.map Event.toJson)) = true := by
      simp only [Json.fits, Json.fitsItems_iff, List.forall_mem_map]
      exact fun event hevent => (h event hevent).writable.1
    refine Json.parse?_pretty hfits ?_
    simp only [Json.allNumbers, Json.allNumbersItems_iff, List.forall_mem_map]
    exact fun event hevent => (h event hevent).writable.2
  have hevents : ∀ events : List Event, (∀ event ∈ events, event.Held depth) →
      (events.map Event.toJson).mapM (Event.ofJson? 1) =
        if events.all (Event.fitsInside 1) then some events else none := by
    intro events hheld
    induction events with
    | nil => rfl
    | cons event events ih =>
        rw [List.forall_mem_cons] at hheld
        rw [List.map_cons, List.mapM_cons, Event.ofJson?_toJson hheld.1 1, ih hheld.2,
          List.all_cons]
        by_cases hevent : event.fitsInside 1 = true
        · by_cases hrest : events.all (Event.fitsInside 1) = true
          · simp [hevent, hrest]
          · simp [hevent, hrest]
        · simp [hevent]
  rw [parse?, hvalue, Option.bind_eq_bind, Option.bind_some, Json.array?, Option.bind_eq_bind,
    Option.bind_some, hevents library.events h]
  by_cases hfits : library.events.all (Event.fitsInside 1) = true
  · simp [hfits, ofEvents_events]
  · simp [hfits]

/-- Saving events one after the other adds no others. -/
theorem mem_of_mem_ofEvents {events : List Event} {event : Event}
    (h : event ∈ (ofEvents events).events) : event ∈ events := by
  have hfold : ∀ (events : List Event) (start : Library), event ∈ (events.foldl put start).events →
      event ∈ start.events ∨ event ∈ events := by
    intro events
    induction events with
    | nil => exact fun start hstart => .inl hstart
    | cons newer events ih =>
        intro start hmem
        rcases ih (start.put newer) hmem with hput | hlater
        · rcases List.mem_append.1 hput with holder | hnewer
          · exact .inl (List.mem_filter.1 holder).1
          · exact .inr (List.mem_singleton.1 hnewer ▸ List.mem_cons_self)
        · exact .inr (List.mem_cons_of_mem newer hlater)
  rcases hfold events empty h with hempty | hevents
  · cases hempty
  · exact hevents

/-- What reading gives for a list of values was read from one of them. -/
theorem exists_of_mem_mapM {α β : Type} {read : α → Option β} {values : List α} {items : List β}
    (h : values.mapM read = some items) {item : β} (hitem : item ∈ items) :
    ∃ value ∈ values, read value = some item := by
  induction values generalizing items with
  | nil =>
      obtain rfl := Option.some.inj h
      cases hitem
  | cons value values ih =>
      simp only [List.mapM_cons, Option.bind_eq_bind, Option.bind_eq_some_iff] at h
      obtain ⟨first, hfirst, rest, hrest, hitems⟩ := h
      obtain rfl := Option.some.inj hitems
      rcases List.mem_cons.1 hitem with rfl | hmem
      · exact ⟨value, List.mem_cons_self, hfirst⟩
      · obtain ⟨found, hfound, hread⟩ := ih hrest hmem
        exact ⟨found, List.mem_cons_of_mem value hfound, hread⟩

/-- Each event of a library that was read was read from a value. -/
theorem ofJson?_of_parse? {text : String} {library : Library} (h : parse? text = some library)
    {event : Event} (hevent : event ∈ library.events) :
    ∃ value, Event.ofJson? 1 value = some event := by
  simp only [parse?, Option.bind_eq_bind, Option.bind_eq_some_iff] at h
  obtain ⟨value, -, items, -, events, hevents, hlibrary⟩ := h
  obtain rfl := Option.some.inj hlibrary
  obtain ⟨item, -, hitem⟩ := exists_of_mem_mapM hevents (mem_of_mem_ofEvents hevent)
  exact ⟨item, hitem⟩

/-- What was read as a library is held, if its numbers are integers of 64 bits. -/
theorem held_of_parse? {text : String} {library : Library} (h : parse? text = some library)
    (hwhole : ∀ event ∈ library.events, event.isWhole = true) :
    library.Held (Json.depthLimit - 2) := by
  intro event hevent
  obtain ⟨item, hitem⟩ := ofJson?_of_parse? h hevent
  exact Event.held_of_ofJson? hitem (hwhole event hevent)

/-- The text of a library is not blank. -/
theorem trim_render_ne (library : Library) : trim library.render ≠ "" := by
  rw [Ne, trim_eq_empty_iff]
  intro hblank
  have hbracket : '[' ∈ library.render.toList := by
    rw [render, Json.pretty, Json.prettyAt, Json.block]
    split
    · simp
    · simp
  exact absurd (hblank '[' hbracket) (by decide)

end Library

end EventAlgebra
