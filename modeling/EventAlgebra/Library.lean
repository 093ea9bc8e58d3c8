import EventAlgebra.Event

/-!
# Libraries

A library holds saved events, one for each name, in the order in which they were last saved.
Saving an event under a name that is in use replaces the older event and moves the name to the
end. That no name is used twice is part of what a library is. A library is kept as a JSON array of
its events.
-/

set_option autoImplicit false

namespace EventAlgebra

/-- Saved events in the order of their saving. -/
structure Library where
  events : List Event
  /-- No two events share a name. -/
  distinct : events.Pairwise fun a b => a.name ≠ b.name

namespace Library

/-- The library without events. -/
def empty : Library := ⟨[], .nil⟩

/-- The event of a name. -/
def get? (library : Library) (name : String) : Option Event :=
  library.events.find? (·.name = name)

/-- The library without the event of a name. -/
def erase (library : Library) (name : String) : Library where
  events := library.events.filter (·.name ≠ name)
  distinct := library.distinct.filter _

/-- No event is left under an erased name. -/
theorem name_ne_of_mem_erase {library : Library} {name : String} {event : Event}
    (h : event ∈ (library.erase name).events) : event.name ≠ name := by
  simpa using (List.mem_filter.1 h).2

/-- Save an event under its name. -/
def put (library : Library) (event : Event) : Library where
  events := (library.erase event.name).events ++ [event]
  distinct := by
    refine List.pairwise_append.2 ⟨(library.erase event.name).distinct, by simp, ?_⟩
    intro older holder newer hnewer
    rw [List.mem_singleton.1 hnewer]
    exact name_ne_of_mem_erase holder

/-- Whether there is an event of a name. -/
def contains (library : Library) (name : String) : Bool :=
  library.events.any (·.name = name)

/-- Save events one after the other. -/
def ofEvents (events : List Event) : Library :=
  events.foldl put empty

/-- The text in which a library is kept. -/
def render (library : Library) : String :=
  (Json.array (library.events.map Event.toJson)).pretty

/-- Read a library from its text. -/
def parse? (text : String) : Option Library := do
  let value ← Json.parse? text
  let items ← value.array?
  let events ← items.mapM (Event.ofJson? 1)
  return ofEvents events

end Library

end EventAlgebra
