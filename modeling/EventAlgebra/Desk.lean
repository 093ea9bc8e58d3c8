import EventAlgebra.Command
import EventAlgebra.Volume

/-!
# Desks

A desk is a volume and a terminal as values. Programs run on a desk as they would on a machine,
and what they have done can be read off afterwards.
-/

set_option autoImplicit false

namespace EventAlgebra

/-- A volume and what a terminal has shown, last line first. -/
structure Desk where
  volume : Volume
  shown : List String
  warnings : List String

namespace Desk

/-- A terminal that has shown nothing, beside a volume. -/
def ofVolume (volume : Volume) : Desk := ⟨volume, [], []⟩

/-- Change the volume, if the change can be made, and tell whether it was. -/
def tryChange (change : Volume → Option Volume) : StateM Desk Bool := do
  let desk ← get
  match change desk.volume with
  | none => return false
  | some volume =>
    set { desk with volume := volume }
    return true

instance : Files (StateM Desk) where
  read path := do return (← get).volume.readText path
  write path content := tryChange (·.writeBytes? path content.toUTF8)
  move source target := tryChange (·.move? source target)

instance : Console (StateM Desk) where
  say line := modify fun desk => { desk with shown := line :: desk.shown }
  warn message := modify fun desk => { desk with warnings := message :: desk.warnings }

/-- All that was shown, each line with its end. -/
def transcript (desk : Desk) : String :=
  String.join (desk.shown.reverse.map (· ++ "\n"))

end Desk

end EventAlgebra
