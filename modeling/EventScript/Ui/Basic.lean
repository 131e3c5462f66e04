import EventScript.Services.Basic
import EventScript.Ui.Fade

/-!
What all scripts share on screen: the fade, one dialogue, one selection, one movie. Dialogue and
selection have a holder.
-/

namespace EventScript

structure Talk (η : Type) where
  holder : η
  first : Int
  last : Int
  /-- The number of the line to look for next. -/
  current : Int

structure Movie where
  /-- The video in the slot and the file it came from. -/
  showing : Option (VideoId × String) := none
  color : Color := .white

structure Ui (η : Type) where
  fade : Fade
  talk : Option (Talk η) := none
  chooser : Option η := none
  movie : Movie := {}
  /-- Whether some script sleeps. -/
  asleep : Bool := false

namespace Ui

variable {η : Type} [DecidableEq η]

def holdsTalk (u : Ui η) (who : η) : Bool :=
  match u.talk with
  | some t => t.holder = who
  | none => false

def holdsSelection (u : Ui η) (who : η) : Bool := u.chooser = some who

end Ui

structure Screen (σ η : Type) where
  scene : Scene σ
  ui : Ui η

structure Holders (η : Type) where
  isActive : η → Bool
  label : η → String

abbrev Stage (σ η : Type) := EStateM Fault (Screen σ η)

namespace Stage

variable {σ η : Type}

def play {α : Type} (p : Play σ α) : Stage σ η α := fun s =>
  match p s.scene with
  | .ok a scene => .ok a { s with scene }
  | .error f scene => .error f { s with scene }

def updateUi (f : Ui η → Ui η) : Stage σ η Unit := modify fun s => { s with ui := f s.ui }

def setTalk (t : Option (Talk η)) : Stage σ η Unit := updateUi ({ · with talk := t })

def setChooser (h : Option η) : Stage σ η Unit := updateUi ({ · with chooser := h })

def updateFade (f : Fade → Fade) : Stage σ η Unit := updateUi fun u => { u with fade := f u.fade }

def setMovie (m : Movie) : Stage σ η Unit := updateUi ({ · with movie := m })

end Stage

end EventScript
