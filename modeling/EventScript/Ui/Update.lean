import EventScript.Ui.Movie
import EventScript.Ui.Prompt

/-!
The screen as a whole: what happens to it once a tick, and how it is cleared.
-/

namespace EventScript.Stage

variable {σ η : Type}

def reset (S : Services σ) : Stage σ η Unit := do
  if (← get).ui.talk.isSome then
    setTalk none
    play (S.perform .closeDialog)
  if (← get).ui.chooser.isSome then
    setChooser none
    play (S.perform .closeSelection)
  updateFade Fade.reset
  stopMovie S
  updateUi ({ · with asleep := false })

variable [DecidableEq η]

def releaseIdle (S : Services σ) (H : Holders η) : Option η → Stage σ η Unit
  | some h => if !H.isActive h then release S h else pure ()
  | none => pure ()

def update (S : Services σ) (H : Holders η) : Stage σ η Unit := do
  updateFade Fade.update
  updateMovie S
  releaseIdle S H ((← get).ui.talk.map (·.holder))
  releaseIdle S H (← get).ui.chooser

end EventScript.Stage
