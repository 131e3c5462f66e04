import EventScript.Ui.Basic

/-!
The movie slot. A new video takes the place of the one before, which is stopped first.
-/

namespace EventScript.Stage

variable {σ η : Type}

def stopMovie (S : Services σ) : Stage σ η Unit := do
  let m := (← get).ui.movie
  match m.showing with
  | none => pure ()
  | some (video, _) =>
    if !(← play (S.videoStopped video)) then play (S.stopVideo video)
    setMovie { m with showing := none }

def playMovie (S : Services σ) (file : String) (color : Color) : Stage σ η Bool := do
  stopMovie S
  match ← play (S.playVideo file color) with
  | none =>
    play (Play.log .warning ("could not load video " ++ file))
    return false
  | some video =>
    setMovie { showing := some (video, file), color }
    return true

def movieEnded (S : Services σ) : Stage σ η Bool := do
  match (← get).ui.movie.showing with
  | none => return true
  | some (video, _) => play (S.videoStopped video)

def updateMovie (S : Services σ) : Stage σ η Unit := do
  let m := (← get).ui.movie
  match m.showing with
  | none => pure ()
  | some (video, _) => if ← play (S.videoStopped video) then setMovie { m with showing := none }

end EventScript.Stage
