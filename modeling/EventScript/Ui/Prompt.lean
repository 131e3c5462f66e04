import EventScript.Ui.Basic

/-!
The prompt: the place on screen that dialogue and selection share. Whoever asks for it while
somebody else who is still active holds it is refused.
-/

namespace EventScript.Stage

variable {σ η : Type}

def seekLine (S : Services σ) : Nat → Stage σ η (Option TalkLine)
  | 0 => return none
  | n + 1 => do
    match (← get).ui.talk with
    | none => return none
    | some t =>
      let line ← play (S.talkLine t.current)
      setTalk (some { t with current := t.current + 1 })
      match line with
      | some l => return some l
      | none => seekLine S n

/-- The next line in the range of the dialogue, passing over numbers without text. The dialogue ends
when there is none. -/
def advanceTalk (S : Services σ) : Stage σ η (Option TalkLine) := do
  match (← get).ui.talk with
  | none => return none
  | some t =>
    let line ← seekLine S (t.last + 1 - t.current).toNat
    if line.isNone then setTalk none
    return line

variable [DecidableEq η]

def checkPromptFree (H : Holders η) (who : η) : Stage σ η Unit := do
  let u := (← get).ui
  if let some t := u.talk then
    if t.holder ≠ who && H.isActive t.holder then
      throw (.script .resourceConflict ("dialogue already held by " ++ H.label t.holder))
  if let some h := u.chooser then
    if h ≠ who && H.isActive h then
      throw (.script .resourceConflict ("selection already held by " ++ H.label h))

/-- Takes hold of the dialogue and gives the first line to show. A range without any text gives it
back. -/
def beginTalk (S : Services σ) (H : Holders η) (who : η) (first last : Int) :
    Stage σ η (Option TalkLine) := do
  checkPromptFree H who
  setTalk (some { holder := who, first, last, current := first })
  advanceTalk S

def beginSelection (H : Holders η) (who : η) : Stage σ η Unit := do
  checkPromptFree H who
  setChooser (some who)

def endSelection (who : η) : Stage σ η Unit := do
  if (← get).ui.holdsSelection who then setChooser none

def release (S : Services σ) (who : η) : Stage σ η Unit := do
  if (← get).ui.holdsTalk who then
    setTalk none
    play (S.perform .closeDialog)
  if (← get).ui.holdsSelection who then
    setChooser none
    play (S.perform .closeSelection)

end EventScript.Stage
