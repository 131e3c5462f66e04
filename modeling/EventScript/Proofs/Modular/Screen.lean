import EventScript.Proofs.Modular
import EventScript.Ui.Update

/-! What is made of operations on the prompt and on the movie slot. -/

namespace EventScript

def Stage.clear {σ η : Type} (S : Services σ) : Stage σ η Unit := do
  updateFade Fade.reset
  stopMovie S
  updateUi ({ · with asleep := false })

/-- The second part of giving the prompt back. -/
def Stage.releaseSelection {σ η : Type} [DecidableEq η] (S : Services σ) (who : η) :
    Stage σ η Unit := do
  if (← get).ui.holdsSelection who then
    setChooser none
    play (S.perform .closeSelection)

/-- What a reset does after the dialogue is closed. -/
def Stage.resetSelection {σ η : Type} (S : Services σ) : Stage σ η Unit := do
  if (← get).ui.chooser.isSome then
    setChooser none
    play (S.perform .closeSelection)
  clear S

namespace Modular

variable {σ η : Type} {P : ∀ {α : Type}, Stage σ η α → Prop} {S : Services σ} (hP : Modular P)

include hP

section Prompt

lemma checkPromptFree [DecidableEq η] (holders : Holders η) (who : η) :
    P (Stage.checkPromptFree holders who) := by
  refine hP.bind hP.get fun x => ?_
  dsimp only
  cases x.ui.chooser with
  | none =>
    cases x.ui.talk with
    | none => exact hP.pure _
    | some t => exact hP.guard nofun (hP.pure _)
  | some h =>
    cases x.ui.talk with
    | none => exact hP.ite (hP.throw nofun) (hP.pure _)
    | some t => exact hP.guard nofun (hP.ite (hP.throw nofun) (hP.pure _))

section Talk

variable (hline : ∀ i, P (Stage.play (S.talkLine i))) (htalk : ∀ t, P (Stage.setTalk t))

include hline htalk

lemma seekLine (n : Nat) : P (Stage.seekLine S n) := by
  induction n with
  | zero => exact hP.pure _
  | succ n ih =>
    refine hP.bind hP.get fun x => ?_
    split
    · exact hP.pure _
    · refine hP.bind (hline _) fun line => hP.bind (htalk _) fun _ => ?_
      split
      · exact hP.pure _
      · exact ih

lemma advanceTalk : P (Stage.advanceTalk S) := by
  refine hP.bind hP.get fun x => ?_
  split
  · exact hP.pure _
  · exact hP.bind (hP.seekLine hline htalk _) fun line =>
      hP.ite (hP.bind (htalk none) fun _ => hP.pure _) (hP.pure _)

lemma beginTalk [DecidableEq η] (holders : Holders η) (who : η) (first last : Int) :
    P (Stage.beginTalk S holders who first last) :=
  hP.bind (hP.checkPromptFree holders who) fun _ => hP.bind (htalk _) fun _ =>
    hP.advanceTalk hline htalk

end Talk

lemma beginSelection [DecidableEq η] (hchooser : ∀ h, P (Stage.setChooser h)) (holders : Holders η)
    (who : η) : P (Stage.beginSelection holders who) :=
  hP.bind (hP.checkPromptFree holders who) fun _ => hchooser _

section Release

variable (htalk : P (Stage.setTalk none)) (hchooser : P (Stage.setChooser none))
  (hcall : ∀ c, P (Stage.play (S.perform c)))

include hchooser in
lemma endSelection [DecidableEq η] (who : η) : P (Stage.endSelection who) :=
  hP.bind hP.get fun _ => hP.ite hchooser (hP.pure _)

include hchooser hcall

lemma releaseSelection [DecidableEq η] (who : η) : P (Stage.releaseSelection S who) :=
  hP.bind hP.get fun _ => hP.ite (hP.bind hchooser fun _ => hcall _) (hP.pure _)

lemma resetSelection (hclear : P (Stage.clear S)) : P (Stage.resetSelection S) :=
  hP.bind hP.get fun _ => hP.ite (hP.bind hchooser fun _ => hP.bind (hcall _) fun _ => hclear)
    hclear

include htalk

lemma release [DecidableEq η] (who : η) : P (Stage.release S who) := by
  have hlast := hP.releaseSelection hchooser hcall who
  refine hP.bind hP.get fun _ => hP.ite ?_ hlast
  exact hP.bind htalk fun _ => hP.bind (hcall _) fun _ => hlast

lemma reset (hclear : P (Stage.clear S)) : P (Stage.reset S) := by
  have hlast := hP.resetSelection hchooser hcall hclear
  refine hP.bind hP.get fun _ => hP.ite ?_ hlast
  exact hP.bind htalk fun _ => hP.bind (hcall _) fun _ => hlast

end Release

end Prompt

section Movie

variable (hlook : ∀ v, P (Stage.play (S.videoStopped v)))

include hlook

lemma movieEnded : P (Stage.movieEnded S) := by
  refine hP.bind hP.get fun x => ?_
  split
  · exact hP.pure _
  · exact hlook _

variable (hempty : ∀ m : Movie, m.showing = none → P (Stage.setMovie m))

include hempty

lemma updateMovie : P (Stage.updateMovie S) := by
  refine hP.bind hP.get fun x => ?_
  dsimp only
  split
  · exact hP.pure _
  · exact hP.bind (hlook _) fun _ => hP.ite (hempty _ rfl) (hP.pure _)

variable (hstop : ∀ v, P (Stage.play (S.stopVideo v)))

include hstop

lemma stopMovie : P (Stage.stopMovie S) := by
  refine hP.bind hP.get fun x => ?_
  dsimp only
  split
  · exact hP.pure _
  · exact hP.bind (hlook _) fun _ =>
      hP.ite (hP.bind (hstop _) fun _ => hempty _ rfl) (hempty _ rfl)

omit hlook hempty hstop in
lemma playMovie (hstopped : P (Stage.stopMovie S)) {file : String} {color : Color}
    (hplay : P (Stage.play (S.playVideo file color)))
    (hlog : ∀ level text, P (Stage.play (Play.log level text)))
    (hmovie : ∀ m, P (Stage.setMovie m)) : P (Stage.playMovie S file color) := by
  refine hP.bind hstopped fun _ => hP.bind hplay fun video => ?_
  split
  · exact hP.bind (hlog _ _) fun _ => hP.pure _
  · exact hP.bind (hmovie _) fun _ => hP.pure _

end Movie

lemma releaseIdle [DecidableEq η] (holders : Holders η) (hrelease : ∀ who, P (Stage.release S who))
    (h : Option η) : P (Stage.releaseIdle S holders h) := by
  cases h with
  | none => exact hP.pure _
  | some who => exact hP.ite (hrelease who) (hP.pure _)

lemma update [DecidableEq η] {holders : Holders η} (hfade : P (Stage.updateFade Fade.update))
    (hmovie : P (Stage.updateMovie S)) (hidle : ∀ h, P (Stage.releaseIdle S holders h)) :
    P (Stage.update S holders) :=
  hP.bind hfade fun _ => hP.bind hmovie fun _ => hP.bind hP.get fun _ => hP.bind (hidle _) fun _ =>
    hP.bind hP.get fun _ => hidle _

lemma clear (hfade : P (Stage.updateFade Fade.reset)) (hmovie : P (Stage.stopMovie S))
    (hawake : P (Stage.updateUi ({ · with asleep := false }))) : P (Stage.clear S) :=
  hP.bind hfade fun _ => hP.bind hmovie fun _ => hawake

end Modular

end EventScript
