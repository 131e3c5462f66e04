import EventScript.Proofs.Modular.Screen
import EventScript.Proofs.Session.Footprint

/-! The footprints of what happens on screen: dialogue, selection, fade and movie. -/

namespace EventScript

variable {H : Host} {α β : Type} {A : Set Aspect}

section Prompt

variable {σ η : Type} [DecidableEq η]

/-- Somebody other than `who`, and still active, has the dialogue or the selection. -/
def Ui.IsTakenFrom (u : Ui η) (holders : Holders η) (who : η) : Prop :=
  (∃ t, u.talk = some t ∧ t.holder ≠ who ∧ holders.isActive t.holder = true) ∨
    ∃ h, u.chooser = some h ∧ h ≠ who ∧ holders.isActive h = true

lemma Stage.checkPromptFree_cases (holders : Holders η) (who : η) (x : Screen σ η) :
    (checkPromptFree holders who x = .ok () x ∧ ¬ x.ui.IsTakenFrom holders who) ∨
      ∃ f, checkPromptFree holders who x = .error f x ∧ x.ui.IsTakenFrom holders who ∧
        ∃ message, f = .script .resourceConflict message := by
  unfold checkPromptFree
  rw [bind_of_ok (get_apply x)]
  dsimp only
  cases ht : x.ui.talk with
  | none =>
    cases hc : x.ui.chooser with
    | none => exact .inl ⟨rfl, by simp [Ui.IsTakenFrom, ht, hc]⟩
    | some h =>
      dsimp only
      split
      · exact .inr ⟨_, rfl, by simp_all [Ui.IsTakenFrom], _, rfl⟩
      · exact .inl ⟨rfl, by simp_all [Ui.IsTakenFrom]⟩
  | some t =>
    dsimp only
    split
    · exact .inr ⟨_, rfl, by simp_all [Ui.IsTakenFrom], _, rfl⟩
    · cases hc : x.ui.chooser with
      | none => exact .inl ⟨rfl, by simp_all [Ui.IsTakenFrom]⟩
      | some h =>
        dsimp only
        split
        · exact .inr ⟨_, rfl, by simp_all [Ui.IsTakenFrom], _, rfl⟩
        · exact .inl ⟨rfl, by simp_all [Ui.IsTakenFrom]⟩

lemma Stage.beginSelection_cases (holders : Holders η) (who : η) (x : Screen σ η) :
    (beginSelection holders who x = .ok () { x with ui := { x.ui with chooser := some who } } ∧
        ¬ x.ui.IsTakenFrom holders who) ∨
      ∃ f, beginSelection holders who x = .error f x ∧ x.ui.IsTakenFrom holders who := by
  unfold beginSelection
  rcases checkPromptFree_cases holders who x with ⟨hok, hfree⟩ | ⟨f, herror, htaken, -⟩
  · exact .inl ⟨bind_of_ok hok, hfree⟩
  · exact .inr ⟨f, bind_of_error herror, htaken⟩

end Prompt

namespace Stage

variable {σ η : Type}

lemma reset_of_free (S : Services σ) {x : Screen σ η} (ht : x.ui.talk = none)
    (hc : x.ui.chooser = none) : reset S x = clear S x := by
  unfold reset
  rw [bind_of_ok (get_apply _)]
  simp [ht, hc, bind_apply, clear]

end Stage

namespace Engine

lemma stage_within {p : Stage H.Game InstanceId α}
    (h : ∀ s : Session H, Changes A s { s with screen := endState p s.screen }) :
    Within A (stage p : Engine H α) := by
  intro s
  have hs := h s
  unfold endState stage
  unfold endState at hs
  cases hp : p s.screen <;> rw [hp] at hs <;> exact hs

lemma play_within (hA : .scene ∈ A) (p : Play H.Game α) : Within A (play p : Engine H α) := by
  apply stage_within
  intro s
  unfold endState Stage.play
  cases p s.screen.scene <;> exact (Change.scene s _).changes hA

lemma stage_play_within (hA : .scene ∈ A) (p : Play H.Game α) :
    Within A (stage (Stage.play p) : Engine H α) :=
  play_within hA p

lemma setTalk_within (hA : .talk ∈ A) (t : Option (Talk InstanceId)) :
    Within A (stage (Stage.setTalk t) : Engine H Unit) :=
  stage_within fun s => (Change.talk s t).changes hA

lemma setChooser_within (hA : .chooser ∈ A) (h : Option InstanceId) :
    Within A (stage (Stage.setChooser h) : Engine H Unit) :=
  stage_within fun s => (Change.chooser s h).changes hA

lemma updateFade_within (hA : .fade ∈ A) (f : Fade → Fade) :
    Within A (stage (Stage.updateFade f) : Engine H Unit) :=
  stage_within fun s => (Change.fade s (f s.ui.fade)).changes hA

lemma setMovie_within (hA : .movie ∈ A) (m : Movie) :
    Within A (stage (Stage.setMovie m) : Engine H Unit) :=
  stage_within fun s => (Change.movie s m).changes hA

lemma advanceTalk_within (hs : .scene ∈ A) (ht : .talk ∈ A) (S : Services H.Game) :
    Within A (stage (Stage.advanceTalk S) : Engine H (Option TalkLine)) :=
  (Within.modular A).stage.advanceTalk (fun _ => stage_play_within hs _) (setTalk_within ht)

lemma checkPromptFree_within (holders : Holders InstanceId) (id : InstanceId) :
    Within A (stage (Stage.checkPromptFree holders id) : Engine H Unit) :=
  (Within.modular A).stage.checkPromptFree holders id

lemma beginTalk_within (hs : .scene ∈ A) (ht : .talk ∈ A) (S : Services H.Game)
    (holders : Holders InstanceId) (id : InstanceId) (first last : Int) :
    Within A (stage (Stage.beginTalk S holders id first last) : Engine H (Option TalkLine)) :=
  (Within.modular A).stage.beginTalk (fun _ => stage_play_within hs _) (setTalk_within ht) holders
    id first last

lemma beginSelection_within (hc : .chooser ∈ A) (holders : Holders InstanceId) (id : InstanceId) :
    Within A (stage (Stage.beginSelection holders id) : Engine H Unit) :=
  (Within.modular A).stage.beginSelection (setChooser_within hc) holders id

lemma release_within (hs : .scene ∈ A) (ht : .talk ∈ A) (hc : .chooser ∈ A) (S : Services H.Game)
    (id : InstanceId) : Within A (stage (Stage.release S id) : Engine H Unit) :=
  (Within.modular A).stage.release (setTalk_within ht none) (setChooser_within hc none)
    (fun _ => stage_play_within hs _) id

lemma stopMovie_within (hs : .scene ∈ A) (hm : .movie ∈ A) (S : Services H.Game) :
    Within A (stage (Stage.stopMovie S) : Engine H Unit) :=
  (Within.modular A).stage.stopMovie (fun _ => stage_play_within hs _)
    (fun m _ => setMovie_within hm m) fun _ => stage_play_within hs _

lemma playMovie_within (hs : .scene ∈ A) (hm : .movie ∈ A) (S : Services H.Game) (file : String)
    (color : Color) : Within A (stage (Stage.playMovie S file color) : Engine H Bool) :=
  (Within.modular A).stage.playMovie (stopMovie_within hs hm S) (stage_play_within hs _)
    (fun _ _ => stage_play_within hs _) (setMovie_within hm)

lemma movieEnded_within (hs : .scene ∈ A) (S : Services H.Game) :
    Within A (stage (Stage.movieEnded S) : Engine H Bool) :=
  (Within.modular A).stage.movieEnded fun _ => stage_play_within hs _

lemma updateMovie_within (hs : .scene ∈ A) (hm : .movie ∈ A) (S : Services H.Game) :
    Within A (stage (Stage.updateMovie S) : Engine H Unit) :=
  (Within.modular A).stage.updateMovie (fun _ => stage_play_within hs _)
    fun m _ => setMovie_within hm m

lemma clear_within (hs : .scene ∈ A) (hf : .fade ∈ A) (hm : .movie ∈ A) (ha : .asleep ∈ A)
    (S : Services H.Game) : Within A (stage (Stage.clear S) : Engine H Unit) :=
  (Within.modular A).stage.clear (updateFade_within hf _) (stopMovie_within hs hm S)
    (stage_within fun s => (Change.asleep s false).changes ha)

lemma reset_within (hs : .scene ∈ A) (ht : .talk ∈ A) (hc : .chooser ∈ A) (hf : .fade ∈ A)
    (hm : .movie ∈ A) (ha : .asleep ∈ A) (S : Services H.Game) :
    Within A (stage (Stage.reset S) : Engine H Unit) :=
  (Within.modular A).stage.reset (setTalk_within ht none) (setChooser_within hc none)
    (fun _ => stage_play_within hs _) (clear_within hs hf hm ha S)

end Engine

end EventScript
