import EventScript.Proofs.Services.Oblivious

/-! Two screens that show the same, with other names for those who hold the prompt. What is done to
one can be done to the other, and they still do. -/

namespace EventScript

variable {σ α β η θ : Type} {f : η → θ}

def Talk.rename (f : η → θ) (t : Talk η) : Talk θ where
  holder := f t.holder
  first := t.first
  last := t.last
  current := t.current

/-- The same is on screen, where the holders of one have new names on the other. The logs may
differ, and so may the color of the movie slot. -/
structure Screen.Mirrors (f : η → θ) (x : Screen σ θ) (y : Screen σ η) : Prop where
  scene : x.scene.Alike y.scene
  fade : x.ui.fade = y.ui.fade
  talk : x.ui.talk = y.ui.talk.map (Talk.rename f)
  chooser : x.ui.chooser = y.ui.chooser.map f
  showing : x.ui.movie.showing = y.ui.movie.showing
  asleep : x.ui.asleep = y.ui.asleep

def Holders.Mirrors (f : η → θ) (H : Holders θ) (K : Holders η) : Prop :=
  ∀ h, H.isActive (f h) = K.isActive h

namespace Screen.Mirrors

variable {x : Screen σ θ} {y : Screen σ η}

lemma talk_isSome (h : x.Mirrors f y) : x.ui.talk.isSome = y.ui.talk.isSome := by
  rw [h.talk, Option.isSome_map]

lemma chooser_isSome (h : x.Mirrors f y) : x.ui.chooser.isSome = y.ui.chooser.isSome := by
  rw [h.chooser, Option.isSome_map]

variable [DecidableEq η] [DecidableEq θ]

lemma holdsTalk (h : x.Mirrors f y) (hf : f.Injective) (who : η) :
    x.ui.holdsTalk (f who) = y.ui.holdsTalk who := by
  unfold Ui.holdsTalk
  rw [h.talk]
  cases y.ui.talk with
  | none => rfl
  | some t => exact decide_eq_decide.mpr hf.eq_iff

lemma holdsSelection (h : x.Mirrors f y) (hf : f.Injective) (who : η) :
    x.ui.holdsSelection (f who) = y.ui.holdsSelection who := by
  unfold Ui.holdsSelection
  rw [h.chooser]
  cases y.ui.chooser with
  | none => rfl
  | some t => exact decide_eq_decide.mpr (by simp [hf.eq_iff])

end Screen.Mirrors

namespace Stage

lemma play_inStep {A : α → β → Prop} {p : Play σ α} {q : Play σ β} (h : InStep Scene.Alike A p q) :
    InStep (Screen.Mirrors f) A (play p) (play q) := by
  intro x y hxy
  have hr := h x.scene y.scene hxy.scene
  unfold play
  cases hp : p x.scene <;> cases hq : q y.scene <;> rw [hp, hq] at hr <;> cases hr
  · next ha hscene => exact .ok ha { hxy with scene := hscene }
  · next ha hscene => exact .error ha { hxy with scene := hscene }

lemma log_inStep (level : LogLevel) (text text' : String) :
    InStep (Screen.Mirrors f) Eq (play (Play.log level text) : Stage σ θ Unit)
      (play (Play.log level text')) :=
  play_inStep (Play.log_inStep level text text')

lemma updateFade_inStep (g : Fade → Fade) :
    InStep (Screen.Mirrors f) Eq (updateFade g : Stage σ θ Unit) (updateFade g) :=
  .modify fun _ _ h => { h with fade := congrArg g h.fade }

lemma setTalk_inStep (t : Option (Talk η)) :
    InStep (Screen.Mirrors f) Eq (setTalk (t.map (Talk.rename f)) : Stage σ θ Unit) (setTalk t) :=
  .modify fun _ _ h => { h with talk := rfl }

lemma setChooser_inStep (t : Option η) :
    InStep (Screen.Mirrors f) Eq (setChooser (t.map f) : Stage σ θ Unit) (setChooser t) :=
  .modify fun _ _ h => { h with chooser := rfl }

lemma setMovie_inStep {m m' : Movie} (hm : m.showing = m'.showing) :
    InStep (Screen.Mirrors f) Eq (setMovie m : Stage σ θ Unit) (setMovie m') :=
  .modify fun _ _ h => { h with showing := hm }

lemma wake_inStep :
    InStep (Screen.Mirrors f) Eq (updateUi ({ · with asleep := false }) : Stage σ θ Unit)
      (updateUi ({ · with asleep := false })) :=
  .modify fun _ _ h => { h with asleep := rfl }

variable {S : Services σ} (hS : S.Oblivious)

include hS

lemma perform_inStep (c : Call) : InStep (Screen.Mirrors f) Eq
    (play (S.perform c) : Stage σ θ Unit) (play (S.perform c)) :=
  play_inStep (hS.offers (.perform c))

lemma stopMovie_inStep :
    InStep (Screen.Mirrors f) Eq (stopMovie S : Stage σ θ Unit) (stopMovie S) := by
  refine InStep.get.bind fun x y h => ?_
  dsimp only
  rw [h.showing]
  split
  · exact .same _
  · refine (play_inStep (hS.videoStopped _)).andThen fun stopped => ?_
    have hempty : InStep (Screen.Mirrors f) Eq
        (setMovie { x.ui.movie with showing := none } : Stage σ θ Unit)
        (setMovie { y.ui.movie with showing := none }) := setMovie_inStep rfl
    exact .ite Iff.rfl ((play_inStep (hS.stopVideo _)).andThen fun _ => hempty) hempty

lemma playMovie_inStep (file : String) (color : Color) :
    InStep (Screen.Mirrors f) Eq (playMovie S file color : Stage σ θ Bool)
      (playMovie S file color) := by
  refine (stopMovie_inStep hS).andThen fun _ => (play_inStep (hS.playVideo _ _)).andThen fun v => ?_
  cases v with
  | none => exact (log_inStep _ _ _).andThen fun _ => .same _
  | some video => exact (setMovie_inStep rfl).andThen fun _ => .same _

lemma movieEnded_inStep :
    InStep (Screen.Mirrors f) Eq (movieEnded S : Stage σ θ Bool) (movieEnded S) := by
  refine InStep.get.bind fun x y h => ?_
  rw [h.showing]
  split
  · exact .same _
  · exact play_inStep (hS.videoStopped _)

lemma updateMovie_inStep :
    InStep (Screen.Mirrors f) Eq (updateMovie S : Stage σ θ Unit) (updateMovie S) := by
  refine InStep.get.bind fun x y h => ?_
  dsimp only
  rw [h.showing]
  split
  · exact .same _
  · exact (play_inStep (hS.videoStopped _)).andThen fun _ =>
      .ite Iff.rfl (setMovie_inStep rfl) (.same _)

lemma seekLine_inStep (n : Nat) :
    InStep (Screen.Mirrors f) Eq (seekLine S n : Stage σ θ (Option TalkLine)) (seekLine S n) := by
  induction n with
  | zero => exact .same _
  | succ n ih =>
    refine InStep.get.bind fun x y h => ?_
    rw [h.talk]
    cases y.ui.talk with
    | none => exact .same _
    | some t =>
      refine (play_inStep (hS.offers (.talkLine _))).andThen fun line => ?_
      refine (setTalk_inStep (some { t with current := t.current + 1 })).andThen fun _ => ?_
      cases line with
      | none => exact ih
      | some l => exact .same _

lemma advanceTalk_inStep :
    InStep (Screen.Mirrors f) Eq (advanceTalk S : Stage σ θ (Option TalkLine)) (advanceTalk S) := by
  refine InStep.get.bind fun x y h => ?_
  rw [h.talk]
  cases y.ui.talk with
  | none => exact .same _
  | some t =>
    refine (seekLine_inStep hS _).andThen fun line => ?_
    exact .ite Iff.rfl ((setTalk_inStep none).andThen fun _ => .same _) (.same _)

lemma clear_inStep : InStep (Screen.Mirrors f) Eq (clear S : Stage σ θ Unit) (clear S) :=
  (updateFade_inStep Fade.reset).andThen fun _ => (stopMovie_inStep hS).andThen fun _ => wake_inStep

lemma reset_inStep : InStep (Screen.Mirrors f) Eq (reset S : Stage σ θ Unit) (reset S) := by
  have hchooser := InStep.get.bind fun (x : Screen σ θ) (y : Screen σ η) (h : x.Mirrors f y) =>
    InStep.ite_of_eq h.chooser_isSome
      ((setChooser_inStep none).andThen fun _ =>
        (perform_inStep hS .closeSelection).andThen fun _ => clear_inStep hS) (clear_inStep hS)
  refine InStep.get.bind fun x y h => .ite_of_eq h.talk_isSome ?_ hchooser
  exact (setTalk_inStep none).andThen fun _ => (perform_inStep hS _).andThen fun _ => hchooser

omit hS

variable [DecidableEq η] [DecidableEq θ] (hf : f.Injective)

include hf

lemma checkPromptFree_inStep {H : Holders θ} {K : Holders η} (hHK : H.Mirrors f K) (who : η) :
    InStep (Screen.Mirrors f) Eq (checkPromptFree H (f who) : Stage σ θ Unit)
      (checkPromptFree K who) := by
  have hbusy (h : η) : (decide (f h ≠ f who) && H.isActive (f h)) = true ↔
      (decide (h ≠ who) && K.isActive h) = true := by
    rw [hHK h, decide_eq_decide.mpr (not_congr hf.eq_iff)]
  refine InStep.get.bind fun x y h => ?_
  dsimp only
  rw [h.talk, h.chooser]
  cases y.ui.talk <;> cases y.ui.chooser
  · exact .same _
  · exact .ite (hbusy _) (.throw (.conflict _ _)) (.same _)
  · exact .guard (hbusy _) (.conflict _ _) (.same _)
  · exact .guard (hbusy _) (.conflict _ _) (.ite (hbusy _) (.throw (.conflict _ _)) (.same _))

lemma beginSelection_inStep {H : Holders θ} {K : Holders η} (hHK : H.Mirrors f K) (who : η) :
    InStep (Screen.Mirrors f) Eq (beginSelection H (f who) : Stage σ θ Unit)
      (beginSelection K who) :=
  (checkPromptFree_inStep hf hHK who).andThen fun _ => setChooser_inStep (some who)

lemma beginTalk_inStep (hS : S.Oblivious) {H : Holders θ} {K : Holders η} (hHK : H.Mirrors f K)
    (who : η) (first last : Int) :
    InStep (Screen.Mirrors f) Eq (beginTalk S H (f who) first last)
      (beginTalk S K who first last) :=
  (checkPromptFree_inStep hf hHK who).andThen fun _ =>
    (setTalk_inStep (some ⟨who, first, last, first⟩)).andThen fun _ => advanceTalk_inStep hS

lemma endSelection_inStep (who : η) :
    InStep (Screen.Mirrors f) Eq (endSelection (f who) : Stage σ θ Unit) (endSelection who) := by
  exact InStep.get.bind fun x y h =>
    .ite_of_eq (h.holdsSelection hf who) (setChooser_inStep none) (.same _)

include hS

lemma release_inStep (who : η) :
    InStep (Screen.Mirrors f) Eq (release S (f who) : Stage σ θ Unit) (release S who) := by
  have hchooser := InStep.get.bind fun (x : Screen σ θ) (y : Screen σ η) (h : x.Mirrors f y) =>
    InStep.ite_of_eq (h.holdsSelection hf who)
      ((setChooser_inStep none).andThen fun _ => perform_inStep hS .closeSelection) (.same ())
  refine InStep.get.bind fun x y h => .ite_of_eq (h.holdsTalk hf who) ?_ hchooser
  exact (setTalk_inStep none).andThen fun _ => (perform_inStep hS _).andThen fun _ => hchooser

lemma releaseIdle_inStep {H : Holders θ} {K : Holders η} (hHK : H.Mirrors f K) (who : Option η) :
    InStep (Screen.Mirrors f) Eq (releaseIdle S H (who.map f)) (releaseIdle S K who) := by
  cases who with
  | none => exact .same _
  | some h => exact .ite_of_eq (by rw [hHK h]) (release_inStep hS hf h) (.same _)

lemma update_inStep {H : Holders θ} {K : Holders η} (hHK : H.Mirrors f K) :
    InStep (Screen.Mirrors f) Eq (update S H) (update S K) := by
  refine (updateFade_inStep _).andThen fun _ => (updateMovie_inStep hS).andThen fun _ => ?_
  refine InStep.get.bind fun x y h => ?_
  have htalk : x.ui.talk.map (·.holder) = (y.ui.talk.map (·.holder)).map f := by
    rw [h.talk]
    cases y.ui.talk <;> rfl
  rw [htalk]
  refine (releaseIdle_inStep hS hf hHK _).andThen fun _ => InStep.get.bind fun x y h => ?_
  rw [h.chooser]
  exact releaseIdle_inStep hS hf hHK _

end Stage

end EventScript
