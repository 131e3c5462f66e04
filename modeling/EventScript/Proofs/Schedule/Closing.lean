import EventScript.Proofs.Prompt.Schedule
import EventScript.Proofs.Schedule.Turns

/-! How often prompts are closed. Whoever gives a prompt back closes it once, and the screen moves on
around one whose holder is active. -/

namespace EventScript

/-- The game closes prompts and looks at videos without failing or touching an entity, and counts
how often it closed a dialogue and a selection. -/
structure Services.CountsCloses {σ : Type} (S : Services σ) (dialogs selections : σ → Nat) :
    Prop where
  closeDialog : ∀ x, ∃ y, S.perform .closeDialog x = .ok () y ∧ y.entities = x.entities ∧
    dialogs y.game = dialogs x.game + 1 ∧ selections y.game = selections x.game
  closeSelection : ∀ x, ∃ y, S.perform .closeSelection x = .ok () y ∧ y.entities = x.entities ∧
    dialogs y.game = dialogs x.game ∧ selections y.game = selections x.game + 1
  videoStopped : ∀ v x, ∃ b y, S.videoStopped v x = .ok b y ∧ y.entities = x.entities ∧
    dialogs y.game = dialogs x.game ∧ selections y.game = selections x.game

section Screen

variable {σ η : Type} {S : Services σ} {dialogs selections : σ → Nat}
  (hS : S.CountsCloses dialogs selections)

include hS

lemma Services.CountsCloses.settles : S.Settles := by
  refine ⟨fun x => ?_, fun x => ?_, fun v x => ?_⟩
  · obtain ⟨y, h, -⟩ := hS.closeDialog x
    exact ⟨(), y, h⟩
  · obtain ⟨y, h, -⟩ := hS.closeSelection x
    exact ⟨(), y, h⟩
  · obtain ⟨b, y, h, -⟩ := hS.videoStopped v x
    exact ⟨b, y, h⟩

lemma Stage.play_closeDialog (x : Screen σ η) : ∃ y,
    play (S.perform .closeDialog) x = .ok () { x with scene := y } ∧
      y.entities = x.scene.entities ∧ dialogs y.game = dialogs x.scene.game + 1 ∧
      selections y.game = selections x.scene.game := by
  obtain ⟨y, h, hy⟩ := hS.closeDialog x.scene
  exact ⟨y, by simp [play, h], hy⟩

lemma Stage.play_closeSelection (x : Screen σ η) : ∃ y,
    play (S.perform .closeSelection) x = .ok () { x with scene := y } ∧
      y.entities = x.scene.entities ∧ dialogs y.game = dialogs x.scene.game ∧
      selections y.game = selections x.scene.game + 1 := by
  obtain ⟨y, h, hy⟩ := hS.closeSelection x.scene
  exact ⟨y, by simp [play, h], hy⟩

lemma Stage.updateMovie_apply (x : Screen σ η) : ∃ y, updateMovie S x = .ok () y ∧
    y.ui.talk = x.ui.talk ∧ y.ui.chooser = x.ui.chooser ∧ y.scene.entities = x.scene.entities ∧
    dialogs y.scene.game = dialogs x.scene.game ∧
    selections y.scene.game = selections x.scene.game := by
  unfold updateMovie
  rw [bind_of_ok (get_apply x)]
  cases x.ui.movie.showing with
  | none => exact ⟨x, rfl, rfl, rfl, rfl, rfl, rfl⟩
  | some v =>
    obtain ⟨ended, y, hlook, hy⟩ := hS.videoStopped v.1 x.scene
    have hplay : play (S.videoStopped v.1) x = .ok ended { x with scene := y } := by
      simp [play, hlook]
    dsimp only
    rw [bind_of_ok hplay]
    cases ended <;> exact ⟨_, rfl, rfl, rfl, hy⟩

variable [DecidableEq η]

lemma Stage.releaseSelection_apply (who : η) (x : Screen σ η) : ∃ y,
    releaseSelection S who x =
      .ok () { scene := y, ui := { x.ui with chooser := x.ui.chooser.filter (· ≠ who) } } ∧
    y.entities = x.scene.entities ∧ dialogs y.game = dialogs x.scene.game ∧
    selections y.game = selections x.scene.game + (x.ui.chooser.any (· = who)).toNat := by
  unfold releaseSelection
  rw [bind_of_ok (get_apply x)]
  by_cases hholds : x.ui.chooser = some who
  · obtain ⟨y, hclose, hy⟩ := play_closeSelection hS
      { x with ui := { x.ui with chooser := (none : Option η) } }
    refine ⟨y, ?_, by simpa [hholds] using hy⟩
    rw [if_pos (by simp [Ui.holdsSelection, hholds]), bind_of_ok (setChooser_apply none x), hclose]
    simp [hholds, Option.filter]
  · have hsame : x.ui.chooser.filter (fun k => decide (k ≠ who)) = x.ui.chooser ∧
        x.ui.chooser.any (fun k => decide (k = who)) = false := by
      cases hc : x.ui.chooser with
      | none => simp
      | some k =>
        have hk : k ≠ who := fun h => hholds (h ▸ hc)
        simp [hk]
    refine ⟨x.scene, ?_, rfl, rfl, by simp [hsame.2]⟩
    rw [if_neg (by simp [Ui.holdsSelection, hholds]), hsame.1]
    rfl

lemma Stage.release_apply (who : η) (x : Screen σ η) : ∃ y, release S who x = .ok () {
      scene := y
      ui := { x.ui with
        talk := x.ui.talk.filter (·.holder ≠ who), chooser := x.ui.chooser.filter (· ≠ who) } } ∧
    y.entities = x.scene.entities ∧
    dialogs y.game = dialogs x.scene.game + (x.ui.talk.any (·.holder = who)).toNat ∧
    selections y.game = selections x.scene.game + (x.ui.chooser.any (· = who)).toNat := by
  unfold release
  rw [bind_of_ok (get_apply x)]
  by_cases hholds : x.ui.holdsTalk who = true
  · obtain ⟨t, ht, hwho⟩ : ∃ t, x.ui.talk = some t ∧ t.holder = who := by
      unfold Ui.holdsTalk at hholds
      cases ht : x.ui.talk with
      | none => simp [ht] at hholds
      | some t => exact ⟨t, rfl, by simpa [ht] using hholds⟩
    obtain ⟨y, hclose, he, hd, hs⟩ := play_closeDialog hS
      { x with ui := { x.ui with talk := (none : Option (Talk η)) } }
    obtain ⟨z, hlast, he', hd', hs'⟩ :=
      releaseSelection_apply hS who { scene := y, ui := { x.ui with talk := none } }
    unfold releaseSelection at hlast
    refine ⟨z, ?_, he'.trans he, ?_, ?_⟩
    · dsimp only
      rw [if_pos hholds, bind_of_ok (setTalk_apply none x), bind_of_ok hclose, hlast]
      simp [ht, hwho, Option.filter]
    · rw [hd', hd]
      simp [ht, hwho]
    · rw [hs', hs]
  · have hsame : x.ui.talk.filter (fun t => decide (t.holder ≠ who)) = x.ui.talk ∧
        x.ui.talk.any (fun t => decide (t.holder = who)) = false := by
      unfold Ui.holdsTalk at hholds
      cases ht : x.ui.talk with
      | none => simp
      | some t => simpa [ht] using hholds
    obtain ⟨z, hlast, he, hd, hs⟩ := releaseSelection_apply hS who x
    unfold releaseSelection at hlast
    refine ⟨z, ?_, he, ?_, hs⟩
    · dsimp only
      rw [if_neg hholds, hlast, hsame.1]
    · rw [hd, hsame.2]
      rfl

/-- Nothing opens, and nothing is closed that is not open. -/
structure Screen.Tidies (dialogs selections : σ → Nat) (x y : Screen σ η) : Prop where
  entities : y.scene.entities = x.scene.entities
  talk : y.ui.talk = x.ui.talk ∨ y.ui.talk = none
  chooser : y.ui.chooser = x.ui.chooser ∨ y.ui.chooser = none
  dialogs : x.ui.talk = none → dialogs y.scene.game = dialogs x.scene.game
  selections : x.ui.chooser = none → selections y.scene.game = selections x.scene.game

omit hS [DecidableEq η]

namespace Screen.Tidies

variable {x y z : Screen σ η}

lemma refl (x : Screen σ η) : x.Tidies dialogs selections x :=
  ⟨rfl, .inl rfl, .inl rfl, fun _ => rfl, fun _ => rfl⟩

lemma dialogue (h : x.Tidies dialogs selections y) (hx : x.ui.talk = none) :
    y.ui.talk = none ∧ dialogs y.scene.game = dialogs x.scene.game :=
  ⟨h.talk.elim (fun he => he.trans hx) fun he => he, h.dialogs hx⟩

lemma selection (h : x.Tidies dialogs selections y) (hx : x.ui.chooser = none) :
    y.ui.chooser = none ∧ selections y.scene.game = selections x.scene.game :=
  ⟨h.chooser.elim (fun he => he.trans hx) fun he => he, h.selections hx⟩

lemma trans (h : x.Tidies dialogs selections y) (h' : y.Tidies dialogs selections z) :
    x.Tidies dialogs selections z where
  entities := h'.entities.trans h.entities
  talk := h'.talk.elim (fun he => he ▸ h.talk) .inr
  chooser := h'.chooser.elim (fun he => he ▸ h.chooser) .inr
  dialogs hx := (h'.dialogs (h.dialogue hx).1).trans (h.dialogs hx)
  selections hx := (h'.selections (h.selection hx).1).trans (h.selections hx)

end Screen.Tidies

variable [DecidableEq η]

include hS

lemma Stage.releaseIdle_apply (holders : Holders η) (h : Option η) (x : Screen σ η) :
    ∃ y, releaseIdle S holders h x = .ok () y ∧ x.Tidies dialogs selections y := by
  have hfilter {α : Type} (o : Option α) (p : α → Bool) : o.filter p = o ∨ o.filter p = none := by
    cases o with
    | none => exact .inl rfl
    | some a => cases h : p a <;> simp [Option.filter, h]
  cases h with
  | none => exact ⟨x, rfl, .refl x⟩
  | some k =>
    cases hactive : holders.isActive k with
    | true => exact ⟨x, by simp [releaseIdle, hactive], .refl x⟩
    | false =>
      obtain ⟨y, hrelease, he, hd, hc⟩ := release_apply hS k x
      refine ⟨_, by simpa [releaseIdle, hactive] using hrelease, he, hfilter _ _, hfilter _ _,
        fun hx => ?_, fun hx => ?_⟩
      · simp [hd, hx]
      · simp [hc, hx]

lemma Stage.update_apply (holders : Holders η) (x : Screen σ η) :
    ∃ y, update S holders x = .ok () y ∧ x.Tidies dialogs selections y := by
  let x' : Screen σ η := { x with ui := { x.ui with fade := x.ui.fade.update } }
  obtain ⟨y, hmovie, ht, hc, he, hd, hs⟩ := updateMovie_apply hS x'
  obtain ⟨z, htalk, hz⟩ := releaseIdle_apply hS holders (y.ui.talk.map (·.holder)) y
  obtain ⟨v, hchooser, hv⟩ := releaseIdle_apply hS holders z.ui.chooser z
  have hy : x.Tidies dialogs selections y :=
    ⟨he, .inl ht, .inl hc, fun _ => hd, fun _ => hs⟩
  refine ⟨v, ?_, (hy.trans hz).trans hv⟩
  unfold update
  rw [bind_of_ok (show updateFade Fade.update x = .ok () x' from rfl), bind_of_ok hmovie,
    bind_of_ok (get_apply y), bind_of_ok htalk, bind_of_ok (get_apply z)]
  exact hchooser

end Screen

end EventScript
