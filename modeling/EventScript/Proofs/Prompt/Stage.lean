import EventScript.Proofs.Modular.Screen
import EventScript.Session.Control

/-! The prompt on screen. As long as the game shows and closes prompts without failing, a dialogue
stays with its holder until its lines have run out, and is given back together with the choice. -/

namespace EventScript

variable {σ : Type}

def Call.isPrompt : Call → Bool
  | .showDialog .. | .closeDialog | .selection .. | .closeSelection => true
  | _ => false

/-- The game shows and closes prompts without failing. -/
structure Services.PerformsPrompts (S : Services σ) : Prop where
  perform : ∀ c : Call, c.isPrompt = true → Returns (S.perform c)

/-- It also finds lines of talk text. -/
structure Services.ShowsPrompts (S : Services σ) : Prop extends S.PerformsPrompts where
  talkLine : ∀ i, Returns (S.talkLine i)

namespace Stage

variable {η : Type} {S : Services σ}

lemma play_of_returns {α : Type} {p : Play σ α} (hp : Returns p) (x : Screen σ η) :
    ∃ a scene, play p x = .ok a { x with scene := scene } := by
  obtain ⟨a, scene, h⟩ := hp x.scene
  exact ⟨a, scene, by simp [play, h]⟩

lemma setTalk_apply (t : Option (Talk η)) (x : Screen σ η) :
    setTalk t x = .ok () { x with ui := { x.ui with talk := t } } := rfl

lemma setChooser_apply (h : Option η) (x : Screen σ η) :
    setChooser h x = .ok () { x with ui := { x.ui with chooser := h } } := rfl

lemma seekLine_of_talk (hline : ∀ i, Returns (S.talkLine i)) (n : Nat) {x : Screen σ η} {t : Talk η}
    (ht : x.ui.talk = some t) :
    ∃ line t' scene, seekLine S n x =
      .ok line { scene := scene, ui := { x.ui with talk := some t' } } ∧ t'.holder = t.holder := by
  induction n generalizing x t with
  | zero => exact ⟨none, t, x.scene, by rw [← ht]; rfl, rfl⟩
  | succ n ih =>
    obtain ⟨line, scene, hplay⟩ := play_of_returns (hline t.current) x
    unfold seekLine
    rw [bind_of_ok (get_apply x)]
    simp only [ht]
    rw [bind_of_ok hplay]
    cases line with
    | some l => exact ⟨some l, { t with current := t.current + 1 }, scene, rfl, rfl⟩
    | none =>
      obtain ⟨line, t', scene', h, hh⟩ := ih
        (x := { scene := scene, ui := { x.ui with talk := some { t with current := t.current + 1 } } })
        rfl
      exact ⟨line, t', scene', h, hh⟩

lemma advanceTalk_of_talk (hline : ∀ i, Returns (S.talkLine i)) {x : Screen σ η} {t : Talk η}
    (ht : x.ui.talk = some t) :
    ∃ line u scene, advanceTalk S x = .ok line { scene := scene, ui := { x.ui with talk := u } } ∧
      (line = none ∧ u = none ∨ ∃ l t', line = some l ∧ u = some t' ∧ t'.holder = t.holder) := by
  obtain ⟨line, t', scene, h, hh⟩ := seekLine_of_talk hline (t.last + 1 - t.current).toNat ht
  unfold advanceTalk
  rw [bind_of_ok (get_apply x)]
  simp only [ht]
  rw [bind_of_ok h]
  cases line with
  | none => exact ⟨none, none, scene, rfl, .inl ⟨rfl, rfl⟩⟩
  | some l => exact ⟨some l, some t', scene, rfl, .inr ⟨l, t', rfl, rfl, hh⟩⟩

section Release

variable [DecidableEq η] {who : η} {x : Screen σ η}

lemma releaseSelection_clears (hselection : Returns (S.perform .closeSelection)) (who : η)
    (x : Screen σ η) : ∃ scene, releaseSelection S who x = .ok () { scene := scene, ui :=
      { x.ui with chooser := if x.ui.holdsSelection who then none else x.ui.chooser } } := by
  unfold releaseSelection
  rw [bind_of_ok (get_apply x)]
  split
  · obtain ⟨_, scene, hclose⟩ := play_of_returns hselection
      { x with ui := { x.ui with chooser := none } }
    exact ⟨scene, by rw [bind_of_ok (setChooser_apply none x), hclose]⟩
  · exact ⟨x.scene, rfl⟩

lemma release_clears (hdialog : Returns (S.perform .closeDialog))
    (hselection : Returns (S.perform .closeSelection)) (who : η) (x : Screen σ η) :
    ∃ scene, release S who x = .ok () { scene := scene, ui := { x.ui with
      talk := if x.ui.holdsTalk who then none else x.ui.talk
      chooser := if x.ui.holdsSelection who then none else x.ui.chooser } } := by
  unfold release
  rw [bind_of_ok (get_apply x)]
  dsimp only
  split
  · obtain ⟨_, scene, hclose⟩ := play_of_returns hdialog { x with ui := { x.ui with talk := none } }
    rw [bind_of_ok (setTalk_apply none x), bind_of_ok hclose]
    exact releaseSelection_clears hselection who _
  · exact releaseSelection_clears hselection who x

lemma release_of_talk (hS : S.PerformsPrompts) (ht : x.ui.holdsTalk who = true)
    (hc : x.ui.holdsSelection who = false) :
    ∃ scene, release S who x = .ok () { scene := scene, ui := { x.ui with talk := none } } := by
  obtain ⟨scene, h⟩ :=
    release_clears (hS.perform .closeDialog rfl) (hS.perform .closeSelection rfl) who x
  exact ⟨scene, by simpa [ht, hc] using h⟩

lemma release_of_choice (hS : S.PerformsPrompts) (ht : x.ui.holdsTalk who = false)
    (hc : x.ui.holdsSelection who = true) :
    ∃ scene, release S who x = .ok () { scene := scene, ui := { x.ui with chooser := none } } := by
  obtain ⟨scene, h⟩ :=
    release_clears (hS.perform .closeDialog rfl) (hS.perform .closeSelection rfl) who x
  exact ⟨scene, by simpa [ht, hc] using h⟩

lemma release_of_neither (ht : x.ui.holdsTalk who = false) (hc : x.ui.holdsSelection who = false) :
    release S who x = .ok () x := by
  unfold release
  rw [bind_of_ok (get_apply _)]
  dsimp only
  rw [if_neg (by simp [ht]), bind_of_ok (get_apply _), if_neg (by simp [hc])]
  rfl

end Release

end Stage

end EventScript
