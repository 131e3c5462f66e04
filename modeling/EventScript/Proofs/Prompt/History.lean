import EventScript.Proofs.Prompt.Schedule

/-! Who holds the prompt in any session that is reached from its start. -/

namespace EventScript

variable {H : Host}

def Session.AwaitsPrompt (s : Session H) (h : InstanceId) : Prop :=
  s.waitKind? h = some .dialogue ∨ s.waitKind? h = some .selection

lemma Session.IsAtStart.inOrder {s : Session H} (h : s.IsAtStart) : PromptsInOrder s := by
  obtain ⟨setup, scene, fade, files, rfl⟩ := h.eq_mk
  refine ⟨rfl, ?_, ?_, .inl rfl, ?_, ?_, rfl, rfl⟩ <;>
    simp [Session.talker?, Session.ui, Session.waitKind?, Session.status?, Session.instance?]

section InOrder

variable {s : Session H} {h k : InstanceId}

lemma PromptsInOrder.isLive (hs : PromptsInOrder s) (hw : s.waitKind? h ≠ none) : s.IsLive h := by
  obtain ⟨x, hx⟩ := Option.ne_none_iff_exists'.mp hw
  exact ⟨List.mem_append_left _ (hs.listed h hw), Session.isActive_of_waitKind? hx⟩

lemma PromptsInOrder.talker_iff (hs : PromptsInOrder s) :
    s.talker? = some h ↔ s.IsLive h ∧ s.waitKind? h = some .dialogue := by
  rw [hs.talk h]
  exact ⟨fun hw => ⟨hs.isLive (by simp [hw]), hw⟩, fun hw => hw.2⟩

lemma PromptsInOrder.chooser_iff (hs : PromptsInOrder s) :
    s.ui.chooser = some h ↔ s.IsLive h ∧ s.waitKind? h = some .selection := by
  rw [hs.choice h]
  exact ⟨fun hw => ⟨hs.isLive (by simp [hw]), hw⟩, fun hw => hw.2⟩

lemma PromptsInOrder.unique (hs : PromptsInOrder s) (hh : s.AwaitsPrompt h)
    (hk : s.AwaitsPrompt k) : h = k := by
  rcases hh with hh | hh <;> rcases hk with hk | hk
  · have := (hs.talk h).mpr hh
    rw [(hs.talk k).mpr hk] at this
    exact (Option.some.inj this).symm
  · have ht := (hs.talk h).mpr hh
    have hc := (hs.choice k).mpr hk
    rcases hs.apart with hn | hn <;> simp_all
  · have ht := (hs.talk k).mpr hk
    have hc := (hs.choice h).mpr hh
    rcases hs.apart with hn | hn <;> simp_all
  · have := (hs.choice h).mpr hh
    rw [(hs.choice k).mpr hk] at this
    exact (Option.some.inj this).symm

end InOrder

lemma Services.silent_showsPrompts {σ : Type} (random : Int → Int → Play σ Int) :
    (Services.silent random).ShowsPrompts :=
  ⟨⟨fun _ _ x => ⟨(), x, rfl⟩⟩, fun _ x => ⟨none, x, rfl⟩⟩

theorem prompt_held_by_waiter (w : Wiring H) (hS : w.services.ShowsPrompts) {s₀ : Session H}
    (h₀ : s₀.IsAtStart) (rs : List (Request H)) :
    let s := s₀.after w rs
    (∀ h, s.talker? = some h ↔ s.IsLive h ∧ s.waitKind? h = some .dialogue) ∧
      (∀ h, s.ui.chooser = some h ↔ s.IsLive h ∧ s.waitKind? h = some .selection) ∧
      (∀ h k, s.AwaitsPrompt h → s.AwaitsPrompt k → h = k) ∧
      (s.ui.talk = none ∨ s.ui.chooser = none) := by
  have hs : PromptsInOrder (s₀.after w rs) :=
    Session.after_induction w (fun r => r.inOrder w hS) h₀.inOrder rs
  exact ⟨fun h => hs.talker_iff, fun h => hs.chooser_iff, fun h k => hs.unique,
    hs.apart.imp_left Option.map_eq_none_iff.mp⟩

/-- Two scripts that ask for a choice, and one that talks, in a game in which nothing happens. -/
theorem prompt_held_by_waiter_silent :
    let w := (Services.silent (σ := Unit) fun lo _ => return lo).wiring
    w.services.ShowsPrompts ∧ ∃ s₀ : Session (Host.plain Unit), s₀.IsAtStart ∧
      let s := s₀.after w [
        .startText "Choose(a, b, c, $x)" "first" none, .startText "Choose(a, b, c, $y)" "second" none,
        .tick (some 16), .startText "Talk(1, 2)" "third" none, .tick (some 16), .cancel 0,
        .tick (some 16)]
      (∀ h, s.ui.chooser = some h ↔ s.IsLive h ∧ s.waitKind? h = some .selection) ∧
        ∀ h k, s.AwaitsPrompt h → s.AwaitsPrompt k → h = k := by
  intro w
  have hS : w.services.ShowsPrompts := Services.silent_showsPrompts _
  have h₀ : (Session.sample 3 { game := () } : Session (Host.plain Unit)).IsAtStart :=
    Session.sample_isAtStart
  have h := prompt_held_by_waiter w hS h₀
  exact ⟨hS, _, h₀, (h _).2.1, (h _).2.2.1⟩

end EventScript
