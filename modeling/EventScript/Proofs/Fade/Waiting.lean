import EventScript.Cli.Run
import EventScript.Proofs.Fade.Step

/-! Waiting for the screen to be dark. There is one fade for all, and whoever fades in turns it
around, also for one that waits for the opposite. -/

namespace EventScript

variable {H : Host} {w : Wiring H} {s t : Session H} {k : InstanceId} {Q : Fade → Prop}

lemma Fade.fadeIn_outEnded (f : Fade) : f.fadeIn.outEnded = true := by
  change decide ((1 : Float) ≤ Decimal.clip (Decimal.roundPlaces 1) 0 1) = true
  decide +kernel

lemma Fade.update_fadingOut (f : Fade) : f.update.fadingOut = f.fadingOut := by
  unfold Fade.update
  split
  · rfl
  · split
    · dsimp only
      split <;> rfl
    · rfl

/-- In the act someone else fades in while the instance waits for the dark. -/
structure Act.FadesInOn (k : InstanceId) (v : Act H) : Prop where
  fadesIn : v.instruction? = some .fadeIn
  other : v.id ≠ k
  waits : v.before.waitKind? k = some .fadeOut

/-- The instance waits for the dark when someone else fades in, takes no step before the next
opening, and nobody has faded out since. -/
def PassedOver (w : Wiring H) (s₀ : Session H) (k : InstanceId) (us : List (Act H))
    (s : Session H) : Prop :=
  ∃ us₁ v us₂ us₃ t, us = us₁ ++ v :: (us₂ ++ us₃) ∧ Course w .univ s₀ us₁ v.before ∧
    v.FadesInOn k ∧ (∀ u ∈ us₂ ++ us₃, u.instruction? ≠ some .fadeOut) ∧
    Course w {a | a ≠ .opening} v.after us₂ t ∧ (∀ u ∈ us₂, u.id ≠ k) ∧
    (us₃ = [] ∧ s = t ∨ Course w .univ (endState (Aside.opening.run w) t) us₃ s)

/-- Of an instance that waits for the dark: the screen fades out or, until the next opening, may be
taken for dark, or the instance was passed over before. -/
inductive DarkOr (w : Wiring H) (s₀ : Session H) (k : InstanceId) :
    List (Act H) → Session H → Prop
  | fading {us : List (Act H)} {s : Session H} : s.ui.fade.fadingOut = true → DarkOr w s₀ k us s
  | unseen {us us₂ : List (Act H)} {v : Act H} {s : Session H} : Course w .univ s₀ us v.before →
      v.FadesInOn k → (∀ u ∈ us₂, u.instruction? ≠ some .fadeOut) →
      Course w {a | a ≠ .opening} v.after us₂ s → (∀ u ∈ us₂, u.id ≠ k) →
      s.ui.fade.outEnded = true → DarkOr w s₀ k (us ++ v :: us₂) s
  | missed {us us₂ us₃ : List (Act H)} {v : Act H} {s t : Session H} :
      Course w .univ s₀ us v.before → v.FadesInOn k →
      (∀ u ∈ us₂ ++ us₃, u.instruction? ≠ some .fadeOut) →
      Course w {a | a ≠ .opening} v.after us₂ t → (∀ u ∈ us₂, u.id ≠ k) →
      Course w .univ (endState (Aside.opening.run w) t) us₃ s →
      DarkOr w s₀ k (us ++ v :: (us₂ ++ us₃)) s

section DarkOr

variable {s₀ : Session H} {us : List (Act H)} {a : Aside H} {v : Act H}

lemma DarkOr.passedOver (h : DarkOr w s₀ k us s) :
    s.ui.fade.fadingOut = true ∨ PassedOver w s₀ k us s := by
  cases h with
  | fading h => exact .inl h
  | @unseen us us₂ v _ hc hv hus h hk =>
    exact .inr ⟨us, v, us₂, [], s, by simp, hc, hv, by simpa using hus, h, hk, .inl ⟨rfl, rfl⟩⟩
  | @missed us us₂ us₃ v _ t hc hv hus h hk h' =>
    exact .inr ⟨us, v, us₂, us₃, t, rfl, hc, hv, hus, h, hk, .inr h'⟩

lemma DarkOr.aside (h : DarkOr w s₀ k us s) (ha : a ≠ .opening)
    (hfade : (endState (a.run w) s).ui.fade = s.ui.fade) :
    DarkOr w s₀ k us (endState (a.run w) s) := by
  cases h with
  | fading h => exact .fading (hfade ▸ h)
  | unseen hc hv hus h hk hdark => exact .unseen hc hv hus (h.aside ha) hk (hfade ▸ hdark)
  | missed hc hv hus h hk h' => exact .missed hc hv hus h hk (h'.aside (Set.mem_univ a))

/-- After the next opening it does not matter any more who takes a step. -/
lemma DarkOr.opening (h : DarkOr w s₀ k us s)
    (hfade : (endState (Aside.opening.run w) s).ui.fade.fadingOut = s.ui.fade.fadingOut) :
    DarkOr w s₀ k us (endState (Aside.opening.run w) s) := by
  cases h with
  | fading h => exact .fading (hfade ▸ h)
  | @unseen us us₂ v _ hc hv hus h hk =>
    have hmissed : DarkOr w s₀ k (us ++ v :: (us₂ ++ [])) _ :=
      .missed hc hv (by simpa using hus) h hk .start
    simpa using hmissed
  | missed hc hv hus h hk h' => exact .missed hc hv hus h hk (h'.aside (Set.mem_univ _))

lemma DarkOr.act (h : DarkOr w s₀ k us v.before) (hv : v.IsStep w)
    (hout : v.instruction? ≠ some .fadeOut) (hfade : v.after.ui.fade = v.before.ui.fade)
    (hpolled : v.id = k → v.before.ui.fade.outEnded = false) :
    DarkOr w s₀ k (us ++ [v]) v.after := by
  have hall {us : List (Act H)} (hus : ∀ u ∈ us, u.instruction? ≠ some .fadeOut) :
      ∀ u ∈ us ++ [v], u.instruction? ≠ some .fadeOut := by
    simpa [or_imp, forall_and] using ⟨hus, hout⟩
  cases h with
  | fading h => exact .fading (hfade ▸ h)
  | @unseen us us₂ u _ hc hu hus h hk hdark =>
    have hid : v.id ≠ k := fun hid => by simp [hpolled hid] at hdark
    rw [List.append_assoc, List.cons_append]
    refine .unseen hc hu (hall hus) (h.act hv rfl) ?_ (hfade ▸ hdark)
    simpa [or_imp, forall_and] using ⟨hk, hid⟩
  | @missed us us₂ us₃ u _ t hc hu hus h hk h' =>
    rw [List.append_assoc, List.cons_append, List.append_assoc]
    refine .missed hc hu ?_ h hk (h'.act hv rfl)
    rw [← List.append_assoc]
    exact hall hus

end DarkOr

def Session.AwaitsDark (k : InstanceId) (s : Session H) : Prop :=
  k ∈ s.instances ∧ s.status? k = some (.suspended .fadeOut)

lemma Session.inDark_self (hs : s.IsHostless) (R : Fade → Prop) (hR : R s.ui.fade) :
    s.InDark k (Listed k fun f => s.AwaitsDark k ∧ R f) :=
  ⟨hs, fun hwait hk => ⟨⟨hk, hwait⟩, hR⟩⟩

lemma Session.InDark.of_awaits (hs : s.InDark k (Listed k Q)) (hk : s.AwaitsDark k) : Q s.ui.fade :=
  hs.dark hk.2 hk.1

lemma Act.IsStep.darkOr {s₀ : Session H} {us : List (Act H)} {v : Act H} (hv : v.IsStep w)
    (hless : v.before.IsHostless) (hwithdrawn : v.before.withdrawn = [])
    (hc : Course w .univ s₀ us v.before)
    (ih : v.before.AwaitsDark k → DarkOr w s₀ k us v.before) (hk : v.after.AwaitsDark k) :
    DarkOr w s₀ k (us ++ [v]) v.after := by
  obtain ⟨elapsed, hafter⟩ := hv
  have hv : v.IsStep w := ⟨elapsed, hafter⟩
  -- Only a step that fades changes what one who waits for the dark can rely on.
  by_cases hout : v.instruction? = some .fadeOut
  · have hfade := (Engine.step_fades (w := w) hwithdrawn rfl hout (g := Fade.fadeOut) rfl elapsed).1
    rw [← hafter] at hfade
    exact .fading (by rw [hfade]; rfl)
  by_cases hin : v.instruction? = some .fadeIn
  · obtain ⟨hfade, hlisted, hself, hothers⟩ := Engine.step_fades (w := w) hwithdrawn rfl hin
      (g := Fade.fadeIn) (y := .fadeIn) rfl elapsed
    rw [← hafter] at hfade hlisted hself hothers
    have hid : v.id ≠ k := by
      rintro rfl
      rw [hk.2] at hself
      simp at hself
    have hwait : v.before.waitKind? k = some .fadeOut := by
      rw [Session.waitKind?, ← hothers k (Ne.symm hid), hk.2]
      rfl
    refine .unseen hc ⟨hin, hid, hwait⟩ (by simp) .start (by simp) ?_
    rw [hfade]
    exact Fade.fadeIn_outEnded _
  have hquiet : ∀ x, Turn.instruction? ⟨v.before, v.id⟩ = some x → x.fades = false := by
    intro x hx
    cases x with
    | fadeOut => exact absurd hx hout
    | fadeIn => exact absurd hx hin
    | _ => rfl
  have hsame := Engine.step_inDark (w := w) elapsed
    (v.before.inDark_self (k := k) hless (· = v.before.ui.fade) rfl) hquiet
  rw [← hafter] at hsame
  obtain ⟨hwaits, hfade⟩ := hsame.of_awaits hk
  refine (ih hwaits).act hv hout hfade fun hid => ?_
  by_contra hdark
  subst hid
  refine Engine.step_of_dark (w := w) hless hwaits.2 (Bool.not_eq_false _ ▸ hdark) elapsed ?_
  rw [← hafter]
  exact hk.2

lemma Course.darkOr {s₀ : Session H} (h₀ : s₀.IsAtStart) {us : List (Act H)}
    (h : Course w .univ s₀ us s) (hk : s.AwaitsDark k) : DarkOr w s₀ k us s := by
  induction h with
  | start =>
    obtain ⟨setup, scene, fade, files, rfl⟩ := h₀.eq_mk
    simp [Session.AwaitsDark, Session.status?, Session.instance?] at hk
  | act hc hv hbefore ih =>
    subst hbefore
    exact hv.darkOr (hc.isHostless h₀) (hc.withdrawn h₀) hc ih hk
  | @aside t us a hc _ ih =>
    have hless := hc.isHostless h₀
    by_cases ha : a = .opening
    · subst ha
      have hsame := (Engine.opening_inDark (k := k) w.services
        (Q := fun f => t.AwaitsDark k ∧ f.fadingOut = t.ui.fade.fadingOut)
        fun f hf => ⟨hf.1, f.update_fadingOut.trans hf.2⟩).endState
        (t.inDark_self hless (·.fadingOut = t.ui.fade.fadingOut) rfl)
      obtain ⟨hwaits, hfade⟩ := hsame.of_awaits hk
      exact (ih hwaits).opening hfade
    · have hsame := (Engine.aside_inDark (w := w) (k := k) ha).endState
        (t.inDark_self hless (· = t.ui.fade) rfl)
      obtain ⟨hwaits, hfade⟩ := hsame.of_awaits hk
      exact (ih hwaits).aside ha hfade

theorem fade_out_goes_on_unless_passed_over (w : Wiring H) {s₀ : Session H} (h₀ : s₀.IsAtStart)
    {us : List (Act H)} {s : Session H} (h : Course w .univ s₀ us s) {k : InstanceId}
    (hk : s.IsLive k) (hwait : s.waitKind? k = some .fadeOut) :
    s.ui.fade.fadingOut = true ∨ PassedOver w s₀ k us s := by
  have hdark : s.status? k = some (.suspended .fadeOut) := by
    obtain ⟨x, hx, hkind⟩ := Option.bind_eq_some_iff.mp hwait
    cases x with
    | suspended y =>
      cases y with
      | fadeOut => exact hx
      | _ => simp [Status.waitKind?, Status.wait?, Wait.kind] at hkind
    | _ => simp [Status.waitKind?, Status.wait?] at hkind
  exact (h.darkOr h₀ ⟨hk.1, hdark⟩).passedOver

/-- One script fades out and, in the same tick, the next one fades in. -/
theorem fade_out_goes_on_unless_passed_over_cli : ∃ (s₀ s : Session Cli.host)
    (us : List (Act Cli.host)), s₀.IsAtStart ∧ Course Cli.wiring .univ s₀ us s ∧ s.IsLive 0 ∧
      s.waitKind? 0 = some .fadeOut ∧ PassedOver Cli.wiring s₀ 0 us s := by
  have hstart : ∃ s₀ : Session Cli.host, s₀.IsAtStart ∧
      let s := s₀.after Cli.wiring [.startText "FadeOut()" "dusk" none,
        .startText "FadeIn()" "dawn" none, .tick (some 16)]
      s.IsLive 0 ∧ s.waitKind? 0 = some .fadeOut ∧ s.ui.fade.fadingOut = false := by
    refine ⟨.sample 3 { game := Cli.Game.mk {} 0 }, Session.sample_isAtStart,
      ⟨?_, ?_⟩, ?_, ?_⟩ <;> decide +kernel
  obtain ⟨s₀, h₀, hlive, hwait, hfade⟩ := hstart
  obtain ⟨us, hc⟩ := s₀.after_course Cli.wiring [.startText "FadeOut()" "dusk" none,
    .startText "FadeIn()" "dawn" none, .tick (some 16)]
  have h := fade_out_goes_on_unless_passed_over Cli.wiring h₀ hc hlive hwait
  exact ⟨s₀, _, us, h₀, hc, hlive, hwait, h.resolve_left (by simp [hfade])⟩

/-- The first script of two may be left with a screen that does not fade out. -/
theorem fade_out_stops_under_wait : ∃ s₀ : Session Cli.host, s₀.IsAtStart ∧
    let s := s₀.after Cli.wiring [.startText "FadeOut()" "dusk" none,
      .startText "FadeIn()" "dawn" none, .tick (some 16)]
    s.IsLive 0 ∧ s.waitKind? 0 = some .fadeOut ∧ s.ui.fade.fadingOut = false := by
  refine ⟨.sample 3 { game := Cli.Game.mk {} 0 }, Session.sample_isAtStart,
    ⟨?_, ?_⟩, ?_, ?_⟩ <;> decide +kernel

end EventScript
