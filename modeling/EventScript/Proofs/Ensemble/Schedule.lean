import EventScript.Proofs.Ensemble.Step
import EventScript.Proofs.Session.Upkeep

/-! The history of a session as a play of its ensemble. Whatever is asked of the session between its
ticks, its instances are started, take turns and are canceled, and nothing else happens to them. -/

namespace EventScript

variable {H : Host} {s : Session H} {e : Ensemble}

namespace Session

def ComesFrom (e : Ensemble) (s : Session H) : Prop :=
  s.withdrawn = [] ∧ ∃ cues, Cue.started cues = [] ∧ s.ensemble = e.play cues

lemma ComesFrom.after_cue (h : s.ComesFrom e) {t : Session H} (ht : t.withdrawn = []) (cue : Cue)
    (hcue : cue.script? = none) (hensemble : t.ensemble = s.ensemble.apply cue) :
    t.ComesFrom e := by
  obtain ⟨-, cues, hstarted, hs⟩ := h
  refine ⟨ht, cues ++ [cue], ?_, ?_⟩
  · rw [Cue.started_append, hstarted, Cue.started_cons, hcue]
    rfl
  · rw [hensemble, hs, Ensemble.play, Ensemble.play, List.foldl_concat]

lemma ComesFrom.isPlain (h : s.ComesFrom e) (he : e.IsPlain) : s.ensemble.IsPlain := by
  obtain ⟨-, cues, hstarted, hs⟩ := h
  rw [hs]
  exact he.play (by simp [hstarted])

lemma keeps_comesFrom (w : Wiring H) (he : e.IsPlain) : w.Keeps (ComesFrom e) where
  apart := by
    rintro a ha s t hc ⟨hs, cues, hstarted, hensemble⟩
    exact ⟨hc.withdrawn.trans hs, cues, hstarted, (hc.ensemble ha).trans hensemble⟩
  canceled := by
    intro s k i hi hactive h
    have hcopy := getElem?_ensemble_of_some hi
    have hr : i.copy.phase = .running := by
      obtain ⟨-, hwaiting⟩ := h.isPlain he i.copy (List.mem_of_getElem? hcopy)
      cases hstatus : i.status <;>
        simp_all [Instance.copy, Status.phase, Instance.isActive, Status.isActive]
    refine h.after_cue h.1 (.cancel k) rfl ?_
    rw [ensemble_modifyInstance hi, Ensemble.apply, Ensemble.cancel_of_running hcopy hr]
    rfl
  step := by
    intro k elapsed
    refine Leads.of_endState fun s h => ?_
    obtain ⟨hs, hensemble⟩ := Engine.step_ensemble w k elapsed h.1 (h.isPlain he)
    exact h.after_cue hs (.turn k) rfl hensemble

end Session

lemma Request.ensemble (w : Wiring H) {r : Request H} (hr : r.isQuiet = true)
    (hs : s.withdrawn = []) (hplain : s.ensemble.IsPlain) :
    ∃ cues, Cue.started cues = r.script?.toList ∧ (endState (r.run w) s).withdrawn = [] ∧
      (endState (r.run w) s).ensemble = s.ensemble.play cues := by
  rcases r.starts_or_keeps w hr with
    ⟨script, owner, pausable, watcher, hscript, hrun⟩ | ⟨hnone, hkeeps⟩
  · refine ⟨[.start script], by rw [hscript]; rfl, ?_⟩
    rw [hrun, endState, Engine.start_apply]
    refine ⟨hs, ?_⟩
    simp [Session.ensemble, Ensemble.play, Ensemble.apply, Ensemble.start, Instance.copy,
      Status.phase]
  · have hcomes := (hkeeps _ (Session.keeps_comesFrom w hplain)).endState ⟨hs, [], rfl, rfl⟩
    obtain ⟨ht, cues, hstarted, hensemble⟩ := hcomes
    exact ⟨cues, by rw [hstarted, hnone]; rfl, ht, hensemble⟩

namespace Session

lemma after_ensemble (w : Wiring H) {rs : List (Request H)} (hrs : ∀ r ∈ rs, r.isQuiet = true)
    (hscripts : ∀ script ∈ Request.started rs, script.IsPlain) (hs : s.withdrawn = [])
    (hplain : s.ensemble.IsPlain) :
    ∃ cues, Cue.started cues = Request.started rs ∧
      (s.after w rs).ensemble = s.ensemble.play cues := by
  induction rs generalizing s with
  | nil => exact ⟨[], rfl, rfl⟩
  | cons r rs ih =>
    rw [List.forall_mem_cons] at hrs
    rw [Request.started_cons, List.forall_mem_append] at hscripts
    obtain ⟨cues, hstarted, ht, hensemble⟩ := r.ensemble w hrs.1 hs hplain
    have hplain' : (endState (r.run w) s).ensemble.IsPlain := by
      rw [hensemble]
      exact hplain.play (by rw [hstarted]; exact hscripts.1)
    obtain ⟨cues', hstarted', hensemble'⟩ := ih hrs.2 hscripts.2 ht hplain'
    refine ⟨cues ++ cues', ?_, ?_⟩
    · rw [Cue.started_append, Request.started_cons, hstarted, hstarted']
    · rw [Session.after, List.foldl_cons, ← Session.after, hensemble', hensemble]
      simp only [Ensemble.play, List.foldl_append]

/-- A session that was just set up, in whatever way, with some variables. -/
def IsAtStartWith (v : Store) (s : Session H) : Prop :=
  ∃ a : Session H, a.IsAtStart ∧ s = { a with store := v }

lemma IsAtStartWith.eq_mk {v : Store} (h : s.IsAtStartWith v) : ∃ setup scene fade files,
    s = { setup, screen := { scene, ui := { fade } }, store := v, files } := by
  obtain ⟨a, ha, rfl⟩ := h
  obtain ⟨setup, scene, fade, files, rfl⟩ := ha.eq_mk
  exact ⟨setup, scene, fade, files, rfl⟩

lemma IsAtStartWith.after_ensemble {v : Store} (h : s.IsAtStartWith v) (w : Wiring H)
    {rs : List (Request H)} (hrs : ∀ r ∈ rs, r.isQuiet = true)
    (hscripts : ∀ script ∈ Request.started rs, script.IsPlain) :
    ∃ cues, Cue.started cues = Request.started rs ∧
      (s.after w rs).ensemble = Ensemble.play { store := v } cues := by
  obtain ⟨setup, scene, fade, files, rfl⟩ := h.eq_mk
  exact Session.after_ensemble w hrs hscripts rfl nofun

lemma IsAtStartWith.scripts_after {v : Store} (h : s.IsAtStartWith v) (w : Wiring H)
    {rs : List (Request H)} (hrs : ∀ r ∈ rs, r.isQuiet = true)
    (hscripts : ∀ script ∈ Request.started rs, script.IsPlain) :
    (s.after w rs).ensemble.scripts = Request.started rs := by
  obtain ⟨cues, hstarted, hs⟩ := h.after_ensemble w hrs hscripts
  rw [hs, Ensemble.scripts_play, hstarted]
  rfl

end Session

end EventScript
