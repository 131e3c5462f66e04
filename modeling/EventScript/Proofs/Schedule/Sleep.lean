import EventScript.Proofs.Prompt.Poll
import EventScript.Proofs.Schedule.Books

/-! Sleep. While an instance sleeps only its own turns touch what is left of its sleep. Each takes
off the time that went by, and the first that leaves nothing lets the instance go on. -/

namespace EventScript

variable {H : Host} {w : Wiring H} {s t : Session H} {k : InstanceId} {p : Script × Nat} {x : Float}

/-- The instance sleeps at this place of its script for so much time to come, and the schedule runs
it. -/
structure Session.Sleeps (k : InstanceId) (p : Script × Nat) (x : Float) (s : Session H) :
    Prop where
  hostless : s.IsHostless
  asleep : s.status? k = some (.suspended (.sleep x))
  place : s.place? k = some p
  listed : k ∈ s.active

namespace Session.Sleeps

lemma isActive (hs : s.Sleeps k p x) : s.isActive k = true := by
  rw [s.isActive_eq, hs.asleep]
  rfl

lemma command?_eq_none (hs : s.Sleeps k p x) : Turn.command? ⟨s, k⟩ = none := by
  obtain ⟨i, hi, hx⟩ := Option.map_eq_some_iff.mp hs.asleep
  simp [Turn.command?, hi, hx]

lemma ignores {a : Aspect} (hactive : a ≠ .active) (hcursor : a ≠ .cursor k)
    (hstatus : a ≠ .status k) : Ignores (fun s : Session H =>
      s.status? k = some (.suspended (.sleep x)) ∧ s.place? k = some p ∧ k ∈ s.active) a := by
  rintro s t hc ⟨hasleep, hplace, hlisted⟩
  refine ⟨status?_ignores_of_ne hstatus s t hc hasleep, hc.place? hcursor hplace, ?_⟩
  cases hc with
  | active => exact absurd rfl hactive
  | _ => exact hlisted

lemma iff_and : s.Sleeps k p x ↔ s.IsHostless ∧ s.status? k = some (.suspended (.sleep x)) ∧
    s.place? k = some p ∧ k ∈ s.active :=
  ⟨fun h => ⟨h.hostless, h.asleep, h.place, h.listed⟩, fun h => ⟨h.1, h.2.1, h.2.2.1, h.2.2.2⟩⟩

lemma turnKeeps (w : Wiring H) {id : InstanceId} (hid : id ≠ k) :
    w.TurnKeeps id (Sleeps k p x) := by
  have hown : w.TurnKeeps id fun s : Session H =>
      s.status? k = some (.suspended (.sleep x)) ∧ s.place? k = some p ∧ k ∈ s.active := by
    refine (Wiring.DeedKeeps.of_ignores fun a ha => ignores ?_ ?_ ?_).turnKeeps fun a ha =>
      ignores ?_ ?_ ?_ <;> rintro rfl <;> simp_all
  have h := (isHostless_dependsOnStatus.turnKeeps w id).and hown
  simpa only [← iff_and] using h

lemma abides (w : Wiring H) : w.Abides k (Sleeps k p x) where
  hostless _ hs := hs.hostless
  live _ hs := hs.isActive
  others _ hid := turnKeeps w hid
  quiet a _ hactive hown s t hc hs := by
    rw [iff_and] at hs ⊢
    exact ⟨isHostless_dependsOnStatus.ignores a (fun j => (hown j).2) s t hc hs.1,
      ignores hactive (hown k).1 (hown k).2 s t hc hs.2⟩
  listed s l hl hs :=
    ⟨hs.hostless.same rfl rfl rfl, hs.asleep, hs.place, hl hs.listed⟩

end Session.Sleeps

namespace Engine

lemma takeTurn_sleeps (hs : s.IsHostless) (hwithdrawn : s.withdrawn = []) (hk : k ∈ s.active)
    {n : Int} (hn : Turn.instruction? ⟨s, k⟩ = some (.sleep n)) (hx : Decimal.ofInt? n = some x)
    (elapsed : Option Float) : ∃ script m t, s.place? k = some (script, m) ∧
      takeTurn w k elapsed s = .ok .suspended t ∧ t.Sleeps k (script, m + 1) x := by
  obtain ⟨i, c, hi, hr, hstep, hexecute⟩ := step_of_instruction (w := w) hwithdrawn rfl hn elapsed
  let u := s.fetched k (i.cursor + 1)
  let v := u.modifyInstance k ({ · with status := .suspended (.sleep x) })
  have hui : u.instance? k = some { i with cursor := i.cursor + 1 } := by
    change (s.modifyInstance k _).instance? k = _
    simp [Session.instance?_modifyInstance, hi]
  have hsleep : carryOut w.services k (.sleep n) u = .ok () v := by
    rw [carryOut, sleep, hx]
    exact suspend_of_running hui hr (.sleep x)
  have hv : v.status? k = some (.suspended (.sleep x)) :=
    u.status?_suspended (y := i.status) (by simp [Session.status?, hui])
  have hsettle := (runCommandAt_of_ok hi (hexecute.trans hsleep)).trans (settle_waits hv)
  have hturn := takeTurn_of_ok (hstep.trans hsettle)
  refine ⟨i.script, i.cursor, _, Session.place?_of_some hi, hturn,
    takeTurn_isHostless hs hturn, hv, ?_, hk⟩
  have hplace : u.place? k = some (i.script, i.cursor + 1) := Session.place?_of_some hui
  exact (Change.status u k _).place? (by simp) hplace

lemma takeTurn_of_sleeps (hS : w.services.Settles) (hs : s.Sleeps k p x) (e : Float) : ∃ r t,
    takeTurn w k (some e) s = .ok r t ∧
      (x - e ≤ 0 → t.HasGoneOn k ∧ t.place? k = some p) ∧
      (¬ x - e ≤ 0 → r = .suspended ∧ t.Sleeps k p (x - e)) := by
  let u := s.modifyInstance k ({ · with status := .suspended (.sleep (x - e)) })
  have hx : u.status? k = some (.suspended (.sleep (x - e))) := s.status?_suspended hs.asleep
  have hplace : u.place? k = some p := (Change.status s k _).place? (by simp) hs.place
  have hcheck : checkWait w k (some e) (.sleep x) s = .ok (decide (x - e ≤ 0)) u :=
    checkWait_of_ok hs.hostless rfl
  obtain ⟨i, hi, hstatus⟩ := Option.map_eq_some_iff.mp hs.asleep
  have hstep := step_of_wait (w := w) hi hstatus hcheck
  -- The wait has taken off the time already when it is asked whether it is over.
  by_cases hover : x - e ≤ 0
  · rw [if_pos (decide_eq_true hover)] at hstep
    have hpresent : s.status? k ≠ none := by simp [hs.asleep]
    obtain ⟨r, c, y, -, hturn, -⟩ := takeTurn_returns hS (some e) hs.hostless hpresent
    have hsteady : Within Aspect.steady (do resume k; finish k : Engine H StepResult) :=
      (resume_within (by simp)).bind fun _ =>
        finish_within (Set.subset_union_left.trans (canceling_steady k))
    obtain ⟨script, n, hplace', hgone⟩ := (resume_goesOn hx).1
    have hkept := (hsteady u).keepsPlaces k p hplace
    rw [endState_congr hstep] at hturn
    exact ⟨r, _, hturn, fun _ => ⟨⟨script, n, hplace', hgone⟩, hkept⟩, fun h => absurd hover h⟩
  · obtain ⟨j, hj, hwait⟩ := Option.map_eq_some_iff.mp hx
    have hless : u.IsHostless :=
      isHostless_dependsOnStatus.moves s k _ _ hs.asleep rfl (by simp) hs.hostless
    have hactive : j.isActive = true := by simp [Instance.isActive, Status.isActive, hwait]
    rw [if_neg (by simp [hover]), bind_of_ok (theInstance_of_some hj), hactive] at hstep
    exact ⟨.suspended, u, takeTurn_of_ok hstep, fun h => absurd h hover,
      fun _ => ⟨rfl, hless, hx, hplace, hs.listed⟩⟩

end Engine

end EventScript
