import EventScript.Proofs.Script.Targets
import EventScript.Proofs.Session.Apply
import EventScript.Proofs.Session.Run

/-! Steps move instances forward. An instance of a parsed script never goes back, never goes past the
end, and never fails where it is to jump. -/

namespace EventScript

variable {H : Host} {id k : InstanceId} {script : Script} {n m : Nat}

def Session.Reached (id : InstanceId) (script : Script) (n : Nat) (s : Session H) : Prop :=
  ∃ m, s.place? id = some (script, m) ∧ n ≤ m ∧ m ≤ script.size

/-- What the host adds moves instances only forward and not past the end of their scripts. -/
structure Wiring.MovesForward (w : Wiring H) : Prop where
  command : ∀ x k c id script n, Preserves (Session.Reached id script n) (w.runCommand x k c)
  poll : ∀ p k id script n, Preserves (Session.Reached id script n) (w.poll p k)

lemma Session.Reached.ignores {a : Aspect} (ha : a ≠ .cursor id) :
    Ignores (Session.Reached (H := H) id script n) a := by
  rintro s t h ⟨m, hm, hn⟩
  exact ⟨m, h.place? ha hm, hn⟩

namespace Engine

lemma steady_reached {α : Type} {p : Engine H α} (hp : Within Aspect.steady p) :
    Preserves (Session.Reached id script n) p :=
  hp.preserves fun _ ha => Session.Reached.ignores (ha id)

lemma pollWait_reached {w : Wiring H} (hw : w.MovesForward) (elapsed : Option Float)
    (x : Wait H.Predicate) :
    Preserves (Session.Reached id script n) (pollWait w k elapsed x) := by
  cases x with
  | host p => exact hw.poll p k id script n
  | _ =>
    exact steady_reached (pollWait_within (by simp) (by simp) (by simp) (by simp) (by simp) w elapsed
      (by simp))

lemma poll_reached {w : Wiring H} (hw : w.MovesForward) (elapsed : Option Float)
    (x : Wait H.Predicate) : Preserves (Session.Reached id script n) (poll w k elapsed x) := by
  refine Preserves.get.bind fun s => ?_
  split
  · exact hw.poll _ k id script n
  · exact pollWait_reached hw elapsed x

lemma checkWait_reached {w : Wiring H} (hw : w.MovesForward) (elapsed : Option Float)
    (x : Wait H.Predicate) : Preserves (Session.Reached id script n) (checkWait w k elapsed x) := by
  refine (attempt_leads (poll_reached hw elapsed x)).bind fun r => ?_
  split
  · exact .pure _
  · refine steady_reached ((reportWait_within (canceling_steady k) _ _).bind fun _ => ?_)
    refine (theInstance_within k).bind fun i => .ite (.pure _) ?_
    exact (release_within (by simp) (by simp) (by simp) _ k).bind fun _ => .pure _

lemma command_steady (id : InstanceId) : Aspect.command id ⊆ Aspect.steady := by
  intro a ha k hk
  simp [hk] at ha

lemma ending_steady (id : InstanceId) : Aspect.ending id ⊆ Aspect.steady := by
  intro a ha k hk
  simp [hk] at ha

lemma execute_leads {w : Wiring H} (hw : w.MovesForward) {P : Session H → Prop} {c : Command}
    (hP : ∀ s, P s → Session.Reached id script n s) (hcount : Ignores P .counters)
    (hsteer : ∀ v i, c.isValid = true → c.kind = .builtin v → v.isControlFlow = true →
      Instruction.ofArgs? v c.args = some i →
      Leads P (steer k c.target i) (Session.Reached id script n)) :
    Leads P (execute w k c) (Session.Reached id script n) := by
  have hsteady {α : Type} {p : Engine H α} (hp : Within Aspect.steady p) :
      Leads P p (Session.Reached id script n) :=
    (steady_reached hp).weaken hP fun _ h => h
  unfold execute
  split
  · exact hsteady ((theInstance_within k).bind fun _ => .throw _)
  · next hvalid =>
    refine .after ?_ hP fun _ => ?_
    · exact (count_within (A := {.counters}) rfl _).preserves fun a ha => ha ▸ hcount
    split
    · next v hv =>
      refine .after .get hP fun _ => .guard hP ?_
      split
      · exact hsteady (.throw _)
      · next i hi =>
        refine .ite (fun hflow => hsteer v i (by simp [Command.isValid, hvalid]) hv hflow hi)
          fun _ => hsteady (carryOut_within (command_steady k) _ i)
    · refine .after .get hP fun s => ?_
      split
      · exact (hw.command _ k c id script n).weaken hP fun _ h => h
      · exact hsteady (.throw _)
    · exact hsteady (.throw _)

lemma runCommandAt_leads {w : Wiring H} {P Q : Session H → Prop} {I : Session H → Prop}
    {c : Command} (hI : ∀ a ∈ Aspect.steady, Ignores I a)
    (hcursor : ∀ i, Leads (fun s => P s ∧ s.instance? k = some i)
      (setCursor k (i.cursor + 1) : Engine H Unit) Q)
    (hnone : ∀ s, P s → s.instance? k = none → I s) (hQ : ∀ s, Q s → I s)
    (hexec : Leads Q (execute w k c) I) : Leads P (runCommandAt w k c) I := by
  have hlast {p : Engine H StepResult} (hp : Within Aspect.steady p) : Preserves I p :=
    hp.preserves hI
  refine theInstance_bind (fun i => ?_) hnone
  refine Triple.bind (Triple.weaken (hcursor i) (fun _ h => h) (fun _ _ h => h) fun _ => hQ)
    fun _ => ?_
  refine (attempt_leads hexec).bind fun r => ?_
  split
  · exact hlast (settle_within (ending_steady k))
  · exact hlast ((count_within (by simp) _).bind fun _ => (logFor_within (by simp) k _ _).bind
      fun _ => (abort_within (canceling_steady k) w.services).bind fun _ => .pure _)
  · exact hlast ((count_within (by simp) _).bind fun _ => (logFor_within (by simp) k _ _).bind
      fun _ => settle_within (ending_steady k))
  · exact hlast ((count_within (by simp) _).bind fun _ => (logFor_within (by simp) k _ _).bind
      fun _ => settle_within (ending_steady k))

section Jump

variable {s : Session H}

lemma place?_setCursor (hs : s.place? id = some (script, m)) (n : Nat) :
    (s.modifyInstance id ({ · with cursor := n })).place? id = some (script, n) := by
  obtain ⟨i, hi, hp⟩ := Option.map_eq_some_iff.mp hs
  obtain ⟨hscript, -⟩ := Prod.mk.inj hp
  simp [Session.place?, s.instance?_modifyInstance, hi, hscript]

lemma jump_forward (hs : s.place? id = some (script, m)) {t : Nat} (hm : m ≤ t)
    (ht : t ≤ script.size) :
    ∃ u, jump id t s = .ok () u ∧ u.Reached id script m := by
  obtain ⟨i, hi, hp⟩ := Option.map_eq_some_iff.mp hs
  obtain ⟨-, rfl⟩ := Prod.mk.inj hp
  exact ⟨_, jump_of_le hi hm, t, place?_setCursor hs t, hm, ht⟩

variable {c : Command} {v : Verb} {i : Instruction}

lemma steer_forward (hs : s.place? id = some (script, m + 1)) (hscript : script.JumpsForward)
    (hc : script.commands[m]? = some c) (hi : c.Steers i) :
    ∃ t, steer id c.target i s = .ok () t ∧ t.Reached id script (m + 1) := by
  have hm : m + 1 ≤ script.size := (List.getElem?_eq_some_iff.mp hc).1
  have hstay : ∃ t, (pure () : Engine H Unit) s = .ok () t ∧ t.Reached id script (m + 1) :=
    ⟨s, rfl, m + 1, hs, Nat.le_refl _, hm⟩
  have hjump (hj : c.isJump = true) :
      ∃ t, jumpToTarget id c.target s = .ok () t ∧ t.Reached id script (m + 1) := by
    obtain ⟨t, ht, hmt, hsize⟩ := hscript m c hc hj
    rw [ht]
    exact jump_forward hs hmt hsize
  cases hi with
  | jumpUnless x hx hj =>
    rw [steer_jumpUnless, if_pos hx]
    split
    · exact hjump hj
    · exact hstay
  | jumpIf x hx hj =>
    rw [steer_jumpIf, if_pos hx]
    split
    · exact hjump hj
    · exact hstay
  | jump hj => exact hjump hj
  | pass => exact hstay
  | leave =>
    obtain ⟨j, hj, hp⟩ := Option.map_eq_some_iff.mp hs
    obtain ⟨rfl, -⟩ := Prod.mk.inj hp
    rw [steer_leave hj]
    exact jump_forward hs hm (Nat.le_refl _)

/-- Neither a missing target nor a jump backwards can come up in a command that steers. -/
lemma execute_steering (w : Wiring H) (hs : s.place? id = some (script, m + 1))
    (hscript : script.JumpsForward) (hc : script.commands[m]? = some c) (htyped : c.IsTyped)
    (hvalid : c.isValid = true) (hv : c.kind = .builtin v) (hflow : v.isControlFlow = true) :
    ∃ t, execute w id c s = .ok () t := by
  obtain ⟨i, hi, hsteers⟩ := htyped.steers hv hvalid hflow
  let s' : Session H := { s with counters := s.counters.countExecuted }
  obtain ⟨t, ht, -⟩ := steer_forward (s := s') hs hscript hc hsteers
  have herror : c.error = none := by simpa [Command.isValid] using hvalid
  exact ⟨t, (execute_steer w herror hv hi hflow).trans ht⟩

end Jump

lemma step_of_turn {s : Session H} {c : Command} (w : Wiring H) (elapsed : Option Float)
    (h : Turn.command? ⟨s, k⟩ = some (m, c)) : step w k elapsed s = runCommandAt w k c s := by
  obtain ⟨i, hi, hr, -, hc⟩ := Turn.command?_eq_some.mp h
  exact step_of_command w elapsed hi hr hc

lemma step_idle {w : Wiring H} (hw : w.MovesForward) (elapsed : Option Float) :
    Leads (fun s => Session.Reached id script n s ∧ Turn.command? ⟨s, k⟩ = none)
      (step w k elapsed) (Session.Reached id script n) := by
  refine theInstance_bind (fun i => ?_) fun _ hs _ => hs.1
  have hsteady {p : Engine H StepResult} (hp : Preserves (Session.Reached id script n) p) :
      Leads (fun s => (Session.Reached id script n s ∧ Turn.command? ⟨s, k⟩ = none) ∧
        s.instance? k = some i) p (Session.Reached id script n) :=
    hp.weaken (fun _ hs => hs.1.1) fun _ h => h
  split
  · exact hsteady (.pure _)
  · exact hsteady (.pure _)
  · refine hsteady ((checkWait_reached hw elapsed _).bind fun ready => ?_)
    refine Leads.ite (fun _ => ?_) fun _ => ?_
    · exact steady_reached ((resume_within (by simp)).bind fun _ => finish_within (ending_steady k))
    · exact steady_reached ((theInstance_within k).bind fun _ => .pure _)
  · next hr =>
    split
    · exact hsteady (steady_reached ((complete_within (ending_steady k)).bind fun _ => .pure _))
    · next c hc =>
      rintro s ⟨⟨-, hnone⟩, hi⟩
      have hsome := Turn.command?_eq_some.mpr ⟨i, hi, hr, rfl, hc⟩
      rw [hnone] at hsome
      cases hsome

lemma other_reached {α : Type} {p : Engine H α} (hk : k ≠ id) (hp : Within {.cursor k} p) :
    Preserves (Session.Reached id script n) p := by
  refine hp.preserves fun a ha => Session.Reached.ignores ?_
  rintro rfl
  exact hk (by simpa using Eq.symm ha)

lemma step_other {w : Wiring H} (hw : w.MovesForward) (hk : k ≠ id) (elapsed : Option Float) :
    Preserves (Session.Reached id script n) (step w k elapsed) := by
  intro s hs
  cases hcommand : Turn.command? ⟨s, k⟩ with
  | none => exact step_idle hw elapsed s ⟨hs, hcommand⟩
  | some x =>
    obtain ⟨j, c⟩ := x
    have hexec : Preserves (Session.Reached id script n) (execute w k c) :=
      execute_leads hw (fun _ h => h) (Session.Reached.ignores (by simp)) fun v i _ _ _ _ =>
        other_reached hk (steer_within (by simp) c.target i)
    rw [step_of_turn w elapsed hcommand]
    refine runCommandAt_leads (fun a ha => Session.Reached.ignores (ha id)) (fun i => ?_)
      (fun _ h _ => h) (fun _ h => h) hexec s hs
    exact (other_reached hk (setCursor_within (by simp) _)).weaken (fun _ h => h.1) fun _ h => h

lemma step_own {w : Wiring H} (hw : w.MovesForward) (hscript : script.JumpsForward)
    (htyped : AllTyped script.commands) {s : Session H} {c : Command}
    (hs : s.place? id = some (script, m)) (hcommand : Turn.command? ⟨s, id⟩ = some (m, c))
    (elapsed : Option Float) :
    (endState (step w id elapsed) s).Reached id script (m + 1) := by
  have hc : script.commands[m]? = some c := by
    obtain ⟨i, hi, -, -, hc⟩ := Turn.command?_eq_some.mp hcommand
    obtain ⟨rfl, rfl⟩ := Prod.mk.inj (Session.eq_of_place? hi hs)
    exact hc
  have hm : m + 1 ≤ script.size := (List.getElem?_eq_some_iff.mp hc).1
  have hexec : Leads (fun s => s.place? id = some (script, m + 1)) (execute w id c)
      (Session.Reached id script (m + 1)) := by
    refine execute_leads hw (fun s hs => ⟨m + 1, hs, Nat.le_refl _, hm⟩)
      (fun s t h hs => h.place? (by simp) hs) fun v i hvalid hv hflow hi s hs => ?_
    obtain ⟨j, hj, hsteers⟩ := (htyped c (List.mem_of_getElem? hc)).steers hv hvalid hflow
    obtain rfl : i = j := Option.some.inj (hi.symm.trans hj)
    obtain ⟨t, ht, hreached⟩ := steer_forward hs hscript hc hsteers
    rw [ht]
    exact .ok hreached
  have hrun : Leads (fun s => s.place? id = some (script, m)) (runCommandAt w id c)
      (Session.Reached id script (m + 1)) := by
    refine runCommandAt_leads (fun a ha => Session.Reached.ignores (ha id)) (fun i => ?_)
      (fun s hs hi => ?_) (fun s hs => ⟨m + 1, hs, Nat.le_refl _, hm⟩) hexec
    · refine Leads.modify fun s hs => ?_
      obtain ⟨-, rfl⟩ := Prod.mk.inj (Session.eq_of_place? hs.2 hs.1)
      exact place?_setCursor hs.1 _
    · simp [Session.place?, hi] at hs
  unfold endState
  rw [step_of_turn w elapsed hcommand]
  exact hrun.endState hs

end Engine

end EventScript
