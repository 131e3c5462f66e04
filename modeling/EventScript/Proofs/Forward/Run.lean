import EventScript.Cli.Run
import EventScript.Proofs.Forward.Step
import EventScript.Proofs.Session.Request
import Mathlib

/-! Whole runs of parsed scripts. An instance carries out each command at most once, in the order in
which they are written. -/

namespace EventScript

variable {H : Host} {w : Wiring H} {id : InstanceId} {script : Script}

lemma commandsOf_cons (id : InstanceId) (u : Turn H) (us : List (Turn H)) :
    commandsOf id (u :: us) =
      (if u.id = id then u.command?.toList else []) ++ commandsOf id us := by
  unfold commandsOf
  rw [List.filter_cons]
  by_cases h : u.id = id
  · cases hc : u.command? <;> simp [h, hc]
  · simp [h]

lemma mem_commandsOf {us : List (Turn H)} {x : Nat × Command} :
    x ∈ commandsOf id us ↔ ∃ u ∈ us, u.id = id ∧ u.command? = some x := by
  simp [commandsOf, and_assoc]

/-- What is known of an instance that has come to index `n`, and of the turns it takes from there. -/
structure GoesForward (id : InstanceId) (script : Script) (n : Nat) (us : List (Turn H))
    (t : Session H) : Prop where
  increasing : ((commandsOf id us).map Prod.fst).Pairwise (· < ·)
  from_start : ∀ x ∈ commandsOf id us, n ≤ x.1
  turns : ∀ u ∈ us, u.before.Reached id script n
  reached : t.Reached id script n

lemma Session.Reached.weaken {s : Session H} {n m : Nat} (h : s.Reached id script m)
    (hnm : n ≤ m) : s.Reached id script n := by
  obtain ⟨j, hj, hm, hsize⟩ := h
  exact ⟨j, hj, hnm.trans hm, hsize⟩

namespace GoesForward

variable {n m : Nat} {us : List (Turn H)} {s t : Session H}

lemma cons_idle {u : Turn H} (hu : u.id ≠ id ∨ u.command? = none)
    (hs : u.before.Reached id script n) (h : GoesForward id script n us t) :
    GoesForward id script n (u :: us) t := by
  have hcons : commandsOf id (u :: us) = commandsOf id us := by
    rw [commandsOf_cons]
    rcases hu with hu | hu <;> simp [hu]
  refine ⟨hcons ▸ h.increasing, hcons ▸ h.from_start, ?_, h.reached⟩
  exact List.forall_mem_cons.mpr ⟨hs, h.turns⟩

lemma cons_command {u : Turn H} {c : Command} (hu : u.id = id) (hc : u.command? = some (m, c))
    (hnm : n ≤ m) (hs : u.before.Reached id script n) (h : GoesForward id script (m + 1) us t) :
    GoesForward id script n (u :: us) t := by
  have hcons : commandsOf id (u :: us) = (m, c) :: commandsOf id us := by
    simp [commandsOf_cons, hu, hc]
  have hle : n ≤ m + 1 := Nat.le_succ_of_le hnm
  refine ⟨?_, ?_, ?_, h.reached.weaken hle⟩
  · rw [hcons, List.map_cons, List.pairwise_cons]
    refine ⟨fun j hj => ?_, h.increasing⟩
    obtain ⟨x, hx, rfl⟩ := List.mem_map.mp hj
    exact h.from_start x hx
  · rw [hcons]
    exact List.forall_mem_cons.mpr ⟨hnm, fun x hx => hle.trans (h.from_start x hx)⟩
  · exact List.forall_mem_cons.mpr ⟨hs, fun v hv => (h.turns v hv).weaken hle⟩

end GoesForward

lemma Run.goesForward (hw : w.MovesForward) (hscript : script.JumpsForward)
    (htyped : AllTyped script.commands) {s t : Session H} {us : List (Turn H)} {n : Nat}
    (h : Run w s us t) (hs : s.Reached id script n) : GoesForward id script n us t := by
  -- Each turn carries out the command that the instance has come to, or leaves it where it is.
  induction h generalizing n with
  | done s => exact ⟨.nil, by simp [commandsOf], by simp, hs⟩
  | aside hk _ ih =>
    obtain ⟨m, hm, hn⟩ := hs
    exact ih ⟨m, hk id _ hm, hn⟩
  | @turn s t us k elapsed _ ih =>
    by_cases hk : k = id
    · subst hk
      cases hcommand : Turn.command? ⟨s, k⟩ with
      | none =>
        exact (ih ((Engine.step_idle hw elapsed).endState ⟨hs, hcommand⟩)).cons_idle
          (.inr hcommand) hs
      | some x =>
        obtain ⟨m, hm, hn, hsize⟩ := hs
        obtain ⟨j, c⟩ := x
        obtain rfl : m = j := by
          obtain ⟨i, hi, -, rfl, -⟩ := Turn.command?_eq_some.mp hcommand
          exact (Prod.mk.inj (Session.eq_of_place? hi hm)).2.symm
        exact (ih (Engine.step_own hw hscript htyped hm hcommand elapsed)).cons_command rfl hcommand
          hn ⟨m, hm, hn, hsize⟩
    · exact (ih ((Engine.step_other hw hk elapsed).endState hs)).cons_idle (.inl hk) hs

lemma length_le_of_increasing {l : List Nat} {n : Nat} (h : l.Pairwise (· < ·))
    (hn : ∀ j ∈ l, j < n) : l.length ≤ n := by
  have hnodup : l.Nodup := h.imp fun hlt => Nat.ne_of_lt hlt
  have hsub : l ⊆ List.range n := fun j hj => List.mem_range.mpr (hn j hj)
  simpa using (List.subperm_of_subset hnodup hsub).length_le

/-- A command that steers its script, without an error in its line. -/
def Command.isSteering (c : Command) : Bool :=
  c.isValid && match c.kind with
    | .builtin v => v.isControlFlow
    | _ => false

lemma Command.isSteering_iff {c : Command} : c.isSteering = true ↔
    ∃ v, c.isValid = true ∧ c.kind = .builtin v ∧ v.isControlFlow = true := by
  unfold isSteering
  cases c.kind <;> simp

lemma Turn.listed {u : Turn H} {n m : Nat} {c : Command} (hs : u.before.Reached u.id script n)
    (hc : u.command? = some (m, c)) :
    u.before.place? u.id = some (script, m) ∧ script.commands[m]? = some c := by
  obtain ⟨i, hi, -, rfl, hcommand⟩ := Turn.command?_eq_some.mp hc
  obtain ⟨j, hj, -⟩ := hs
  obtain ⟨rfl, -⟩ := Prod.mk.inj (Session.eq_of_place? hi hj)
  exact ⟨Session.place?_of_some hi, hcommand⟩

theorem parsed_runs_forward {text name : String} {path : Option String} {script : Script}
    (h : Script.parse text name path = .ok script) :
    (∀ (i : Nat) (c : Command), script.commands[i]? = some c → c.isJump = true →
        ∃ t, c.target = some t ∧ i < t ∧ t ≤ script.size) ∧
      (∀ (w : Wiring H), w.MovesForward → ∀ (s t : Session H) (us : List (Turn H)) (id : InstanceId),
        Run w s us t → s.place? id = some (script, 0) →
          ((commandsOf id us).map Prod.fst).Pairwise (· < ·) ∧
          (∀ x ∈ commandsOf id us, script.commands[x.1]? = some x.2) ∧
          (commandsOf id us).length ≤ script.size ∧
          (∃ n, t.place? id = some (script, n) ∧ n ≤ script.size) ∧
          ∀ u ∈ us, u.id = id → ∀ n c, u.command? = some (n, c) → c.isSteering = true →
            ∃ v, Engine.execute w id c (endState (Engine.setCursor id (n + 1)) u.before) =
              .ok () v) ∧
      ∀ (w : Wiring H) (s : Session H) (rs : List (Request H)), ∃ us, Run w s us (s.after w rs) := by
  obtain ⟨hforward, htyped⟩ := Script.parse_sound h
  refine ⟨hforward, fun w hw s t us id hrun hs => ?_, fun w s rs => s.after_isRun w rs⟩
  have hgoes := hrun.goesForward hw hforward htyped ⟨0, hs, Nat.le_refl 0, Nat.zero_le _⟩
  have hlisted : ∀ x ∈ commandsOf id us, script.commands[x.1]? = some x.2 := by
    intro x hx
    obtain ⟨u, hu, rfl, hc⟩ := mem_commandsOf.mp hx
    exact (Turn.listed (hgoes.turns u hu) hc).2
  refine ⟨hgoes.increasing, hlisted, ?_, ?_, ?_⟩
  · have hlength := length_le_of_increasing (n := script.size) hgoes.increasing ?_
    · simpa using hlength
    · intro j hj
      obtain ⟨x, hx, rfl⟩ := List.mem_map.mp hj
      exact (List.getElem?_eq_some_iff.mp (hlisted x hx)).1
  · obtain ⟨n, hn, -, hsize⟩ := hgoes.reached
    exact ⟨n, hn, hsize⟩
  · rintro u hu rfl n c hc hsteer
    obtain ⟨hplace, hcommand⟩ := Turn.listed (hgoes.turns u hu) hc
    obtain ⟨v, hvalid, hv, hflow⟩ := Command.isSteering_iff.mp hsteer
    exact Engine.execute_steering w (Engine.place?_setCursor hplace _) hforward hcommand
      (htyped c (List.mem_of_getElem? hcommand)) hvalid hv hflow

/-- A script with a block and a jump out of it, in the game of the command line. -/
theorem parsed_runs_forward_cli :
    Cli.wiring.MovesForward ∧ ∃ script,
      Script.parse "If($x >= 1)\nGoto(@end)\nElse\nReturn\nEndIf\n@end:" "jump" none = .ok script ∧
      ∃ (s t : Session Cli.host) (us : List (Turn Cli.host)), Run Cli.wiring s us t ∧
        s.place? 0 = some (script, 0) ∧ us.length = 2 ∧
        ((commandsOf 0 us).map Prod.fst).Pairwise (· < ·) ∧ (commandsOf 0 us).length ≤ 5 := by
  have hw : Cli.wiring.MovesForward := ⟨nofun, nofun⟩
  let script : Script := {
    name := "jump", labels := [("end", 5)]
    commands := [
      { kind := .builtin .ifThen, name := "If", params := ["$x >= 1"]
        args := [.condition (.compare "$x" .ge 1)], line := 1, target := some 3 },
      { kind := .builtin .goto, name := "Goto", params := ["@end"], args := [.label "end"]
        line := 2, target := some 5 },
      { kind := .builtin .ifElse, name := "Else", line := 3, target := some 5 },
      { kind := .builtin .leave, name := "Return", line := 4 },
      { kind := .builtin .endIf, name := "EndIf", line := 5 }] }
  have hparse : Script.parse "If($x >= 1)\nGoto(@end)\nElse\nReturn\nEndIf\n@end:" "jump" none =
      .ok script := by
    cbv
  let s : Session Cli.host := { Session.sample 1 { game := Cli.Game.mk {} 0 } with
    roster := #[{ id := 0, script }] }
  have hrun := Run.turn 0 none (Run.turn 0 none (Run.done
    (endState (Engine.step Cli.wiring 0 none) (endState (Engine.step Cli.wiring 0 none) s))))
  have h := (parsed_runs_forward hparse).2.1 Cli.wiring hw s _ _ 0 hrun rfl
  exact ⟨hw, script, hparse, s, _, _, hrun, rfl, rfl, h.1, h.2.2.1⟩

end EventScript
