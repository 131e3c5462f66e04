import EventScript.Cli.Run
import EventScript.Proofs.Program.Step
import EventScript.Proofs.Session.Request

/-! Instances of a program. An instance that is stepped until it has completed ends with the
variables that evaluating the program gives. The only faults on its way are numbers that are too
long to be written. -/

namespace EventScript

variable {H : Host} {id : InstanceId} {script : Script} {f : Nat} {p q : Position}
  {s : Session H}

namespace Engine

/-- Steps an instance until it waits or has ended; how much time goes by before each step is
given. -/
def stepThrough (w : Wiring H) (id : InstanceId) : List (Option Float) → Engine H StepResult
  | [] => return .proceed
  | x :: xs => do
    match ← step w id x with
    | .proceed => stepThrough w id xs
    | r => return r

lemma stepThrough_cons {w : Wiring H} {x : Option Float} {r : StepResult} {t : Session H}
    (h : step w id x s = .ok r t) (xs : List (Option Float)) :
    stepThrough w id (x :: xs) s =
      if r = .proceed then stepThrough w id xs t else .ok r t := by
  rw [stepThrough, bind_of_ok h]
  cases r <;> rfl

lemma step_atEnd (w : Wiring H) (x : Option Float) (hs : s.StandsAt id script f p)
    (hp : script.size ≤ p.cursor) : ∃ t, step w id x s = .ok .completed t ∧ t.Shows f p := by
  obtain ⟨t, ht, hshows⟩ := complete_standsAt hs
  obtain ⟨i, hi, rfl, hr, hcursor, -⟩ := hs.runs
  have hcommand : i.command? = none := List.getElem?_eq_none (hcursor ▸ hp)
  refine ⟨t, ?_, hshows⟩
  unfold step
  rw [bind_of_ok (theInstance_of_some hi), hr, hcommand]
  exact bind_of_ok ht

lemma stepThrough_reaches (w : Wiring H) (h : Reaches script.commands p q)
    (hq : q.cursor = script.size) (hs : s.StandsAt id script f p) {xs : List (Option Float)}
    (hxs : script.size < p.cursor + xs.length) :
    ∃ t, stepThrough w id xs s = .ok .completed t ∧ t.Shows f q := by
  induction h using Relation.ReflTransGen.head_induction_on generalizing s xs with
  | refl =>
    cases xs with
    | nil => simp [hq] at hxs
    | cons x xs =>
      obtain ⟨t, ht, hshows⟩ := step_atEnd w x hs hq.ge
      exact ⟨t, stepThrough_cons ht xs, hshows⟩
  | @head p p' hm hrest ih =>
    obtain ⟨hlt, hforward⟩ := hm.forward
    cases xs with
    | nil =>
      simp only [List.length_nil, Nat.add_zero] at hxs
      exact absurd hlt hxs.asymm
    | cons x xs =>
      have hstep := step_moves w x hs hm
      split at hstep
      · obtain ⟨t, ht, hat⟩ := hstep
        rw [stepThrough_cons ht]
        refine ih hat ?_
        simp only [List.length_cons] at hxs
        omega
      · next hend =>
        obtain ⟨t, ht, hshows⟩ := hstep
        -- There is no way on from the end.
        obtain rfl : p' = q := by
          rcases hrest.cases_head with rfl | ⟨_, hm', -⟩
          · rfl
          · exact absurd hm'.forward.1 hend
        exact ⟨t, stepThrough_cons ht xs, hshows⟩

end Engine

theorem program_steps_to_evaluation (q : Program) (w : Wiring H) (s : Session H) (id : InstanceId)
    (times : List (Option Float)) {i : Instance H.Predicate} (hi : s.instance? id = some i)
    (hcommands : i.script.commands = resolveBlocks q.commands) (hr : i.status = .running)
    (hcursor : i.cursor = 0) (hcalm : i.watchers.any (s.fails .complete) = false)
    (hs : .assign ∉ s.withdrawn ∧ .add ∉ s.withdrawn)
    (htimes : i.script.size < times.length) :
    ∃ t, Engine.stepThrough w id times s = .ok .completed t ∧
      t.counters.parseErrors = s.counters.parseErrors ∧
      t.counters.unexpectedErrors = s.counters.unexpectedErrors + (q.outcome s.store).faults ∧
      t.store = (q.outcome s.store).store ∧
      ((q.outcome s.store).isFaithful = true → t.store = (q.eval s.store).store) := by
  have hcompile : i.script.commands = q.compile 0 := hcommands.trans q.resolveBlocks_commands
  have hsize : 0 + q.size = i.script.size := by
    rw [Script.size, hcompile, q.length_compile, Nat.zero_add]
  have hplaced : Placed i.script.commands 0 (q.compile 0) := by
    rw [← hcompile]
    exact placed_self i.script.commands
  have hreaches := q.reaches (s := s.store) (e := s.counters.unexpectedErrors) hplaced
  have hstands : s.StandsAt id i.script s.counters.parseErrors
      ⟨0, s.store, s.counters.unexpectedErrors⟩ :=
    { store := rfl, unexpected := rfl, unread := rfl, present := hs
      runs := ⟨i, hi, rfl, hr, hcursor, hcalm⟩ }
  have hend : ((q.outcome s.store).position i.script.commands (0 + q.size)
      s.counters.unexpectedErrors).cursor = i.script.size := by
    rw [hsize]
    exact ite_self _
  obtain ⟨t, ht, hshows⟩ :=
    Engine.stepThrough_reaches w hreaches hend hstands (htimes.trans_eq (Nat.zero_add _).symm)
  refine ⟨t, ht, hshows.unread, hshows.unexpected, hshows.store, fun h => ?_⟩
  exact hshows.store.trans (congrArg Result.store (Program.outcome_toResult h))

/-- In the game of the command line, a number just short enough to be written grows by one. -/
theorem program_steps_to_evaluation_cli : ∃ (q : Program) (s t : Session Cli.host),
    q.size = 7 ∧ s.store = [] ∧ s.counters = {} ∧
    Engine.stepThrough Cli.wiring 0 (List.replicate 8 none) s = .ok .completed t ∧
    t.store = [("$x", 0)] ∧ t.counters.parseErrors = 0 ∧ t.counters.unexpectedErrors = 1 := by
  let l : Spelling := { name := "", line := 0 }
  let q : Program := .assign l "$x" (pow10 4300 - 1) <|
    .ifElse l (.compare "$x" .ge 1) (.add l "$x" 1 .done) l (.leave l .done) l <|
      .assign l "$x" 0 .done
  let s : Session Cli.host := { Session.sample 1 { game := Cli.Game.mk {} 0 } with
    roster := #[{ id := 0, script := { name := "sum", commands := resolveBlocks q.commands } }] }
  obtain ⟨t, ht, hparse, hunexpected, -, hstore⟩ := program_steps_to_evaluation q Cli.wiring s 0
    (List.replicate 8 none) rfl rfl rfl rfl rfl ⟨List.not_mem_nil, List.not_mem_nil⟩
    (by decide +kernel)
  refine ⟨q, s, t, rfl, rfl, rfl, ht, ?_, hparse, ?_⟩
  · rw [hstore (by decide +kernel)]
    decide +kernel
  · rw [hunexpected]
    decide +kernel

end EventScript
