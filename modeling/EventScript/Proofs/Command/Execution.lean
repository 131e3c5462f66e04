import EventScript.Proofs.Command.Instruction
import EventScript.Proofs.Ensemble.Step
import EventScript.Proofs.Fault.Step
import EventScript.Proofs.Fault.Supplied
import Mathlib

/-! The commands of a script that was read have all that carrying them out needs. Their arguments
are in place before they begin, and only the game could still say that one is missing. -/

namespace EventScript

variable {α : Type}

namespace Engine

variable {H : Host} {S : Services H.Game} {id : InstanceId}

lemma stage_supplied {p : Stage H.Game InstanceId α} (hp : Supplied p) :
    Supplied (stage p : Engine H α) := by
  intro s _
  have h := hp s.screen trivial
  unfold stage
  cases hr : p s.screen <;> rw [hr] at h <;> cases h <;> constructor <;> assumption

lemma play_supplied {p : Play H.Game α} (hp : Supplied p) : Supplied (play p : Engine H α) :=
  stage_supplied (Stage.play_supplied hp)

lemma attempt_supplied (p : Engine H α) : Supplied (attempt p) := by
  intro s _
  unfold attempt
  cases p s <;> exact .ok trivial

lemma suspend_supplied (x : Wait H.Predicate) : Supplied (suspend id x : Engine H Unit) := by
  refine .bind (Supplied.modular.theInstance id) fun i => ?_
  split
  · exact .modify _
  · exact .throw nofun

lemma start_supplied (script : Script) (owner : Option EntityId) :
    Supplied (start script owner true none : Engine H InstanceId) :=
  .bind (.bind .get fun _ => .bind (.set _) fun _ => .pure _) fun _ =>
    .bind (.modify _) fun _ => .bind (.modify _) fun _ => .bind (.modify _) fun _ => .pure _

section Services

variable (hS : S.IsSupplied)

include hS

lemma supplied_acting : Acting S fun p : Engine H _ => Supplied p where
  toModular := Supplied.modular
  attempt _ := attempt_supplied _
  log _ _ := play_supplied (.modify _)
  answers hp := play_supplied (hS.offers hp.offers)
  offers hp := play_supplied (hS.offers hp)
  update _ _ _ := play_supplied (.modify _)

lemma supplied_directing : Directing S fun p : Engine H _ => Supplied p where
  toActing := supplied_acting hS
  keep _ _ := .modify _

lemma carryOut_supplied (i : Instruction) : Supplied (carryOut S id i : Engine H Unit) := by
  have hP := supplied_directing hS
  cases i with
  | assign x n => exact hP.assign (fun _ => .modify _) x n
  | add x n => exact hP.add (fun _ => .modify _) x n
  | talk first last =>
    exact hP.talk (fun _ => hP.beginTalk (fun _ => stage_supplied (.modify _)) _ id first last)
      (suspend_supplied _)
  | choose x y question out =>
    exact hP.choose (fun _ => hP.stage.beginSelection (fun _ => stage_supplied (.modify _)) _ id)
      (suspend_supplied _) x y question
  | sleep n => exact hP.sleep (fun _ => suspend_supplied _) n
  | fadeOut | fadeIn => exact .bind (stage_supplied (.modify _)) fun _ => suspend_supplied _
  | playMovie file color =>
    exact .bind (stage_supplied (Stage.playMovie_supplied hS file color)) fun _ => .pure _
  | stopMovie => exact stage_supplied (Stage.stopMovie_supplied hS)
  | waitMovieEnd =>
    exact .bind (stage_supplied (Stage.movieEnded_supplied hS)) fun _ =>
      .ite (suspend_supplied _) (.pure _)
  | runScript file => exact hP.runScript start_supplied id file
  | _ => exact hP.carryOut id rfl

end Services

lemma jump_supplied (target : Int) : Supplied (jump id target : Engine H Unit) :=
  .bind (Supplied.modular.theInstance id) fun _ => .guard nofun (.modify _)

lemma steer_supplied (target : Option Nat) (i : Instruction) :
    Supplied (steer id target i : Engine H Unit) := by
  have hjump : Supplied (jumpToTarget id target : Engine H Unit) := by
    cases target with
    | none => exact .throw nofun
    | some t => exact jump_supplied t
  cases i with
  | jumpUnless c | jumpIf c =>
    exact .bind (Supplied.modular.decideOn c) fun _ => .ite hjump (.pure _)
  | jump => exact hjump
  | leave => exact .bind (Supplied.modular.theInstance id) fun _ => jump_supplied _
  | _ => exact .pure _

lemma execute_of_instruction (w : Wiring H) {c : Command} {v : Verb} {i : Instruction}
    {s : Session H} (hc : c.isValid = true) (hv : c.kind = .builtin v)
    (hi : Instruction.ofArgs? v c.args = some i) (hs : v ∉ s.withdrawn) (id : InstanceId) :
    execute w id c s = (if v.isControlFlow then steer id c.target i else carryOut w.services id i)
      { s with counters := s.counters.countExecuted } := by
  have herror : c.error = none := Option.isNone_iff_eq_none.mp hc
  cases hflow : v.isControlFlow with
  | true => exact execute_steer w herror hv hi hflow
  | false => exact execute_carryOut w herror hv hi hflow hs

end Engine

variable {H : Host}

/-- A session in which a command may be about to be executed. Amid a turn some steps may have been
taken, and the cursor moves to the next command before the command itself does anything. -/
inductive Session.Executes (w : Wiring H) (s₀ : Session H) : Session H → Prop
  | reached {s : Session H} : s₀.Reaches w (fun _ => True) s → Executes w s₀ s
  | step {s : Session H} (id : InstanceId) (elapsed : Option Float) :
    Executes w s₀ s → Executes w s₀ (endState (Engine.step w id elapsed) s)
  | fetch {s : Session H} (id : InstanceId) (n : Nat) :
    Executes w s₀ s → Executes w s₀ (s.modifyInstance id ({ · with cursor := n }))

lemma Session.Executes.keeps {w : Wiring H} {s₀ s : Session H} {I : Session H → Prop}
    (hs : s₀.Executes w s) (hI : DependsOnStatus I) (hhostless : ∀ s, I s → s.IsHostless)
    (h₀ : I s₀) : I s := by
  induction hs with
  | reached hs =>
    exact hs.keeps (hI.upholds hhostless w) (fun r _ => hI.request hhostless w r) h₀
  | step id elapsed _ ih => exact ((hI.turnKeeps w id).step hhostless elapsed).endState ih
  | fetch id n _ ih => exact hI.ignores (.cursor id) nofun _ _ (.cursor _ id n) ih

lemma Session.Executes.withdrawn {w : Wiring H} {s₀ s : Session H} (hs : s₀.Executes w s)
    (h₀ : s₀.IsAtStart) : s.withdrawn = [] :=
  (hs.keeps (isHostless_dependsOnStatus.and (withdrawn_dependsOnStatus [])) (fun _ h => h.1)
    ⟨h₀.isHostless, h₀.withdrawn⟩).2

/-- A valid command of a script that was read has the arguments its verb takes, and they make an
instruction. Executing the command is carrying out that instruction, which never fails for want of
an argument if the game does not. -/
theorem parsed_commands_supplied {text name : String} {path : Option String} {script : Script}
    {c : Command} {v : Verb} (hscript : Script.parse text name path = .ok script)
    (hc : c ∈ script.commands) (hvalid : c.isValid = true) (hv : c.kind = .builtin v) :
    v.signature.accepts c.args.length = true ∧
      c.args.map Arg.type = v.signature.types.take c.args.length ∧
      ∃ i, Instruction.ofArgs? v c.args = some i ∧ ∀ {H : Host} (w : Wiring H),
        (∀ s₀ s : Session H, s₀.IsAtStart → s₀.Executes w s → v ∉ s.withdrawn) ∧
        ∀ (s : Session H) (id : InstanceId), v ∉ s.withdrawn →
          Engine.execute w id c s =
            (if v.isControlFlow then Engine.steer id c.target i else
              Engine.carryOut w.services id i) { s with counters := s.counters.countExecuted } ∧
          (w.services.IsSupplied → ∀ t, Engine.execute w id c s ≠ .error .missingArgument t) := by
  have htyped : c.IsTyped := (Script.parse_sound hscript).2 c hc
  obtain ⟨i, hi⟩ := htyped.exists_instruction hv hvalid
  obtain ⟨hcount, htypes⟩ := htyped.accepts hv hvalid
  refine ⟨hcount, htypes, i, hi, fun w => ⟨fun s₀ s h₀ hs => ?_, fun s id hs => ?_⟩⟩
  · simp [hs.withdrawn h₀]
  · have hrun := Engine.execute_of_instruction w hvalid hv hi hs id
    refine ⟨hrun, fun hS t => ?_⟩
    have hsupplied : Supplied (if v.isControlFlow then Engine.steer id c.target i else
        Engine.carryOut w.services id i : Engine _ Unit) :=
      .ite (Engine.steer_supplied _ i) (Engine.carryOut_supplied hS i)
    exact hrun ▸ hsupplied.ne_error _ t

lemma Cli.draw_supplied (lo hi : Int) : Supplied (draw lo hi) := by
  unfold draw
  -- The generator itself must not be evaluated.
  generalize Dice.next = f
  generalize Dice.number = g
  exact .guard nofun <| .bind (.modify _) fun _ => .bind (.bind .get fun _ => .pure _) fun _ =>
    .pure _

lemma Cli.services_isSupplied : services.IsSupplied := services_isStock.isSupplied draw_supplied

/-- A movie with a color, in the game of the command line. -/
theorem parsed_commands_supplied_movie : ∃ (script : Script) (c : Command),
    Script.parse "PlayMovie(intro.avi, 255, 0, 0)" "intro" none = .ok script ∧
      c ∈ script.commands ∧ c.isValid = true ∧ c.kind = .builtin .playMovie ∧
      Instruction.ofArgs? .playMovie c.args = some (.playMovie "intro.avi" ⟨255, 0, 0⟩) ∧
      Cli.wiring.services.IsSupplied ∧
      ∀ (s₀ s : Session Cli.host) (id : InstanceId), s₀.IsAtStart → s₀.Executes Cli.wiring s →
        ∀ t, Engine.execute Cli.wiring id c s ≠ .error .missingArgument t := by
  let c : Command := {
    kind := .builtin .playMovie, name := "PlayMovie"
    params := ["intro.avi", "255", "0", "0"]
    args := [.text "intro.avi", .int 255, .int 0, .int 0], line := 1 }
  have hparse : Script.parse "PlayMovie(intro.avi, 255, 0, 0)" "intro" none =
      .ok { name := "intro", commands := [c] } := by
    cbv
  obtain ⟨-, -, i, -, h⟩ := parsed_commands_supplied hparse List.mem_cons_self rfl
    (rfl : c.kind = .builtin .playMovie)
  obtain ⟨hpresent, hrun⟩ := h Cli.wiring
  refine ⟨_, c, hparse, List.mem_cons_self, rfl, rfl, rfl, Cli.services_isSupplied, ?_⟩
  intro s₀ s id h₀ hs
  exact (hrun s id (hpresent s₀ s h₀ hs)).2 Cli.services_isSupplied

end EventScript
