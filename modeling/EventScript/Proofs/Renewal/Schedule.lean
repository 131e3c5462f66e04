import EventScript.Proofs.Renewal.Step
import EventScript.Proofs.Session.Request
import Mathlib.Data.List.Basic

/-! All that can be done to a session, done to one that has gone on and to one that was set up
anew. -/

namespace EventScript

variable {H : Host}

namespace Engine

variable {o : Session H} {w : Wiring H}

/-! ### Canceling -/

section Cancel

variable {S : Services H.Game} (hS : S.Oblivious)

include hS

lemma drop_inStep (k : InstanceId) :
    InStep o.Mirrors Eq (drop S (o.later k) : Engine H Unit) (drop S k) := by
  refine (abort_inStep hS k).andThen fun _ => .modify fun s t h =>
    { h with active := ?_, pending := ?_ }
  · rw [h.active, List.map_erase o.later_injective]
  · rw [h.pending, List.map_erase o.later_injective]

lemma dropEach_inStep (ks : List InstanceId) :
    InStep o.Mirrors Eq (dropEach S (ks.map o.later) : Engine H Unit) (dropEach S ks) := by
  induction ks with
  | nil => exact .same ()
  | cons k ks ih => exact (drop_inStep hS k).andThen fun _ => ih

lemma cancelAll_inStep : InStep o.Mirrors Eq (cancelAll S : Engine H Unit) (cancelAll S) := by
  refine InStep.get.bind fun s t h => ?_
  rw [h.instances]
  exact dropEach_inStep hS _

lemma cancelOwned_inStep (owner : Option EntityId) :
    InStep o.Mirrors Eq (cancelOwned S owner : Engine H Unit) (cancelOwned S owner) := by
  have heach (ks : List InstanceId) : InStep o.Mirrors Eq
      (dropOwned S owner (ks.map o.later) : Engine H Unit) (dropOwned S owner ks) := by
    induction ks with
    | nil => exact .same ()
    | cons k ks ih =>
      refine (owner?_inStep k).andThen fun r => .ite Iff.rfl ?_ ih
      exact (drop_inStep hS k).andThen fun _ => ih
  refine InStep.get.bind fun s t h => ?_
  rw [h.instances]
  exact heach _

lemma dropOrphans_inStep : InStep o.Mirrors Eq (dropOrphans S : Engine H Unit) (dropOrphans S) := by
  have heach (ks : List InstanceId) : InStep o.Mirrors Eq
      (dropOrphansOf S (ks.map o.later) : Engine H Unit) (dropOrphansOf S ks) := by
    induction ks with
    | nil => exact .same ()
    | cons k ks ih =>
      refine theInstance_andThen k fun i => InStep.get.bind fun s t h => ?_
      have horphaned : (i.raise o.roster.size).isOrphaned s.scene = i.isOrphaned t.scene := by
        simp only [Instance.isOrphaned, Instance.raise, h.entity?]
      rw [horphaned]
      refine .ite Iff.rfl ?_ ih
      exact (log_inStep _ _ _).andThen fun _ =>
        (count_inStep Counters.countOrphan_isCount).andThen fun _ =>
          (drop_inStep hS k).andThen fun _ => ih
  refine InStep.get.bind fun s t h => ?_
  rw [h.active]
  exact heach _

end Cancel

/-! ### Ticks -/

lemma promote_inStep : InStep o.Mirrors Eq (promote : Engine H Unit) promote := by
  have heach (ks : List InstanceId) :
      InStep o.Mirrors Eq (beginEach (ks.map o.later) : Engine H Unit) (beginEach ks) := by
    induction ks with
    | nil => exact .same ()
    | cons k ks ih => exact (begin_inStep k).andThen fun _ => ih
  refine InStep.get.bind fun s t h => ?_
  rw [h.pending]
  refine (InStep.modify fun _ _ h => { h with pending := rfl }).andThen fun _ => ?_
  refine (heach _).andThen fun _ => .modify fun _ _ h => { h with active := ?_ }
  simp [h.active]

variable (hw : w.Oblivious)

include hw

lemma updateScreen_inStep :
    InStep o.Mirrors Eq (updateScreen w.services : Engine H Unit) (updateScreen w.services) :=
  InStep.get.bind fun _ _ h =>
    stage_inStep (Stage.update_inStep hw.services o.later_injective h.holders)

lemma stepUpTo_inStep (k : InstanceId) (elapsed : Option Float) (n : Nat) :
    InStep o.Mirrors Eq (stepUpTo w (o.later k) elapsed n) (stepUpTo w k elapsed n) := by
  induction n with
  | zero => exact .same ()
  | succ n ih =>
    refine attempt_inStep (step_inStep hw k elapsed) (fun r r' hr => ?_) fun e e' _ => ?_
    · subst hr
      cases r with
      | proceed => exact ih
      | suspended | completed => exact .same ()
    · refine (count_inStep Counters.countUnexpected_isCount).andThen fun _ => ?_
      refine InStep.get.bind fun s t h => (log_inStep _ _ _).andThen fun _ => ?_
      exact abort_inStep hw.services k

lemma stepAll_inStep (elapsed : Option Float) :
    InStep o.Mirrors Eq (stepAll w elapsed) (stepAll w elapsed) := by
  have heach (ks : List InstanceId) :
      InStep o.Mirrors Eq (stepEach w elapsed (ks.map o.later)) (stepEach w elapsed ks) := by
    induction ks with
    | nil => exact .same ()
    | cons k ks ih =>
      refine theInstance_andThen k fun i => InStep.get.bind fun s t h => ?_
      rw [h.paused]
      refine .ite Iff.rfl (InStep.get.bind fun s t h => ?_) ih
      rw [h.setup]
      exact (stepUpTo_inStep hw k elapsed _).andThen fun _ => ih
  refine InStep.get.bind fun s t h => ?_
  rw [h.active]
  exact heach _

omit hw in
lemma retire_inStep :
    InStep o.Mirrors Eq (modify Session.retire : Engine H PUnit) (modify Session.retire) := by
  refine .modify fun s t h => ?_
  have hactive : s.active.filter s.isActive = (t.active.filter t.isActive).map o.later := by
    rw [h.active, List.filter_map, Function.comp_def]
    simp only [h.isActive]
  refine { h with active := hactive, screen := { h.screen with asleep := ?_ } }
  dsimp only [Session.retire]
  rw [hactive, List.any_map, Function.comp_def]
  simp only [h.isAsleep]

lemma tick_inStep (elapsed : Option Float) :
    InStep o.Mirrors Eq (tick w elapsed) (tick w elapsed) := by
  have hcount : InStep o.Mirrors Eq
      (modify fun s => { s with ticks := s.ticks + 1 } : Engine H PUnit)
      (modify fun s => { s with ticks := s.ticks + 1 }) :=
    .modify fun s t h => { h with ticks := congrArg (· + 1) h.ticks }
  refine hcount.andThen fun _ => promote_inStep.andThen fun _ => ?_
  refine (dropOrphans_inStep hw.services).andThen fun _ => ?_
  refine (updateScreen_inStep hw).andThen fun _ => ?_
  exact (stepAll_inStep hw elapsed).andThen fun _ => retire_inStep

lemma tickWhileRunning_inStep (elapsed : Option Float) (n : Nat) :
    InStep o.Mirrors Eq (tickWhileRunning w elapsed n) (tickWhileRunning w elapsed n) := by
  induction n with
  | zero => exact .same _
  | succ n ih =>
    refine InStep.get.bind fun s t h => ?_
    rw [h.isRunning]
    exact .ite Iff.rfl ((tick_inStep hw elapsed).andThen fun _ => ih.andThen fun _ => .same _)
      (.same _)

/-! ### New games, and what is kept in files -/

lemma newGame_inStep :
    InStep o.Mirrors Eq (newGame w.services : Engine H Unit) (newGame w.services) := by
  refine (log_inStep _ _ _).andThen fun _ => (cancelAll_inStep hw.services).andThen fun _ => ?_
  refine (stage_inStep (Stage.reset_inStep hw.services)).andThen fun _ => ?_
  exact .modify fun _ _ h => { h with store := rfl }

omit hw

lemma setVariable_inStep (x : String) (d : Datum) :
    InStep o.Mirrors Eq (setVariable x d : Engine H Unit) (setVariable x d) := by
  cases d with
  | int n => exact .modify fun _ _ h => { h with store := congrArg (·.assign x n) h.store }
  | _ => exact .fail _

lemma save_inStep (path : String) :
    InStep o.Mirrors Eq (save path : Engine H Nat) (save path) := by
  refine InStep.get.bind fun s t h => ?_
  have hsave : Save.save s.store s.setup.now = Save.save t.store t.setup.now := by
    rw [h.store, h.setup]
  have hwrite (bytes : List UInt8) : s.files.write path bytes = t.files.write path bytes := by
    rw [h.files]
  rw [hsave]
  generalize Save.save t.store t.setup.now = saved
  obtain ⟨result, bytes⟩ := saved
  dsimp only
  rw [hwrite]
  refine (ofExcept_inStep _).andThen fun files => ?_
  exact (InStep.set { h with files := rfl }).andThen fun _ => ofExcept_inStep _

lemma load_inStep (path : String) :
    InStep o.Mirrors Eq (load path : Engine H Unit) (load path) := by
  refine InStep.get.bind fun s t h => ?_
  have hread : s.files.read path = t.files.read path := by
    rw [h.files]
  have hload (bytes : List UInt8) : Save.loadInto s.store bytes = Save.loadInto t.store bytes := by
    rw [h.store]
  rw [hread]
  refine (ofExcept_inStep _).andThen fun bytes => ?_
  rw [hload]
  exact (InStep.set { h with store := rfl }).andThen fun _ => ofExcept_inStep _

/-! ### Watchers -/

lemma ensureWatcher_inStep (name : String) (failsOn : List Occasion) (early : Bool) :
    InStep o.Mirrors Eq (ensureWatcher name failsOn early : Engine H Unit)
      (ensureWatcher name failsOn early) := by
  refine .modify fun s t h => ?_
  rw [h.hasWatcher]
  split
  · exact h
  · refine { h with watchers := fun k => ?_ }
    dsimp only
    rw [Ledger.get?_put, Ledger.get?_put]
    split
    · exact .some ⟨rfl, rfl, #[], #[], by simp, rfl⟩
    · exact h.watchers k

lemma watch_inStep (k : InstanceId) (name : String) :
    InStep o.Mirrors Eq (watch (o.later k) name : Engine H Unit) (watch k name) :=
  updateInstance_inStep k fun i => by
    cases hc : i.watchers.contains name <;> simp only [Instance.raise, hc] <;> rfl

end Engine

/-! ### Operations -/

def Request.later (o : Session H) : Request H → Request H
  | cancel k => .cancel (o.later k)
  | r => r

/-- What happens to the game meanwhile does not depend on the log. -/
def Request.Oblivious : Request H → Prop
  | meanwhile f => ∀ x y : Scene H.Game, x.Alike y → (f x).Alike (f y)
  | _ => True

lemma Request.inStep {w : Wiring H} (hw : w.Oblivious) (o : Session H) {r : Request H}
    (hr : r.Oblivious) : InStep o.Mirrors Eq ((r.later o).run w) (r.run w) := by
  have hstart (script : Script) (owner : Option EntityId) (pausable : Bool)
      (watcher : Option String) : InStep o.Mirrors Eq (do
        let _ ← Engine.start script owner pausable watcher : Engine H Unit) (do
        let _ ← Engine.start script owner pausable watcher) :=
    (Engine.start_inStep script owner pausable watcher).bind fun _ _ _ => .same ()
  cases r with
  | start => exact hstart _ _ _ _
  | startFile file =>
    exact (Engine.loadHere_inStep hw.services file).andThen fun _ => hstart _ _ _ _
  | startText text name owner =>
    exact InStep.bind ((Engine.ofExcept_inStep _).andThen fun _ => Engine.start_inStep _ _ _ _)
      fun _ _ _ => .same ()
  | tick elapsed => exact Engine.tick_inStep hw elapsed
  | cancel k => exact Engine.drop_inStep hw.services k
  | cancelOwned owner => exact Engine.cancelOwned_inStep hw.services owner
  | cancelAll => exact Engine.cancelAll_inStep hw.services
  | setPaused paused => exact .modify fun _ _ h => { h with paused := rfl }
  | newGame => exact Engine.newGame_inStep hw
  | save path => exact (Engine.save_inStep path).andThen fun _ => .same ()
  | load path => exact Engine.load_inStep path
  | setVariable x d => exact Engine.setVariable_inStep x d
  | watch name failsOn early => exact Engine.ensureWatcher_inStep name failsOn early
  | meanwhile f =>
    exact .modify fun _ _ h => { h with screen := { h.screen with scene := hr _ _ h.screen.scene } }
  | changeFiles f => exact .modify fun _ _ h => { h with files := congrArg f h.files }

/-- All that is done to a session: what is asked of it, what a host adds to it, and what is done to
single instances by hand. -/
inductive Operation (H : Host) where
  | request (r : Request H)
  | runToEnd (script : Script) (elapsed : Option Float) (maxTicks : Nat)
  | register (name : String) (command : H.Command)
  | registerWait (kind : WaitKind) (predicate : H.Predicate)
  | withdraw (v : Verb)
  | forbidSpawn
  | clearCache
  | loadScript (file : String) (map : Datum)
  | readScript (path : Path)
  | randomItem (path : Path)
  | movieEnded
  | create (script : Script) (owner : Option EntityId) (pausable : Bool) (watcher : Option String)
  | step (id : InstanceId) (elapsed : Option Float)
  | jump (id : InstanceId) (target : Int)
  | waitUntil (id : InstanceId) (predicate : H.Predicate)
  | cancel (id : InstanceId)
  | watch (id : InstanceId) (name : String)
  | unwatch (id : InstanceId) (name : String)
  | clearWatchers (id : InstanceId)

/-- What is answered to an operation, but for the numbers of new instances. -/
inductive Operation.Answer where
  | done
  | flag (b : Bool)
  | count (n : Nat)
  | text (t : String)
  | script (x : Script)
  | result (r : StepResult)

namespace Operation

def silently (p : Engine H Unit) : Engine H Answer := do
  p
  return .done

def run (w : Wiring H) : Operation H → Engine H Answer
  | request r => silently (r.run w)
  | runToEnd script elapsed maxTicks => return .count (← Engine.runToEnd w script elapsed maxTicks)
  | register name command => silently (Engine.register name command)
  | registerWait kind predicate => silently (Engine.registerWait kind predicate)
  | withdraw v => silently (Engine.withdraw v)
  | forbidSpawn => silently (modify ({ · with canSpawn := false }))
  | clearCache => silently (modify ({ · with cache := [] }))
  | loadScript file map => return .script (← Engine.loadScript file map)
  | readScript path => return .script (← Engine.readScript path)
  | randomItem path => return .text (← Engine.randomItem w.services path)
  | movieEnded => return .flag (← Engine.stage (Stage.movieEnded w.services))
  | create script owner pausable watcher => do
    let _ ← Engine.create script owner pausable watcher
    return .done
  | step id elapsed => return .result (← Engine.step w id elapsed)
  | jump id target => silently (Engine.jump id target)
  | waitUntil id predicate => silently (Engine.waitUntil id predicate)
  | cancel id => silently (Engine.cancel id)
  | watch id name => silently (Engine.watch id name)
  | unwatch id name => silently (Engine.unwatch id name)
  | clearWatchers id => silently (Engine.clearWatchers id)

/-- The operation on a session that has gone on from `o`, whose instances have greater numbers. -/
def later (o : Session H) : Operation H → Operation H
  | request r => .request (r.later o)
  | step id elapsed => .step (o.later id) elapsed
  | jump id target => .jump (o.later id) target
  | waitUntil id predicate => .waitUntil (o.later id) predicate
  | cancel id => .cancel (o.later id)
  | watch id name => .watch (o.later id) name
  | unwatch id name => .unwatch (o.later id) name
  | clearWatchers id => .clearWatchers (o.later id)
  | x => x

def Oblivious : Operation H → Prop
  | request r => r.Oblivious
  | _ => True

lemma silently_inStep {o : Session H} {p q : Engine H Unit} (h : InStep o.Mirrors Eq p q) :
    InStep o.Mirrors Eq (silently p) (silently q) :=
  h.andThen fun _ => .same _

lemma inStep {w : Wiring H} (hw : w.Oblivious) (o : Session H) {x : Operation H}
    (hx : x.Oblivious) : InStep o.Mirrors Eq ((x.later o).run w) (x.run w) := by
  cases x with
  | request r => exact silently_inStep (r.inStep hw o hx)
  | runToEnd script elapsed maxTicks =>
    refine InStep.andThen ((Engine.play_inStep (hw.services.offers .player)).andThen fun _ => ?_)
      fun _ => .same _
    exact (Engine.start_inStep _ _ _ _).bind fun _ _ _ => Engine.tickWhileRunning_inStep hw _ _
  | register name command =>
    refine silently_inStep (.guard Iff.rfl (.refl _) (.modify fun _ _ h => ?_))
    exact { h with hostCommands := congrArg (·.put (Text.lower name) command) h.hostCommands }
  | registerWait kind predicate =>
    exact silently_inStep (.modify fun _ _ h =>
      { h with hostWaits := congrArg (·.put kind predicate) h.hostWaits })
  | withdraw v =>
    exact silently_inStep (.modify fun _ _ h =>
      { h with withdrawn := congrArg (v :: ·) h.withdrawn })
  | forbidSpawn => exact silently_inStep (.modify fun _ _ h => { h with canSpawn := rfl })
  | clearCache => exact silently_inStep (.modify fun _ _ h => { h with cache := rfl })
  | loadScript file map => exact (Engine.loadScript_inStep file map).andThen fun _ => .same _
  | readScript path => exact (Engine.readScript_inStep path).andThen fun _ => .same _
  | randomItem path => exact (Engine.randomItem_inStep hw.services path).andThen fun _ => .same _
  | movieEnded =>
    exact (Engine.stage_inStep (Stage.movieEnded_inStep hw.services)).andThen fun _ => .same _
  | create => exact (Engine.create_inStep _ _ _ _).bind fun _ _ _ => .same _
  | step id elapsed => exact (Engine.step_inStep hw id elapsed).andThen fun _ => .same _
  | jump id target => exact silently_inStep (Engine.jump_inStep id target)
  | waitUntil id predicate => exact silently_inStep (Engine.suspend_inStep id _)
  | cancel id => exact silently_inStep (Engine.cancel_inStep id)
  | watch id name => exact silently_inStep (Engine.watch_inStep id name)
  | unwatch id name => exact silently_inStep (Engine.updateInstance_inStep id fun _ => rfl)
  | clearWatchers id => exact silently_inStep (Engine.updateInstance_inStep id fun _ => rfl)

end Operation

namespace Session

def afterAll (w : Wiring H) (s : Session H) (xs : List (Operation H)) : Session H :=
  xs.foldl (fun s x => endState (x.run w) s) s

/-- Whatever is done to both, they stay alike. -/
lemma Mirrors.afterAll {w : Wiring H} (hw : w.Oblivious) {o s t : Session H} (h : o.Mirrors s t)
    (xs : List (Operation H)) (hxs : ∀ x ∈ xs, x.Oblivious) :
    o.Mirrors (s.afterAll w (xs.map (·.later o))) (t.afterAll w xs) := by
  induction xs generalizing s t with
  | nil => exact h
  | cons x xs ih =>
    obtain ⟨hx, hxs⟩ := List.forall_mem_cons.mp hxs
    exact ih ((Operation.inStep hw o hx).endState h) hxs

end Session

end EventScript
