import EventScript.Proofs.Session.Footprint.Life

/-! What single operations on a session do, run from a session that is known. -/

namespace EventScript

lemma Instance.isActive_of_running {π : Type} {i : Instance π} (hr : i.status = .running) :
    i.isActive = true := by
  simp [isActive, Status.isActive, hr]

def Scene.Alike {σ : Type} (s t : Scene σ) : Prop := t.game = s.game ∧ t.entities = s.entities

def WatchersAlike (l m : Ledger String Watcher) : Prop :=
  ∀ name, (m.get? name).map (fun w => (w.failsOn, w.early)) =
    (l.get? name).map fun w => (w.failsOn, w.early)

namespace WatchersAlike

variable {l m n : Ledger String Watcher} {H : Host} {s t : Session H}

lemma refl (l : Ledger String Watcher) : WatchersAlike l l := fun _ => rfl

lemma trans (h : WatchersAlike l m) (h' : WatchersAlike m n) : WatchersAlike l n :=
  fun name => (h' name).trans (h name)

lemma fails (h : WatchersAlike s.watchers t.watchers) (o : Occasion) (name : String) :
    t.fails o name = s.fails o name := by
  have hname := congrArg (Option.any fun w => w.1.contains o) (h name)
  rwa [Option.any_map, Option.any_map] at hname

end WatchersAlike

def Instance.tally {π : Type} (i : Instance π) (occasion : Occasion) (c : Counters) : Counters :=
  if i.counted then if occasion = .complete then c.countCompletion else c.countCancel else c

section Array

variable {α : Type}

lemma modify_eq_of_getElem? {xs : Array α} {k : Nat} {a : α} (ha : xs[k]? = some a) (f : α → α) :
    xs.modify k f = xs.modify k fun _ => f a := by
  apply Array.ext_getElem?
  intro n
  rw [Array.getElem?_modify, Array.getElem?_modify]
  split
  · next h => simp [← h, ha]
  · rfl

lemma modify_modify (xs : Array α) (k : Nat) (f g : α → α) :
    (xs.modify k f).modify k g = xs.modify k (g ∘ f) := by
  apply Array.ext_getElem?
  intro n
  simp only [Array.getElem?_modify]
  split
  · simp
  · rfl

end Array

lemma Session.modifyInstance_modifyInstance {H : Host} (s : Session H) (id : InstanceId)
    (f g : Instance H.Predicate → Instance H.Predicate) :
    (s.modifyInstance id f).modifyInstance id g = s.modifyInstance id (g ∘ f) := by
  unfold modifyInstance
  rw [modify_modify]

lemma Session.modifyInstance_congr {H : Host} (s : Session H) (id : InstanceId)
    {i : Instance H.Predicate} (hi : s.instance? id = some i)
    {f g : Instance H.Predicate → Instance H.Predicate} (h : f i = g i) :
    s.modifyInstance id f = s.modifyInstance id g := by
  unfold modifyInstance
  rw [modify_eq_of_getElem? hi f, modify_eq_of_getElem? hi g, h]

section Tally

variable {π : Type} (i : Instance π) (o : Occasion) (c : Counters)

@[simp]
lemma Instance.tally_unexpectedErrors : (i.tally o c).unexpectedErrors = c.unexpectedErrors := by
  unfold tally
  split
  · split <;> rfl
  · rfl

@[simp]
lemma Instance.tally_parseErrors : (i.tally o c).parseErrors = c.parseErrors := by
  unfold tally
  split
  · split <;> rfl
  · rfl

end Tally

/-- What the end of an instance leaves of what it may change. -/
structure Aftermath (H : Host) where
  scene : Scene H.Game
  watchers : Ledger String Watcher
  counters : Counters
  counted : Bool
  told : List String

def Session.closed {H : Host} (s : Session H) (id : InstanceId) (x : Status H.Predicate)
    (a : Aftermath H) : Session H :=
  Session.modifyInstance
    { s.withScene a.scene with watchers := a.watchers, counters := a.counters } id
    ({ · with status := x, counted := a.counted, watchers := a.told })

lemma Session.instance?_closed {H : Host} (s : Session H) (id k : InstanceId)
    (x : Status H.Predicate) (a : Aftermath H) : (s.closed id x a).instance? k =
      if id = k then (s.instance? k).map ({ · with
        status := x, counted := a.counted, watchers := a.told }) else s.instance? k :=
  Array.getElem?_modify

structure Aftermath.Follows {H : Host} (a : Aftermath H) (s : Session H)
    (i : Instance H.Predicate) (occasion : Occasion) : Prop where
  scene : s.scene.Alike a.scene
  watchers : WatchersAlike s.watchers a.watchers
  counters : a.counters = s.counters ∨ a.counters = i.tally occasion s.counters
  counted : a.counted = true → i.counted = true
  calm : i.watchers.any (s.fails occasion) = false →
    a.counters = i.tally occasion s.counters ∧ a.counted = false ∧ a.told = []

def Fault.tally : Fault → Counters → Counters
  | .fatal _, c => c.countFatal
  | .script kind _, c => c.countScriptFault kind
  | _, c => c.countUnexpected

namespace Engine

variable {H : Host} {α : Type} {id : InstanceId} {s : Session H}

lemma stage_of_ok {p : Stage H.Game InstanceId α} {a : α} {x : Screen H.Game InstanceId}
    (h : p s.screen = .ok a x) : stage p s = .ok a { s with screen := x } := by
  simp [stage, h]

lemma stage_of_error {p : Stage H.Game InstanceId α} {f : Fault} {x : Screen H.Game InstanceId}
    (h : p s.screen = .error f x) : stage p s = .error f { s with screen := x } := by
  simp [stage, h]

lemma play_of_ok {p : Play H.Game α} {a : α} {x : Scene H.Game} (h : p s.screen.scene = .ok a x) :
    play p s = .ok a (s.withScene x) :=
  stage_of_ok (by simp [Stage.play, h])

lemma play_of_error {p : Play H.Game α} {f : Fault} {x : Scene H.Game}
    (h : p s.screen.scene = .error f x) : play p s = .error f (s.withScene x) :=
  stage_of_error (by simp [Stage.play, h])

lemma play_of_returns {p : Play H.Game α} (hp : Returns p) (s : Session H) :
    ∃ a x, play p s = .ok a (s.withScene x) := by
  obtain ⟨a, x, h⟩ := hp s.screen.scene
  exact ⟨a, x, play_of_ok h⟩

lemma count_apply (f : Counters → Counters) (s : Session H) :
    count f s = .ok () { s with counters := f s.counters } := rfl

lemma setCursor_apply (id : InstanceId) (n : Nat) (s : Session H) :
    setCursor id n s = .ok () (s.modifyInstance id ({ · with cursor := n })) := rfl

lemma theInstance_of_some {i : Instance H.Predicate} (hi : s.instance? id = some i) :
    theInstance id s = .ok i s := by
  unfold theInstance
  rw [bind_of_ok (get_apply s), hi]
  rfl

lemma theInstance_of_none (hi : s.instance? id = none) :
    theInstance id s = .error .missingKey s := by
  unfold theInstance
  rw [bind_of_ok (get_apply s), hi]
  rfl

lemma theInstance_here {I : Session H → Prop} (id : InstanceId) :
    Preserves I (theInstance id : Engine H (Instance H.Predicate)) := by
  intro s hs
  cases hi : s.instance? id with
  | none =>
    rw [theInstance_of_none hi]
    exact .error hs
  | some i =>
    rw [theInstance_of_some hi]
    exact .ok hs

lemma theInstance_bind {P : Session H → Prop} {f : Instance H.Predicate → Engine H α}
    {Q : α → Session H → Prop} {E : Fault → Session H → Prop}
    (hsome : ∀ i, Triple (fun s => P s ∧ s.instance? id = some i) (f i) Q E)
    (hnone : ∀ s, P s → s.instance? id = none → E .missingKey s) :
    Triple P (theInstance id >>= f) Q E := by
  intro s hs
  cases hi : s.instance? id with
  | none =>
    rw [bind_of_error (theInstance_of_none hi)]
    exact .error (hnone s hs hi)
  | some i =>
    rw [bind_of_ok (theInstance_of_some hi)]
    exact hsome i s ⟨hs, hi⟩

lemma suspend_of_running {i : Instance H.Predicate} (hi : s.instance? id = some i)
    (hr : i.status = .running) (x : Wait H.Predicate) :
    suspend id x s = .ok () (s.modifyInstance id ({ · with status := .suspended x })) := by
  unfold suspend
  rw [bind_of_ok (theInstance_of_some hi), hr]
  rfl

lemma resume_of_suspended {i : Instance H.Predicate} {x : Wait H.Predicate}
    (hi : s.instance? id = some i) (hx : i.status = .suspended x) :
    resume id s = .ok () (s.modifyInstance id ({ · with status := .running })) := by
  unfold resume
  rw [bind_of_ok (theInstance_of_some hi), hx]
  rfl

lemma attempt_of_ok {p : Engine H α} {a : α} {t : Session H} (h : p s = .ok a t) :
    attempt p s = .ok (.ok a) t := by
  simp [attempt, h]

lemma attempt_of_error {p : Engine H α} {e : Fault} {t : Session H} (h : p s = .error e t) :
    attempt p s = .ok (.error e) t := by
  simp [attempt, h]

lemma attempt_triple {p : Engine H α} {P : Session H → Prop} {Q : α → Session H → Prop}
    {E F : Fault → Session H → Prop} (h : Triple P p Q E) :
    Triple P (attempt p) (fun r s => match r with
      | .ok a => Q a s
      | .error f => E f s) F := by
  intro s hs
  have hr := h s hs
  unfold attempt
  cases hp : p s <;> rw [hp] at hr <;> cases hr <;> exact .ok (by assumption)

lemma attempt_leads {p : Engine H α} {P Q : Session H → Prop} (h : Leads P p Q) :
    Leads P (attempt p) Q := by
  refine (attempt_triple h).weaken (fun _ h => h) ?_ fun _ _ h => h
  rintro (_ | _) s h <;> exact h

/-! ### Steering -/

lemma decideOn_apply (c : Condition) (s : Session H) : decideOn c s =
    if c.isPrintable then .ok (c.holds s.store) s else .error .tooManyDigits s := by
  unfold decideOn
  rw [bind_of_ok (get_apply s)]
  cases c.isPrintable <;> rfl

lemma steer_jumpUnless (target : Option Nat) (c : Condition) : steer id target (.jumpUnless c) s =
    if c.isPrintable then (if !c.holds s.store then jumpToTarget id target else pure ()) s
    else .error .tooManyDigits s := by
  unfold steer
  split
  · next h => exact bind_of_ok ((decideOn_apply c s).trans (if_pos h))
  · next h => exact bind_of_error ((decideOn_apply c s).trans (if_neg h))

lemma steer_jumpIf (target : Option Nat) (c : Condition) : steer id target (.jumpIf c) s =
    if c.isPrintable then (if c.holds s.store then jumpToTarget id target else pure ()) s
    else .error .tooManyDigits s := by
  unfold steer
  split
  · next h => exact bind_of_ok ((decideOn_apply c s).trans (if_pos h))
  · next h => exact bind_of_error ((decideOn_apply c s).trans (if_neg h))

lemma steer_leave {i : Instance H.Predicate} (hi : s.instance? id = some i) (target : Option Nat) :
    steer id target .leave s = jump id i.script.size s :=
  bind_of_ok (theInstance_of_some hi)

lemma jump_of_le {i : Instance H.Predicate} (hi : s.instance? id = some i) {t : Nat}
    (ht : i.cursor ≤ t) : jump id t s = .ok () (s.modifyInstance id ({ · with cursor := t })) := by
  unfold jump
  rw [bind_of_ok (theInstance_of_some hi)]
  simp [Int.not_lt.mpr (Int.ofNat_le.mpr ht)]
  rfl

/-! ### Commands -/

section Builtin

variable (w : Wiring H) {c : Command} {v : Verb} {i : Instruction} (hc : c.error = none)
  (hv : c.kind = .builtin v) (hi : Instruction.ofArgs? v c.args = some i)

include hc hv hi

lemma execute_steer (hflow : v.isControlFlow = true) : execute w id c s =
    steer id c.target i { s with counters := s.counters.countExecuted } := by
  unfold execute executeBuiltin
  rw [hc, hv]
  simp only [hi, hflow]
  rfl

lemma execute_carryOut (hflow : v.isControlFlow = false) (hs : v ∉ s.withdrawn) : execute w id c s =
    carryOut w.services id i { s with counters := s.counters.countExecuted } := by
  have hpresent : s.withdrawn.contains v = false := by simp [hs]
  unfold execute executeBuiltin
  rw [hc, hv]
  dsimp only
  rw [bind_of_ok (count_apply _ s), bind_of_ok (get_apply _)]
  dsimp only
  rw [hflow, hpresent, hi]
  rfl

end Builtin

lemma execute_of_error (w : Wiring H) {c : Command} {e : LineError} (hc : c.error = some e)
    {i : Instance H.Predicate} (hi : s.instance? id = some i) : execute w id c s =
      .error (.script .parse s!"{i.script.name}:{c.line}: {e.message}") s := by
  unfold execute
  rw [hc]
  exact bind_of_ok (theInstance_of_some hi)

lemma execute_of_no_instruction (w : Wiring H) {c : Command} {v : Verb} (hc : c.error = none)
    (hv : c.kind = .builtin v) (hi : Instruction.ofArgs? v c.args = none) (hs : s.withdrawn = []) :
    execute w id c s =
      .error .missingArgument { s with counters := s.counters.countExecuted } := by
  unfold execute executeBuiltin
  rw [hc, hv]
  dsimp only
  rw [bind_of_ok (count_apply _ s), bind_of_ok (get_apply _)]
  simp only [hi, hs, List.contains_nil, Bool.and_false]
  rfl

lemma checkDigits_apply (ns : List Int) (s : Session H) : checkDigits ns s =
    if ns.any Text.exceedsDigitLimit then .error .tooManyDigits s else .ok () s := by
  unfold checkDigits
  split <;> rfl

lemma assign_apply (x : String) (n : Int) (s : Session H) :
    assign x n s = if Text.exceedsDigitLimit n then .error .tooManyDigits s
      else .ok () { s with store := s.store.assign x n } := by
  unfold assign
  split <;> rfl

lemma add_apply (x : String) (n : Int) (s : Session H) :
    add x n s = if Text.exceedsDigitLimit n || Text.exceedsDigitLimit ((s.store.add x n).value x)
      then .error .tooManyDigits { s with store := s.store.add x n }
      else .ok () { s with store := s.store.add x n } := by
  unfold add
  rw [bind_of_ok (modify_apply _ s), bind_of_ok (get_apply _)]
  split <;> rfl

/-! ### Ends -/

lemma log_apply (level : LogLevel) (text : String) (s : Session H) :
    ∃ x, log level text s = .ok () (s.withScene x) ∧ s.scene.Alike x :=
  ⟨_, rfl, rfl, rfl⟩

lemma logFor_apply (id : InstanceId) (level : LogLevel) (text : String) (s : Session H) :
    ∃ x, logFor id level text s = .ok () (s.withScene x) ∧ s.scene.Alike x :=
  ⟨_, rfl, rfl, rfl⟩

lemma note_apply (v : String) (occasion : Occasion) (id : InstanceId) (s : Session H) :
    ∃ x, WatchersAlike s.watchers x ∧ note v occasion id s = .ok () { s with watchers := x } := by
  unfold note
  rw [modify_apply]
  split
  · exact ⟨s.watchers, .refl _, rfl⟩
  · next y hy =>
    refine ⟨_, fun name => ?_, rfl⟩
    rw [Ledger.get?_put]
    split
    · next h =>
      rw [← h, hy]
      rfl
    · rfl

lemma noteAll_apply (occasion : Occasion) (id : InstanceId) (ws : List String) (s : Session H) :
    ∃ x, WatchersAlike s.watchers x ∧ noteAll occasion id ws s =
      if ws.any (s.fails occasion) then .error .watcherFailed { s with watchers := x }
      else .ok () { s with watchers := x } := by
  induction ws generalizing s with
  | nil => exact ⟨s.watchers, .refl _, rfl⟩
  | cons v ws ih =>
    obtain ⟨x, hx, hnote⟩ := note_apply v occasion id s
    have hfails : Session.fails { s with watchers := x } occasion = s.fails occasion :=
      funext (hx.fails (t := { s with watchers := x }) occasion)
    unfold noteAll
    rw [bind_of_ok hnote, bind_of_ok (get_apply _), hfails, List.any_cons]
    cases s.fails occasion v with
    | true => exact ⟨x, hx, rfl⟩
    | false =>
      obtain ⟨y, hy, h⟩ := ih { s with watchers := x }
      exact ⟨y, hx.trans hy, hfails ▸ h⟩

/-- Some watchers are told before the session counts the end and some after it. -/
lemma ended_apply {i : Instance H.Predicate} (hi : s.instance? id = some i) (occasion : Occasion) :
    ∃ x c, WatchersAlike s.watchers x ∧ (c = s.counters ∨ c = i.tally occasion s.counters) ∧
      ended id occasion s =
        if i.watchers.any (s.fails occasion) then
          .error .watcherFailed { s with watchers := x, counters := c }
        else .ok () (Session.modifyInstance
          { s with watchers := x, counters := i.tally occasion s.counters } id
          ({ · with counted := false, watchers := [] })) := by
  obtain ⟨x, hx, hfirst⟩ := noteAll_apply occasion id (i.watchers.filter s.isEarly) s
  have hall : i.watchers.any (s.fails occasion) =
      ((i.watchers.filter s.isEarly).any (s.fails occasion) ||
        (i.watchers.filter (!s.isEarly ·)).any (s.fails occasion)) := by
    induction i.watchers with
    | nil => rfl
    | cons v ws ih => cases h : s.isEarly v <;> simp [h, ih, Bool.or_left_comm, Bool.or_assoc]
  unfold ended
  rw [bind_of_ok (theInstance_of_some hi), bind_of_ok (get_apply s), hall]
  cases hearly : (i.watchers.filter s.isEarly).any (s.fails occasion) with
  | true =>
    rw [hearly] at hfirst
    exact ⟨x, s.counters, hx, .inl rfl, bind_of_error hfirst⟩
  | false =>
    rw [hearly] at hfirst
    let u : Session H := { s with watchers := x, counters := i.tally occasion s.counters }
    obtain ⟨y, hy, hrest⟩ := noteAll_apply occasion id (i.watchers.filter (!s.isEarly ·)) u
    rw [show u.fails occasion = s.fails occasion from funext (hx.fails (t := u) occasion)] at hrest
    have hcount {p : Engine H Unit} : (if i.counted then (do
          count fun c => if occasion = .complete then c.countCompletion else c.countCancel
          p) else p) { s with watchers := x } = p u := by
      unfold u Instance.tally
      split <;> rfl
    refine ⟨y, i.tally occasion s.counters, hx.trans hy, .inr rfl, ?_⟩
    rw [bind_of_ok hfirst]
    refine hcount.trans ?_
    cases hlate : (i.watchers.filter (!s.isEarly ·)).any (s.fails occasion) <;> rw [hlate] at hrest
    · exact bind_of_ok hrest
    · exact bind_of_error hrest

lemma terminate_of_active {i : Instance H.Predicate} (hi : s.instance? id = some i)
    (hactive : i.isActive = true) (x : Status H.Predicate) (text : Instance H.Predicate → String)
    (occasion : Occasion) : ∃ a : Aftermath H, a.Follows s i occasion ∧
      terminate id x text occasion s =
        if i.watchers.any (s.fails occasion) then .error .watcherFailed (s.closed id x a)
        else .ok () (s.closed id x a) := by
  let u := s.modifyInstance id ({ · with status := x })
  obtain ⟨scene, hlog, halike⟩ := logFor_apply id .info (text i) u
  have hi' : (u.withScene scene).instance? id = some { i with status := x } := by
    change u.instance? id = _
    simp [u, Session.instance?_modifyInstance, hi]
  obtain ⟨y, c, hy, hc, hend⟩ := ended_apply hi' occasion
  have hrun : terminate id x text occasion s = ended id occasion (u.withScene scene) := by
    unfold terminate
    rw [bind_of_ok (theInstance_of_some hi), hactive]
    exact bind_of_ok (f := fun _ => ended id occasion) hlog
  cases hfails : i.watchers.any (s.fails occasion) with
  | true =>
    refine ⟨⟨scene, y, c, i.counted, i.watchers⟩, ⟨halike, hy, hc, fun h => h, ?_⟩, ?_⟩
    · exact fun hcalm => absurd (hfails.symm.trans hcalm) (by simp)
    · refine hrun.trans ((hend.trans (if_pos hfails)).trans ?_)
      let v : Session H := { s.withScene scene with watchers := y, counters := c }
      have hsame := v.modifyInstance_congr id (f := ({ · with status := x }))
        (g := ({ · with status := x, counted := i.counted, watchers := i.watchers })) hi rfl
      exact congrArg (EStateM.Result.error Fault.watcherFailed) hsame
  | false =>
    refine ⟨⟨scene, y, i.tally occasion s.counters, false, []⟩,
      ⟨halike, hy, .inr rfl, nofun, fun _ => ⟨rfl, rfl, rfl⟩⟩, ?_⟩
    refine hrun.trans ((hend.trans (if_neg (hfails ▸ Bool.false_ne_true))).trans ?_)
    let v : Session H := { s.withScene scene with
      watchers := y, counters := i.tally occasion s.counters }
    have hsame := v.modifyInstance_modifyInstance id ({ · with status := x })
      ({ · with counted := false, watchers := [] })
    exact congrArg (EStateM.Result.ok ()) hsame

lemma abort_of_active {i : Instance H.Predicate} (hi : s.instance? id = some i)
    (hactive : i.isActive = true) {S : Services H.Game} {x : Screen H.Game InstanceId}
    (hrel : stage (Stage.release S id) s = .ok () { s with screen := x }) :
    abort S id s = terminate id .canceled (fun i => s!"cancel at command {i.cursor}") .cancel
      { s with screen := x } := by
  unfold abort
  rw [bind_of_ok (theInstance_of_some hi), if_pos hactive, bind_of_ok hrel, cancel_eq]

lemma abort_of_ended {i : Instance H.Predicate} (hi : s.instance? id = some i)
    (hended : i.isActive = false) (S : Services H.Game) : abort S id s = .ok () s := by
  unfold abort
  rw [bind_of_ok (theInstance_of_some hi), hended]
  rfl

lemma complete_of_active {i : Instance H.Predicate} (hi : s.instance? id = some i)
    (hactive : i.isActive = true) : ∃ a : Aftermath H, a.Follows s i .complete ∧
      complete id s =
        if i.watchers.any (s.fails .complete) then .error .watcherFailed (s.closed id .completed a)
        else .ok () (s.closed id .completed a) :=
  terminate_of_active hi hactive .completed (fun _ => "complete") .complete

lemma finish_of_running {i : Instance H.Predicate} (hi : s.instance? id = some i)
    (hr : i.status = .running) : finish id s =
      (if i.script.size ≤ i.cursor then complete id >>= fun _ => pure .completed
        else pure .proceed) s := by
  unfold finish
  rw [bind_of_ok (theInstance_of_some hi), Instance.isActive_of_running hr]
  by_cases h : i.script.size ≤ i.cursor <;> simp [h, Instance.isAtEnd]

lemma settle_of_running {i : Instance H.Predicate} (hi : s.instance? id = some i)
    (hr : i.status = .running) : settle id s =
      (if i.script.size ≤ i.cursor then complete id >>= fun _ => pure .completed
        else pure .proceed) s := by
  have hsuspended : i.status.isSuspended = false := by simp [Status.isSuspended, Status.wait?, hr]
  unfold settle
  rw [bind_of_ok (theInstance_of_some hi), hsuspended]
  exact finish_of_running hi hr

/-! ### Steps -/

lemma step_of_command (w : Wiring H) (elapsed : Option Float) {i : Instance H.Predicate}
    {c : Command} (hi : s.instance? id = some i) (hr : i.status = .running)
    (hc : i.command? = some c) : step w id elapsed s = runCommandAt w id c s := by
  unfold step
  rw [bind_of_ok (theInstance_of_some hi), hr]
  simp only [hc]

lemma runCommandAt_of_ok {w : Wiring H} {i : Instance H.Predicate} {c : Command} {t : Session H}
    (hi : s.instance? id = some i)
    (h : execute w id c (s.modifyInstance id ({ · with cursor := i.cursor + 1 })) = .ok () t) :
    runCommandAt w id c s = settle id t := by
  unfold runCommandAt
  rw [bind_of_ok (theInstance_of_some hi), bind_of_ok (setCursor_apply _ _ _),
    bind_of_ok (attempt_of_ok h)]

def afterFault (S : Services H.Game) (id : InstanceId) : Fault → Engine H StepResult
  | .fatal _ => do
    abort S id
    return .completed
  | _ => settle id

lemma runCommandAt_of_error {w : Wiring H} {i : Instance H.Predicate} {c : Command} {f : Fault}
    {t : Session H} (hi : s.instance? id = some i)
    (h : execute w id c (s.modifyInstance id ({ · with cursor := i.cursor + 1 })) = .error f t) :
    ∃ level text, runCommandAt w id c s = (do
      count f.tally
      logFor id level text
      afterFault w.services id f) t := by
  unfold runCommandAt
  rw [bind_of_ok (theInstance_of_some hi), bind_of_ok (setCursor_apply _ _ _),
    bind_of_ok (attempt_of_error h)]
  cases f <;> exact ⟨_, _, rfl⟩

end Engine

end EventScript
