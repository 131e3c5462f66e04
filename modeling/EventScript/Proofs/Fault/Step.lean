import EventScript.Proofs.Fault.Command
import EventScript.Proofs.Prompt.Slip

/-! What a failing command costs. With the built-in settings and the games of the library, the step
of an instance whose command fails moves its cursor, counts the fault and may end the instance; all
else stays as it was. -/

namespace EventScript

variable {H : Host} {world : H.Game → Headless} {id : InstanceId}

/-! ### Faults -/

/-- What the fault of a command makes of its instance, where `last` says whether the command was the
last of the script. -/
def Fault.leaves {π : Type} (f : Fault) (last : Prop) [Decidable last] : Status π :=
  match f with
  | .fatal _ => .canceled
  | _ => if last then .completed else .running

lemma Fault.tally_errors (f : Fault) (c : Counters) :
    ∃ n < 7, (f.tally c).errors = c.errors.modify n (· + 1) := by
  cases f with
  | script kind text =>
    cases kind with
    | parse => exact ⟨0, by decide, rfl⟩
    | unknownCommand => exact ⟨1, by decide, rfl⟩
    | unresolvedTarget => exact ⟨2, by decide, rfl⟩
    | resourceConflict => exact ⟨3, by decide, rfl⟩
    | plain => exact ⟨4, by decide, rfl⟩
  | fatal text => exact ⟨5, by decide, rfl⟩
  | _ => exact ⟨6, by decide, rfl⟩

/-! ### All but one instance -/

/-- Whatever became of one instance, the session beside it is as it was. -/
structure Session.SameBeside (world : H.Game → Headless) (id : InstanceId) (s t : Session H) :
    Prop where
  store : t.store = s.store
  ui : t.ui = s.ui
  active : t.active = s.active
  pending : t.pending = s.pending
  others : ∀ k, k ≠ id → t.instance? k = s.instance? k
  scene : s.scene.SameWorld world t.scene
  cache : t.cache = s.cache

namespace Session.SameBeside

variable {s t u : Session H}

lemma trans (h : s.SameBeside world id t) (h' : t.SameBeside world id u) :
    s.SameBeside world id u where
  store := h'.store.trans h.store
  ui := h'.ui.trans h.ui
  active := h'.active.trans h.active
  pending := h'.pending.trans h.pending
  others k hk := (h'.others k hk).trans (h.others k hk)
  scene := h.scene.trans h'.scene
  cache := h'.cache.trans h.cache

lemma modifyInstance (s : Session H) (f : Instance H.Predicate → Instance H.Predicate) :
    s.SameBeside world id (s.modifyInstance id f) where
  store := rfl
  ui := rfl
  active := rfl
  pending := rfl
  others k hk := by rw [s.instance?_modifyInstance, if_neg (Ne.symm hk)]
  scene := .refl world _
  cache := rfl

/-- Counters and watchers may change and the log may grow. -/
lemma of_scene {x : Scene H.Game} (hx : s.scene.SameWorld world x) (c : Counters)
    (v : Ledger String Watcher) :
    s.SameBeside world id { s.withScene x with counters := c, watchers := v } :=
  ⟨rfl, rfl, rfl, rfl, fun _ _ => rfl, hx, rfl⟩

end Session.SameBeside

lemma Instance.tally_errors {π : Type} (i : Instance π) (o : Occasion) (c : Counters) :
    (i.tally o c).errors = c.errors := by
  unfold tally
  split
  · split <;> rfl
  · rfl

/-- The computation leads to `t`, though there a watcher may fail that is told of the end of the
instance. -/
def Engine.ComesTo {α : Type} (p : Engine H α) (i : Instance H.Predicate) (s t : Session H) : Prop :=
  (∃ a, p s = .ok a t) ∨
    p s = .error .watcherFailed t ∧ ∃ o, o ≠ .begin ∧ i.watchers.any (s.fails o) = true

/-- The session beside the instance is as it was, no fault has been counted, and the instance has
this status now. -/
structure Session.Spends (world : H.Game → Headless) (id : InstanceId) (i : Instance H.Predicate)
    (x : Status H.Predicate) (s t : Session H) : Prop where
  beside : s.SameBeside world id t
  errors : t.counters.errors = s.counters.errors
  self : ∃ j, t.instance? id = some j ∧ j.cursor = i.cursor ∧ j.status = x

namespace Engine

variable {w : Wiring H} {s t : Session H} {i : Instance H.Predicate} {x : Status H.Predicate}
  {α β : Type}

lemma ComesTo.bind_pure {p : Engine H α} (h : p.ComesTo i s t) (b : β) :
    ComesTo (p >>= fun _ => pure b) i s t :=
  h.imp (fun ⟨_, h⟩ => ⟨b, bind_of_ok h⟩) fun h => ⟨bind_of_error h.1, h.2⟩

lemma terminate_spends (world : H.Game → Headless) (hi : s.instance? id = some i)
    (hactive : i.isActive = true) (x : Status H.Predicate) (text : Instance H.Predicate → String)
    {o : Occasion} (ho : o ≠ .begin) :
    ∃ t, (terminate id x text o).ComesTo i s t ∧ s.Spends world id i x t := by
  obtain ⟨a, ha, hend⟩ := terminate_of_active hi hactive x text o
  refine ⟨s.closed id x a, ?_, ?_, ?_, ?_⟩
  · cases hfails : i.watchers.any (s.fails o) with
    | true => exact .inr ⟨hend.trans (if_pos hfails), o, ho, hfails⟩
    | false => exact .inl ⟨(), hend.trans (if_neg (Bool.eq_false_iff.mp hfails))⟩
  · exact (Session.SameBeside.of_scene (ha.scene.sameWorld world) _ _).trans (.modifyInstance _ _)
  · rcases ha.counters with h | h
    · exact congrArg Counters.errors h
    · exact (congrArg Counters.errors h).trans (i.tally_errors o _)
  · rw [Session.instance?_closed, if_pos rfl, hi]
    exact ⟨_, rfl, rfl, rfl⟩

lemma settle_spends (world : H.Game → Headless) (hi : s.instance? id = some i)
    (hr : i.status = .running) : ∃ t, (settle id).ComesTo i s t ∧
      s.Spends world id i (if i.script.size ≤ i.cursor then .completed else .running) t := by
  by_cases hlast : i.script.size ≤ i.cursor
  · obtain ⟨t, h, hspends⟩ := terminate_spends world hi (Instance.isActive_of_running hr) .completed
      (fun _ => "complete") (o := .complete) (by decide)
    refine ⟨t, ?_, by rwa [if_pos hlast]⟩
    have hsettle : settle id s = (complete id >>= fun _ => pure .completed) s := by
      rw [settle_of_running hi hr, if_pos hlast]
    rw [← complete_eq] at h
    unfold ComesTo
    rw [hsettle]
    exact h.bind_pure StepResult.completed
  · refine ⟨s, .inl ⟨.proceed, ?_⟩, .of_scene (.refl world _) _ _, rfl, i, hi, rfl, ?_⟩
    · rw [settle_of_running hi hr, if_neg hlast]
      rfl
    · rw [hr, if_neg hlast]

/-- One who holds nothing on screen has nothing to give back when it is canceled. -/
lemma afterFault_spends (world : H.Game → Headless) (hi : s.instance? id = some i)
    (hr : i.status = .running) (ht : s.ui.holdsTalk id = false)
    (hc : s.ui.holdsSelection id = false) (S : Services H.Game) (f : Fault) :
    ∃ t, (afterFault S id f).ComesTo i s t ∧
      s.Spends world id i (f.leaves (i.script.size ≤ i.cursor)) t := by
  cases f with
  | fatal text =>
    have hactive := Instance.isActive_of_running hr
    have hrel : stage (Stage.release S id) s = .ok () { s with screen := s.screen } :=
      stage_of_ok (Stage.release_of_neither ht hc)
    obtain ⟨t, h, hspends⟩ := terminate_spends world hi hactive .canceled
      (fun i => s!"cancel at command {i.cursor}") (o := .cancel) (by decide)
    refine ⟨t, ComesTo.bind_pure ?_ StepResult.completed, hspends⟩
    unfold ComesTo
    rw [abort_of_active hi hactive hrel]
    exact h
  | _ => exact settle_spends world hi hr

lemma runCommandAt_spares {c : Command} {f : Fault} (hi : s.instance? id = some i)
    (hr : i.status = .running) (ht : s.ui.holdsTalk id = false) (hc : s.ui.holdsSelection id = false)
    (h : execute w id c (s.modifyInstance id ({ · with cursor := i.cursor + 1 })) = .error f t)
    (hspared : (s.modifyInstance id ({ · with cursor := i.cursor + 1 })).Spared world t) :
    ∃ t, (runCommandAt w id c).ComesTo i s t ∧ s.SameBeside world id t ∧
      (∃ n < 7, t.counters.errors = s.counters.errors.modify n (· + 1)) ∧
      ∃ j, t.instance? id = some j ∧ j.cursor = i.cursor + 1 ∧
        j.status = f.leaves (i.script.size ≤ i.cursor + 1) := by
  obtain ⟨level, text, hrun⟩ := runCommandAt_of_error hi h
  obtain ⟨x, n, hx, hn, rfl⟩ := hspared
  let b := s.modifyInstance id ({ · with cursor := i.cursor + 1 })
  have hib : b.instance? id = some { i with cursor := i.cursor + 1 } := by
    simp [b, Session.instance?_modifyInstance, hi]
  let u : Session H := { b.withScene x with counters := f.tally n }
  obtain ⟨y, hlog, halike⟩ := logFor_apply id level text u
  have hsame : s.SameBeside world id (u.withScene y) :=
    (Session.SameBeside.modifyInstance s _).trans
      (.of_scene (hx.trans (halike.sameWorld world)) (f.tally n) s.watchers)
  obtain ⟨t, hafter, hspends⟩ := afterFault_spends world (s := u.withScene y) hib hr ht hc
    w.services f
  obtain ⟨k, hk, htally⟩ := f.tally_errors n
  have hcommand : runCommandAt w id c s = afterFault w.services id f (u.withScene y) := by
    rw [hrun, bind_of_ok (count_apply _ _)]
    exact bind_of_ok hlog
  refine ⟨t, ?_, hsame.trans hspends.beside, ⟨k, hk, ?_⟩, hspends.self⟩
  · unfold ComesTo at hafter ⊢
    rw [hcommand]
    exact hafter
  · exact hspends.errors.trans (htally.trans (congrArg (·.modify k (· + 1)) hn))

end Engine

/-! ### Sessions that are reached -/

/-- What happens to the game between requests leaves it such that it can be written out. -/
def Request.KeepsPrintable (world : H.Game → Headless) (r : Request H) : Prop :=
  ∀ f, r = .meanwhile f → ∀ x : Scene H.Game, (world x.game).IsPrintable →
    (world (f x).game).IsPrintable

lemma settings_dependsOnStatus (x : Settings) :
    DependsOnStatus fun s : Session H => s.setup.settings = x where
  ignores a _ s t hc hs := by cases hc <;> exact hs
  moves s k x y _ _ _ hs := hs

/-- Nothing is up to the host, and the commands and the settings are the built-in ones. -/
def Session.IsBuiltin (s : Session H) : Prop :=
  s.IsHostless ∧ s.withdrawn = [] ∧ s.setup.settings = Settings.ofTree Settings.builtin

lemma isBuiltin_dependsOnStatus : DependsOnStatus (Session.IsBuiltin (H := H)) :=
  isHostless_dependsOnStatus.and ((withdrawn_dependsOnStatus []).and (settings_dependsOnStatus _))

/-- In a session like that the game can be written out, and whoever has the prompt waits on it. -/
def Session.IsOrderly (world : H.Game → Headless) (s : Session H) : Prop :=
  (s.IsBuiltin ∧ (world s.scene.game).IsPrintable) ∧ ∀ p k, s.HoldsDuly p k

section Orderly

variable {w : Wiring H} (hS : w.services.FailsEarly world)

include hS

lemma builtin_tickKeeps :
    w.TickKeeps fun s => s.IsBuiltin ∧ (world s.scene.game).IsPrintable :=
  (isBuiltin_dependsOnStatus.tickKeeps w).and hS.keeps.stageKeeps.tickKeeps

lemma Act.not_slips {v : Act H} {p : PromptPart} (hs : (world v.before.scene.game).IsPrintable)
    (hduly : v.before.HoldsDuly p v.id) : ¬ v.Slips w p := by
  rintro ⟨⟨hasks, -⟩, i, x, f, t, hi, hx, hfails, -, hheld⟩
  obtain ⟨x', hx', hpart⟩ := Option.bind_eq_some_iff.mp hasks
  obtain rfl := Option.some.inj (hx.symm.trans hx')
  obtain ⟨⟨m, c⟩, hcommand, -⟩ := Option.bind_eq_some_iff.mp hx
  obtain ⟨j, hj, hr, -⟩ := Turn.command?_eq_some.mp hcommand
  have hrunning : v.before.status? v.id = some .running := by
    rw [Session.status?, hj]
    exact congrArg some hr
  have hlacks : v.before.Lacks p v.id := fun h => by
    simpa [Session.waitKind?, hrunning, Status.waitKind?, Status.wait?] using hduly h
  let s := v.before.fetched v.id (i.cursor + 1)
  have hrunning' : s.status? v.id = some .running := by
    rwa [Session.status?_fetched]
  cases x with
  | talk first last =>
    obtain rfl := Option.some.inj hpart
    have hcases := Engine.talk_cases hS hrunning' hs first last
    change Engine.talk _ _ _ _ s = _ at hfails
    rw [hfails] at hcases
    rcases hcases with ⟨_, h⟩ | ⟨_, h⟩ | ⟨u, h, hnone, -⟩
    · cases h
    · obtain ⟨-, rfl⟩ := EStateM.Result.error.inj h
      exact hlacks hheld
    · obtain ⟨-, rfl⟩ := EStateM.Result.error.inj h
      simp [Session.holder?, Session.talker?, hnone] at hheld
  | choose a b question out =>
    obtain rfl := Option.some.inj hpart
    have hcases := Engine.choose_cases hS hrunning' hs a b question out
    change Engine.choose _ _ _ _ _ _ s = _ at hfails
    rw [hfails] at hcases
    rcases hcases with ⟨_, h⟩ | ⟨_, h⟩
    · cases h
    · obtain ⟨-, rfl⟩ := EStateM.Result.error.inj h
      exact hlacks hheld
  | _ => cases hpart

lemma Session.IsOrderly.upholds : w.Upholds (Session.IsOrderly world) := by
  have hdialog := hS.grants (.perform .closeDialog rfl)
  have hselection := hS.grants (.perform .closeSelection rfl)
  have hbuiltin := builtin_tickKeeps hS
  have haside {a : Aside H}
      (ha : Preserves (fun s => s.IsBuiltin ∧ (world s.scene.game).IsPrintable) (a.run w)) :
      Preserves (Session.IsOrderly world) (a.run w) :=
    Leads.of_endState fun s hs => ⟨ha.endState hs.1, fun p k =>
      (Engine.aside_duly hdialog hselection a).endState (hs.2 p k)⟩
  refine ⟨fun id elapsed => Leads.of_endState ?_, haside hbuiltin.opening, haside hbuiltin.retire,
    fun id label => haside (hbuiltin.giveUp id label)⟩
  rintro s ⟨⟨hs, hprintable⟩, hduly⟩
  refine ⟨((hbuiltin.turn id).step (fun _ h => h.1.1) elapsed).endState ⟨hs, hprintable⟩,
    fun p k => ?_⟩
  let v := Turn.act w elapsed ⟨s, id⟩
  have hv : v.IsStep w := Turn.act_isStep elapsed ⟨s, id⟩
  by_cases hclaims : v.id = k ∧ v.Claims p
  · obtain ⟨rfl, hclaims⟩ := hclaims
    exact (hv.claims hdialog hselection hs.2.1 hclaims).resolve_right
      (Act.not_slips hS hprintable (hduly p id))
  · exact hv.duly hdialog hselection hs.2.1 hs.1 (hduly p k) fun hid h => hclaims ⟨hid, h⟩

lemma Request.KeepsPrintable.isOrderly {r : Request H} (hr : r.KeepsPrintable world) :
    Preserves (Session.IsOrderly world) (r.run w) := by
  have hbuiltin := isBuiltin_dependsOnStatus.request (fun _ h => h.1) w r
  refine (Session.IsOrderly.upholds hS).request fun htick => Leads.of_endState fun s hs =>
    ⟨?_, fun p k => ?_⟩
  · refine Leads.endState ((builtin_tickKeeps hS).request (fun _ h => h.1.1) ?_ ?_) hs.1
    · rintro name failsOn early rfl
      exact hbuiltin.and (Leads.modify fun s hs => by split <;> exact hs)
    · rintro f rfl
      exact hbuiltin.and (Leads.modify fun s hs => hr f rfl _ hs)
  · exact (Engine.aside_duly (hS.grants (.perform .closeDialog rfl))
      (hS.grants (.perform .closeSelection rfl)) (.request r htick)).endState (hs.2 p k)

end Orderly

section Reached

variable {w : Wiring H} {s₀ s : Session H}

lemma Session.HoldsDuly.holds_nothing (hs : ∀ p, s.HoldsDuly p id)
    (hr : s.status? id = some .running) :
    s.ui.holdsTalk id = false ∧ s.ui.holdsSelection id = false := by
  have hidle : s.waitKind? id = none := by
    simp [Session.waitKind?, hr, Status.waitKind?, Status.wait?]
  refine ⟨Bool.eq_false_iff.mpr fun h => ?_, Bool.eq_false_iff.mpr fun h => ?_⟩
  · simpa [hidle] using hs .dialogue (holdsTalk_iff.mp h)
  · simpa [hidle] using hs .selection (holdsSelection_iff.mp h)

lemma Fault.leaves_congr {π : Type} (f : Fault) {p q : Prop} [Decidable p] [Decidable q]
    (h : p ↔ q) : (f.leaves p : Status π) = f.leaves q := by
  unfold leaves
  simp only [h]

/-- The numbers are such as can be written out: the choice and the portraits of the game throughout,
those that the command notes, and those in the session as the command leaves it. -/
theorem failed_command_spares_session (hS : w.services.IsStock world) (h₀ : s₀.IsAtStart)
    (hsettings : s₀.setup.settings = Settings.ofTree Settings.builtin)
    (hgame : (world s₀.scene.game).IsPrintable) (hs : s₀.Reaches w (Request.KeepsPrintable world) s)
    {i : Instance H.Predicate} (hi : s.instance? id = some i) (hr : i.status = .running)
    {c : Command} (hc : i.command? = some c) (hcp : c.IsPrintable) (elapsed : Option Float)
    {f : Fault} {t' : Session H} (h : Engine.execute w id c
      (s.modifyInstance id ({ · with cursor := i.cursor + 1 })) = .error f t')
    (ht' : t'.IsPrintable world) :
    ∃ t, (Engine.step w id elapsed).ComesTo i s t ∧ s.SameBeside world id t ∧
      (∃ n < 7, t.counters.errors = s.counters.errors.modify n (· + 1)) ∧
      ∃ j, t.instance? id = some j ∧ j.cursor = i.cursor + 1 ∧
        j.status = f.leaves (i.cursor + 1 = i.script.size) := by
  have hearly := hS.failsEarly
  have hduly₀ (p : PromptPart) (k : InstanceId) : s₀.HoldsDuly p k := by
    obtain ⟨setup, scene, fade, files, rfl⟩ := h₀.eq_mk
    exact Session.Lacks.holdsDuly (by
      cases p <;> simp [Session.Lacks, Session.holder?, Session.talker?, Session.ui])
  obtain ⟨⟨⟨hless, -, hsame⟩, hprintable⟩, hduly⟩ := hs.keeps
    (Session.IsOrderly.upholds hearly) (fun _ hr => hr.isOrderly hearly)
    ⟨⟨⟨h₀.isHostless, h₀.withdrawn, hsettings⟩, hgame⟩, hduly₀⟩
  have hstatus : s.status? id = some .running := by simp [Session.status?, hi, hr]
  obtain ⟨htalk, hchoice⟩ := Session.HoldsDuly.holds_nothing (fun p => hduly p id) hstatus
  let b := s.modifyInstance id ({ · with cursor := i.cursor + 1 })
  have hb : b.IsReady world id :=
    ⟨(s.status?_modifyInstance id id (by intro i; rfl)).trans hstatus, hsame, hless.noCommands,
      hprintable⟩
  have hspared := Engine.execute_failsEarly hearly hb hcp b (.refl world b)
  rw [h] at hspared
  cases hspared with
  | error hspared =>
    obtain ⟨t, hrun, hbeside, herrors, j, hj, hcursor, hleaves⟩ :=
      Engine.runCommandAt_spares hi hr htalk hchoice h (hspared ht')
    refine ⟨t, ?_, hbeside, herrors, j, hj, hcursor, hleaves.trans ?_⟩
    · unfold Engine.ComesTo at hrun ⊢
      rwa [Engine.step_of_command w elapsed hi hr hc]
    · have hlt : i.cursor < i.script.size := (List.getElem?_eq_some_iff.mp hc).1
      exact f.leaves_congr (by omega)

end Reached

/-! ### The game of the command line -/

lemma Cli.draw_quiet (lo hi : Int) : (draw lo hi).IsQuiet Game.headless := by
  intro x
  have hroll (f : Nat → Nat) (g : Nat → Int) : Preserves (x.SameWorld Game.headless) (do
      Play.updateGame fun y => { y with dice := f y.dice }
      return g (← Play.game).dice : Play Game Int) :=
    Preserves.bind (Leads.modify fun _ h => ⟨h.1, h.2⟩) fun _ =>
      (Preserves.get.bind fun _ => .pure _).bind fun _ => .pure _
  unfold draw
  -- The generator itself must not be evaluated.
  generalize Dice.next = f
  generalize Dice.number = g
  split
  · exact (Preserves.throw _).bind fun _ => hroll f fun n => Dice.intoRange (g n) lo hi
  · exact hroll f fun n => Dice.intoRange (g n) lo hi

lemma Cli.draw_range (lo hi : Int) : Triple (fun _ => True) (draw lo hi)
    (fun n _ => lo ≤ n ∧ n < hi) fun _ _ => True := by
  have hroll (f : Nat → Nat) (g : Nat → Int) (hlt : lo < hi) : Triple (fun _ => True) (do
      Play.updateGame fun y => { y with dice := f y.dice }
      return Dice.intoRange (g (← Play.game).dice) lo hi : Play Game Int)
      (fun n _ => lo ≤ n ∧ n < hi) fun _ _ => True := by
    refine Triple.bind (Triple.of_true _) fun _ => Triple.bind (Triple.of_true _) fun x => ?_
    exact Triple.pure fun _ _ => ⟨Dice.le_intoRange _ hlt, Dice.intoRange_lt _ hlt⟩
  unfold draw
  refine Triple.ite (fun _ => ?_) fun hrange => ?_
  · exact Triple.bind (R := fun _ _ => False) (Triple.throw fun _ _ => trivial) fun _ _ h => h.elim
  · refine hroll Dice.next Dice.number ?_
    simp only [Dice.isRange] at hrange
    simp_all

lemma Cli.services_isStock : services.IsStock Game.headless :=
  .headless _ draw (fun _ _ => rfl) fun lo hi =>
    ⟨draw_quiet lo hi, fun _ _ _ h => (draw_range lo hi).answer trivial h⟩

def failsIn {ε σ α : Type} (p : EStateM ε σ α) (s : σ) (test : σ → Bool) : Bool :=
  match p s with
  | .ok _ _ => false
  | .error _ t => test t

lemma exists_of_failsIn {ε σ α : Type} {p : EStateM ε σ α} {s : σ} {test : σ → Bool}
    (h : failsIn p s test = true) : ∃ e t, p s = .error e t ∧ test t = true := by
  unfold failsIn at h
  cases hp : p s with
  | ok a t => simp [hp] at h
  | error e t => exact ⟨e, t, rfl, by simpa [hp] using h⟩

def lostNpc : Command where
  kind := .builtin .setNpcScript
  name := "SetNpcScript"
  args := [.text "nobody", .text "a.txt"]

def mishap : List (Request Cli.host) :=
  let stopMusic : Command := { kind := .builtin .stopMusic, name := "StopMusic" }
  [.setVariable "x" (.int 3),
    .start { name := "first", commands := [stopMusic, lostNpc, stopMusic] } none true none,
    .tick (some 16)]

theorem failed_command_spares_session_cli : ∃ s₀ : Session Cli.host, s₀.IsAtStart ∧
    s₀.setup.settings = Settings.ofTree Settings.builtin ∧ s₀.scene.game.headless.IsPrintable ∧
    let s := s₀.after Cli.wiring mishap
    ∃ i f t', s.instance? 0 = some i ∧ i.status = .running ∧ i.command? = some lostNpc ∧
      Engine.execute Cli.wiring 0 lostNpc
        (s.modifyInstance 0 ({ · with cursor := i.cursor + 1 })) = .error f t' ∧
      t'.IsPrintable Cli.Game.headless ∧
      ∃ t, (Engine.step Cli.wiring 0 (some 16)).ComesTo i s t ∧
        s.SameBeside Cli.Game.headless 0 t ∧
        (∃ n < 7, t.counters.errors = s.counters.errors.modify n (· + 1)) ∧
        ∃ j, t.instance? 0 = some j ∧ j.cursor = i.cursor + 1 ∧
          j.status = f.leaves (i.cursor + 1 = i.script.size) := by
  have h₀ : ∃ s₀ : Session Cli.host, s₀.IsAtStart ∧
      s₀.setup.settings = Settings.ofTree Settings.builtin ∧ s₀.scene.game.headless.IsPrintable ∧
      let s := s₀.after Cli.wiring mishap
      (s.instance? 0).any (fun i =>
        (i.isActive && !i.status.isSuspended) && (i.command? = some lostNpc &&
          failsIn (Engine.execute Cli.wiring 0 lostNpc)
            (s.modifyInstance 0 ({ · with cursor := i.cursor + 1 }))
            fun t => t.store = [("x", 3)] && t.scene.game.headless.money = 0)) = true := by
    refine ⟨.sample 1 { game := Cli.Game.mk {} 0 }, Session.sample_isAtStart, rfl,
      ⟨?_, fun i line h => nomatch h⟩, ?_⟩ <;> decide +kernel
  obtain ⟨s₀, h₀, hsettings, hgame, hall⟩ := h₀
  refine ⟨s₀, h₀, hsettings, hgame, ?_⟩
  obtain ⟨i, hi, hall⟩ := (Option.any_eq_true _ _).mp hall
  simp only [Bool.and_eq_true, decide_eq_true_eq] at hall
  obtain ⟨⟨hactive, hawake⟩, hc, hfails⟩ := hall
  have hr : i.status = .running := by
    cases hx : i.status <;>
      simp_all [Instance.isActive, Status.isActive, Status.isSuspended, Status.wait?]
  obtain ⟨f, t', h, htest⟩ := exists_of_failsIn hfails
  simp only [Bool.and_eq_true, decide_eq_true_eq] at htest
  have ht' : t'.IsPrintable Cli.Game.headless := by
    refine ⟨fun x => ?_, ?_⟩
    · rw [htest.1]
      by_cases hx : "x" = x <;> simp only [Store.value, Ledger.get?, hx, if_true, if_false] <;>
        decide +kernel
    · rw [htest.2]
      decide +kernel
  have hcp : lostNpc.IsPrintable := by
    intro x hx
    have hx : some (Instruction.setNpcScript "nobody" "a.txt") = some x := hx
    cases hx
    rfl
  have hrs : ∀ r ∈ mishap, r.KeepsPrintable Cli.Game.headless := by
    simp [mishap, Request.KeepsPrintable]
  exact ⟨i, f, t', hi, hr, hc, h, ht', failed_command_spares_session Cli.services_isStock h₀
    hsettings hgame (.between mishap hrs) hi hr hc hcp (some 16) h ht'⟩

end EventScript
