import EventScript.Proofs.Prompt.Poll

/-! A choice is answered once: in the first step of its holder that finds it made, and only then is
anything kept of it. -/

namespace EventScript

variable {H : Host} {w : Wiring H} {s t : Session H} {id : InstanceId} {out : Option String}

/-- The game says whether a choice was made, and which, by an integer. -/
structure Services.Chooses {σ : Type} (S : Services σ) : Prop where
  selectionEnded : Returns S.selectionEnded
  choice : ∀ x, ∃ n y, S.choice x = .ok (.int n) y

/-- The instance is suspended until a choice is made, and has the selection. -/
def Session.IsChoosing (id : InstanceId) (out : Option String) (s : Session H) : Prop :=
  s.status? id = some (.suspended (.selection out)) ∧ s.ui.chooser = some id

/-- What the game, asked in this turn, has as chosen, if the choice is made. -/
def Turn.choice? (w : Wiring H) (u : Turn H) : Option Int :=
  match w.services.selectionEnded u.before.scene with
  | .ok true x =>
    match w.services.choice x with
    | .ok (.int n) _ => some n
    | _ => none
  | _ => none

/-- The number is kept in the variable, if there is one. -/
def Store.keep (s : Store) (out : Option String) (n : Int) : Store :=
  match out with
  | some x => s.assign x n
  | none => s

lemma Session.HoldsFast.isChoosing {N : Prop} (hs : s.HoldsFast N (.choice id) (.selection out)) :
    s.IsChoosing id out :=
  ⟨hs.holds.suspended, hs.holds.held⟩

lemma Stage.release_of_chooser {σ η : Type} [DecidableEq η] {S : Services σ} (hS : S.PerformsPrompts)
    {who : η} {x : Screen σ η} (hc : x.ui.chooser = some who) :
    ∃ y, release S who x = .ok () y ∧ y.ui.chooser = none := by
  have hc : x.ui.holdsSelection who = true := by simp [Ui.holdsSelection, hc]
  have hc' : ({ x.ui with talk := none } : Ui η).holdsSelection who = true := hc
  by_cases ht : x.ui.holdsTalk who = true
  · obtain ⟨_, scene, hdialog⟩ := play_of_returns (hS.perform .closeDialog rfl)
      { x with ui := { x.ui with talk := none } }
    obtain ⟨_, scene', hselection⟩ := play_of_returns (hS.perform .closeSelection rfl)
      { scene := scene, ui := { x.ui with talk := none, chooser := none } }
    refine ⟨{ scene := scene', ui := { x.ui with talk := none, chooser := none } }, ?_, rfl⟩
    unfold release
    rw [bind_of_ok (get_apply _)]
    dsimp only
    rw [if_pos ht, bind_of_ok (setTalk_apply none x), bind_of_ok hdialog, bind_of_ok (get_apply _),
      if_pos hc', bind_of_ok (setChooser_apply none _)]
    exact hselection
  · obtain ⟨scene, h⟩ := release_of_choice hS (Bool.not_eq_true _ ▸ ht) hc
    exact ⟨_, h, rfl⟩

namespace Engine

lemma abort_store (id : InstanceId) (s : Session H) :
    (endState (abort w.services id) s).store = s.store := by
  have hkeeps : Preserves (fun t => t.store = s.store) (abort w.services id) := by
    refine (abort_within subset_rfl w.services).preserves fun a ha t u hc ht => ?_
    cases hc with
    | store => simp at ha
    | _ => exact ht
  exact hkeeps.endState rfl

/-! ### The command -/

lemma choose_accepted (hS : w.services.PerformsPrompts) (hfree : ¬ s.ui.IsTakenFrom s.holders id)
    (hr : s.status? id = some .running) (a b question : String) (out : Option String) :
    ∃ scene, choose w.services id a b question out s = .ok () (Session.modifyInstance
      { s with screen := { scene, ui := { s.screen.ui with chooser := some id } } } id
      ({ · with status := .suspended (.selection out) })) := by
  rcases Stage.beginSelection_cases s.holders id s.screen with ⟨hbegin, -⟩ | ⟨f, -, htaken⟩
  · let s' : Session H :=
      { s with screen := { s.screen with ui := { s.screen.ui with chooser := some id } } }
    obtain ⟨_, scene, hshow⟩ := play_of_returns (hS.perform (.selection a b question) rfl) s'
    obtain ⟨i, hi, hr⟩ := Option.map_eq_some_iff.mp hr
    refine ⟨scene, ?_⟩
    unfold choose perform
    rw [bind_of_ok (get_apply s), bind_of_ok (stage_of_ok hbegin), bind_of_ok hshow]
    exact suspend_of_running (s := s'.withScene scene) hi hr (.selection out)
  · exact absurd htaken hfree

/-! ### The wait -/

lemma keepChoice_apply (out : Option String) (n : Int) (s : Session H) :
    keepChoice out (.int n) s = if Text.exceedsDigitLimit n then .error .tooManyDigits s
      else .ok () { s with store := s.store.keep out n } := by
  cases out with
  | none =>
    change (if (Datum.int n).isPrintable then pure () else throw .tooManyDigits : Engine H Unit) s = _
    rw [Datum.isPrintable]
    cases Text.exceedsDigitLimit n <;> rfl
  | some x => exact assign_apply x n s

lemma waitSelection_answers (hS : w.services.Chooses)
    (hs : s.Holds (.choice id) (.selection out)) :
    (Turn.choice? w ⟨s, id⟩ = none → ∃ scene,
      waitSelection w.services id out s = .ok false (s.withScene scene)) ∧
    ∀ n, Turn.choice? w ⟨s, id⟩ = some n → ∃ scene, waitSelection w.services id out s =
      if Text.exceedsDigitLimit n then .error .tooManyDigits (s.withScene scene)
      else .ok true { s with
        store := s.store.keep out n
        screen := { scene, ui := { s.screen.ui with chooser := none } } } := by
  have hheld : s.ui.chooser = some id := hs.held
  have hholds : s.ui.holdsSelection id = true := by simp [Ui.holdsSelection, hheld]
  obtain ⟨b, scene, hended⟩ := hS.selectionEnded s.scene
  obtain ⟨n, scene', hchoice⟩ := hS.choice scene
  unfold waitSelection
  rw [bind_of_ok (get_apply s), hholds]
  unfold Turn.choice?
  dsimp only
  rw [hended]
  cases b with
  | false => exact ⟨fun _ => ⟨scene, bind_of_ok (play_of_ok hended)⟩, by simp⟩
  | true =>
    simp only [hchoice]
    refine ⟨by simp, ?_⟩
    rintro _ ⟨⟩
    refine ⟨scene', ?_⟩
    refine (bind_of_ok (play_of_ok hended)).trans ?_
    refine (bind_of_ok (play_of_ok hchoice)).trans ?_
    have hkeep := keepChoice_apply out n (s.withScene scene')
    -- A choice that cannot be written out fails before it is kept, with the selection still open.
    split
    · next hn =>
      rw [if_pos hn] at hkeep
      exact bind_of_error hkeep
    · next hn =>
      rw [if_neg hn] at hkeep
      let s' : Session H := { s.withScene scene' with store := s.store.keep out n }
      have hend : Stage.endSelection id s'.screen =
          .ok () { scene := scene', ui := { s.screen.ui with chooser := none } } := by
        unfold Stage.endSelection
        rw [bind_of_ok (get_apply _)]
        exact congrFun (if_pos hholds) _
      refine (bind_of_ok hkeep).trans ?_
      exact bind_of_ok (stage_of_ok (s := s') hend)

lemma checkWait_of_tooManyDigits (hS : w.services.PerformsPrompts) (hs : s.IsHostless)
    {elapsed : Option Float} (hpoll : waitSelection w.services id out s = .error .tooManyDigits t)
    (ht : t.Holds (.choice id) (.selection out)) :
    ∃ u, checkWait w id elapsed (.selection out) s = .ok true u ∧
      u.status? id = some (.suspended (.selection out)) ∧ u.store = t.store ∧
      u.ui.chooser = none := by
  obtain ⟨i, hi, hx⟩ := Option.map_eq_some_iff.mp ht.suspended
  have hi : t.instance? id = some i := hi
  let t' : Session H := { t with counters := t.counters.countUnexpected }
  have htag : waitTag id t' = .ok WaitKind.selection.tag t' := by
    unfold waitTag
    rw [bind_of_ok (theInstance_of_some (s := t') hi)]
    simp only [Status.wait?, hx]
    rfl
  obtain ⟨scene, hlog, -⟩ := logFor_apply id .error
    ("unexpected error waiting on " ++ WaitKind.selection.tag) t'
  have hreport : reportWait w.services id .tooManyDigits t = .ok () (t'.withScene scene) := by
    unfold reportWait
    dsimp only
    rw [bind_of_ok (count_apply _ t), bind_of_ok htag]
    exact hlog
  obtain ⟨screen, hrelease, hfree⟩ := Stage.release_of_chooser hS (x := (t'.withScene scene).screen)
    ht.held
  have hactive : i.isActive = true := by simp [Instance.isActive, Status.isActive, hx]
  have hbroken : poll w id elapsed (.selection out) s = .error .tooManyDigits t :=
    (poll_of_hostless hs).trans hpoll
  refine ⟨{ t' with screen }, ?_, ht.suspended, rfl, hfree⟩
  unfold checkWait
  rw [bind_of_ok (attempt_of_error hbroken)]
  dsimp only
  rw [bind_of_ok hreport, bind_of_ok (theInstance_of_some (s := t'.withScene scene) hi), hactive]
  exact bind_of_ok (stage_of_ok hrelease)

lemma step_of_canceled {elapsed : Option Float} (hs : s.status? id = some .canceled) :
    step w id elapsed s = .ok .completed s := by
  obtain ⟨i, hi, hx⟩ := Option.map_eq_some_iff.mp hs
  unfold step
  rw [bind_of_ok (theInstance_of_some hi), hx]
  rfl

end Engine

/-! ### Steps -/

namespace Act

variable {u v : Act H} {a b question : String}

lemma refused (hu : u.IsStep w) (hwithdrawn : u.before.withdrawn = [])
    (hx : u.instruction? = some (.choose a b question out))
    (htaken : u.before.ui.IsTakenFrom u.before.holders u.id) :
    u.after.store = u.before.store ∧ u.after.ui = u.before.ui ∧ u.after.HasGoneOn u.id := by
  obtain ⟨elapsed, hafter⟩ := hu
  obtain ⟨n, hrunning, -, -, hrefused⟩ := Engine.step_of_asks hwithdrawn rfl hx elapsed
  obtain ⟨message, hchoose⟩ :=
    Engine.asks_refused (S := w.services) (x := .choose a b question out) rfl
      (Session.isTaken_fetched.mpr htaken)
  obtain ⟨hgone, hsame⟩ := hrefused _ _ hchoose (by simp) hrunning
  rw [← hafter] at hgone hsame
  exact ⟨hsame.store, hsame.ui, hgone⟩

lemma chooses (hS : w.services.PerformsPrompts) (hu : u.IsStep w)
    (hwithdrawn : u.before.withdrawn = []) (hx : u.instruction? = some (.choose a b question out))
    (hfree : ¬ u.before.ui.IsTakenFrom u.before.holders u.id) :
    u.after.store = u.before.store ∧ u.after.active = u.before.active ∧
      u.after.Holds (.choice u.id) (.selection out) := by
  obtain ⟨elapsed, hafter⟩ := hu
  obtain ⟨n, hrunning, hsuspends, -⟩ := Engine.step_of_asks hwithdrawn rfl hx elapsed
  obtain ⟨scene, hchoose⟩ :=
    Engine.choose_accepted hS (mt Session.isTaken_fetched.mp hfree) hrunning a b question out
  have hsuspended := Session.status?_suspended (x := .selection out) { u.before.fetched u.id n with
    screen := { scene, ui := { u.before.screen.ui with chooser := some u.id } } } hrunning
  rw [hafter, hsuspends _ _ hchoose hsuspended]
  exact ⟨rfl, rfl, hsuspended, rfl⟩

lemma answers (hP : w.services.PerformsPrompts) (hS : w.services.Chooses) (hv : v.IsStep w) {N : Prop}
    (hs : v.before.HoldsFast N (.choice v.id) (.selection out)) :
    (v.choice? w = none → v.after.store = v.before.store ∧
      v.after.HoldsFast N (.choice v.id) (.selection out)) ∧
    ∀ n, v.choice? w = some n →
      (out = none ∨ Text.exceedsDigitLimit n = false → v.after.store = v.before.store.keep out n) ∧
      v.after.ui.chooser = none ∧ v.after.HasGoneOn v.id := by
  obtain ⟨elapsed, hafter⟩ := hv
  obtain ⟨hno, hyes⟩ := Engine.waitSelection_answers hS hs.holds
  have hsuspended : v.before.status? v.id = some (.suspended (.selection out)) := hs.holds.suspended
  refine ⟨fun hn => ?_, fun n hn => ?_⟩
  · obtain ⟨scene, hwait⟩ := hno hn
    rw [hafter, Engine.step_waits hsuspended (Engine.checkWait_of_ok hs.hostless hwait)]
    exact ⟨rfl, hs.hostless.same rfl rfl rfl,
      ⟨hsuspended, hs.holds.held⟩, hs.listed⟩
  · obtain ⟨scene, hwait⟩ := hyes n hn
    have hcheck : ∃ t, Engine.checkWait w v.id elapsed (.selection out) v.before = .ok true t ∧
        t.status? v.id = some (.suspended (.selection out)) ∧
        (out = none ∨ Text.exceedsDigitLimit n = false → t.store = v.before.store.keep out n) ∧
        t.ui.chooser = none := by
      cases hlong : Text.exceedsDigitLimit n with
      | false =>
        rw [if_neg (by simp [hlong])] at hwait
        exact ⟨_, Engine.checkWait_of_ok hs.hostless hwait, hsuspended, fun _ => rfl, rfl⟩
      | true =>
        rw [if_pos hlong] at hwait
        obtain ⟨t, hcheck, ht, hstore, hfree⟩ :=
          Engine.checkWait_of_tooManyDigits hP hs.hostless hwait ⟨hsuspended, hs.holds.held⟩
        refine ⟨t, hcheck, ht, fun h => ?_, hfree⟩
        obtain rfl := h.resolve_right (by simp)
        exact hstore
    obtain ⟨t, hcheck, ht, hstore, hfree⟩ := hcheck
    obtain ⟨hgone, hsame⟩ := Engine.step_goesOn hsuspended hcheck ht
    rw [← hafter] at hgone hsame
    exact ⟨fun h => hsame.store.trans (hstore h), (congrArg Ui.chooser hsame.ui).trans hfree, hgone⟩

lemma IsStep.store_of_canceled (hv : v.IsStep w) (hs : v.before.IsCanceled v.id) :
    v.after.store = v.before.store := by
  obtain ⟨elapsed, hafter⟩ := hv
  rw [hafter, endState_of_ok (Engine.step_of_canceled hs.2.1)]

end Act

/-! ### Whole choices -/

variable {A : Set (Aside H)} {N : Prop} {u : Act H} {vs : List (Act H)}

lemma Course.answers (hS : w.services.PerformsPrompts) (hC : w.services.Chooses)
    (hA : .newGame ∈ A → N) (hu : u.after.HoldsFast N (.choice u.id) (.selection out))
    (h : Course w A u.after vs t)
    (hn : ∀ v ∈ actsOf u.id vs, v.choice? w = none ∨ v.before.IsCanceled u.id) :
    (∀ v ∈ actsOf u.id vs, v.after.store = v.before.store) ∧
      t.Lasts N (.choice u.id) (.selection out) := by
  -- No step of the holder finds the choice made, unless the holder was canceled, and then it does
  -- nothing; nobody else takes the selection from it.
  induction h with
  | start => exact ⟨by simp [actsOf], .inl hu⟩
  | @act t vs v hvs hv hbefore ih =>
    subst hbefore
    by_cases hid : v.id = u.id
    · rw [actsOf_concat_self hid] at hn ⊢
      rw [List.forall_mem_append] at hn ⊢
      simp only [List.forall_mem_singleton] at hn ⊢
      obtain ⟨hstores, hs⟩ := ih hn.1
      have hended (hc : v.before.IsCanceled u.id) : v.after.store = v.before.store ∧
          v.after.Lasts N (.choice u.id) (.selection out) :=
        ⟨hv.store_of_canceled (hid ▸ hc), .inr (hv.isCanceled hc)⟩
      rw [and_assoc]
      refine ⟨hstores, ?_⟩
      rcases hs with hs | hc
      · rcases hn.2 with hnone | hc
        · obtain ⟨hstore, hs'⟩ := (Act.answers hS hC hv (hid ▸ hs)).1 hnone
          exact ⟨hstore, .inl (hid ▸ hs')⟩
        · exact hended hc
      · exact hended hc
    · rw [actsOf_concat_of_ne hid] at hn ⊢
      obtain ⟨hstores, hs⟩ := ih hn
      exact ⟨hstores, hs.imp (hv.holdsFast hid) hv.isCanceled⟩
  | @aside t vs a hvs ha ih =>
    obtain ⟨hstores, hs⟩ := ih hn
    exact ⟨hstores, (Engine.aside_lasts hS fun h => hA (h ▸ ha)).endState hs⟩

/-- Every history of a session is a course. In one, a choice is asked for in vain while the prompt is
taken. Else it is answered once, in the first step of its holder that finds it made, and nothing can
prevent that but canceling the holder; if the schedule does not run it, a new game can. -/
theorem choice_is_answered_once (w : Wiring H) (hS : w.services.PerformsPrompts)
    (hC : w.services.Chooses) {s₀ : Session H} (h₀ : s₀.IsAtStart) :
    (∀ rs, ∃ us, Course w .univ s₀ us (s₀.after w rs)) ∧
    (∀ k s, (endState (Engine.abort w.services k) s).store = s.store) ∧
    ∀ us s, Course w .univ s₀ us s → ∀ u : Act H, u.IsStep w → u.before = s →
      ∀ a b question out, u.instruction? = some (.choose a b question out) →
      (s.ui.IsTakenFrom s.holders u.id →
        (∃ message, Engine.carryOut w.services u.id (.choose a b question out) s =
          .error (.script .resourceConflict message) s) ∧
        u.after.store = s.store ∧ u.after.ui = s.ui ∧ u.after.HasGoneOn u.id) ∧
      (¬ s.ui.IsTakenFrom s.holders u.id →
        u.after.store = s.store ∧ u.after.IsChoosing u.id out ∧
        ∀ A : Set (Aside H), u.id ∈ s.active ∨ .newGame ∉ A →
          ∀ vs t, Course w A u.after vs t →
          (∀ v ∈ actsOf u.id vs, v.choice? w = none ∨ v.before.IsCanceled u.id) →
          (∀ v ∈ actsOf u.id vs, v.after.store = v.before.store) ∧
          (t.IsCanceled u.id ∨ t.IsChoosing u.id out ∧
            ∀ v : Act H, v.IsStep w → v.before = t → v.id = u.id →
              (v.choice? w = none → v.after.store = t.store ∧ v.after.IsChoosing u.id out) ∧
              ∀ n, v.choice? w = some n →
                (out = none ∨ Text.exceedsDigitLimit n = false →
                  v.after.store = t.store.keep out n) ∧
                v.after.ui.chooser = none ∧ v.after.HasGoneOn u.id)) := by
  refine ⟨s₀.after_course w, Engine.abort_store, ?_⟩
  rintro us _ hus u hu rfl a b question out hx
  have hwithdrawn := hus.withdrawn h₀
  have hless := (hus.act hu rfl).isHostless h₀
  refine ⟨fun htaken => ⟨Engine.asks_refused (x := .choose a b question out) rfl htaken,
    Act.refused hu hwithdrawn hx htaken⟩, fun hfree => ?_⟩
  obtain ⟨hstore, hactive, hheld⟩ := Act.chooses hS hu hwithdrawn hx hfree
  refine ⟨hstore, ⟨hheld.suspended, hheld.held⟩, fun A hA vs t hvs hn => ?_⟩
  have hfirst : u.after.HoldsFast (u.id ∈ u.before.active) (.choice u.id) (.selection out) :=
    ⟨hless, hheld, fun h => hactive ▸ h⟩
  have hnew : .newGame ∈ A → u.id ∈ u.before.active := fun h => hA.resolve_right (not_not_intro h)
  obtain ⟨hstores, hs⟩ := Course.answers hS hC hnew hfirst hvs hn
  refine ⟨hstores, hs.symm.imp_right fun hs => ⟨hs.isChoosing, ?_⟩⟩
  rintro v hv rfl hid
  rw [← hid] at hs ⊢
  obtain ⟨hno, hyes⟩ := Act.answers hS hC hv hs
  exact ⟨fun hnone => ⟨(hno hnone).1, (hno hnone).2.isChoosing⟩, hyes⟩

/-! ### A game of nothing but choices -/

def Services.decided (n : Int) : Services Unit :=
  { Services.silent fun lo _ => return lo with choice := return .int n }

namespace Decided

abbrev host : Host := .plain Unit

def wiring (n : Int) : Wiring host := (Services.decided n).wiring

def choose : Command := {
  kind := .builtin .choose, name := "Choose"
  args := [.text "left", .text "right", .text "Where to?", .var "x"] }

def script : Script := { name := "fork", commands := [choose] }

lemma services_performsPrompts (n : Int) : (wiring n).services.PerformsPrompts :=
  ⟨fun _ _ s => ⟨(), s, rfl⟩⟩

lemma services_chooses (n : Int) : (wiring n).services.Chooses :=
  ⟨fun s => ⟨true, s, rfl⟩, fun s => ⟨n, s, rfl⟩⟩

end Decided

theorem choice_is_answered_once_decided : ∃ s₀ s : Session Decided.host,
    (Decided.wiring 1).services.PerformsPrompts ∧ (Decided.wiring 1).services.Chooses ∧
      s₀.IsAtStart ∧ Course (Decided.wiring 1) .univ s₀ [] s ∧ ∃ u v : Act Decided.host,
      u.IsStep (Decided.wiring 1) ∧ u.before = s ∧
      u.instruction? = some (.choose "left" "right" "Where to?" (some "x")) ∧
      ¬ s.ui.IsTakenFrom s.holders u.id ∧ u.id ∈ s.active ∧ v.IsStep (Decided.wiring 1) ∧
      v.before = u.after ∧ v.id = u.id ∧ u.after.store = [] ∧ u.after.IsChoosing u.id (some "x") ∧
      v.after.store = [("x", 1)] ∧ v.after.ui.chooser = none ∧ v.after.HasGoneOn u.id := by
  have hstart : ∃ s₀ : Session Decided.host, s₀.IsAtStart ∧
      let s := endState (Aside.opening.run (Decided.wiring 1))
        (endState ((Request.start Decided.script none true none).run (Decided.wiring 1)) s₀)
      Turn.command? ⟨s, 0⟩ = some (0, Decided.choose) ∧ s.ui.talk.isNone ∧ s.ui.chooser = none ∧
        0 ∈ s.active ∧ s.store = [] := by
    refine ⟨.sample 1 { game := () }, Session.sample_isAtStart, ?_, ?_, ?_, ?_, ?_⟩ <;>
      decide +kernel
  obtain ⟨s₀, h₀, hcommand, htalk, hchooser, hlisted, hempty⟩ := hstart
  set s := endState (Aside.opening.run (Decided.wiring 1))
    (endState ((Request.start Decided.script none true none).run (Decided.wiring 1)) s₀)
  have hx : Turn.instruction? ⟨s, 0⟩ =
      some (.choose "left" "right" "Where to?" (some "x")) :=
    (Turn.instruction?_of_command hcommand).trans rfl
  have hfree := Ui.not_isTakenFrom htalk hchooser s.holders 0
  let u := Turn.act (Decided.wiring 1) none ⟨s, 0⟩
  let v := Turn.act (Decided.wiring 1) none ⟨u.after, 0⟩
  obtain ⟨hstore, hchoosing, hlater⟩ := ((choice_is_answered_once (Decided.wiring 1)
    (Decided.services_performsPrompts 1) (Decided.services_chooses 1) h₀).2.2 [] s (Course.opened _) u
    (Turn.act_isStep _ _) rfl _ _ _ _ hx).2 hfree
  have hu : u.after.store = [] := hstore.trans hempty
  obtain ⟨-, ⟨-, hcanceled, -⟩ | ⟨-, hv⟩⟩ := hlater .univ (.inl hlisted) [] u.after .start (by
    simp [actsOf])
  · simp [hchoosing.1] at hcanceled
  · obtain ⟨hkept, hfree', hgone⟩ := (hv v (Turn.act_isStep _ _) rfl rfl).2 1 rfl
    refine ⟨s₀, s, Decided.services_performsPrompts 1, Decided.services_chooses 1, h₀, Course.opened _,
      u, v, Turn.act_isStep _ _, rfl, hx, hfree, hlisted, Turn.act_isStep _ _, rfl, rfl, hu,
      hchoosing, ?_, hfree', hgone⟩
    rw [hkept (.inr (by decide +kernel)), hu]
    rfl

/-- One that the schedule does not run has its choice taken away by a new game, and goes on without
an answer. And a number that cannot be written out is not kept. -/
theorem choice_is_lost : ∃ s₀ : Session Decided.host, s₀.IsAtStart ∧
    let s := endState ((Aside.create Decided.script none true none).run (Decided.wiring 1)) s₀
    (s.ui.talk.isNone ∧ s.ui.chooser = none) ∧
    (let u := Turn.act (Decided.wiring 1) none ⟨s, 0⟩
    let v := Turn.act (Decided.wiring 1) none
      ⟨endState (Aside.newGame.run (Decided.wiring 1)) u.after, 0⟩
    u.command? = some (0, Decided.choose) ∧
      (v.before.status? 0).map Status.tag = some "SUSPENDED" ∧
      v.choice? (Decided.wiring 1) = some 1 ∧ v.after.store = [] ∧
      (v.after.status? 0).map Status.tag = some "COMPLETED") ∧
    let w := Decided.wiring (pow10 Text.digitLimit)
    let u := Turn.act w none ⟨s, 0⟩
    let v := Turn.act w none ⟨u.after, 0⟩
    u.command? = some (0, Decided.choose) ∧
      (v.before.status? 0).map Status.tag = some "SUSPENDED" ∧
      v.choice? w = some (pow10 Text.digitLimit : Int) ∧ v.after.store = [] ∧
      (v.after.status? 0).map Status.tag = some "COMPLETED" := by
  refine ⟨.sample 1 { game := () }, Session.sample_isAtStart,
    ⟨?_, ?_⟩, ⟨?_, ?_, ?_, ?_, ?_⟩, ?_, ?_, ?_, ?_, ?_⟩ <;> decide +kernel

end EventScript
