import EventScript.Proofs.Ensemble.Basic
import EventScript.Proofs.Session.Apply
import EventScript.Proofs.Session.Footprint.Life

/-! A session as an ensemble of its instances. A step of an instance of a plain script is a turn of
its copy, and touches hardly anything else. -/

namespace EventScript

variable {H : Host} {w : Wiring H} {k : InstanceId} {s t u : Session H}

def Status.phase {π : Type} : Status π → Phase
  | running => .running
  | suspended _ => .waiting
  | completed => .completed
  | canceled => .canceled

lemma Status.phase_eq_running {π : Type} {x : Status π} : x.phase = .running ↔ x = .running := by
  cases x <;> simp [phase]

lemma Status.phase_eq_completed {π : Type} {x : Status π} :
    x.phase = .completed ↔ x = .completed := by
  cases x <;> simp [phase]

def Instance.copy {π : Type} (i : Instance π) : Copy where
  script := i.script
  cursor := i.cursor
  phase := i.status.phase

namespace Session

def ensemble (s : Session H) : Ensemble where
  store := s.store
  copies := s.roster.toList.map Instance.copy

lemma getElem?_ensemble (s : Session H) (k : InstanceId) :
    s.ensemble.copies[k]? = (s.instance? k).map Instance.copy := by
  simp [ensemble, instance?]

lemma getElem?_ensemble_of_some {i : Instance H.Predicate} (hi : s.instance? k = some i) :
    s.ensemble.copies[k]? = some i.copy := by
  rw [getElem?_ensemble, hi]
  rfl

lemma ensemble_eq {e : Ensemble} (hstore : s.store = e.store)
    (hcopies : ∀ j, (s.instance? j).map Instance.copy = e.copies[j]?) : s.ensemble = e := by
  obtain ⟨store, copies⟩ := e
  obtain rfl : s.store = store := hstore
  exact congrArg (Ensemble.mk s.store)
    (List.ext_getElem? fun j => (s.getElem?_ensemble j).trans (hcopies j))

lemma ensemble_modifyInstance {i : Instance H.Predicate} (hi : s.instance? k = some i)
    (f : Instance H.Predicate → Instance H.Predicate) :
    (s.modifyInstance k f).ensemble = s.ensemble.put k (f i).copy := by
  refine ensemble_eq rfl fun j => ?_
  rw [instance?_modifyInstance, Ensemble.put]
  by_cases h : k = j
  · subst h
    obtain ⟨hk, -⟩ := List.getElem?_eq_some_iff.mp (getElem?_ensemble_of_some hi)
    simp [hi, hk]
  · rw [if_neg h, List.getElem?_set_ne h, getElem?_ensemble]

lemma ensemble_modifyInstance_of_copy {f : Instance H.Predicate → Instance H.Predicate}
    (hf : ∀ i, (f i).copy = i.copy) : (s.modifyInstance k f).ensemble = s.ensemble := by
  refine ensemble_eq rfl fun j => ?_
  rw [instance?_modifyInstance, getElem?_ensemble]
  split
  · cases s.instance? j <;> simp [hf]
  · rfl

end Session

lemma Change.ensemble {a : Aspect} (h : Change a s t) (ha : a ∈ Aspect.apart) :
    t.ensemble = s.ensemble := by
  cases h with
  | store | roster | cursor | status => simp at ha
  | marks _ id f hf =>
    refine Session.ensemble_modifyInstance_of_copy fun i => ?_
    obtain ⟨b, c, ws, hi⟩ := hf i
    rw [hi]
    rfl
  | _ => rfl

lemma Change.withdrawn {a : Aspect} (h : Change a s t) : t.withdrawn = s.withdrawn := by
  cases h <;> rfl

lemma Changes.withdrawn {A : Set Aspect} (h : Changes A s t) : t.withdrawn = s.withdrawn :=
  h.ignored (I := fun u => u.withdrawn = s.withdrawn) (fun _ _ _ _ hc => hc.withdrawn.trans) rfl

@[simp] def Aspect.turn (k : InstanceId) : Set Aspect := ending k ∪ {.store, .cursor k}

/-- The session has become another one in which an instance was moved to a spot. -/
structure Session.Moved (s : Session H) (k : InstanceId) (i : Instance H.Predicate) (p : Spot)
    (t : Session H) : Prop where
  instance? : t.instance? k = some { i with cursor := p.cursor }
  ensemble : t.ensemble =
    { s.ensemble.put k { i.copy with cursor := p.cursor } with store := p.store }
  changes : Changes (Aspect.turn k) s t

namespace Session.Moved

variable {i : Instance H.Predicate} {p : Spot}

lemma cursor (h : s.Moved k i p t) (n : Nat) :
    s.Moved k i { p with cursor := n } (t.modifyInstance k ({ · with cursor := n })) := by
  refine ⟨by simp [instance?_modifyInstance, h.instance?], ?_, ?_⟩
  · rw [ensemble_modifyInstance h.instance?, h.ensemble]
    simp [Ensemble.put, Instance.copy]
  · exact h.changes.tail ⟨.cursor k, by simp, .cursor t k n⟩

lemma store (h : s.Moved k i p t) (x : Store) :
    s.Moved k i { p with store := x } { t with store := x } := by
  refine ⟨h.instance?, ?_, h.changes.tail ⟨.store, by simp, .store t x⟩⟩
  exact congrArg (fun e : Ensemble => { e with store := x }) h.ensemble

lemma counters (h : s.Moved k i p t) (x : Counters) : s.Moved k i p { t with counters := x } :=
  ⟨h.instance?, h.ensemble, h.changes.tail ⟨.counters, by simp, .counters t x⟩⟩

lemma scene (h : s.Moved k i p t) (x : Scene H.Game) : s.Moved k i p (t.withScene x) :=
  ⟨h.instance?, h.ensemble, h.changes.tail ⟨.scene, by simp, .scene t x⟩⟩

end Session.Moved

/-- Ends in a session with `Q`, by an answer or by a fault that costs no more than the command. -/
def EndsMildly (Q : Session H → Prop) : EStateM.Result Fault (Session H) Unit → Prop :=
  Ends (fun _ => Q) fun f t => (∀ text, f ≠ .fatal text) ∧ Q t

def EndsOnTurn {α : Type} (k : InstanceId) (Q : Session H → Prop) :
    EStateM.Result Fault (Session H) α → Prop :=
  Ends (fun _ => Q) fun _ t => t.isActive k = false ∧ Q t

lemma EndsOnTurn.endState {α : Type} {Q : Session H → Prop} {q : Engine H α}
    (h : EndsOnTurn k Q (q s)) : Q (endState q s) := by
  unfold EventScript.endState
  cases hq : q s with
  | ok a t =>
    rw [hq] at h
    cases h
    assumption
  | error f t =>
    rw [hq] at h
    cases h with
    | error h => exact h.2

namespace Engine

variable {i : Instance H.Predicate} {p : Spot} {c : Command}

lemma jumpToTarget_moved (h : s.Moved k i p t) (target : Option Nat) :
    EndsMildly (s.Moved k i (p.jump target)) (jumpToTarget k target t) := by
  cases target with
  | none => exact .error ⟨by simp, h⟩
  | some n =>
    rw [Spot.jump]
    by_cases hn : n < p.cursor
    · have hjump : jump k n t = .error (.backwardJump p.cursor n) t := by
        unfold jump
        rw [bind_of_ok (theInstance_of_some h.instance?)]
        simp [hn]
        rfl
      rw [if_pos hn, jumpToTarget, hjump]
      exact .error ⟨by simp, h⟩
    · rw [if_neg hn, jumpToTarget, jump_of_le h.instance? (Nat.not_lt.mp hn)]
      exact .ok (h.cursor n)

lemma steer_moved (h : s.Moved k i p t) (target : Option Nat) {x : Instruction}
    (hx : ∀ y n, x ≠ .assign y n ∧ x ≠ .add y n) :
    EndsMildly (s.Moved k i (x.act i.script.size target p)) (steer k target x t) := by
  have hstore : t.store = p.store := congrArg Ensemble.store h.ensemble
  cases x with
  | jumpUnless c =>
    rw [steer_jumpUnless, hstore, Instruction.act]
    cases c.isPrintable with
    | false => exact .error ⟨by simp, h⟩
    | true =>
      cases c.holds p.store with
      | true => exact .ok h
      | false => exact jumpToTarget_moved h target
  | jumpIf c =>
    rw [steer_jumpIf, hstore, Instruction.act]
    cases c.isPrintable with
    | false => exact .error ⟨by simp, h⟩
    | true =>
      cases c.holds p.store with
      | true => exact jumpToTarget_moved h target
      | false => exact .ok h
  | jump => exact jumpToTarget_moved h target
  | leave =>
    rw [steer_leave h.instance?]
    exact jumpToTarget_moved h (some i.script.size)
  | assign y n => exact absurd rfl (hx y n).1
  | add y n => exact absurd rfl (hx y n).2
  | _ => exact .ok h

lemma plain_cases {v : Verb} (hv : v.isPlain = true) {args : List Arg} {x : Instruction}
    (hx : Instruction.ofArgs? v args = some x) :
    (v.isControlFlow = true ∧ ∀ y n, x ≠ .assign y n ∧ x ≠ .add y n) ∨
      (v = .assign ∧ ∃ y n, x = .assign y n) ∨ (v = .add ∧ ∃ y n, x = .add y n) := by
  cases v with
  | ifThen =>
    match args, hx with
    | [.condition _], rfl | [.condition _, .label _], rfl =>
      exact .inl ⟨rfl, fun _ _ => ⟨nofun, nofun⟩⟩
  | goto =>
    match args, hx with
    | [.label _], rfl => exact .inl ⟨rfl, fun _ _ => ⟨nofun, nofun⟩⟩
  | ifElse | endIf | leave =>
    match args, hx with
    | [], rfl => exact .inl ⟨rfl, fun _ _ => ⟨nofun, nofun⟩⟩
  | assign =>
    match args, hx with
    | [.var y, .int n], rfl => exact .inr (.inl ⟨rfl, y, n, rfl⟩)
  | add =>
    match args, hx with
    | [.var y, .int n], rfl => exact .inr (.inr ⟨rfl, y, n, rfl⟩)
  | _ => cases hv

lemma execute_moved (hs : s.withdrawn = []) (h : s.Moved k i p t) (hc : c.isPlain = true) :
    EndsMildly (s.Moved k i (c.act i.script.size p)) (execute w k c t) := by
  have hpresent (v : Verb) : v ∉ t.withdrawn := by simp [h.changes.withdrawn, hs]
  have hstore : t.store = p.store := congrArg Ensemble.store h.ensemble
  have hcounted := h.counters t.counters.countExecuted
  cases herror : c.error with
  | some e =>
    have hact : c.act i.script.size p = p := by
      rw [Command.act, Command.instruction?_of_error herror]
    rw [hact, execute_of_error w herror h.instance?]
    exact .error ⟨by simp, h⟩
  | none =>
    obtain ⟨v, hv, hplain⟩ : ∃ v, c.kind = .builtin v ∧ v.isPlain = true := by
      cases hk : c.kind <;> simp_all [Command.isPlain, Command.isValid]
    unfold Command.act
    rw [Command.instruction?_of herror hv]
    cases hx : Instruction.ofArgs? v c.args with
    | none =>
      rw [execute_of_no_instruction w herror hv hx (h.changes.withdrawn.trans hs)]
      exact .error ⟨by simp, hcounted⟩
    | some x =>
      rcases plain_cases hplain hx with ⟨hflow, hsteers⟩ | ⟨rfl, y, n, rfl⟩ | ⟨rfl, y, n, rfl⟩
      · rw [execute_steer w herror hv hx hflow]
        exact steer_moved hcounted c.target hsteers
      · rw [execute_carryOut w herror hv hx rfl (hpresent _), carryOut, assign_apply]
        dsimp only [Instruction.act]
        split
        · exact .error ⟨by simp, hcounted⟩
        · rw [hstore]
          exact .ok (hcounted.store _)
      · rw [execute_carryOut w herror hv hx rfl (hpresent _), carryOut, add_apply]
        dsimp only [Instruction.act]
        rw [hstore]
        split
        · exact .error ⟨by simp, hcounted.store _⟩
        · exact .ok (hcounted.store _)

lemma complete_ends (hi : s.instance? k = some i) (hr : i.status = .running) (r : StepResult) :
    EndsOnTurn k (fun t => Changes (Aspect.turn k) s t ∧
      t.ensemble = s.ensemble.put k { i.copy with phase := .completed })
      ((complete k >>= fun _ => pure r) s) := by
  obtain ⟨a, -, ht⟩ := complete_of_active hi (Instance.isActive_of_running hr)
  have hstate : endState (complete k) s = s.closed k .completed a := by
    cases hfails : i.watchers.any (s.fails .complete) <;> simp [endState, ht, hfails]
  have hchanges : Changes (Aspect.turn k) s (s.closed k .completed a) := by
    have h := complete_within (H := H) (A := Aspect.turn k) Set.subset_union_left s
    rwa [hstate] at h
  have hensemble : (s.closed k .completed a).ensemble =
      s.ensemble.put k { i.copy with phase := .completed } :=
    Session.ensemble_modifyInstance
      (s := { s.withScene a.scene with watchers := a.watchers, counters := a.counters }) hi _
  split at ht
  · have hended : (s.closed k .completed a).isActive k = false := by
      unfold Session.isActive
      rw [Session.instance?_closed, if_pos rfl, hi]
      rfl
    rw [bind_of_error ht]
    exact .error ⟨hended, hchanges, hensemble⟩
  · rw [bind_of_ok ht]
    exact .ok ⟨hchanges, hensemble⟩

lemma settle_moved (h : s.Moved k i p t) (hr : i.status = .running) :
    EndsOnTurn k (fun u => Changes (Aspect.turn k) s u ∧ u.ensemble = s.ensemble.move k i.copy p)
      (settle k t) := by
  rw [settle_of_running h.instance? hr]
  dsimp only
  split
  · next hend =>
    have hmoved : s.ensemble.move k i.copy p =
        t.ensemble.put k { i.copy with cursor := p.cursor, phase := .completed } := by
      rw [h.ensemble, Ensemble.move, Copy.moved_of_le hend]
      simp [Ensemble.put, Instance.copy]
    rw [hmoved]
    exact (complete_ends h.instance? hr _).weaken (fun _ _ hu => ⟨h.changes.trans hu.1, hu.2⟩)
      fun _ _ hu => ⟨hu.1, h.changes.trans hu.2.1, hu.2.2⟩
  · next hend =>
    refine .ok ⟨h.changes, ?_⟩
    rw [h.ensemble, Ensemble.move, Copy.moved_of_lt (Nat.not_le.mp hend)]

lemma report_moved (h : s.Moved k i p t) (hr : i.status = .running) (f : Counters → Counters)
    (level : LogLevel) (text : String) :
    EndsOnTurn k (fun u => Changes (Aspect.turn k) s u ∧ u.ensemble = s.ensemble.move k i.copy p)
      ((count f >>= fun _ => logFor k level text >>= fun _ => settle k) t) := by
  obtain ⟨x, hx, -⟩ := logFor_apply k level text { t with counters := f t.counters }
  rw [bind_of_ok (count_apply f t), bind_of_ok hx]
  exact settle_moved ((h.counters _).scene x) hr

lemma runCommandAt_moved (w : Wiring H) (hs : s.withdrawn = []) (hi : s.instance? k = some i)
    (hr : i.status = .running) (hc : c.isPlain = true) :
    EndsOnTurn k (fun t => Changes (Aspect.turn k) s t ∧ t.ensemble =
      s.ensemble.move k i.copy (c.act i.script.size ⟨i.cursor + 1, s.store⟩))
      (runCommandAt w k c s) := by
  have hhere : s.Moved k i ⟨i.cursor, s.store⟩ s :=
    ⟨hi, (Ensemble.put_self (Session.getElem?_ensemble_of_some hi)).symm, .refl⟩
  have hends := execute_moved (w := w) hs (hhere.cursor (i.cursor + 1)) hc
  unfold runCommandAt
  rw [bind_of_ok (theInstance_of_some hi), bind_of_ok (setCursor_apply k _ s)]
  cases he : execute w k c (s.modifyInstance k ({ · with cursor := i.cursor + 1 })) with
  | ok a t =>
    rw [he] at hends
    rw [bind_of_ok (attempt_of_ok he)]
    cases hends with
    | ok ht => exact settle_moved ht hr
  | error f t =>
    rw [he] at hends
    rw [bind_of_ok (attempt_of_error he)]
    cases hends with
    | error ht =>
      obtain ⟨hmild, ht⟩ := ht
      cases f with
      | fatal text => exact absurd rfl (hmild text)
      | script kind text => exact report_moved ht hr _ _ _
      | _ => exact report_moved ht hr _ _ _

lemma step_of_running (w : Wiring H) (elapsed : Option Float) (hs : s.withdrawn = [])
    (hplain : s.ensemble.IsPlain) (hi : s.instance? k = some i) (hr : i.status = .running) :
    EndsOnTurn k (fun t => Changes (Aspect.turn k) s t ∧ t.ensemble = s.ensemble.turn k)
      (step w k elapsed s) := by
  have hcopy := Session.getElem?_ensemble_of_some hi
  have hturn : s.ensemble.turn k =
      s.ensemble.move k i.copy (i.script.advance ⟨i.cursor, s.store⟩) :=
    Ensemble.turn_of_running hcopy (Status.phase_eq_running.mpr hr)
  unfold step
  rw [bind_of_ok (theInstance_of_some hi), hr, hturn]
  cases hc : i.command? with
  | none =>
    have hend : i.script.size ≤ i.cursor := List.getElem?_eq_none_iff.mp hc
    rw [Script.advance_of_le hend, Ensemble.move, Copy.moved_of_le hend]
    exact complete_ends hi hr _
  | some c =>
    have hadvance : i.script.advance ⟨i.cursor, s.store⟩ =
        c.act i.script.size ⟨i.cursor + 1, s.store⟩ := by
      rw [Instance.command?] at hc
      simp only [Script.advance, hc]
    obtain ⟨hscript, -⟩ := hplain i.copy (List.mem_of_getElem? hcopy)
    rw [hadvance]
    exact runCommandAt_moved w hs hi hr (hscript c (List.mem_of_getElem? hc))

lemma step_ensemble (w : Wiring H) (k : InstanceId) (elapsed : Option Float)
    (hs : s.withdrawn = []) (hplain : s.ensemble.IsPlain) :
    (endState (step w k elapsed) s).withdrawn = [] ∧
      (endState (step w k elapsed) s).ensemble = s.ensemble.turn k := by
  cases hi : s.instance? k with
  | none =>
    have hturn : s.ensemble.turn k = s.ensemble :=
      Ensemble.turn_of_not_running fun c hc => by simp [s.getElem?_ensemble, hi] at hc
    unfold endState step
    rw [bind_of_error (theInstance_of_none hi), hturn]
    exact ⟨hs, rfl⟩
  | some i =>
    have hcopy := Session.getElem?_ensemble_of_some hi
    -- An instance that has ended stays as it is.
    have hturn (hended : i.status.phase ≠ .running) : s.ensemble.turn k = s.ensemble := by
      refine Ensemble.turn_of_not_running fun c hc => ?_
      obtain rfl : i.copy = c := Option.some.inj (hcopy.symm.trans hc)
      exact hended
    cases hr : i.status with
    | running =>
      obtain ⟨hchanges, hensemble⟩ := (step_of_running w elapsed hs hplain hi hr).endState
      exact ⟨hchanges.withdrawn.trans hs, hensemble⟩
    | suspended x =>
      obtain ⟨-, hwaiting⟩ := hplain i.copy (List.mem_of_getElem? hcopy)
      exact absurd (congrArg Status.phase hr) hwaiting
    | completed | canceled =>
      unfold endState step
      rw [bind_of_ok (theInstance_of_some hi), hr, hturn (by rw [hr]; nofun)]
      exact ⟨hs, rfl⟩

end Engine

end EventScript
