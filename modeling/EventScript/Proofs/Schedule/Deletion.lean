import EventScript.Proofs.Command.Execution
import EventScript.Proofs.Schedule.Lost

/-! Scripts that delete the object they run on behalf of. Orphans are looked for at the start of a
tick only, so that such a script goes on for as long as the step budget of the tick lasts, and takes
no turn in any later tick. -/

namespace EventScript

variable {H : Host} {w : Wiring H} {elapsed : Option Float} {s t : Session H}

/-- The command deletes the object that the script runs on behalf of. -/
structure Command.DeletesOwner (c : Command) : Prop where
  valid : c.error = none
  verb : c.kind = .builtin .delCurObj ∧ c.args = [] ∨
    c.kind = .builtin .delObj ∧ (c.args = [] ∨ c.args = [.text ""])

/-- In the turn an instance that an object owns carries out such a command, at this index. -/
structure Turn.DeletesOwner (u : Turn H) (m : Nat) : Prop where
  command : ∃ c, u.command? = some (m, c) ∧ c.DeletesOwner
  owner : ∃ e x, u.before.ownerId? u.id = some e ∧ u.before.scene.entity? e = some x ∧
    x.isObj = true

lemma Command.DeletesOwner.exists_verb {c : Command} (hc : c.DeletesOwner) :
    ∃ v, c.kind = .builtin v ∧ v.isControlFlow = false ∧
      Instruction.ofArgs? v c.args = some .deleteOwnObj := by
  rcases hc.verb with ⟨hv, hargs⟩ | ⟨hv, hargs | hargs⟩ <;>
    exact ⟨_, hv, rfl, by rw [hargs]; rfl⟩

lemma Scene.hasLost_removed {σ : Type} {x : Scene σ} {e : EntityId} {y : Entity}
    (hy : x.entity? e = some y) : (x.updateEntity e ({ · with removed := true })).HasLost e := by
  unfold entity? at hy
  cases hget : x.entities[e]? with
  | none => simp [hget] at hy
  | some z =>
    refine ⟨{ z with removed := true }, ?_, Bool.or_true z.gone⟩
    unfold updateEntity
    rw [Array.getElem?_modify, if_pos rfl, hget]
    rfl

namespace Engine

variable {id : InstanceId} {i : Instance H.Predicate} {e : EntityId} {x : Entity}

lemma owner?_apply (hi : s.instance? id = some i) (he : i.owner = some e)
    (hx : s.scene.entity? e = some x) : owner? id s = .ok (some (e, x)) s := by
  unfold owner?
  rw [bind_of_ok (theInstance_of_some hi), bind_of_ok (get_apply s)]
  simp [Instance.owner?, he, hx]

lemma carryOut_deleteOwnObj (S : Services H.Game) (hi : s.instance? id = some i)
    (he : i.owner = some e) (hx : s.scene.entity? e = some x) (hobj : x.isObj = true) :
    carryOut S id .deleteOwnObj s =
      .ok () (s.withScene (s.scene.updateEntity e ({ · with removed := true }))) := by
  have hkind : x.kind = .obj := of_decide_eq_true hobj
  have hentity : entityOfKind .obj id s = .ok (some e) s := by
    unfold entityOfKind
    rw [bind_of_ok (owner?_apply hi he hx)]
    simp [hkind]
  rw [carryOut, bind_of_ok hentity]
  rfl

/-- The owner is lost, and the instance is told to go on unless its script has no further line. -/
lemma takeTurn_deletes (hS : w.services.Settles) (hless : s.IsHostless) (hs : s.withdrawn = [])
    {m : Nat} (hu : Turn.DeletesOwner ⟨s, id⟩ m)
    (elapsed : Option Float) : ∃ r t e i,
      takeTurn w id elapsed s = .ok r t ∧ s.instance? id = some i ∧ t.ownerId? id = some e ∧
      t.scene.HasLost e ∧ (i.script.size ≤ m + 1 → t.HasEnded id .completed) ∧
      ∀ c, i.script.commands[m + 1]? = some c →
        r = .proceed ∧ Turn.command? ⟨t, id⟩ = some (m + 1, c) := by
  obtain ⟨⟨c, hcommand, hc⟩, e, x, howner, hx, hobj⟩ := hu
  obtain ⟨i, hi, hr, rfl, hcommand'⟩ := Turn.command?_eq_some.mp hcommand
  have he : i.owner = some e := by simpa [Session.ownerId?, hi] using howner
  obtain ⟨v, hv, hflow, hargs⟩ := hc.exists_verb
  let s' := s.modifyInstance id ({ · with cursor := i.cursor + 1 })
  let u := { s' with counters := s'.counters.countExecuted }.withScene
    (s.scene.updateEntity e ({ · with removed := true }))
  have hi' : s'.instance? id = some { i with cursor := i.cursor + 1 } := by
    simp [s', Session.instance?_modifyInstance, hi]
  have hexecute : execute w id c s' = .ok () u := by
    rw [execute_carryOut w hc.valid hv hargs hflow (by simp [s', Session.modifyInstance, hs])]
    exact carryOut_deleteOwnObj (s := { s' with counters := s'.counters.countExecuted }) _
      hi' he hx hobj
  have hui : u.instance? id = some { i with cursor := i.cursor + 1 } := hi'
  have hstep : step w id elapsed s = settle id u :=
    (step_of_command w elapsed hi hr hcommand').trans (runCommandAt_of_ok hi hexecute)
  have hlost : u.scene.HasLost e := Scene.hasLost_removed hx
  have hou : u.ownerId? id = some e := by simp [Session.ownerId?, hui, he]
  rw [settle_of_running hui hr] at hstep
  -- Behind the last line the instance completes in this very turn.
  by_cases hend : i.script.size ≤ i.cursor + 1
  · obtain ⟨a, ha, hcomplete⟩ := complete_of_active hui (Instance.isActive_of_running hr)
    have hlast : endState (step w id elapsed) s = u.closed id .completed a := by
      rw [if_pos hend] at hstep
      rw [endState_congr hstep]
      split at hcomplete
      · exact endState_of_error (bind_of_error hcomplete)
      · exact endState_of_ok (bind_of_ok hcomplete)
    have hpresent : s.status? id ≠ none := Session.instance?_ne_none.mp (by simp [hi])
    obtain ⟨r, c, z, halike, hturn, -⟩ := takeTurn_returns hS elapsed hless hpresent
    rw [hlast] at halike hturn
    have hthere : (u.closed id .completed a).instance? id = some { i with
        cursor := i.cursor + 1, status := .completed, counted := a.counted, watchers := a.told } := by
      rw [Session.instance?_closed, if_pos rfl, hui]
      rfl
    refine ⟨_, _, e, i, hturn, hi, ?_, ?_, fun _ => ⟨?_, rfl⟩, fun c hc => ?_⟩
    · change Option.bind ((u.closed id .completed a).instance? id) (·.owner) = some e
      rw [hthere]
      exact he
    · exact (hlost.of_alike ha.scene).of_alike halike
    · exact congrArg (Option.map (·.status)) hthere
    · obtain ⟨hlt, -⟩ := List.getElem?_eq_some_iff.mp hc
      exact absurd hend (Nat.not_le.mpr hlt)
  · rw [if_neg hend] at hstep
    refine ⟨_, u, e, i, takeTurn_of_ok hstep, hi, hou, hlost, fun h => absurd h hend,
      fun c hc => ⟨rfl, Turn.command?_eq_some.mpr ⟨_, hui, hr, rfl, hc⟩⟩⟩

end Engine

lemma Session.IsBereft.takes_no_turn {k : InstanceId} {e : EntityId} (hs : s.IsBereft k e)
    (hS : w.services.Settles) (hL : w.services.KeepsLost) {past : Past}
    (hb : s.Booked past) (hopen : Engine.opening w.services s = .ok () t)
    (elapsed : Option Float) : ∃ us u, Round w elapsed t.setup.maxSteps t.active t us u ∧
      Engine.tick w elapsed s = .ok () u.retire ∧ ∀ v ∈ us, v.id ≠ k := by
  obtain ⟨ht, hpending⟩ := Engine.opening_booked hS hb hopen
  have hless := (isHostless_dependsOnStatus.tickKeeps w).opening.endState hs.hostless
  rw [endState_of_ok hopen] at hless
  obtain ⟨us, u, hround, -, htick, -⟩ := Engine.tick_round hS hopen ht hpending hless elapsed
  refine ⟨us, u, hround, htick, fun v hv he => ?_⟩
  exact Engine.opening_unlists (tickKeeps hL k e) (fun _ h => h.isOrphan) hb hs hopen
    (he ▸ hround.mem_ids v hv)

theorem deleted_owner_ends_script_next_tick (w : Wiring H) (hS : w.services.Settles)
    (hL : w.services.KeepsLost) {s₀ : Session H} (h₀ : s₀.IsAtStart) (rs : List (Request H))
    (elapsed : Option Float) {s₁ : Session H} :
    let s := s₀.after w rs
    Engine.opening w.services s = .ok () s₁ → ∃ us s₂,
      Round w elapsed s.setup.maxSteps s₁.active s₁ us s₂ ∧
      Engine.tick w elapsed s = .ok () s₂.retire ∧
      ∀ as u bs m, us = as ++ u :: bs → u.DeletesOwner m → ∃ i,
        u.before.instance? u.id = some i ∧
        turnsOf u.id as + 1 + turnsOf u.id bs ≤ s.setup.maxSteps ∧
        (i.script.size ≤ m + 1 → turnsOf u.id bs = 0) ∧
        (∀ c, i.script.commands[m + 1]? = some c → turnsOf u.id as + 1 < s.setup.maxSteps →
          ∃ v bs', bs = v :: bs' ∧ v.id = u.id ∧ v.command? = some (m + 1, c)) ∧
        ∀ rs' : List (Request H), (∀ r ∈ rs', r.KeepsLost) →
          let s' := s₂.retire.after w rs'
          s'.isOrphan u.id = true ∧ ∀ elapsed' t₁, Engine.opening w.services s' = .ok () t₁ →
            ∃ vs t₂, Round w elapsed' t₁.setup.maxSteps t₁.active t₁ vs t₂ ∧
              Engine.tick w elapsed' s' = .ok () t₂.retire ∧ ∀ v ∈ vs, v.id ≠ u.id := by
  intro s hopen
  obtain ⟨us, s₂, hround, hus, htick, hbooked, hids, hbefore⟩ :=
    h₀.tick_after hS rs hopen elapsed
  refine ⟨us, s₂, hround, htick, fun as u bs m husplit hu => ?_⟩
  obtain ⟨hless, hpresent, -⟩ := hbefore u (by simp [husplit])
  obtain ⟨r, t, e, i, hturn, hi, howner, hlost, hlast, hgoes⟩ :=
    Engine.takeTurn_deletes hS hless hpresent hu elapsed
  obtain ⟨r', t', hturn', hrest⟩ := (husplit ▸ hus).split
  obtain ⟨rfl, rfl⟩ := EStateM.Result.ok.inj (hturn.symm.trans hturn')
  -- From the deletion on the owner is lost, through the rest of the tick and whatever comes later.
  have ht : t.IsBereft u.id e := ⟨Engine.takeTurn_isHostless hless hturn, howner, hlost⟩
  have hkeeps := Session.IsBereft.tickKeeps hL u.id e
  refine ⟨i, hi, ?_, fun hend => ?_, fun c hc hn => ?_, fun rs' hrs' => ?_⟩
  · have hcount := hround.turnsOf_le hids u.id
    rw [husplit, turnsOf_append, turnsOf_cons_self] at hcount
    change _ ≤ (s₀.after w rs).setup.maxSteps
    omega
  · exact turnsOf_of_others fun v hv =>
      ((hrest.not_mem_of_hasEnded ht.hostless (hlast hend)).1 v hv).1
  · obtain ⟨rfl, hnext⟩ := hgoes c hc
    obtain ⟨bs', hbs⟩ := hround.goes_on hids husplit hturn hn
    exact ⟨_, bs', hbs, rfl, hnext⟩
  · have hbereft₂ : s₂.IsBereft u.id e :=
      (hrest.keeps (fun v _ => hkeeps.turn v.id) (fun _ h => h.hostless) ht).2
    have hbereft := s₂.retire.after_keeps w (fun r hr => (hrs' r hr).isBereft hL u.id e)
      (hkeeps.retire.endState hbereft₂)
    have hbooked' := hbooked.after hS (hkeeps.retire.endState hbereft₂).hostless rs' False.elim
    exact ⟨hbereft.isOrphan, fun elapsed' t₁ hopen' =>
      hbereft.takes_no_turn hS hL hbooked'.1 hopen' elapsed'⟩

lemma Headless.hasLost_keeps (e : EntityId) : Keeps (Scene.HasLost e) where
  updateGame := fun _ => Leads.modify fun _ hx => hx
  info _ := Leads.modify fun _ hx => hx
  updateEntity k := fun hf => Leads.modify fun _ hx => hx.updateEntity k hf
  introduce y := fun _ hx => .ok (hx.push y)

lemma Headless.services_keepsLost {random : Int → Int → Play Headless Int}
    (hr : ∀ lo hi e, Preserves (Scene.HasLost e) (random lo hi)) :
    (services random).KeepsLost where
  offers hp e := (hasLost_keeps e).offers (fun lo hi => hr lo hi e) hp
  playVideo file color e x hx := by
    obtain ⟨log, h⟩ := playVideo_apply random file color x
    rw [h]
    split
    · exact .error hx
    · exact .ok hx
  videoStopped v e := by
    refine game_keeps.bind fun _ => ?_
    split
    · exact .pure _
    · exact Preserves.bind (Leads.modify fun _ hx => hx) fun _ => .pure _
  stopVideo v e := Leads.modify fun _ hx => hx

lemma Play.within_hasLost {σ τ α : Type} {part : τ → σ} {put : τ → σ → τ} {p : Play σ α}
    {e : EntityId} (hp : Preserves (Scene.HasLost e) p) :
    Preserves (Scene.HasLost e) (p.within part put) := by
  intro x hx
  have h := hp (x.onlyPart part) hx
  unfold Scene.onlyPart at h
  unfold Play.within
  cases hr : p { game := part x.game, entities := x.entities, log := x.log } <;> rw [hr] at h <;>
    cases h
  · exact .ok (by assumption)
  · exact .error (by assumption)

lemma Services.KeepsLost.within {σ τ : Type} {S : Services σ} (hS : S.KeepsLost) (part : τ → σ)
    (put : τ → σ → τ) : (S.within part put).KeepsLost where
  offers hp e := by
    obtain ⟨q, hq, rfl⟩ := hp.of_within
    exact Play.within_hasLost (hS.offers hq e)
  playVideo file color e := Play.within_hasLost (hS.playVideo file color e)
  videoStopped v e := Play.within_hasLost (hS.videoStopped v e)
  stopVideo v e := Play.within_hasLost (hS.stopVideo v e)

lemma Cli.services_keepsLost : services.KeepsLost := by
  have hheadless : (Headless.services fun lo _ => return lo).KeepsLost :=
    Headless.services_keepsLost fun _ _ _ => .pure _
  have h := hheadless.within Game.headless ({ · with headless := · })
  have hdraw (lo hi : Int) (e : EntityId) : Preserves (Scene.HasLost e) (draw lo hi) := by
    have hroll (f : Game → Game) : Preserves (Scene.HasLost e) (Play.updateGame f) :=
      Leads.modify fun _ hx => hx
    unfold draw
    exact Leads.guard (fun _ h => h) ((hroll _).bind fun _ =>
      Preserves.bind (Preserves.get.bind fun _ => .pure _) fun _ => .pure _)
  exact ⟨fun hp e => hp.withRandom (P := fun p => Preserves (Scene.HasLost e) p)
      (fun hp => h.offers hp e) fun lo hi => hdraw lo hi e,
    h.playVideo, h.videoStopped, h.stopVideo⟩

def selfDeletion : List (Request Cli.host) := [
  .start { name := "chest", commands := [
    { kind := .builtin .delCurObj, name := "DelCurObj" },
    { kind := .builtin .assign, name := "Assign", args := [.var "after", .int 1] }] }
    (some 0) true none]

/-- With two steps a tick the variable is still set. -/
theorem deleted_owner_ends_script_next_tick_cli : ∃ s₀ : Session Cli.host,
    Cli.wiring.services.Settles ∧ Cli.wiring.services.KeepsLost ∧ s₀.IsAtStart ∧
      let s := s₀.after Cli.wiring selfDeletion
      ∃ s₁ us s₂, Engine.opening Cli.services s = .ok () s₁ ∧
        Engine.tick Cli.wiring (some 16) s = .ok () s₂.retire ∧
        Round Cli.wiring (some 16) 2 [0] s₁ us s₂ ∧ ∃ (u v : Turn Cli.host) (vs : _),
          us = u :: v :: vs ∧ u.DeletesOwner 0 ∧ v.id = u.id ∧
          v.command? = some (1, {
            kind := .builtin .assign, name := "Assign", args := [.var "after", .int 1] }) ∧
          s₂.retire.isOrphan u.id = true := by
  have h₀ : ∃ s₀ s₁ : Session Cli.host, s₀.IsAtStart ∧
      Engine.opening Cli.services (s₀.after Cli.wiring selfDeletion) = .ok () s₁ ∧
      s₁.active = [0] ∧ (s₀.after Cli.wiring selfDeletion).setup.maxSteps = 2 ∧
      s₁.takesPart 0 = true ∧
      Turn.command? ⟨s₁, 0⟩ = some (0, { kind := .builtin .delCurObj, name := "DelCurObj" }) ∧
      s₁.ownerId? 0 = some 0 ∧ (s₁.scene.entity? 0).any (·.isObj) = true ∧
      (s₁.instance? 0).all (fun i => i.script.commands[1]? = some {
        kind := .builtin .assign, name := "Assign", args := [.var "after", .int 1] }) = true := by
    refine ⟨.sample 2 { game := Cli.Game.mk {} 0, entities := #[{ kind := .obj, name := "chest" }] },
      _, Session.sample_isAtStart, rfl, ?_, ?_, ?_, ?_, ?_, ?_, ?_⟩ <;> decide +kernel
  obtain ⟨s₀, s₁, h₀, hopen, hactive, hsteps, hpart, hcommand, howner, hobj, hnext⟩ := h₀
  obtain ⟨x, hx, hobj⟩ := (Option.any_eq_true _ _).mp hobj
  obtain ⟨us, s₂, hround, htick, h⟩ := deleted_owner_ends_script_next_tick Cli.wiring
    Cli.services_settles Cli.services_keepsLost h₀ selfDeletion (some 16) hopen
  rw [hsteps] at hround h
  rw [hactive] at hround
  obtain ⟨bs, rfl⟩ := hround.exists_cons hpart
  have hdeletes : Turn.DeletesOwner ⟨s₁, 0⟩ 0 :=
    ⟨⟨_, hcommand, ⟨rfl, .inl ⟨rfl, rfl⟩⟩⟩, 0, x, howner, hx, hobj⟩
  obtain ⟨i, hi, -, -, hgoes, hlater⟩ := h [] _ bs 0 rfl hdeletes
  have hi : s₁.instance? 0 = some i := hi
  rw [hi] at hnext
  obtain ⟨v, vs, rfl, hid, hv⟩ := hgoes _ (of_decide_eq_true hnext) Nat.one_lt_two
  exact ⟨s₀, Cli.services_settles, Cli.services_keepsLost, h₀, s₁, _, s₂, hopen, htick, hround,
    _, v, vs, rfl, hdeletes, hid, hv, (hlater [] (by simp)).1⟩

end EventScript
