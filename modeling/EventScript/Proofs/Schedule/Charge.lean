import EventScript.Proofs.Schedule.Sleep

/-! What ticks charge a sleep. A tick that runs to its end charges each sleep once, whatever the
step budget, unless the sleeper is passed over because the session is paused. The first tick that
leaves nothing of a sleep ends it. -/

namespace EventScript

variable {H : Host} {w : Wiring H} {s t : Session H} {k : InstanceId} {p : Script × Nat}
  {x e : Float}

/-! ### Being passed over -/

def Session.passesOver (s : Session H) (k : InstanceId) : Bool :=
  s.paused && (s.instance? k).any (·.pausable)

lemma Session.takesPart_of_isActive (h : s.isActive k = true) :
    s.takesPart k = !s.passesOver k := by
  unfold isActive at h
  unfold takesPart passesOver
  cases hi : s.instance? k with
  | none => simp [hi] at h
  | some i =>
    simp only [hi] at h
    simp [h]

def Session.IsPassedOver (k : InstanceId) (b : Bool) (s : Session H) : Prop :=
  ∃ q, (s.instance? k).map (·.pausable) = some q ∧ (s.paused && q) = b

namespace Session.IsPassedOver

variable {b : Bool}

lemma passesOver_eq (hs : s.IsPassedOver k b) : s.passesOver k = b := by
  obtain ⟨q, hq, hb⟩ := hs
  obtain ⟨i, hi, rfl⟩ := Option.map_eq_some_iff.mp hq
  simpa [passesOver, hi] using hb

lemma of_present (h : s.instance? k ≠ none) : s.IsPassedOver k (s.passesOver k) := by
  obtain ⟨i, hi⟩ := Option.ne_none_iff_exists'.mp h
  exact ⟨i.pausable, by simp [hi], by simp [passesOver, hi]⟩

lemma ignores {a : Aspect} (ha : a ≠ .paused) : Ignores (H := H) (IsPassedOver k b) a := by
  rintro s t hc ⟨q, hq, hb⟩
  refine ⟨q, hc.trait? (fun _ _ _ => rfl) (fun _ _ _ => rfl) (fun _ _ _ _ => rfl) hq, ?_⟩
  cases hc with
  | paused => exact absurd rfl ha
  | _ => exact hb

lemma turnKeeps (w : Wiring H) (id : InstanceId) : w.TurnKeeps id (IsPassedOver k b) := by
  refine (Wiring.DeedKeeps.of_ignores fun a ha => ignores ?_).turnKeeps fun a ha => ignores ?_ <;>
    rintro rfl <;> simp at ha

end Session.IsPassedOver

/-- What the opening of a tick touches: it neither pauses the session or lets it go on, nor makes
instances. -/
@[simp] def Aspect.opening : Set Aspect := {a | a ≠ .paused ∧ a ≠ .roster}

lemma Aspect.canceling_opening (id : InstanceId) : canceling id ⊆ opening := by
  simp [Set.subset_def]

lemma Engine.opening_within (S : Services H.Game) :
    Within Aspect.opening (opening S : Engine H Unit) := by
  have hP := Within.modular (H := H) Aspect.opening
  have hdrop (id : InstanceId) : Within Aspect.opening (drop S id : Engine H Unit) :=
    (abort_within (Aspect.canceling_opening id) S).bind fun _ => .modify fun s =>
      .tail ((Change.active s (s.active.erase id)).changes (by simp))
        ⟨.pending, by simp, .pending _ _⟩
  have horphans (ids : List InstanceId) :
      Within Aspect.opening (dropOrphansOf S ids : Engine H Unit) :=
    hP.dropOrphansOf hdrop (fun _ => log_within (by simp) _ _) (count_within (by simp) _) ids
  have hscreen : Within Aspect.opening (updateScreen S : Engine H Unit) :=
    hP.updateScreen (updateFade_within (by simp) _) (updateMovie_within (by simp) (by simp) S)
      fun id => release_within (by simp) (by simp) (by simp) S id
  have hpromote : Within Aspect.opening (promote : Engine H Unit) :=
    hP.promote (fun id => begin_within (by simp) (by simp) (by simp))
      (.modify fun s => (Change.pending s _).changes (by simp))
      fun _ => .modify fun s => (Change.active s _).changes (by simp)
  refine (Within.modify fun s => (Change.ticks s _).changes (by simp)).bind fun _ => ?_
  refine hpromote.bind fun _ => Within.bind (.get_bind fun s => horphans _ s) fun _ => hscreen

/-! ### A tick -/

/-- A tick takes so much time off a sleep: the sleeper carries out nothing in its first turn, and
has no other unless it goes on. -/
def Session.IsCharged (w : Wiring H) (k : InstanceId) (p : Script × Nat) (x e : Float)
    (us : List (Turn H)) (t : Session H) : Prop :=
  ∃ as u bs r v, us = as ++ u :: bs ∧ (∀ a ∈ as, a.id ≠ k) ∧ u.id = k ∧ u.command? = none ∧
    Engine.takeTurn w k (some e) u.before = .ok r v ∧
    if x - e ≤ 0 then v.HasGoneOn k ∧ v.place? k = some p
    else (∀ b ∈ bs, b.id ≠ k) ∧ t.Sleeps k p (x - e)

namespace Session.Sleeps

variable {us : List (Turn H)} {n : Nat} {elapsed : Option Float}

lemma round (hS : w.services.Settles) {ids : List InstanceId} {b : Bool} (hs : s.Sleeps k p x)
    (hb : s.IsPassedOver k b)
    (hk : k ∈ ids) (hids : ids.Nodup) (h : Round w (some e) (n + 1) ids s us t) :
    if b then (∀ u ∈ us, u.id ≠ k) ∧ t.Sleeps k p x else t.IsCharged w k p x e us := by
  -- Before the sleeper and after it the round is one of others, which leave it asleep.
  obtain ⟨l, m, rfl⟩ := List.append_of_mem hk
  obtain ⟨hl, hm⟩ : k ∉ l ∧ k ∉ m := by
    have hnot := (List.nodup_cons.mp (List.perm_middle.nodup_iff.mp hids)).1
    simpa [not_or] using hnot
  have hothers {ids : List InstanceId} (hids : k ∉ ids) {s t : Session H} {vs : List (Turn H)}
      (h : Round w (some e) (n + 1) ids s vs t) : ∀ v ∈ vs, v.id ≠ k :=
    fun v hv he => hids (he ▸ h.mem_ids v hv)
  obtain ⟨as, ks, bs, u, v, rfl, hbefore, hafter, hturns⟩ := h.split
  obtain ⟨hu, hub⟩ : u.Sleeps k p x ∧ u.IsPassedOver k b := by
    refine hbefore.preserves (I := fun u => u.Sleeps k p x ∧ u.IsPassedOver k b)
      (fun id hid => ?_) ⟨hs, hb⟩
    have hne : id ≠ k := fun h => hl (h ▸ hid)
    have hkeeps := (turnKeeps (p := p) (x := x) w hne).and
      (IsPassedOver.turnKeeps (k := k) (b := b) w id)
    exact hkeeps.takeTurn (fun _ h => h.1.hostless) _
  rw [takesPart_of_isActive hu.isActive, hub.passesOver_eq] at hturns
  rcases hturns with ⟨hpassed, rfl, rfl⟩ | ⟨hpart, hstint⟩
  · obtain rfl : b = true := by simpa using hpassed
    rw [if_pos rfl, List.nil_append, List.forall_mem_append]
    exact ⟨⟨hothers hl hbefore, hothers hm hafter⟩, (abides w).round hm hafter hu⟩
  · obtain rfl : b = false := by simpa using hpart
    rw [if_neg (by simp)]
    obtain ⟨r, u', hturn, hover, hrest⟩ := Engine.takeTurn_of_sleeps hS hu e
    obtain ⟨ks, rfl⟩ := hstint.exists_cons
    refine ⟨as, ⟨u, k⟩, ks ++ bs, r, u', rfl, hothers hl hbefore, rfl, hu.command?_eq_none, hturn,
      ?_⟩
    split
    · next hx => exact hover hx
    · next hx =>
      obtain ⟨rfl, hu'⟩ := hrest hx
      obtain ⟨rfl, rfl⟩ : ks = [] ∧ v = u' := by
        cases hstint with
        | last hlast _ =>
          obtain ⟨-, rfl⟩ := EStateM.Result.ok.inj (hlast.symm.trans hturn)
          exact ⟨rfl, rfl⟩
        | more hmore _ =>
          obtain ⟨hr, -⟩ := EStateM.Result.ok.inj (hmore.symm.trans hturn)
          cases hr
      exact ⟨hothers hm hafter, (abides w).round hm hafter hu'⟩

/-- A tick that a watcher ends charges nothing. In any other the sleeper is canceled at the start,
passed over or charged once. -/
lemma tick (hS : w.services.Settles) {past : Past} (hs : s.Sleeps k p x) (hb : s.Booked past)
    (e : Float) :
    (∃ f t, Engine.tick w (some e) s = .error f t ∧ (t.IsCanceled k ∨ t.Sleeps k p x) ∧
      s.IsDisturbed t) ∨
    ∃ s₁ us s₂, Engine.opening w.services s = .ok () s₁ ∧
      Round w (some e) s.setup.maxSteps s₁.active s₁ us s₂ ∧
      Engine.tick w (some e) s = .ok () s₂.retire ∧
      (s₂.IsCanceled k ∧ (∀ u ∈ us, u.id ≠ k) ∨
        if s.passesOver k then (∀ u ∈ us, u.id ≠ k) ∧ s₂.Sleeps k p x
        else s₂.IsCharged w k p x e us) := by
  have hlasts := ((abides w).opening hS.release).endState (.inl hs)
  rcases Engine.opening_cases hS hb with ⟨s₁, hopen, h₁, hpending, -⟩ | ⟨t, hopen, -, hnot⟩
  · right
    have hpresent : s.instance? k ≠ none := by
      rw [Session.instance?_ne_none, hs.asleep]
      simp
    have hquiet := (isHostless_dependsOnStatus.and (setup_dependsOnStatus s.setup)).tickKeeps w
    obtain ⟨hless, hsetup⟩ := hquiet.opening.endState ⟨hs.hostless, rfl⟩
    have hpassed := ((Engine.opening_within w.services).preserves fun _ ha =>
      IsPassedOver.ignores ha.1).endState (.of_present hpresent)
    rw [endState_of_ok hopen] at hless hsetup hpassed hlasts
    obtain ⟨us, s₂, hround, hus, htick, -⟩ :=
      Engine.tick_round hS hopen h₁ hpending hless (some e)
    rw [hsetup] at hround
    refine ⟨s₁, us, s₂, hopen, hround, htick, ?_⟩
    -- In the opening the sleeper can only be canceled.
    rcases hlasts with hs₁ | hc
    · right
      have hids : s₁.active.Nodup := h₁.nodup.sublist (List.sublist_append_left _ _)
      obtain ⟨n, hn⟩ := Nat.exists_eq_add_one.mpr s.setup.maxSteps_pos
      rw [hn] at hround
      exact hs₁.round hS hpassed hs₁.listed hids hround
    · left
      refine ⟨?_, fun u hu => ((hus.not_mem_of_hasEnded hless hc.2).1 u hu).1⟩
      exact (hus.keeps (fun v _ => (isCanceled_dependsOnStatus k).turnKeeps w v.id)
        (fun _ h => h.1) hc).2
  · left
    rw [endState_of_error hopen] at hlasts
    refine ⟨.watcherFailed, t, ?_, hlasts.symm, hnot⟩
    rw [Engine.tick_eq, bind_of_error hopen]

end Session.Sleeps

/-! ### Histories -/

/-- What a request charges an instance that sleeps: a tick that runs to its end charges the time
that went by, unless it passes the instance over. -/
def Session.charge? (w : Wiring H) (s : Session H) (k : InstanceId) : Request H → Option Float
  | .tick elapsed =>
    match Engine.tick w elapsed s with
    | .ok _ _ => if s.passesOver k then none else elapsed
    | .error _ _ => none
  | _ => none

def Session.charges (w : Wiring H) (k : InstanceId) (s : Session H) : List (Request H) → List Float
  | [] => []
  | r :: rs => (s.charge? w k r).toList ++ charges w k (endState (r.run w) s) rs

def Outlasts (x : Float) (es : List Float) : Prop :=
  ∀ ds, ds ≠ [] → ds <+: es → ¬ ds.foldl (· - ·) x ≤ 0

lemma Outlasts.of_append {es ds : List Float} (h : Outlasts x (es ++ ds)) :
    Outlasts x es ∧ Outlasts (es.foldl (· - ·) x) ds := by
  refine ⟨fun fs hne hfs => h fs hne (hfs.trans (List.prefix_append es ds)), fun fs hne hfs => ?_⟩
  rw [← List.foldl_append]
  exact h (es ++ fs) (by simp [hne]) ((List.prefix_append_right_inj es).mpr hfs)

namespace Session.Sleeps

variable (hS : w.services.Settles) (hs : s.Sleeps k p x)

include hS hs

lemma request {past : Past} (hb : s.Booked past) {r : Request H} (hr : r ≠ .tick none)
    (hx : Outlasts x (s.charge? w k r).toList) :
    (endState (r.run w) s).IsCanceled k ∨
      (endState (r.run w) s).Sleeps k p ((s.charge? w k r).toList.foldl (· - ·) x) := by
  have hother (hr : r.isTick = false) (hnone : s.charge? w k r = none) :
      (endState (r.run w) s).IsCanceled k ∨
        (endState (r.run w) s).Sleeps k p ((s.charge? w k r).toList.foldl (· - ·) x) := by
    rw [hnone]
    exact (((abides w).request hS.release hr fun _ _ h => h.listed).endState (.inl hs)).symm
  cases r with
  | tick elapsed =>
    obtain ⟨e, rfl⟩ := Option.ne_none_iff_exists'.mp fun h => hr (h ▸ rfl)
    change (endState (Engine.tick w (some e)) s).IsCanceled k ∨
      (endState (Engine.tick w (some e)) s).Sleeps k p _
    rcases hs.tick hS hb e with ⟨f, t, htick, ht, -⟩ | ⟨s₁, us, s₂, -, -, htick, ht⟩
    · simpa [charge?, endState, htick] using ht
    · rw [endState_of_ok htick]
      rcases ht with ⟨hc, -⟩ | ht
      · exact .inl (((isCanceled_dependsOnStatus k).tickKeeps w).retire.endState hc)
      right
      cases hpassed : s.passesOver k with
      | true =>
        rw [hpassed] at ht
        simpa [charge?, htick, hpassed] using (abides w).retire ht.2
      | false =>
        rw [hpassed] at ht
        obtain ⟨as, u, bs, r, v, -, -, -, -, -, hleft⟩ := ht
        have hcharge : s.charge? w k (.tick (some e)) = some e := by
          simp [charge?, htick, hpassed]
        rw [hcharge] at hx ⊢
        have hover : ¬ x - e ≤ 0 := hx [e] (by simp) List.prefix_rfl
        rw [if_neg hover] at hleft
        exact (abides w).retire hleft.2
  | _ => exact hother rfl rfl

lemma after (hb : s.Booked .unknown) {rs : List (Request H)} (hrs : .tick none ∉ rs)
    (hx : Outlasts x (s.charges w k rs)) :
    (s.after w rs).IsCanceled k ∨
      (s.after w rs).Sleeps k p ((s.charges w k rs).foldl (· - ·) x) := by
  -- What is left after the first request is the sleep that the others charge.
  induction rs generalizing s x with
  | nil => exact .inr hs
  | cons r rs ih =>
    obtain ⟨hr, hrest⟩ := not_or.mp (mt List.mem_cons.mpr hrs)
    obtain ⟨hfirst, hx⟩ := Outlasts.of_append hx
    rw [charges, List.foldl_append]
    rcases hs.request hS hb (Ne.symm hr) hfirst with hc | hs'
    · left
      have hended := isCanceled_dependsOnStatus (H := H) k
      exact after_induction w (fun r => hended.request (fun _ h => h.1) w r) hc rs
    · exact ih hs' (hb.after hS hs.hostless [r] False.elim).1 hrest hx

end Session.Sleeps

/-- One that falls asleep takes no further turn in the tick. From then on, whatever is asked of the
session, it sleeps at its place for as long as its sleep outlasts what ticks charge it, unless it is
canceled; and the next tick that charges it ends the sleep if and only if that leaves nothing. -/
theorem sleep_is_charged_once_a_tick (w : Wiring H) (hS : w.services.Settles) {s₀ : Session H}
    (h₀ : s₀.IsAtStart) (rs : List (Request H)) (elapsed : Option Float) {s₁ : Session H} :
    let s := s₀.after w rs
    Engine.opening w.services s = .ok () s₁ → ∃ us s₂,
      Round w elapsed s.setup.maxSteps s₁.active s₁ us s₂ ∧
      Engine.tick w elapsed s = .ok () s₂.retire ∧
      ∀ as u bs n x, us = as ++ u :: bs → u.instruction? = some (.sleep n) →
        Decimal.ofInt? n = some x → ∃ script m, u.before.place? u.id = some (script, m) ∧
        (∀ v ∈ bs, v.id ≠ u.id) ∧ s₂.retire.Sleeps u.id (script, m + 1) x ∧
        ∀ rs' : List (Request H), .tick none ∉ rs' →
          let s' := s₂.retire.after w rs'
          let es := s₂.retire.charges w u.id rs'
          let y := es.foldl (· - ·) x
          Outlasts x es → s'.IsCanceled u.id ∨ s'.Sleeps u.id (script, m + 1) y ∧ ∀ e,
            (∃ f t, Engine.tick w (some e) s' = .error f t ∧
              (t.IsCanceled u.id ∨ t.Sleeps u.id (script, m + 1) y) ∧ s'.IsDisturbed t) ∨
            ∃ t₁ vs t₂, Engine.opening w.services s' = .ok () t₁ ∧
              Round w (some e) s'.setup.maxSteps t₁.active t₁ vs t₂ ∧
              Engine.tick w (some e) s' = .ok () t₂.retire ∧
              (t₂.IsCanceled u.id ∧ (∀ v ∈ vs, v.id ≠ u.id) ∨
                if s'.passesOver u.id then
                  (∀ v ∈ vs, v.id ≠ u.id) ∧ t₂.Sleeps u.id (script, m + 1) y
                else t₂.IsCharged w u.id (script, m + 1) y e vs) := by
  intro s hopen
  obtain ⟨us, s₂, hround, hus, htick, hbooked, hids, hbefore⟩ :=
    h₀.tick_after hS rs hopen elapsed
  refine ⟨us, s₂, hround, htick, fun as u bs n x husplit hn hx => ?_⟩
  obtain ⟨hless, hpresent, hactive⟩ := hbefore u (by simp [husplit])
  have hlisted : u.id ∈ u.before.active := hactive ▸ hround.mem_ids u (by simp [husplit])
  obtain ⟨script, m, t, hplace, hturn, ht⟩ :=
    Engine.takeTurn_sleeps (w := w) hless hpresent hlisted hn hx elapsed
  obtain ⟨r, t', hturn', hrest⟩ := (husplit ▸ hus).split
  obtain ⟨rfl, rfl⟩ := EStateM.Result.ok.inj (hturn.symm.trans hturn')
  have hlast := hround.rests hids husplit hturn (by simp)
  -- The sleep begins in its last turn, so that the rest of the tick is one of others.
  have h₂ : s₂.retire.Sleeps u.id (script, m + 1) x := (Session.Sleeps.abides w).retire
    (hrest.keeps (fun v hv => Session.Sleeps.turnKeeps w (hlast v hv)) (fun _ h => h.hostless) ht).2
  refine ⟨script, m, hplace, hlast, h₂, ?_⟩
  intro rs' hrs' s' es y hy
  refine (h₂.after hS hbooked hrs' hy).imp_right fun h' => ⟨h', fun e => ?_⟩
  exact h'.tick hS (hbooked.after hS h₂.hostless rs' False.elim).1 e

/-! ### The game of the command line -/

def nap (milliseconds : Int) : Script where
  name := "nap"
  commands := [{ kind := .builtin .sleep, name := "Sleep", args := [.int milliseconds] },
    { kind := .builtin .stopMusic, name := "StopMusic" }]

def pausedTicks : List (Request Cli.host) :=
  [.setPaused true, .tick (some 16), .setPaused false, .tick (some 16)]

/-- Of twenty milliseconds four are left after these ticks, and the next one ends the sleep. -/
theorem sleep_is_charged_once_a_tick_cli : ∃ s₀ : Session Cli.host,
    Cli.wiring.services.Settles ∧ s₀.IsAtStart ∧
      let s := s₀.after Cli.wiring [.start (nap 20) none true none]
      ∃ (s₁ s₂ : Session Cli.host) (us : List (Turn Cli.host)),
        Engine.opening Cli.services s = .ok () s₁ ∧ Round Cli.wiring (some 16) 3 [0] s₁ us s₂ ∧
        Engine.tick Cli.wiring (some 16) s = .ok () s₂.retire ∧
        ∃ (u : Turn Cli.host) (bs : List (Turn Cli.host)), us = u :: bs ∧ u.id = 0 ∧
          u.instruction? = some (.sleep 20) ∧ Decimal.ofInt? 20 = some 20 ∧
          .tick none ∉ pausedTicks ∧ s₂.retire.charges Cli.wiring 0 pausedTicks = [16] ∧
          Outlasts 20 [16] ∧
          let s' := s₂.retire.after Cli.wiring pausedTicks
          s'.Sleeps 0 (nap 20, 1) (20 - 16) ∧ ∃ (vs : _) (t₂ : Session Cli.host),
            Engine.tick Cli.wiring (some 16) s' = .ok () t₂.retire ∧
            t₂.IsCharged Cli.wiring 0 (nap 20, 1) (20 - 16) 16 vs ∧
            (20 - 16 - 16 : Float) ≤ 0 := by
  have h₀ : ∃ s₀ s₁ : Session Cli.host, s₀.IsAtStart ∧
      let s := s₀.after Cli.wiring [.start (nap 20) none true none]
      Engine.opening Cli.services s = .ok () s₁ ∧ s₁.active = [0] ∧ s.setup.maxSteps = 3 ∧
      s₁.takesPart 0 = true ∧ Turn.instruction? ⟨s₁, 0⟩ = some (.sleep 20) ∧
      s₁.place? 0 = some (nap 20, 0) ∧
      let t := endState (Engine.tick Cli.wiring (some 16)) s
      let s' := t.after Cli.wiring pausedTicks
      t.charges Cli.wiring 0 pausedTicks = [16] ∧
      s'.isActive 0 = true ∧ s'.passesOver 0 = false ∧
      ((endState (Engine.tick Cli.wiring (some 16)) s').status? 0).map Status.tag =
        some "COMPLETED" := by
    refine ⟨.sample 3 { game := Cli.Game.mk {} 0 }, _, Session.sample_isAtStart, rfl, ?_, ?_,
      ?_, rfl, rfl, ?_, ?_, ?_, ?_⟩ <;> decide +kernel
  obtain ⟨s₀, s₁, h₀, hopen, hactive, hsteps, hpart, hsleep, hplace, hcharges, hlive, hpassed,
    hend⟩ := h₀
  obtain ⟨us, s₂, hround, htick, h⟩ := sleep_is_charged_once_a_tick Cli.wiring
    Cli.services_settles h₀ [.start (nap 20) none true none] (some 16) hopen
  rw [hsteps, hactive] at hround
  obtain ⟨bs, rfl⟩ := hround.exists_cons hpart
  have hx : Decimal.ofInt? 20 = some 20 := by decide +kernel
  have htimed : .tick none ∉ pausedTicks := by simp [pausedTicks]
  have hleft : Outlasts 20 [16] := by
    intro ds hne hds
    obtain rfl : ds = [16] := by
      cases ds with
      | nil => exact absurd rfl hne
      | cons d ds => simpa using hds
    decide +kernel
  obtain ⟨script, m, hplace', -, -, hlater⟩ := h [] _ bs 20 20 rfl hsleep hx
  obtain ⟨rfl, rfl⟩ := Prod.mk.inj (Option.some.inj (hplace.symm.trans hplace'))
  rw [endState_of_ok htick] at hcharges hlive hpassed hend
  obtain ⟨hs', hnext⟩ := (hlater pausedTicks htimed (hcharges ▸ hleft)).resolve_left fun hc =>
    absurd (hlive.symm.trans hc.2.isActive) (by simp)
  rw [hcharges] at hs' hnext
  rcases hnext 16 with ⟨f, t, htick', ht, -⟩ | ⟨t₁, vs, t₂, -, -, htick', ht₂⟩
  · rw [endState_of_error htick'] at hend
    rcases ht with hc | ht
    · simp [hc.2.1, Status.tag] at hend
    · simp [ht.asleep, Status.tag] at hend
  · rw [endState_of_ok htick'] at hend
    have ht₂ := ht₂.resolve_left fun hc => by
      have hcanceled : t₂.retire.status? 0 = some .canceled := hc.1.2.1
      simp [hcanceled, Status.tag] at hend
    rw [hpassed] at ht₂
    exact ⟨s₀, Cli.services_settles, h₀, s₁, s₂, _, hopen, hround, htick, _, bs, rfl, rfl, hsleep,
      hx, htimed, hcharges, hleft, hs', vs, t₂, htick', ht₂, by decide +kernel⟩

def disturbedNap : List (Request Cli.host) := [
  .start (nap 10) none true none, .tick (some 16), .watch "bad" [.begin] false,
  .start { name := "second", commands := [{ kind := .builtin .stopMusic, name := "StopMusic" }] }
    none true (some "bad")]

/-- A tick that a watcher ends does not come to those who sleep. -/
theorem sleep_outlasts_failed_beginning : ∃ s₀ : Session Cli.host, s₀.IsAtStart ∧
    let s := s₀.after Cli.wiring disturbedNap
    s.status? 0 = some (.suspended (.sleep 10)) ∧ s.passesOver 0 = false ∧ (10 : Float) - 16 ≤ 0 ∧
      (endState (Engine.tick Cli.wiring (some 16)) s).status? 0 =
        some (.suspended (.sleep 10)) := by
  refine ⟨.sample 1 { game := Cli.Game.mk {} 0 }, Session.sample_isAtStart, ?_, ?_, ?_, ?_⟩
  · rfl
  · decide +kernel
  · decide +kernel
  · rfl

end EventScript
