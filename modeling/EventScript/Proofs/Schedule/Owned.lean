import EventScript.Proofs.Schedule.Orphans

/-! Canceling what an owner runs. The list of live instances is gone through once, and those of the
owner are canceled in turn. -/

namespace EventScript

variable {H : Host} {past : Past}

def Session.owner? (s : Session H) (k : InstanceId) : Option EntityId :=
  (s.instance? k).bind (·.owner? s.scene)

/-- The listed instances of an owner, in order; no owner stands for those that have none. -/
def Session.ownedBy (s : Session H) (owner : Option EntityId) : List InstanceId :=
  s.instances.filter (s.owner? · = owner)

lemma Session.Cancels.owner? {dialogs selections : H.Game → Nat} {s t : Session H}
    {ks ms : List InstanceId} (h : s.Cancels dialogs selections ks ms t) : t.owner? = s.owner? := by
  funext k
  have hentity : t.scene.entity? = s.scene.entity? := by
    funext e
    unfold Scene.entity?
    rw [h.entities]
  have howner (i : Instance H.Predicate) : i.owner? t.scene = i.owner? s.scene := by
    unfold Instance.owner?
    rw [hentity]
  unfold Session.owner?
  simp only [h.each, howner]
  split
  · cases s.instance? k <;> rfl
  · rfl

namespace Engine

variable {S : Services H.Game} {dialogs selections : H.Game → Nat}
  (hS : S.CountsCloses dialogs selections) {s : Session H}

lemma owner?_of_present {k : InstanceId} (hk : s.instance? k ≠ none) :
    ∃ r, Engine.owner? k s = .ok r s ∧ r.map (·.1) = s.owner? k := by
  obtain ⟨i, hi⟩ := Option.ne_none_iff_exists'.mp hk
  refine ⟨_, by unfold Engine.owner?; rw [bind_of_ok (theInstance_of_some hi)]; rfl, ?_⟩
  have hown : s.owner? k = i.owner? s.scene := by simp [Session.owner?, hi]
  rw [hown]
  unfold Instance.owner?
  cases i.owner with
  | none => rfl
  | some e => cases he : s.scene.entity? e <;> simp [he]

include hS

lemma dropOwned_cancels (owner : Option EntityId) (hs : s.Booked past) (ids : List InstanceId)
    (hids : ∀ k ∈ ids, s.instance? k ≠ none) (hnodup : ids.Nodup)
    (hcalm : ∀ k ∈ ids, s.owner? k = owner → s.CancelsCalmly k) : ∃ t,
      dropOwned S owner ids s = .ok () t ∧ s.Cancels dialogs selections
        ((ids.filter (s.owner? · = owner)).filter s.isActive) (ids.filter (s.owner? · = owner)) t := by
  induction ids generalizing s with
  | nil => exact ⟨s, rfl, .refl s⟩
  | cons k ids ih =>
    obtain ⟨hk, hrest⟩ := List.forall_mem_cons.mp hids
    obtain ⟨hout, hnodup⟩ := List.nodup_cons.mp hnodup
    obtain ⟨hfirst, hcalm⟩ := List.forall_mem_cons.mp hcalm
    obtain ⟨r, hr, howner⟩ := owner?_of_present hk
    unfold dropOwned
    rw [bind_of_ok hr, howner]
    by_cases h : s.owner? k = owner
    · obtain ⟨t, hdrop, hcancels⟩ := drop_cancels hS hs hk (hfirst h)
      have ht := (Session.Booked.drop hS.settles k).endState hs
      rw [endState_of_ok hdrop] at ht
      have hone {j : InstanceId} (hj : j ∈ [k].filter s.isActive) : j = k :=
        List.mem_singleton.mp (List.mem_of_mem_filter hj)
      have hsame : ∀ j ∈ ids, t.instance? j = s.instance? j := fun j hj => by
        rw [hcancels.each, if_neg fun hj' => hout (hone hj' ▸ hj)]
      have hleft : ∀ j ∈ ids, t.instance? j ≠ none := fun j hj => hsame j hj ▸ hrest j hj
      have hactive : (ids.filter (s.owner? · = owner)).filter t.isActive =
          (ids.filter (s.owner? · = owner)).filter s.isActive := by
        refine List.filter_congr fun j hj => hcancels.isActive fun hj' => hout ?_
        exact hone hj' ▸ List.mem_of_mem_filter hj
      obtain ⟨u, hu, hcancels'⟩ := ih ht hleft hnodup fun j hj howned i hi hlive name hname => by
        rw [hcancels.watchers.fails]
        rw [hcancels.owner?] at howned
        exact hcalm j hj howned i (hsame j hj ▸ hi) hlive name hname
      rw [hcancels.owner?, hactive] at hcancels'
      rw [if_pos h, bind_of_ok hdrop, List.filter_cons_of_pos (by simpa using h),
        ← List.singleton_append, List.filter_append]
      exact ⟨u, hu, hcancels.trans hcancels'⟩
    · rw [if_neg h, List.filter_cons_of_neg (by simpa using h)]
      exact ih hs hrest hnodup hcalm

lemma cancelOwned_cancels (owner : Option EntityId) (hs : s.Booked past)
    (hcalm : ∀ k ∈ s.ownedBy owner, s.CancelsCalmly k) : ∃ t, cancelOwned S owner s = .ok () t ∧
      s.Cancels dialogs selections ((s.ownedBy owner).filter s.isActive) (s.ownedBy owner) t := by
  unfold cancelOwned
  rw [bind_of_ok (get_apply s)]
  exact dropOwned_cancels hS owner hs s.instances (fun _ hk => hs.toTally.present hk) hs.nodup
    fun k hk howned => hcalm k (List.mem_filter.mpr ⟨hk, decide_eq_true howned⟩)

end Engine

/-- Canceling what an owner runs cancels its live instances and does nothing else but take them off
the lists, if the game closes what they hold and none of their watchers fails. The live instances are
those on the lists unless a watcher has failed. -/
theorem cancel_owned_is_exact (w : Wiring H) {dialogs selections : H.Game → Nat}
    (hS : w.services.CountsCloses dialogs selections) {s₀ : Session H} (h₀ : s₀.IsAtStart)
    (rs : List (Request H)) (owner : Option EntityId) :
    let s := s₀.after w rs
    let live := (s.ownedBy owner).filter s.isActive
    (∀ k ∈ s.ownedBy owner, s.CancelsCalmly k) →
    (∀ k ∈ live, s.status? k = some .running ∨ ∃ x, s.status? k = some (.suspended x)) ∧
    ((∀ r ∈ rs, ∀ name failsOn early, r = .watch name failsOn early → failsOn = []) →
      ∀ k, s.isActive k = true ↔ k ∈ s.instances) ∧
    ∃ t, Engine.cancelOwned w.services owner s = .ok () t ∧
      (∀ k, t.status? k = if k ∈ live then some .canceled else s.status? k) ∧
      t.instances = s.instances.filter (· ∉ s.ownedBy owner) ∧
      s.Cancels dialogs selections live (s.ownedBy owner) t := by
  intro s live hcalm
  obtain ⟨hs, -⟩ : s.Booked .unknown ∧ s.IsHostless :=
    (h₀.booked False).after hS.settles h₀.isHostless rs False.elim
  obtain ⟨t, hcancel, h⟩ := Engine.cancelOwned_cancels hS owner hs hcalm
  have hpresent : ∀ k ∈ live, s.instance? k ≠ none := fun k hk =>
    hs.toTally.present (List.mem_of_mem_filter (List.mem_of_mem_filter hk))
  refine ⟨fun k hk => s.running_or_suspended (List.mem_filter.mp hk).2, fun hrs k => ?_, t, hcancel,
    h.status? hpresent, h.instances, h⟩
  obtain ⟨hbooks, -⟩ : s.Booked .calmly ∧ s.IsHostless :=
    (h₀.booked True).after hS.settles h₀.isHostless rs fun _ => hrs
  exact ⟨hbooks.listed trivial k, hbooks.live trivial k⟩

/-- An owner with a choice to make and a further script that has not begun, beside a script that
has no owner. -/
def company : List (Request Cli.countingHost) :=
  let nap : Script := { name := "nap", commands := [{
    kind := .builtin .sleep, name := "Sleep", args := [.int 100] }] }
  [.start { name := "choice", commands := [{
      kind := .builtin .choose, name := "Choose",
      args := [.text "a", .text "b", .text "c", .var "x"] }] } (some 0) true none,
    .start nap none true none, .tick (some 16), .start nap (some 0) true none]

theorem cancel_owned_is_exact_cli : ∃ s₀ : Session Cli.countingHost, s₀.IsAtStart ∧
    let s := s₀.after Cli.countingWiring company
    s.ownedBy (some 0) = [0, 2] ∧ s.ui.chooser = some 0 ∧ ∃ t,
      Engine.cancelOwned Cli.services.counting (some 0) s = .ok () t ∧ t.instances = [1] ∧
      t.status? 2 = some .canceled ∧ t.instance? 1 = s.instance? 1 ∧
      t.counters.canceled = s.counters.canceled + 2 ∧ t.ui.chooser = none ∧
      t.scene.game.2.2 = s.scene.game.2.2 + 1 := by
  have h₀ : ∃ s₀ : Session Cli.countingHost, s₀.IsAtStart ∧
      let s := s₀.after Cli.countingWiring company
      s.ownedBy (some 0) = [0, 2] ∧ [0, 2].filter s.isActive = [0, 2] ∧ s.instances = [0, 1, 2] ∧
      s.ui.chooser = some 0 := by
    refine ⟨.sample 3 { game := (Cli.Game.mk {} 0, 0, 0)
                        entities := #[{ kind := .character, name := "npc" }] },
      Session.sample_isAtStart, ?_, ?_, ?_, ?_⟩ <;> decide +kernel
  obtain ⟨s₀, h₀, howned, hlive, hlisted, hchooser⟩ := h₀
  have hcalm : (s₀.after Cli.countingWiring company).IsUndisturbed := by
    have hbooked := (h₀.booked True).after (w := Cli.countingWiring)
      Cli.counting_countsCloses.settles h₀.isHostless company fun _ r hr name failsOn early => by
        simp only [company, List.mem_cons, List.not_mem_nil, or_false] at hr
        rcases hr with rfl | rfl | rfl | rfl <;> simp
    exact hbooked.1.undisturbed trivial
  obtain ⟨-, -, t, hcancel, hstatus, hinstances, h⟩ := cancel_owned_is_exact Cli.countingWiring
    Cli.counting_countsCloses h₀ company (some 0) fun k _ => hcalm.cancelsCalmly k
  rw [howned] at hinstances
  rw [howned, hlive] at hstatus h
  refine ⟨s₀, h₀, howned, hchooser, t, hcancel, ?_, hstatus 2, h.each 1, ?_, ?_, ?_⟩
  · rw [hinstances, hlisted]
    rfl
  · rw [h.counters]
    rfl
  · rw [h.ui, hchooser]
    rfl
  · rw [h.selections, hchooser]
    rfl

def Services.jammed {σ : Type} (S : Services σ) : Services σ :=
  { S with
    perform := fun c =>
      match c with
      | .closeDialog => throw (.raised "RuntimeError" "jammed")
      | c => S.perform c }

def Cli.jammedWiring : Wiring host where
  services := services.jammed
  runCommand command := nomatch command
  poll predicate := nomatch predicate

def soliloquy : List (Request Cli.host) :=
  [.start { name := "talk", commands := [{
      kind := .builtin .talk, name := "Talk", args := [.int 1, .int 2] }] } (some 0) true none,
    .start { name := "nap", commands := [{
      kind := .builtin .sleep, name := "Sleep", args := [.int 100] }] } (some 0) true none,
    .tick (some 16)]

/-- Where the dialogue cannot be closed, its holder and all behind it are not canceled. -/
theorem owned_outlive_jammed_dialogue : ∃ s₀ : Session Cli.host, s₀.IsAtStart ∧
    let s := s₀.after Cli.jammedWiring soliloquy
    s.ownedBy (some 0) = [0, 1] ∧ s.talker? = some 0 ∧
      let t := endState (Engine.cancelOwned Cli.jammedWiring.services (some 0)) s
      t.instances = [0, 1] ∧ t.isActive 0 = true ∧ t.isActive 1 = true ∧ t.counters.canceled = 0 := by
  refine ⟨.sample 1 { game := Cli.Game.mk { talk := [(1, ⟨1, 0, "hello"⟩)] } 0
                      entities := #[{ kind := .character, name := "npc" }] },
    Session.sample_isAtStart, ?_, ?_, ?_, ?_, ?_, ?_⟩ <;> decide +kernel

end EventScript
