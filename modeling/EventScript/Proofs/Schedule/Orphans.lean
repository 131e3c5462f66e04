import EventScript.Proofs.Prompt.Duty
import EventScript.Proofs.Schedule.Cancel

/-! Orphans: instances whose owner is gone. A tick drops them before any instance takes a turn, and
closes what they held on screen once. -/

namespace EventScript

variable {H : Host} {past : Past} {id : InstanceId}

def Session.isOrphan (s : Session H) (k : InstanceId) : Bool :=
  (s.instance? k).any (·.isOrphaned s.scene)

def Session.ownerId? (s : Session H) (k : InstanceId) : Option EntityId :=
  (s.instance? k).bind (·.owner)

lemma Session.isOrphan_eq (s : Session H) (k : InstanceId) : s.isOrphan k =
    (s.ownerId? k).any fun e => ((s.scene.entity? e).map (·.removed)).getD true := by
  unfold isOrphan ownerId?
  cases s.instance? k with
  | none => rfl
  | some i =>
    unfold Instance.isOrphaned
    dsimp only [Option.any_some, Option.bind_some]
    cases i.owner with
    | none => rfl
    | some e =>
      dsimp only [Option.any_some]
      cases s.scene.entity? e <;> rfl

def Session.orphans (s : Session H) : List InstanceId := s.instances.filter s.isOrphan

/-- The instances in `ks` are canceled, and those in `ms` leave the lists as orphans. Both are
counted, and what the canceled ones held on screen is closed once. -/
structure Session.Sheds (dialogs selections : H.Game → Nat) (s : Session H)
    (ks ms : List InstanceId) (t : Session H) : Prop where
  status : ∀ k, t.status? k = if k ∈ ks then some .canceled else s.status? k
  owner : ∀ k, t.ownerId? k = s.ownerId? k
  listed : t.instances = s.instances.filter (· ∉ ms)
  entities : t.scene.entities = s.scene.entities
  orphaned : t.counters.orphaned = s.counters.orphaned + ms.length
  canceled : t.counters.canceled = s.counters.canceled + ks.length
  talk : t.ui.talk = s.ui.talk.filter (·.holder ∉ ks)
  chooser : t.ui.chooser = s.ui.chooser.filter (· ∉ ks)
  dialogs : dialogs t.scene.game = dialogs s.scene.game + (s.ui.talk.any (·.holder ∈ ks)).toNat
  selections : selections t.scene.game =
    selections s.scene.game + (s.ui.chooser.any (· ∈ ks)).toNat
  calmly : ∀ k, s.CancelsCalmly k → t.CancelsCalmly k

namespace Session.Sheds

variable {dialogs selections : H.Game → Nat} {s t u : Session H} {ks ms ks' ms' : List InstanceId}

lemma of_announces (h : s.Announces t) : s.Sheds dialogs selections [] [] t := by
  refine ⟨fun k => by simpa using status?_congr h.standing k, fun k => ?_, ?_, h.scene.2,
    by simp [h.counters], by simp [h.counters], ?_, ?_, ?_, ?_, h.cancels⟩
  · have hk := congrArg (Option.map fun x => x.2.2) (getElem?_standing t k)
    rw [h.standing, getElem?_standing] at hk
    unfold ownerId?
    cases ht : t.instance? k <;> cases hs : s.instance? k <;> simp [ht, hs] at hk ⊢
    exact hk.symm
  · unfold instances
    simp [h.active, h.pending]
  · rw [h.ui]
    cases s.ui.talk <;> rfl
  · rw [h.ui]
    cases s.ui.chooser <;> rfl
  · rw [h.scene.1]
    cases s.ui.talk <;> rfl
  · rw [h.scene.1]
    cases s.ui.chooser <;> rfl

lemma refl (s : Session H) : s.Sheds dialogs selections [] [] s := of_announces (.refl s)

lemma trans (h : s.Sheds dialogs selections ks ms t) (h' : t.Sheds dialogs selections ks' ms' u) :
    s.Sheds dialogs selections (ks ++ ks') (ms ++ ms') u := by
  refine ⟨fun k => ?_, fun k => (h'.owner k).trans (h.owner k), ?_, h'.entities.trans h.entities,
    ?_, ?_, ?_, ?_, ?_, ?_, fun k hk => h'.calmly k (h.calmly k hk)⟩
  · rw [h'.status, h.status]
    by_cases hk : k ∈ ks <;> by_cases hk' : k ∈ ks' <;> simp [hk, hk']
  · rw [h'.listed, h.listed, List.filter_filter]
    congr 1
    funext k
    simp [Bool.and_comm]
  · rw [h'.orphaned, h.orphaned, List.length_append, Nat.add_assoc]
  · rw [h'.canceled, h.canceled, List.length_append, Nat.add_assoc]
  · rw [h'.talk, h.talk, Option.filter_filter]
    congr 1
    funext x
    simp
  · rw [h'.chooser, h.chooser, Option.filter_filter]
    congr 1
    funext k
    simp
  · rw [h'.dialogs, h.dialogs, h.talk]
    cases s.ui.talk with
    | none => simp
    | some x => by_cases hx : x.holder ∈ ks <;> simp [hx, Option.filter]
  · rw [h'.selections, h.selections, h.chooser]
    cases s.ui.chooser with
    | none => simp
    | some k => by_cases hk : k ∈ ks <;> simp [hk, Option.filter]

lemma isOrphan (h : s.Sheds dialogs selections ks ms t) : t.isOrphan = s.isOrphan := by
  funext k
  rw [t.isOrphan_eq, s.isOrphan_eq, h.owner]
  unfold Scene.entity?
  rw [h.entities]

lemma isActive_of_notMem (h : s.Sheds dialogs selections ks ms t) {k : InstanceId} (hk : k ∉ ks) :
    t.isActive k = s.isActive k := by
  rw [t.isActive_eq, s.isActive_eq, h.status, if_neg hk]

lemma lacks (h : s.Sheds dialogs selections ks ms t) {k : InstanceId} (hk : k ∈ ks)
    (p : PromptPart) : t.Lacks p k := by
  unfold Lacks
  cases p with
  | dialogue =>
    change t.ui.talk.map (·.holder) ≠ some k
    rw [h.talk]
    cases s.ui.talk with
    | none => simp
    | some x =>
      by_cases hx : x.holder ∈ ks
      · simp [hx, Option.filter]
      · have hne : x.holder ≠ k := fun he => hx (he ▸ hk)
        simp [hx, hne, Option.filter]
  | selection =>
    change t.ui.chooser ≠ some k
    rw [h.chooser]
    cases s.ui.chooser with
    | none => simp
    | some j =>
      by_cases hj : j ∈ ks
      · simp [hj, Option.filter]
      · have hne : j ≠ k := fun he => hj (he ▸ hk)
        simp [hj, hne, Option.filter]

lemma of_talker (h : s.Sheds dialogs selections ks ms t) {k : InstanceId} (hk : k ∈ ks)
    (htalk : s.talker? = some k) :
    t.ui.talk = none ∧ dialogs t.scene.game = dialogs s.scene.game + 1 := by
  obtain ⟨x, hx, rfl⟩ := Option.map_eq_some_iff.mp htalk
  rw [h.talk, h.dialogs, hx]
  simp [hk, Option.filter]

lemma of_chooser (h : s.Sheds dialogs selections ks ms t) {k : InstanceId} (hk : k ∈ ks)
    (hchooser : s.ui.chooser = some k) :
    t.ui.chooser = none ∧ selections t.scene.game = selections s.scene.game + 1 := by
  rw [h.chooser, h.selections, hchooser]
  simp [hk, Option.filter]

end Session.Sheds

namespace Engine

variable {S : Services H.Game} {dialogs selections : H.Game → Nat}
  (hS : S.CountsCloses dialogs selections) {s : Session H}

include hS

lemma drop_sheds (hs : s.Booked past) {k : InstanceId} (hk : s.instance? k ≠ none)
    (hcalm : s.CancelsCalmly k) (x : Scene H.Game) (hx : s.scene.Alike x) : ∃ t,
      drop S k { s.withScene x with counters := s.counters.countOrphan } = .ok () t ∧
      s.Sheds dialogs selections ([k].filter s.isActive) [k] t := by
  let u : Session H := { s.withScene x with counters := s.counters.countOrphan }
  have hu : u.Booked past := hs.same rfl rfl rfl (.refl _)
  obtain ⟨t, hdrop, h⟩ := drop_cancels (s := u) hS hu hk hcalm
  have hpresent : ∀ j ∈ [k].filter u.isActive, u.instance? j ≠ none := by
    intro j hj
    rw [List.mem_singleton.mp (List.mem_of_mem_filter hj)]
    exact hk
  have hgame : u.scene.game = s.scene.game := hx.1
  have hwatchers : WatchersAlike s.watchers t.watchers := h.watchers
  refine ⟨t, hdrop, h.status? hpresent, fun j => ?_, h.instances, h.entities.trans hx.2, ?_, ?_,
    congrArg Ui.talk h.ui, congrArg Ui.chooser h.ui, ?_, ?_, fun j hj i hi hactive name hname => ?_⟩
  · change _ = u.ownerId? j
    unfold Session.ownerId?
    rw [h.each]
    split
    · cases u.instance? j <;> rfl
    · rfl
  · rw [h.counters]
    rfl
  · rw [h.counters]
    rfl
  · rw [h.dialogs, hgame]
    rfl
  · rw [h.selections, hgame]
    rfl
  · rw [hwatchers.fails]
    rw [h.each] at hi
    split at hi
    · obtain ⟨i, -, rfl⟩ := Option.map_eq_some_iff.mp hi
      cases hname
    · exact hj i hi hactive name hname

lemma dropOrphansOf_sheds (hs : s.Booked past) (ids : List InstanceId)
    (hids : ∀ k ∈ ids, s.status? k ≠ none) (hnodup : ids.Nodup)
    (hcalm : ∀ k ∈ ids, s.isOrphan k = true → s.CancelsCalmly k) : ∃ t,
      dropOrphansOf S ids s = .ok () t ∧ s.Sheds dialogs selections
        ((ids.filter s.isOrphan).filter s.isActive) (ids.filter s.isOrphan) t := by
  -- On the list, for any session; an orphan that is dropped changes nothing about those behind it.
  induction ids generalizing s with
  | nil => exact ⟨s, rfl, .refl s⟩
  | cons k ids ih =>
    obtain ⟨hk, hrest⟩ := List.forall_mem_cons.mp hids
    obtain ⟨hout, hnodup⟩ := List.nodup_cons.mp hnodup
    obtain ⟨hfirst, hcalm⟩ := List.forall_mem_cons.mp hcalm
    obtain ⟨i, hi⟩ := Option.ne_none_iff_exists'.mp (Session.instance?_ne_none.mpr hk)
    have horphan : s.isOrphan k = i.isOrphaned s.scene := by simp [Session.isOrphan, hi]
    unfold dropOrphansOf
    rw [bind_of_ok (theInstance_of_some hi), bind_of_ok (get_apply s), ← horphan]
    by_cases h : s.isOrphan k = true
    · obtain ⟨x, hlog, hx⟩ := log_apply .info ("dropping orphaned " ++ i.label) s
      let u : Session H := { s.withScene x with counters := s.counters.countOrphan }
      obtain ⟨t, hdrop, hshed⟩ := drop_sheds hS hs (by simp [hi]) (hfirst h) x hx
      have ht : t.Booked past := by
        have hu : u.Booked past := hs.same rfl rfl rfl (.refl _)
        have hend := (Session.Booked.drop hS.settles k).endState hu
        rwa [endState_of_ok hdrop] at hend
      have hleft : ∀ j ∈ ids, t.status? j ≠ none := by
        intro j hj
        rw [hshed.status]
        split
        · simp
        · exact hrest j hj
      have hactive : (ids.filter s.isOrphan).filter t.isActive =
          (ids.filter s.isOrphan).filter s.isActive := by
        refine List.filter_congr fun j hj => hshed.isActive_of_notMem fun hj' => hout ?_
        have he : j = k := List.mem_singleton.mp (List.mem_of_mem_filter hj')
        exact he ▸ List.mem_of_mem_filter hj
      obtain ⟨v, hv, hsheds⟩ := ih ht hleft hnodup fun j hj horphan =>
        hshed.calmly j (hcalm j hj (hshed.isOrphan ▸ horphan))
      rw [hshed.isOrphan, hactive] at hsheds
      refine ⟨v, ?_, ?_⟩
      · rw [if_pos h, bind_of_ok hlog]
        change (drop S k >>= fun _ => dropOrphansOf S ids) u = _
        rw [bind_of_ok hdrop, hv]
      · rw [List.filter_cons_of_pos h]
        rw [← List.singleton_append, List.filter_append]
        exact hshed.trans hsheds
    · obtain ⟨v, hv, hsheds⟩ := ih hs hrest hnodup hcalm
      rw [if_neg h, List.filter_cons_of_neg h]
      exact ⟨v, hv, hsheds⟩

lemma opening_sheds (hs : s.Booked past) (hbegin : ∀ k ∈ s.pending, s.BeginsCalmly k)
    (hcancel : ∀ k ∈ s.orphans, s.CancelsCalmly k) :
    ∃ t x, opening S s = .ok () { t with screen := x } ∧
      s.Sheds dialogs selections (s.orphans.filter s.isActive) s.orphans t ∧
      t.screen.Tidies dialogs selections x := by
  let s' : Session H := { s with ticks := s.ticks + 1 }
  have hpending : ∀ k ∈ s.pending, s.status? k ≠ none := fun k hk =>
    hs.present (List.mem_append_right _ hk)
  obtain ⟨t, ⟨hok, ht⟩ | ⟨-, -, k, hk, hnot⟩⟩ := promote_cases (s := s') hpending
  · have hlists : t.active = s.instances := ht.active
    have hinstances : t.instances = s.instances := by
      change t.active ++ t.pending = _
      rw [hlists, ht.pending, List.append_nil]
    have hfirst : s.Sheds dialogs selections [] [] t := by
      have h : Session.Sheds dialogs selections _ [] [] t := .of_announces ht
      refine ⟨h.status, h.owner, by simpa using hinstances, h.entities, h.orphaned, h.canceled,
        h.talk, h.chooser, h.dialogs, h.selections, h.calmly⟩
    have htb : t.Booked past :=
      hs.same ht.standing hinstances (congrArg Counters.books ht.counters) ht.watchers
    have hactive : t.isActive = s.isActive := funext (Session.isActive_congr ht.standing)
    obtain ⟨u, hdrop, hsheds⟩ := dropOrphansOf_sheds hS htb t.active
      (fun k hk => htb.present (List.mem_append_left _ hk))
      (htb.nodup.sublist (List.sublist_append_left _ _)) fun k hk horphan =>
        hfirst.calmly k (hcancel k (List.mem_filter.mpr
          ⟨hlists ▸ hk, hfirst.isOrphan ▸ horphan⟩))
    obtain ⟨x, hscreen, hx⟩ := Stage.update_apply hS u.holders u.screen
    refine ⟨u, x, ?_, ?_, hx⟩
    · unfold opening
      rw [bind_of_ok (modify_apply _ s), bind_of_ok hok]
      change (dropOrphansOf S t.active >>= fun _ => updateScreen S) t = _
      rw [bind_of_ok hdrop]
      exact stage_of_ok hscreen
    · rw [hlists, hfirst.isOrphan, hactive] at hsheds
      exact hfirst.trans hsheds
  · exact absurd (hbegin k hk) hnot

end Engine

/-! ### Orphans and the turns of a tick -/

lemma Session.Lacks.tidied {dialogs selections : H.Game → Nat} {s : Session H} {p : PromptPart}
    {k : InstanceId} {x : Screen H.Game InstanceId} (hs : s.Lacks p k)
    (h : s.screen.Tidies dialogs selections x) : Session.Lacks p k { s with screen := x } := by
  cases p with
  | dialogue =>
    change x.ui.talk.map (·.holder) ≠ some k
    rcases h.talk with he | he
    · rw [he]
      exact hs
    · simp [he]
  | selection =>
    change x.ui.chooser ≠ some k
    rcases h.chooser with he | he
    · rw [he]
      exact hs
    · simp [he]

lemma Engine.takeTurn_lacks {w : Wiring H} {p : PromptPart} {k : InstanceId} (hid : id ≠ k)
    (elapsed : Option Float) :
    Preserves (fun s => s.IsHostless ∧ s.Lacks p k) (takeTurn w id elapsed) := by
  have hhostless := isHostless_dependsOnStatus.turnKeeps w id
  have hkeeps := hhostless.toWaitKeeps.and (Session.Lacks.waitKeeps (p := p) (k := k) w id)
  have hstep : Preserves (fun s => s.IsHostless ∧ s.Lacks p k) (step w id elapsed) :=
    Leads.of_endState fun s hs => ⟨(hhostless.step (fun _ h => h) elapsed).endState hs.1,
      step_lacks hs.1 hs.2 elapsed fun h => absurd h hid⟩
  refine Preserves.bind (attempt_leads hstep) fun r => ?_
  split
  · exact .pure _
  · exact (hkeeps.count Counters.countUnexpected fun _ => rfl).bind fun _ => Preserves.get.bind
      fun _ => (hkeeps.log _ _).bind fun _ => hkeeps.abort.bind fun _ => .pure _

lemma Session.HasEnded.takes_no_turn {w : Wiring H} {elapsed : Option Float} {s s₁ s₂ : Session H}
    {us : List (Turn H)} {k : InstanceId} {x : Status H.Predicate} (hk : s.HasEnded k x)
    (hs : s.IsHostless) (hopen : Engine.opening w.services s = .ok () s₁)
    (hus : Turns w elapsed s₁ us s₂) : ∀ u ∈ us, u.id ≠ k := by
  have hI := isHostless_dependsOnStatus.and (hasEnded_dependsOnStatus (H := H) k x)
  have h₁ := (hI.tickKeeps w).opening.endState ⟨hs, hk⟩
  rw [endState_of_ok hopen] at h₁
  exact fun u hu => ((hus.not_mem_of_hasEnded h₁.1 h₁.2).1 u hu).1

/-- What is missing in the counters, and who has left the lists, can be noted at any moment. -/
lemma Session.Booked.rebase {s : Session H} (hs : s.Booked past) (gone : Set InstanceId)
    (hgone : ∀ k ∈ gone, k < s.roster.size ∧ k ∉ s.instances) :
    s.Booked ⟨False, s.numberIn .canceled - s.counters.canceled, gone⟩ := by
  have hcanceled : s.counters.canceled + (s.numberIn .canceled - s.counters.canceled) ≤
      s.numberIn .canceled := by
    have hcount := hs.canceled
    omega
  exact ⟨⟨hs.sorted, hs.bound, hgone, hs.counted, hs.started, hcanceled, False.elim, False.elim,
    False.elim⟩, False.elim⟩

theorem orphans_dropped_first (w : Wiring H) {dialogs selections : H.Game → Nat}
    (hS : w.services.CountsCloses dialogs selections) {s₀ : Session H} (h₀ : s₀.IsAtStart)
    (rs : List (Request H)) :
    let s := s₀.after w rs
    (∀ k ∈ s.pending, s.BeginsCalmly k) → (∀ k ∈ s.orphans, s.CancelsCalmly k) → ∀ elapsed,
      ∃ s₁ us s₂, Engine.opening w.services s = .ok () s₁ ∧ Turns w elapsed s₁ us s₂ ∧
      Engine.tick w elapsed s = .ok () s₂.retire ∧
      (∀ k ∈ s.orphans, ∀ rs', k ∉ (s₂.retire.after w rs').instances) ∧
      (∀ k ∈ s.orphans, s.isActive k = true →
        (∀ u ∈ us, u.id ≠ k ∧ u.before.talker? ≠ some k ∧ u.before.ui.chooser ≠ some k) ∧
        (∀ rs', (s₂.retire.after w rs').status? k = some .canceled ∧
          ∀ elapsed' t₁ vs t₂, Engine.opening w.services (s₂.retire.after w rs') = .ok () t₁ →
            Turns w elapsed' t₁ vs t₂ → ∀ u ∈ vs, u.id ≠ k) ∧
        (s.talker? = some k →
          s₁.ui.talk = none ∧ dialogs s₁.scene.game = dialogs s.scene.game + 1) ∧
        (s.ui.chooser = some k →
          s₁.ui.chooser = none ∧ selections s₁.scene.game = selections s.scene.game + 1)) ∧
      (s.ui.talk = none → s₁.ui.talk = none ∧ dialogs s₁.scene.game = dialogs s.scene.game) ∧
      (s.ui.chooser = none →
        s₁.ui.chooser = none ∧ selections s₁.scene.game = selections s.scene.game) ∧
      (∀ k ∈ s.instances, s.isOrphan k = false → k ∈ s₁.instances ∧ s₁.status? k = s.status? k) ∧
      s₁.counters.orphaned = s.counters.orphaned + s.orphans.length ∧
      s₂.retire.counters.orphaned = s.counters.orphaned + s.orphans.length ∧
      s₁.counters.canceled = s.counters.canceled + (s.orphans.filter s.isActive).length ∧
      ∀ rs', (s₂.retire.after w rs').counters.canceled + s₁.numberIn .canceled ≤
        s₁.counters.canceled + (s₂.retire.after w rs').numberIn .canceled := by
  intro s hbegin hcancel elapsed
  obtain ⟨hs, hless⟩ : s.Booked .unknown ∧ s.IsHostless :=
    (h₀.booked False).after hS.settles h₀.isHostless rs False.elim
  obtain ⟨t, x, hopen, hsheds, htidies⟩ := Engine.opening_sheds hS hs hbegin hcancel
  let s₁ : Session H := { t with screen := x }
  obtain ⟨h₁, hpending⟩ := Engine.opening_booked hS.settles hs hopen
  have hless₁ : s₁.IsHostless := by
    have h := (isHostless_dependsOnStatus.tickKeeps w).opening.endState hless
    rwa [endState_of_ok hopen] at h
  have hlisted : s₁.instances = s.instances.filter (· ∉ s.orphans) := hsheds.listed
  -- From here on the orphans stay off the lists, and no end is counted twice.
  have hgone : ∀ k ∈ s.orphans, k < s₁.roster.size ∧ k ∉ s₁.instances := by
    intro k hk
    have hstatus : s₁.status? k ≠ none := by
      have hk := hs.present (List.mem_of_mem_filter hk)
      change t.status? k ≠ none
      rw [hsheds.status]
      split
      · simp
      · exact hk
    obtain ⟨i, hi⟩ := Option.ne_none_iff_exists'.mp (Session.instance?_ne_none.mpr hstatus)
    exact ⟨(Array.getElem?_eq_some_iff.mp hi).1, by simp [hlisted, hk]⟩
  have hbase := h₁.rebase {k | k ∈ s.orphans} hgone
  obtain ⟨us, s₂, hus, htick, hmid, hmem, -⟩ :=
    Engine.tick_turns hS.settles hopen hbase hpending hless₁ elapsed
  have hless₂ : s₂.retire.IsHostless := by
    have h := (isHostless_dependsOnStatus.tickKeeps w).tick (fun _ h => h) elapsed |>.endState hless
    rwa [endState_of_ok htick] at h
  have hafter (rs' : List (Request H)) := hmid.retire.after hS.settles hless₂ rs' False.elim
  refine ⟨s₁, us, s₂, hopen, hus, htick, fun k hk rs' => ((hafter rs').1.apart k hk).2,
    fun k hk hactive => ?_, fun htalk => ?_, fun hchooser => ?_, fun k hk howned => ?_,
    hsheds.orphaned, hmid.orphaned.trans hsheds.orphaned, hsheds.canceled, fun rs' => ?_⟩
  · have hlive : k ∈ s.orphans.filter s.isActive := List.mem_filter.mpr ⟨hk, hactive⟩
    have hended : s₁.HasEnded k .canceled := ⟨(hsheds.status k).trans (if_pos hlive), rfl⟩
    obtain ⟨hturns, hlast⟩ := hus.not_mem_of_hasEnded hless₁ hended
    have hheld (p : PromptPart) : ∀ u ∈ us, u.before.Lacks p k := by
      have hlacks : s₁.Lacks p k := (hsheds.lacks hlive p).tidied htidies
      have h := (hus.preserves (I := fun s => s.IsHostless ∧ s.Lacks p k)
        (fun u hu => Engine.takeTurn_lacks (hturns u hu).1 elapsed) ⟨hless₁, hlacks⟩).1
      exact fun u hu => (h u hu).2
    have hlater (rs' : List (Request H)) : (s₂.retire.after w rs').HasEnded k .canceled :=
      Session.HasEnded.after (s := s₂.retire) hlast hless₂ w rs'
    refine ⟨fun u hu => ⟨(hturns u hu).1, hheld .dialogue u hu, hheld .selection u hu⟩,
      fun rs' => ⟨(hlater rs').1, fun elapsed' t₁ vs t₂ hopen' hvs =>
        (hlater rs').takes_no_turn (hafter rs').2 hopen' hvs⟩, fun htalk => ?_, fun hchooser => ?_⟩
    · obtain ⟨hclosed, honce⟩ := hsheds.of_talker hlive htalk
      exact (htidies.dialogue hclosed).imp_right fun h => h.trans honce
    · obtain ⟨hclosed, honce⟩ := hsheds.of_chooser hlive hchooser
      exact (htidies.selection hclosed).imp_right fun h => h.trans honce
  · have hopened : t.ui.talk = none ∧ dialogs t.scene.game = dialogs s.scene.game := by
      simp [hsheds.talk, hsheds.dialogs, htalk]
    exact (htidies.dialogue hopened.1).imp_right fun h => h.trans hopened.2
  · have hopened : t.ui.chooser = none ∧ selections t.scene.game = selections s.scene.game := by
      simp [hsheds.chooser, hsheds.selections, hchooser]
    exact (htidies.selection hopened.1).imp_right fun h => h.trans hopened.2
  · have hout : k ∉ s.orphans := by simp [Session.orphans, howned]
    refine ⟨?_, (hsheds.status k).trans (if_neg fun h => hout (List.mem_of_mem_filter h))⟩
    rw [hlisted, List.mem_filter]
    exact ⟨hk, decide_eq_true hout⟩
  · have hcount : (s₂.retire.after w rs').counters.canceled +
        (s₁.numberIn .canceled - s₁.counters.canceled) ≤ (s₂.retire.after w rs').numberIn .canceled :=
      (hafter rs').1.canceled
    have hcounted : s₁.counters.canceled ≤ s₁.numberIn .canceled := h₁.canceled
    omega

/-! ### A game that counts -/

def Services.counting {σ : Type} (S : Services σ) : Services (σ × Nat × Nat) :=
  { S.within Prod.fst (fun g x => (x, g.2)) with
    perform := fun c => do
      (S.perform c).within Prod.fst fun g x => (x, g.2)
      Play.updateGame fun g =>
        match c with
        | .closeDialog => (g.1, g.2.1 + 1, g.2.2)
        | .closeSelection => (g.1, g.2.1, g.2.2 + 1)
        | _ => g }

def Cli.countingHost : Host := { host with Game := Game × Nat × Nat }

def Cli.countingWiring : Wiring countingHost where
  services := services.counting
  runCommand command := nomatch command
  poll predicate := nomatch predicate

lemma Headless.lookAt_entities (v : VideoId) (x : Scene Headless) :
    ∃ b y, lookAt v x = .ok b y ∧ y.entities = x.entities := by
  unfold lookAt
  rw [bind_of_ok (show Play.game x = .ok x.game x from rfl)]
  cases x.game.videos[v]? with
  | none => exact ⟨true, x, rfl, rfl⟩
  | some video => exact ⟨_, _, rfl, rfl⟩

lemma Cli.counting_countsCloses :
    services.counting.CountsCloses (fun g => g.2.1) fun g => g.2.2 := by
  refine ⟨fun x => ⟨_, rfl, rfl, rfl, rfl⟩, fun x => ⟨_, rfl, rfl, rfl, rfl⟩, fun v x => ?_⟩
  obtain ⟨b, y, h, hy⟩ := Headless.lookAt_entities v
    { game := x.game.1.headless, entities := x.entities, log := x.log }
  let game : Game × Nat × Nat := ({ x.game.1 with headless := y.game }, x.game.2)
  refine ⟨b, { game := game, entities := y.entities, log := y.log }, ?_, hy, rfl, rfl⟩
  change ((Headless.lookAt v).within Game.headless ({ · with headless := · })).within Prod.fst
    (fun g x => (x, g.2)) x = _
  simp only [Play.within, h]
  rfl

def bereavement : List (Request Cli.countingHost) := [
  .start { name := "first", commands := [{
    kind := .builtin .choose, name := "Choose",
    args := [.text "a", .text "b", .text "c", .var "x"] }] } (some 0) true none,
  .tick (some 16), .meanwhile fun x => x.updateEntity 0 ({ · with removed := true })]

theorem orphans_dropped_first_cli : ∃ s₀ : Session Cli.countingHost, s₀.IsAtStart ∧
    let s := s₀.after Cli.countingWiring bereavement
    0 ∈ s.orphans ∧ s.isActive 0 = true ∧ s.ui.chooser = some 0 ∧ ∃ s₁ s₂,
      Engine.opening Cli.services.counting s = .ok () s₁ ∧ s₁.ui.chooser = none ∧
      s₁.scene.game.2.2 = s.scene.game.2.2 + 1 ∧
      Engine.tick Cli.countingWiring (some 16) s = .ok () s₂ ∧ s₂.status? 0 = some .canceled := by
  have h₀ : ∃ s₀ : Session Cli.countingHost, s₀.IsAtStart ∧
      let s := s₀.after Cli.countingWiring bereavement
      0 ∈ s.orphans ∧ s.isActive 0 = true ∧ s.ui.chooser = some 0 := by
    refine ⟨.sample 3 { game := (Cli.Game.mk {} 0, 0, 0)
                        entities := #[{ kind := .character, name := "npc" }] },
      Session.sample_isAtStart, ?_, ?_, ?_⟩ <;> decide +kernel
  obtain ⟨s₀, h₀, horphan, hactive, hchooser⟩ := h₀
  have hcalm : (s₀.after Cli.countingWiring bereavement).IsUndisturbed := by
    have hbooked := (h₀.booked True).after (w := Cli.countingWiring)
      Cli.counting_countsCloses.settles h₀.isHostless bereavement fun _ r hr name failsOn early => by
        simp only [bereavement, List.mem_cons, List.not_mem_nil, or_false] at hr
        rcases hr with rfl | rfl | rfl <;> simp
    exact hbooked.1.undisturbed trivial
  obtain ⟨s₁, us, s₂, hopen, -, htick, -, hdropped, -⟩ := orphans_dropped_first Cli.countingWiring
    Cli.counting_countsCloses h₀ bereavement (fun k _ => hcalm.beginsCalmly k)
    (fun k _ => hcalm.cancelsCalmly k) (some 16)
  obtain ⟨-, hlater, -, hclosed⟩ := hdropped 0 horphan hactive
  obtain ⟨hfree, honce⟩ := hclosed hchooser
  exact ⟨s₀, h₀, horphan, hactive, hchooser, s₁, s₂.retire, hopen, hfree, honce, htick,
    (hlater []).1⟩

def disturbance : List (Request Cli.host) :=
  let stopMusic : Command := { kind := .builtin .stopMusic, name := "StopMusic" }
  [.start { name := "orphan", commands := [stopMusic, stopMusic] } (some 0) true none,
    .tick (some 16), .meanwhile fun x => x.updateEntity 0 ({ · with removed := true }),
    .watch "bad" [.begin] false,
    .start { name := "second", commands := [stopMusic] } none true (some "bad")]

/-- A tick that a watcher ends does not come to the orphans. -/
theorem orphan_outlives_failed_beginning : ∃ s₀ : Session Cli.host, s₀.IsAtStart ∧
    let s := s₀.after Cli.wiring disturbance
    0 ∈ s.active ∧ s.isOrphan 0 = true ∧
      let t := endState (Engine.tick Cli.wiring (some 16)) s
      0 ∈ t.active ∧ t.isActive 0 = true ∧ t.counters.orphaned = 0 ∧ t.counters.canceled = 0 := by
  refine ⟨.sample 1 { game := Cli.Game.mk {} 0
                      entities := #[{ kind := .character, name := "npc" }] },
    Session.sample_isAtStart, ?_, ?_, ?_, ?_, ?_, ?_⟩ <;> decide +kernel

end EventScript
