import EventScript.Proofs.Schedule.Tally

/-! The opening of a tick and the books of the schedule. Pending instances begin, orphans are dropped
and the screen moves on, and the books still agree. -/

namespace EventScript

variable {H : Host} {s t : Session H} {id : InstanceId} {past : Past}

def Session.BeginsCalmly (s : Session H) (k : InstanceId) : Prop :=
  ∀ i, s.instance? k = some i → i.begun = false → ∀ name ∈ i.watchers, s.fails .begin name = false

/-- No watcher fails when the instance is canceled. -/
def Session.CancelsCalmly (s : Session H) (k : InstanceId) : Prop :=
  ∀ i, s.instance? k = some i → i.isActive = true →
    ∀ name ∈ i.watchers, s.fails .cancel name = false

/-- Instances are told to begin, which is nothing to the books. -/
structure Session.Announces (s t : Session H) : Prop where
  standing : t.standing = s.standing
  active : t.active = s.active
  pending : t.pending = s.pending
  counters : t.counters = s.counters
  ui : t.ui = s.ui
  scene : s.scene.Alike t.scene
  watchers : WatchersAlike s.watchers t.watchers
  begins : ∀ k, s.BeginsCalmly k → t.BeginsCalmly k
  cancels : ∀ k, s.CancelsCalmly k → t.CancelsCalmly k

namespace Session.Announces

lemma refl (s : Session H) : s.Announces s :=
  ⟨rfl, rfl, rfl, rfl, rfl, ⟨rfl, rfl⟩, .refl _, fun _ h => h, fun _ h => h⟩

lemma trans {u : Session H} (h : s.Announces t) (h' : t.Announces u) : s.Announces u :=
  ⟨h'.standing.trans h.standing, h'.active.trans h.active, h'.pending.trans h.pending,
    h'.counters.trans h.counters, h'.ui.trans h.ui,
    ⟨h'.scene.1.trans h.scene.1, h'.scene.2.trans h.scene.2⟩, h.watchers.trans h'.watchers,
    fun k hk => h'.begins k (h.begins k hk), fun k hk => h'.cancels k (h.cancels k hk)⟩

end Session.Announces

lemma Session.status?_congr (h : t.standing = s.standing) (k : InstanceId) :
    t.status? k = s.status? k := by
  have hk := congrArg (Option.map Prod.fst) (getElem?_standing t k)
  rw [h, getElem?_standing, Option.map_map, Option.map_map] at hk
  exact hk.symm

namespace Engine

lemma begin_cases (hid : s.status? id ≠ none) : ∃ t, s.Announces t ∧
    (begin id s = .ok () t ∨ begin id s = .error .watcherFailed t ∧ ¬ s.BeginsCalmly id) := by
  obtain ⟨i, hi⟩ := Option.ne_none_iff_exists'.mp (Session.instance?_ne_none.mpr hid)
  -- A begin that failed halfway is not told of again.
  cases hbegun : i.begun with
  | true =>
    refine ⟨s, .refl s, .inl ?_⟩
    unfold begin
    rw [bind_of_ok (theInstance_of_some hi), hbegun]
    rfl
  | false =>
    let u := s.modifyInstance id ({ · with begun := true })
    obtain ⟨x, hlog, halike⟩ := logFor_apply id .info "begin" u
    obtain ⟨ws, hws, hnotes⟩ := noteAll_apply .begin id i.watchers (u.withScene x)
    let t : Session H := { u.withScene x with watchers := ws }
    have hbegin : begin id s = noteAll .begin id i.watchers (u.withScene x) := by
      unfold begin
      rw [bind_of_ok (theInstance_of_some hi), hbegun]
      exact bind_of_ok (f := fun _ => noteAll .begin id i.watchers) hlog
    have hfails (o : Occasion) (name : String) : t.fails o name = s.fails o name :=
      hws.fails (s := u.withScene x) (t := t) o name
    have hinstance {k : InstanceId} {j : Instance H.Predicate} (hj : t.instance? k = some j) :
        s.instance? k = some j ∨ j.begun = true ∧ ∃ i, s.instance? k = some i ∧
          j = { i with begun := true } := by
      have hj : u.instance? k = some j := hj
      rw [Session.instance?_modifyInstance] at hj
      split at hj
      · obtain ⟨i, hi, rfl⟩ := Option.map_eq_some_iff.mp hj
        exact .inr ⟨rfl, i, hi, rfl⟩
      · exact .inl hj
    have hstanding : u.standing = s.standing := s.standing_modifyInstance id fun i => ⟨rfl, rfl, rfl⟩
    refine ⟨t, ⟨hstanding, rfl, rfl, rfl, rfl, halike, hws, fun k hk j hj hnew name hname => ?_,
      fun k hk j hj hactive name hname => ?_⟩, ?_⟩
    · rw [hfails]
      rcases hinstance hj with hj | ⟨hbegun, -⟩
      · exact hk j hj hnew name hname
      · cases hbegun.symm.trans hnew
    · rw [hfails]
      rcases hinstance hj with hj | ⟨-, i, hi, rfl⟩
      · exact hk j hj hactive name hname
      · exact hk i hi hactive name hname
    · rw [hbegin, hnotes]
      split
      · next h =>
        refine .inr ⟨rfl, fun hcalm => ?_⟩
        obtain ⟨name, hname, hfail⟩ := List.any_eq_true.mp h
        exact absurd ((hcalm i hi hbegun name hname).symm.trans hfail) (by simp)
      · exact .inl rfl

lemma beginEach_cases (ids : List InstanceId) (hids : ∀ k ∈ ids, s.status? k ≠ none) :
    ∃ t, s.Announces t ∧ (beginEach ids s = .ok () t ∨
      beginEach ids s = .error .watcherFailed t ∧ ∃ k ∈ ids, ¬ s.BeginsCalmly k) := by
  induction ids generalizing s with
  | nil => exact ⟨s, .refl s, .inl rfl⟩
  | cons id ids ih =>
    obtain ⟨t, ht, hbegin⟩ := begin_cases (hids id List.mem_cons_self)
    unfold beginEach
    rcases hbegin with hbegin | ⟨hbegin, hnot⟩
    · have hpresent : ∀ k ∈ ids, t.status? k ≠ none := by
        intro k hk
        rw [Session.status?_congr ht.standing]
        exact hids k (List.mem_cons_of_mem _ hk)
      obtain ⟨u, hu, heach⟩ := ih hpresent
      rw [bind_of_ok hbegin]
      refine ⟨u, ht.trans hu, heach.imp_right ?_⟩
      rintro ⟨herror, k, hk, hnot⟩
      exact ⟨herror, k, List.mem_cons_of_mem _ hk, fun h => hnot (ht.begins k h)⟩
    · rw [bind_of_error hbegin]
      exact ⟨t, ht, .inr ⟨rfl, id, List.mem_cons_self, hnot⟩⟩

lemma promote_cases (hs : ∀ k ∈ s.pending, s.status? k ≠ none) : ∃ t,
    (promote s = .ok () t ∧
      Session.Announces { s with active := s.instances, pending := [] } t) ∨
    promote s = .error .watcherFailed t ∧ Session.Announces { s with pending := [] } t ∧
      ∃ k ∈ s.pending, ¬ s.BeginsCalmly k := by
  obtain ⟨t, ht, heach⟩ := beginEach_cases (s := { s with pending := [] }) s.pending hs
  unfold promote
  rw [bind_of_ok (get_apply s), bind_of_ok (modify_apply _ s)]
  rcases heach with heach | ⟨heach, hnot⟩
  · rw [bind_of_ok heach]
    refine ⟨_, .inl ⟨rfl, ht.standing, ?_, ht.pending, ht.counters, ht.ui, ht.scene, ht.watchers,
      ht.begins, ht.cancels⟩⟩
    change t.active ++ s.pending = s.active ++ s.pending
    rw [ht.active]
  · rw [bind_of_error heach]
    exact ⟨t, .inr ⟨rfl, ht, hnot⟩⟩

end Engine

lemma Session.IsUndisturbed.beginsCalmly (hs : s.IsUndisturbed) (k : InstanceId) :
    s.BeginsCalmly k :=
  fun _ _ _ name _ => hs .begin name

lemma Session.IsUndisturbed.cancelsCalmly (hs : s.IsUndisturbed) (k : InstanceId) :
    s.CancelsCalmly k :=
  fun _ _ _ name _ => hs .cancel name

lemma Session.CancelsCalmly.closed {i : Instance H.Predicate} {x : Status H.Predicate}
    {o : Occasion} {a : Aftermath H} (ha : a.Follows s i o) (hx : x.isActive = false)
    {k : InstanceId} (hk : s.CancelsCalmly k) : (s.closed id x a).CancelsCalmly k := by
  intro j hj hactive name hname
  have hfails : (s.closed id x a).fails .cancel name = s.fails .cancel name :=
    ha.watchers.fails (t := s.closed id x a) .cancel name
  rw [hfails]
  rw [Session.instance?_closed] at hj
  split at hj
  · obtain ⟨j, -, rfl⟩ := Option.map_eq_some_iff.mp hj
    exact absurd (hx.symm.trans hactive) (by simp)
  · exact hk j hj hactive name hname

namespace Engine

variable {w : Wiring H} (hS : w.services.Settles)

include hS

lemma drop_cases (hid : s.status? id ≠ none) : ∃ t,
    (∀ k, s.CancelsCalmly k → t.CancelsCalmly k) ∧
    (drop w.services id s = .ok () t ∨ drop w.services id s = .error .watcherFailed t ∧
      t.status? id = some .canceled ∧ ¬ s.CancelsCalmly id) := by
  obtain ⟨i, hi⟩ := Option.ne_none_iff_exists'.mp (Session.instance?_ne_none.mpr hid)
  cases hactive : i.isActive with
  | false =>
    have hdrop : drop w.services id s = .ok () _ := bind_of_ok (abort_of_ended hi hactive w.services)
    refine ⟨_, ?_, .inl hdrop⟩
    exact fun _ h => h
  | true =>
    obtain ⟨x, a, ha, habort⟩ := abort_cases hS hi hactive
    let t := Session.closed { s with screen := x } id .canceled a
    have hcalmly (k : InstanceId) (hk : s.CancelsCalmly k) : t.CancelsCalmly k :=
      Session.CancelsCalmly.closed (s := { s with screen := x }) ha rfl hk
    cases hfails : i.watchers.any (s.fails .cancel) with
    | false =>
      have hdrop : drop w.services id s = .ok () _ :=
        bind_of_ok (habort.trans (if_neg (by simp [hfails])))
      refine ⟨_, ?_, .inl hdrop⟩
      exact hcalmly
    | true =>
      refine ⟨t, hcalmly, .inr ⟨bind_of_error (habort.trans (if_pos hfails)), ?_, fun hcalm => ?_⟩⟩
      · have hi : Session.instance? { s with screen := x } id = some i := hi
        simp [t, Session.status?, Session.instance?_closed, hi]
      · obtain ⟨name, hname, hfail⟩ := List.any_eq_true.mp hfails
        exact absurd ((hcalm i hi hactive name hname).symm.trans hfail) (by simp)

variable {r : Session H} (hr : ∀ k, r.CancelsCalmly k → s.CancelsCalmly k) {l : List InstanceId}
  (ids : List InstanceId) (hl : ids ⊆ l) (hids : ∀ k ∈ ids, s.status? k ≠ none)

include hr hl hids

/-- Where a drop in a row fails, a watcher does that would have failed before. -/
lemma dropEach_cases : ∃ t, dropEach w.services ids s = .ok () t ∨
    dropEach w.services ids s = .error .watcherFailed t ∧
      ∃ k ∈ l, t.status? k = some .canceled ∧ ¬ r.CancelsCalmly k := by
  induction ids generalizing s with
  | nil => exact ⟨s, .inl rfl⟩
  | cons id ids ih =>
    obtain ⟨hid, hrest⟩ := List.forall_mem_cons.mp hids
    obtain ⟨hmem, hl⟩ := List.cons_subset.mp hl
    obtain ⟨t, hcalmly, hdrop | ⟨hdrop, hcanceled, hnot⟩⟩ := drop_cases hS hid
    · have hleft : ∀ k ∈ ids, t.status? k ≠ none := by
        intro k hk
        have hk := (((present_dependsOnStatus k).tickKeeps w).drop id).endState (hrest k hk)
        rwa [endState_of_ok hdrop] at hk
      unfold dropEach
      rw [bind_of_ok hdrop]
      exact ih (fun k hk => hcalmly k (hr k hk)) hl hleft
    · exact ⟨t, .inr ⟨bind_of_error hdrop, id, hmem, hcanceled, fun h => hnot (hr id h)⟩⟩

lemma dropOrphansOf_cases : ∃ t, dropOrphansOf w.services ids s = .ok () t ∨
    dropOrphansOf w.services ids s = .error .watcherFailed t ∧
      ∃ k ∈ l, t.status? k = some .canceled ∧ ¬ r.CancelsCalmly k := by
  induction ids generalizing s with
  | nil => exact ⟨s, .inl rfl⟩
  | cons id ids ih =>
    obtain ⟨hid, hrest⟩ := List.forall_mem_cons.mp hids
    obtain ⟨hmem, hl⟩ := List.cons_subset.mp hl
    obtain ⟨i, hi⟩ := Option.ne_none_iff_exists'.mp (Session.instance?_ne_none.mpr hid)
    unfold dropOrphansOf
    rw [bind_of_ok (theInstance_of_some hi), bind_of_ok (get_apply s)]
    split
    · obtain ⟨x, hlog, -⟩ := log_apply .info ("dropping orphaned " ++ i.label) s
      let u : Session H := { s.withScene x with counters := s.counters.countOrphan }
      have hrun : (do
          log .info ("dropping orphaned " ++ i.label)
          count Counters.countOrphan
          drop w.services id
          dropOrphansOf w.services ids) s =
            (drop w.services id >>= fun _ => dropOrphansOf w.services ids) u :=
        bind_of_ok hlog
      rw [hrun]
      obtain ⟨t, hcalmly, hdrop | ⟨hdrop, hcanceled, hnot⟩⟩ := drop_cases (s := u) hS hid
      · have hleft : ∀ k ∈ ids, t.status? k ≠ none := by
          intro k hk
          have hk := (((present_dependsOnStatus k).tickKeeps w).drop id).endState (s := u)
            (hrest k hk)
          rwa [endState_of_ok hdrop] at hk
        rw [bind_of_ok hdrop]
        exact ih (fun k hk => hcalmly k (hr k hk)) hl hleft
      · rw [bind_of_error hdrop]
        exact ⟨t, .inr ⟨rfl, id, hmem, hcanceled, fun h => hnot (hr id h)⟩⟩
    · exact ih hr hl hrest

end Engine

/-- The books agree, and unless a watcher has failed nobody is listed who has ended. -/
structure Session.Booked (past : Past) (s : Session H) : Prop extends s.Tally past where
  live : past.calm → ∀ k ∈ s.instances, s.isActive k = true

namespace Session.Booked

lemma nodup (hs : s.Booked past) : s.instances.Nodup := hs.sorted.imp fun h => Nat.ne_of_lt h

lemma present (hs : s.Booked past) {k : InstanceId} (hk : k ∈ s.instances) :
    s.status? k ≠ none :=
  Session.instance?_ne_none.mp (hs.toTally.present hk)

lemma same (hs : s.Booked past) (hstanding : t.standing = s.standing)
    (hlists : t.instances = s.instances) (hbooks : t.counters.books = s.counters.books)
    (hwatchers : WatchersAlike s.watchers t.watchers) : t.Booked past := by
  refine ⟨hs.toTally.same hstanding hlists hbooks hwatchers, fun hcalm k hk => ?_⟩
  rw [isActive_congr hstanding]
  exact hs.live hcalm k (hlists ▸ hk)

lemma grows {i : Instance H.Predicate} (hs : s.Booked past) (h : s.Grows i t) : t.Booked past := by
  refine ⟨hs.toTally.grows h, fun hcalm k hk => ?_⟩
  have hlists : t.instances = s.instances ++ [s.roster.size] := by
    unfold instances
    rw [h.active, h.pending, List.append_assoc]
  rw [hlists, List.mem_append, List.mem_singleton] at hk
  rcases hk with hk | rfl
  · rw [h.isActive_of_ne (hs.bound k hk).ne]
    exact hs.live hcalm k hk
  · exact h.isActive_new

lemma ignores {a : Aspect} (ha : a ∈ MidTick.unbooked) : Ignores (H := H) (Booked past) a := by
  intro s t hc hs
  cases hc with
  | counters | active | pending | roster | cursor | status | marks | watchers => simp at ha
  | _ => exact hs.same rfl rfl rfl (.refl _)

lemma within {α : Type} {p : Engine H α} (hp : Within MidTick.unbooked p) :
    Preserves (Booked past) p :=
  hp.preserves fun _ ha => ignores ha

end Session.Booked

lemma Session.Tally.strike (hs : s.Tally past) (hid : s.isActive id = false)
    (hlive : past.calm → ∀ k ∈ s.instances, k ≠ id → s.isActive k = true) :
    Session.Booked past { s with active := s.active.erase id, pending := s.pending.erase id } := by
  have hsub : (s.active.erase id ++ s.pending.erase id).Sublist s.instances :=
    List.erase_sublist.append List.erase_sublist
  refine ⟨hs.unlists hsub fun _ k hk hactive => ?_, fun hcalm k hk => ?_⟩
  · have hne : k ≠ id := by
      rintro rfl
      exact absurd (hid.symm.trans hactive) (by simp)
    refine List.mem_append.mpr ((List.mem_append.mp hk).imp ?_ ?_) <;>
      exact (List.mem_erase_of_ne hne).mpr
  · have hnodup : s.instances.Nodup := hs.sorted.imp fun h => Nat.ne_of_lt h
    have hactive : s.active.Nodup := hnodup.sublist (List.sublist_append_left _ _)
    have hpending : s.pending.Nodup := hnodup.sublist (List.sublist_append_right _ _)
    have hk : k ∈ s.active.erase id ∨ k ∈ s.pending.erase id := List.mem_append.mp hk
    rw [hactive.mem_erase_iff, hpending.mem_erase_iff] at hk
    rcases hk with ⟨hne, hk⟩ | ⟨hne, hk⟩
    · exact hlive hcalm k (List.mem_append_left _ hk) hne
    · exact hlive hcalm k (List.mem_append_right _ hk) hne

namespace Session.Booked

open Engine

variable {S : Services H.Game} (hS : S.Settles)

include hS

lemma drop (id : InstanceId) : Preserves (Booked past) (Engine.drop S id : Engine H Unit) := by
  intro s hs
  unfold Engine.drop
  cases hi : s.instance? id with
  | none =>
    unfold abort
    rw [bind_of_error (bind_of_error (theInstance_of_none hi))]
    exact .error hs
  | some i =>
    cases hactive : i.isActive with
    | false =>
      have hended : s.isActive id = false := by simp [isActive, hi, hactive]
      rw [bind_of_ok (abort_of_ended hi hactive S)]
      exact .ok (hs.toTally.strike hended fun hcalm k hk _ => hs.live hcalm k hk)
    | true =>
      obtain ⟨x, a, ha, habort⟩ := abort_cases hS hi hactive
      have hu : Tally past { s with screen := x } := hs.toTally.same rfl rfl rfl (.refl _)
      have hpass := closed_passes (s := { s with screen := x }) hi hactive
        (hs.counted id i hi hactive) .canceled ha
      cases hfails : i.watchers.any (s.fails .cancel) with
      | false =>
        rw [bind_of_ok (habort.trans (if_neg (by simp [hfails])))]
        refine .ok ((hu.passes hpass).strike hpass.isActive_self fun hcalm k hk hne => ?_)
        rw [hpass.isActive_of_ne hne]
        exact hs.live hcalm k hk
      | true =>
        rw [bind_of_error (habort.trans (if_pos hfails))]
        refine .error ⟨hu.passes hpass, fun hcalm => ?_⟩
        exact absurd (hfails.symm.trans ((hs.undisturbed hcalm).calm _ _)) (by simp)

lemma dropEach (ids : List InstanceId) :
    Preserves (Booked past) (Engine.dropEach S ids : Engine H Unit) :=
  (Modular.preserves _).dropEach (drop hS) ids

lemma dropOwned (owner : Option EntityId) (ids : List InstanceId) :
    Preserves (Booked past) (Engine.dropOwned S owner ids : Engine H Unit) :=
  (Modular.preserves _).dropOwned (drop hS) owner ids

lemma dropOrphansOf (ids : List InstanceId) :
    Preserves (Booked past) (Engine.dropOrphansOf S ids : Engine H Unit) :=
  (Modular.preserves _).dropOrphansOf (drop hS) (fun _ => within (log_within (by simp) _ _))
    (Leads.modify fun _ hs => hs.same rfl rfl rfl (.refl _)) ids

end Session.Booked

end EventScript
