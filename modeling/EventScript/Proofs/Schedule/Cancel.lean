import EventScript.Proofs.Schedule.Books
import EventScript.Proofs.Schedule.Closing

/-! Canceling instances. Those that are canceled end and leave the lists, and what they held on
screen is closed; nothing else changes. -/

namespace EventScript

variable {H : Host} {past : Past}

/-- The instances in `ks` are canceled, and those in `ms` leave the lists. Each end is counted, what
the canceled ones held on screen is closed once, and the rest of the session is as it was. -/
structure Session.Cancels (dialogs selections : H.Game → Nat) (s : Session H)
    (ks ms : List InstanceId) (t : Session H) : Prop where
  each : ∀ k, t.instance? k =
    if k ∈ ks then (s.instance? k).map (·.ended .canceled) else s.instance? k
  active : t.active = s.active.filter (· ∉ ms)
  pending : t.pending = s.pending.filter (· ∉ ms)
  counters : t.counters = { s.counters with canceled := s.counters.canceled + ks.length }
  ui : t.ui = { s.ui with
    talk := s.ui.talk.filter (·.holder ∉ ks), chooser := s.ui.chooser.filter (· ∉ ks) }
  entities : t.scene.entities = s.scene.entities
  dialogs : dialogs t.scene.game = dialogs s.scene.game + (s.ui.talk.any (·.holder ∈ ks)).toNat
  selections : selections t.scene.game =
    selections s.scene.game + (s.ui.chooser.any (· ∈ ks)).toNat
  watchers : WatchersAlike s.watchers t.watchers
  rest : t = { s with
    screen := t.screen, roster := t.roster, active := t.active, pending := t.pending
    counters := t.counters, watchers := t.watchers }

namespace Session.Cancels

variable {dialogs selections : H.Game → Nat} {s t u : Session H} {ks ms ks' ms' : List InstanceId}

lemma refl (s : Session H) : s.Cancels dialogs selections [] [] s := by
  refine ⟨by simp, by simp, by simp, by simp, ?_, rfl, ?_, ?_, .refl _, rfl⟩
  · have htalk : s.ui.talk.filter (·.holder ∉ []) = s.ui.talk := by cases s.ui.talk <;> rfl
    have hchooser : s.ui.chooser.filter (· ∉ []) = s.ui.chooser := by cases s.ui.chooser <;> rfl
    rw [htalk, hchooser]
  · cases s.ui.talk <;> rfl
  · cases s.ui.chooser <;> rfl

lemma trans (h : s.Cancels dialogs selections ks ms t) (h' : t.Cancels dialogs selections ks' ms' u) :
    s.Cancels dialogs selections (ks ++ ks') (ms ++ ms') u := by
  refine ⟨fun k => ?_, ?_, ?_, ?_, ?_, h'.entities.trans h.entities, ?_, ?_,
    h.watchers.trans h'.watchers, ?_⟩
  · rw [h'.each, h.each]
    have htwice (i : Instance H.Predicate) : (i.ended .canceled).ended .canceled =
      i.ended .canceled := rfl
    by_cases hk : k ∈ ks <;> by_cases hk' : k ∈ ks' <;>
      simp [hk, hk', Option.map_map, Function.comp_def, htwice]
  · rw [h'.active, h.active, List.filter_filter]
    congr 1
    funext k
    simp [Bool.and_comm]
  · rw [h'.pending, h.pending, List.filter_filter]
    congr 1
    funext k
    simp [Bool.and_comm]
  · rw [h'.counters, h.counters]
    simp [Nat.add_assoc]
  · rw [h'.ui, h.ui]
    simp [Option.filter_filter]
  · rw [h'.dialogs, h.dialogs, h.ui]
    cases s.ui.talk with
    | none => simp
    | some x => by_cases hx : x.holder ∈ ks <;> simp [hx, Option.filter]
  · rw [h'.selections, h.selections, h.ui]
    cases s.ui.chooser with
    | none => simp
    | some k => by_cases hk : k ∈ ks <;> simp [hk, Option.filter]
  · rw [h'.rest, h.rest]

lemma status? (h : s.Cancels dialogs selections ks ms t) (hks : ∀ k ∈ ks, s.instance? k ≠ none)
    (k : InstanceId) : t.status? k = if k ∈ ks then some .canceled else s.status? k := by
  unfold Session.status?
  rw [h.each]
  split
  · next hk =>
    obtain ⟨i, hi⟩ := Option.ne_none_iff_exists'.mp (hks k hk)
    simp [hi, Instance.ended]
  · rfl

lemma isActive (h : s.Cancels dialogs selections ks ms t) {k : InstanceId} (hk : k ∉ ks) :
    t.isActive k = s.isActive k := by
  unfold Session.isActive
  rw [h.each, if_neg hk]

lemma instances (h : s.Cancels dialogs selections ks ms t) :
    t.instances = s.instances.filter (· ∉ ms) := by
  unfold Session.instances
  rw [h.active, h.pending, List.filter_append]

end Session.Cancels

namespace Engine

variable {S : Services H.Game} {dialogs selections : H.Game → Nat}
  (hS : S.CountsCloses dialogs selections) {s : Session H}

include hS

lemma drop_cancels (hs : s.Booked past) {k : InstanceId} (hk : s.instance? k ≠ none)
    (hcalm : s.CancelsCalmly k) : ∃ t, drop S k s = .ok () t ∧
      s.Cancels dialogs selections ([k].filter s.isActive) [k] t := by
  obtain ⟨i, hi⟩ := Option.ne_none_iff_exists'.mp hk
  have hstate : s.isActive k = i.isActive := by simp [Session.isActive, hi]
  have hnodup := List.nodup_append.mp hs.nodup
  have herase (l : List InstanceId) (hl : l.Nodup) : l.erase k = l.filter (· ∉ [k]) := by
    rw [hl.erase_eq_filter]
    congr 1
    funext j
    simp [bne, Bool.beq_eq_decide_eq]
  have hlists {u : Session H} {ks : List InstanceId} (hu : s.Cancels dialogs selections ks [] u) :
      s.Cancels dialogs selections ks [k]
        { u with active := u.active.erase k, pending := u.pending.erase k } := by
    have hactive : u.active = s.active := by simpa using hu.active
    have hpending : u.pending = s.pending := by simpa using hu.pending
    refine ⟨hu.each, ?_, ?_, hu.counters, hu.ui, hu.entities, hu.dialogs, hu.selections,
      hu.watchers, ?_⟩
    · rw [hactive, herase _ hnodup.1]
    · rw [hpending, herase _ hnodup.2.1]
    · rw [hu.rest]
  -- Whoever has ended only leaves the lists.
  cases hactive : i.isActive with
  | false =>
    rw [List.filter_cons_of_neg (by simp [hstate, hactive])]
    exact ⟨_, bind_of_ok (abort_of_ended hi hactive S), hlists (.refl s)⟩
  | true =>
    obtain ⟨y, hrel, he, hd, hc⟩ := Stage.release_apply hS k s.screen
    let u : Session H := { s with screen := { scene := y, ui := { s.ui with
      talk := s.ui.talk.filter (·.holder ≠ k), chooser := s.ui.chooser.filter (· ≠ k) } } }
    obtain ⟨a, ha, hend⟩ := terminate_of_active (s := u) hi hactive .canceled
      (fun i => s!"cancel at command {i.cursor}") .cancel
    have hquiet : i.watchers.any (u.fails .cancel) = false := by
      refine List.any_eq_false.mpr fun name hname => ?_
      rw [Bool.not_eq_true]
      exact hcalm i hi hactive name hname
    obtain ⟨hcounters, hcounted, htold⟩ := ha.calm hquiet
    have habort := (abort_of_active hi hactive (stage_of_ok hrel)).trans
      (hend.trans (if_neg (by simp [hquiet])))
    rw [List.filter_cons_of_pos (by simp [hstate, hactive]), List.filter_nil]
    refine ⟨_, bind_of_ok habort, hlists (u := u.closed k .canceled a)
      ⟨fun j => ?_, ?_, ?_, ?_, ?_, ha.scene.2.trans he, ?_, ?_, ha.watchers, rfl⟩⟩
    · rw [Session.instance?_closed, hcounted, htold]
      by_cases hj : k = j
      · simp [hj, Instance.ended, u, Session.instance?]
      · simp [hj, Ne.symm hj, u, Session.instance?]
    · simp [Session.closed, Session.modifyInstance, Session.withScene, u]
    · simp [Session.closed, Session.modifyInstance, Session.withScene, u]
    · have htally : i.tally .cancel s.counters =
          { s.counters with canceled := s.counters.canceled + 1 } := by
        simp [Instance.tally, hs.counted k i hi hactive, Counters.countCancel]
      exact hcounters.trans htally
    · simp [Session.ui, Session.withScene, Session.closed, Session.modifyInstance, u]
    · have hgame : dialogs a.scene.game = dialogs y.game := congrArg dialogs ha.scene.1
      exact hgame.trans (by simpa [Session.ui, Session.scene] using hd)
    · have hgame : selections a.scene.game = selections y.game := congrArg selections ha.scene.1
      exact hgame.trans (by simpa [Session.ui, Session.scene] using hc)

end Engine

end EventScript
