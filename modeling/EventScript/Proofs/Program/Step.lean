import EventScript.Proofs.Program.Moves
import EventScript.Proofs.Session.Apply

/-! Steps of an instance follow the moves of the cursor. The only commands that can fail on the way
are those that meet a number too long to be written. -/

namespace EventScript

variable {H : Host} {id : InstanceId} {script : Script} {f : Nat} {p q : Position}
  {s : Session H}

/-- The variables and faults of a session are those of a position; `f` is the number of commands
that could not be read. -/
structure Session.Shows (f : Nat) (p : Position) (s : Session H) : Prop where
  store : s.store = p.store
  unexpected : s.counters.unexpectedErrors = p.faults
  unread : s.counters.parseErrors = f

/-- An instance runs at a position of its script, in a session that knows how to set variables and in
which nobody fails when it is told that the instance has completed. -/
structure Session.StandsAt (id : InstanceId) (script : Script) (f : Nat) (p : Position)
    (s : Session H) : Prop extends s.Shows f p where
  runs : ∃ i, s.instance? id = some i ∧ i.script = script ∧ i.status = .running ∧
    i.cursor = p.cursor ∧ i.watchers.any (s.fails .complete) = false
  present : .assign ∉ s.withdrawn ∧ .add ∉ s.withdrawn

namespace Session.StandsAt

lemma moved (hs : s.StandsAt id script f p) (n : Nat) :
    (s.modifyInstance id ({ · with cursor := n })).StandsAt id script f { p with cursor := n } := by
  obtain ⟨i, hi, hscript, hr, -, hcalm⟩ := hs.runs
  refine { store := hs.store, unexpected := hs.unexpected, unread := hs.unread, present := hs.present
           runs := ⟨{ i with cursor := n }, ?_, hscript, hr, rfl, hcalm⟩ }
  simp [instance?_modifyInstance, hi]

lemma executed (hs : s.StandsAt id script f p) :
    StandsAt id script f p { s with counters := s.counters.countExecuted } :=
  { hs with unexpected := hs.unexpected, unread := hs.unread }

lemma failed (hs : s.StandsAt id script f p) :
    StandsAt id script f { p with faults := p.faults + 1 }
      { s with counters := s.counters.countUnexpected } :=
  { hs with unexpected := congrArg (· + 1) hs.unexpected, unread := hs.unread }

lemma stored (hs : s.StandsAt id script f p) (x : Store) :
    StandsAt id script f { p with store := x } { s with store := x } :=
  { hs with store := rfl }

lemma withScene (hs : s.StandsAt id script f p) (x : Scene H.Game) :
    (s.withScene x).StandsAt id script f p :=
  { hs with }

end Session.StandsAt

namespace Engine

lemma jumpToTarget_standsAt {t : Nat} (hs : s.StandsAt id script f p) (ht : p.cursor ≤ t) :
    ∃ u, jumpToTarget id (some t) s = .ok () u ∧ u.StandsAt id script f { p with cursor := t } := by
  obtain ⟨i, hi, -, -, hcursor, -⟩ := hs.runs
  exact ⟨_, jump_of_le hi (hcursor ▸ ht), hs.moved t⟩

lemma execute_moves (w : Wiring H) (id : InstanceId) (f : Nat) (hm : Moves script.commands p q) :
    ∃ c, script.commands[p.cursor]? = some c ∧
      ∀ s : Session H, s.StandsAt id script f { p with cursor := p.cursor + 1 } →
        Ends (fun _ => Session.StandsAt id script f q)
          (fun e t => e = .tooManyDigits ∧
            Session.StandsAt id script f q { t with counters := t.counters.countUnexpected })
          (execute w id c s) := by
  -- A long number fails where the others move, and leaves the cursor where they do.
  cases hm with
  | @assign k x e l y n h =>
    refine ⟨_, h, fun s hs => ?_⟩
    obtain rfl : s.store = x := hs.store
    rw [execute_carryOut w rfl rfl rfl rfl hs.present.1, carryOut, assign_apply]
    unfold Outcome.assigned
    split
    · exact .error ⟨rfl, hs.executed.failed⟩
    · exact .ok (hs.executed.stored _)
  | @add k x e l y n h =>
    refine ⟨_, h, fun s hs => ?_⟩
    obtain rfl : s.store = x := hs.store
    have hstored := hs.executed.stored (s.store.add y n)
    rw [execute_carryOut w rfl rfl rfl rfl hs.present.2, carryOut, add_apply]
    unfold Outcome.added
    split
    · exact .error ⟨rfl, hstored.failed⟩
    · exact .ok hstored
  | @leave k x e l h =>
    refine ⟨_, h, fun s hs => ?_⟩
    obtain ⟨i, hi, rfl, -, -⟩ := hs.executed.runs
    have hend := List.getElem?_eq_some_iff.mp h
    obtain ⟨u, hu, hat⟩ := jumpToTarget_standsAt hs.executed hend.1
    rw [execute_steer w rfl rfl rfl rfl, steer_leave hi]
    exact .of_ok hu hat
  | @endIf k x e l h =>
    refine ⟨_, h, fun s hs => ?_⟩
    rw [execute_steer w rfl rfl rfl rfl]
    exact .ok hs.executed
  | @enter k t x e l c h hc =>
    refine ⟨_, h, fun s hs => ?_⟩
    obtain rfl : s.store = x := hs.store
    rw [execute_steer w rfl rfl rfl rfl, steer_jumpUnless]
    unfold Outcome.decided
    cases hprint : c.isPrintable with
    | false => exact .error ⟨rfl, hs.executed.failed⟩
    | true =>
      have hholds : c.holds s.store = true := by simpa [Condition.enters, hprint] using hc
      simp only [hholds]
      exact .ok hs.executed
  | @skip k t x e l c h hc ht =>
    refine ⟨_, h, fun s hs => ?_⟩
    obtain rfl : s.store = x := hs.store
    obtain ⟨u, hu, hat⟩ := jumpToTarget_standsAt hs.executed ht
    obtain ⟨hprint, hholds⟩ : c.isPrintable = true ∧ c.holds s.store = false := by
      simpa [Condition.enters] using hc
    rw [execute_steer w rfl rfl rfl rfl, steer_jumpUnless]
    unfold Outcome.decided
    simp only [hprint, hholds]
    exact .of_ok hu hat
  | @exit k t x e l h ht =>
    refine ⟨_, h, fun s hs => ?_⟩
    obtain ⟨u, hu, hat⟩ := jumpToTarget_standsAt hs.executed ht
    rw [execute_steer w rfl rfl rfl rfl]
    exact .of_ok hu hat

lemma complete_standsAt (hs : s.StandsAt id script f p) :
    ∃ t, complete id s = .ok () t ∧ t.Shows f p := by
  obtain ⟨i, hi, -, hr, -, hcalm⟩ := hs.runs
  obtain ⟨a, ha, ht⟩ := complete_of_active hi (Instance.isActive_of_running hr)
  rw [hcalm] at ht
  refine ⟨_, ht, hs.store, ?_, ?_⟩
  · exact (congrArg Counters.unexpectedErrors (ha.calm hcalm).1).trans
      ((i.tally_unexpectedErrors _ _).trans hs.unexpected)
  · exact (congrArg Counters.parseErrors (ha.calm hcalm).1).trans
      ((i.tally_parseErrors _ _).trans hs.unread)

lemma settle_standsAt (hs : s.StandsAt id script f p) :
    if p.cursor < script.size then settle id s = .ok .proceed s
    else ∃ t, settle id s = .ok .completed t ∧ t.Shows f p := by
  obtain ⟨i, hi, rfl, hr, hcursor, -⟩ := hs.runs
  rw [settle_of_running hi hr, hcursor]
  split
  · next h => rw [if_neg (Nat.not_le.mpr h), pure_apply]
  · next h =>
    obtain ⟨t, ht, hshows⟩ := complete_standsAt hs
    rw [if_pos (Nat.not_lt.mp h)]
    exact ⟨t, bind_of_ok ht, hshows⟩

lemma step_moves (w : Wiring H) (elapsed : Option Float) (hs : s.StandsAt id script f p)
    (hm : Moves script.commands p q) :
    if q.cursor < script.size
    then ∃ t, step w id elapsed s = .ok .proceed t ∧ t.StandsAt id script f q
    else ∃ t, step w id elapsed s = .ok .completed t ∧ t.Shows f q := by
  obtain ⟨c, hc, hexec⟩ := execute_moves w id f hm
  have hmoved := hs.moved (p.cursor + 1)
  obtain ⟨i, hi, rfl, hr, hcursor, -⟩ := hs.runs
  have hcommand : i.command? = some c := by rw [← hc, ← hcursor]; rfl
  -- However the command ends, the step ends as the session that it leaves settles.
  suffices h : ∃ t, t.StandsAt id i.script f q ∧ step w id elapsed s = settle id t by
    obtain ⟨t, ht, hstep⟩ := h
    have hsettle := settle_standsAt ht
    rw [hstep]
    split at hsettle
    · next hq =>
      rw [if_pos hq]
      exact ⟨t, hsettle, ht⟩
    · next hq =>
      rw [if_neg hq]
      exact hsettle
  rw [step_of_command w elapsed hi hr hcommand]
  unfold runCommandAt
  rw [bind_of_ok (theInstance_of_some hi), hcursor, bind_of_ok (setCursor_apply id _ s)]
  have hends := hexec _ hmoved
  cases he : execute w id c (s.modifyInstance id ({ · with cursor := p.cursor + 1 })) with
  | ok a t =>
    rw [he] at hends
    rw [bind_of_ok (attempt_of_ok he)]
    cases hends with
    | ok ht => exact ⟨t, ht, rfl⟩
  | error e t =>
    rw [he] at hends
    rw [bind_of_ok (attempt_of_error he)]
    cases hends with
    | error ht =>
      obtain ⟨rfl, ht⟩ := ht
      obtain ⟨x, hx, -⟩ := logFor_apply id .error
        s!"unexpected error on line {c.line} {c.name}"
        { t with counters := t.counters.countUnexpected }
      refine ⟨_, ht.withScene x, ?_⟩
      exact (bind_of_ok (count_apply _ t)).trans (bind_of_ok hx)

end Engine

end EventScript
