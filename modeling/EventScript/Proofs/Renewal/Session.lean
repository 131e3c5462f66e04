import EventScript.Proofs.Renewal.Screen

/-! A session that has gone on from another one beside a session that was set up anew. They are
compared up to the numbers of the instances, the counters and the count of ticks, in which the one
that has gone on is ahead. -/

namespace EventScript

namespace Counters

instance : Add Counters where
  add c d := {
    executed := c.executed + d.executed
    parseErrors := c.parseErrors + d.parseErrors
    unknownCommands := c.unknownCommands + d.unknownCommands
    unresolvedTargets := c.unresolvedTargets + d.unresolvedTargets
    resourceConflicts := c.resourceConflicts + d.resourceConflicts
    scriptErrors := c.scriptErrors + d.scriptErrors
    fatalAborts := c.fatalAborts + d.fatalAborts
    unexpectedErrors := c.unexpectedErrors + d.unexpectedErrors
    suspensions := c.suspensions + d.suspensions
    started := c.started + d.started
    completed := c.completed + d.completed
    canceled := c.canceled + d.canceled
    orphaned := c.orphaned + d.orphaned }

def IsCount (f : Counters → Counters) : Prop := ∀ c d, f (c + d) = c + f d

lemma add_zero (c : Counters) : c + {} = c := rfl

lemma countExecuted_isCount : IsCount countExecuted := fun _ _ => rfl

lemma countScriptFault_isCount (kind : ScriptFault) : IsCount (·.countScriptFault kind) := by
  intro c d
  cases kind <;> rfl

lemma countFatal_isCount : IsCount countFatal := fun _ _ => rfl

lemma countUnexpected_isCount : IsCount countUnexpected := fun _ _ => rfl

lemma countSuspension_isCount : IsCount countSuspension := fun _ _ => rfl

lemma countStart_isCount : IsCount countStart := fun _ _ => rfl

lemma countOrphan_isCount : IsCount countOrphan := fun _ _ => rfl

end Counters

def Instance.raise {π : Type} (n : Nat) (i : Instance π) : Instance π := { i with id := n + i.id }

@[simp] lemma Instance.raise_status {π : Type} (n : Nat) (i : Instance π) :
    (i.raise n).status = i.status := rfl

@[simp] lemma Instance.raise_command? {π : Type} (n : Nat) (i : Instance π) :
    (i.raise n).command? = i.command? := rfl

/-- Both watchers were told the same since they were the same, under new numbers. -/
structure Watcher.Mirrors (f : InstanceId → InstanceId) (u v : Watcher) : Prop where
  failsOn : u.failsOn = v.failsOn
  early : u.early = v.early
  notes : ∃ before told : Array (Occasion × InstanceId),
    u.notes = before ++ told.map (Prod.map id f) ∧ v.notes = before ++ told

namespace Session

variable {H : Host}

/-- The number in a session that goes on from `o` of an instance that has the number `k` in one that
was set up anew. -/
def later (o : Session H) (k : InstanceId) : InstanceId := o.roster.size + k

lemma later_injective (o : Session H) : Function.Injective o.later :=
  fun _ _ h => Nat.add_left_cancel h

/-- The session `s` has gone on from `o` and is now like `t`, apart from what `o` leaves: its
instances, which are as they were, its ticks and what it counted. -/
structure Mirrors (o s t : Session H) : Prop where
  setup : s.setup = t.setup
  screen : s.screen.Mirrors o.later t.screen
  store : s.store = t.store
  roster : s.roster = o.roster ++ t.roster.map (Instance.raise o.roster.size)
  active : s.active = t.active.map o.later
  pending : s.pending = t.pending.map o.later
  paused : s.paused = t.paused
  ticks : s.ticks = o.ticks + t.ticks
  counters : s.counters = o.counters + t.counters
  watchers : ∀ name,
    Option.Rel (Watcher.Mirrors o.later) (s.watchers.get? name) (t.watchers.get? name)
  files : s.files = t.files
  cache : s.cache = t.cache
  hostCommands : s.hostCommands = t.hostCommands
  withdrawn : s.withdrawn = t.withdrawn
  hostWaits : s.hostWaits = t.hostWaits
  canSpawn : s.canSpawn = t.canSpawn

namespace Mirrors

variable {o s t : Session H} (h : o.Mirrors s t)

include h

lemma entity? (e : EntityId) : s.scene.entity? e = t.scene.entity? e := h.screen.scene.entity? e

lemma instance? (k : InstanceId) :
    s.instance? (o.later k) = (t.instance? k).map (Instance.raise o.roster.size) := by
  simp [Session.instance?, h.roster, later, Array.getElem?_append_right]

lemma instance?_before {k : InstanceId} (hk : k < o.roster.size) :
    s.instance? k = o.instance? k := by
  rw [Session.instance?, h.roster, Array.getElem?_append_left hk]
  rfl

lemma isActive (k : InstanceId) : s.isActive (o.later k) = t.isActive k := by
  unfold Session.isActive
  rw [h.instance?]
  cases t.instance? k <;> rfl

lemma holders : Holders.Mirrors o.later s.holders t.holders := h.isActive

lemma instances : s.instances = t.instances.map o.later := by
  simp [Session.instances, h.active, h.pending]

lemma isRunning : s.isRunning = t.isRunning := by
  simp [Session.isRunning, h.active, h.pending, Function.comp_def, h.isActive]

lemma isAsleep (k : InstanceId) : s.isAsleep (o.later k) = t.isAsleep k := by
  unfold Session.isAsleep
  rw [h.instance?]
  cases t.instance? k <;> rfl

lemma fails (occasion : Occasion) (name : String) : s.fails occasion name = t.fails occasion name := by
  have hw := h.watchers name
  unfold Session.fails
  generalize s.watchers.get? name = u, t.watchers.get? name = v at hw ⊢
  cases hw with
  | none => rfl
  | some hw => exact congrArg (List.contains · occasion) hw.failsOn

lemma isEarly (name : String) : s.isEarly name = t.isEarly name := by
  have hw := h.watchers name
  unfold Session.isEarly
  generalize s.watchers.get? name = u, t.watchers.get? name = v at hw ⊢
  cases hw with
  | none => rfl
  | some hw => exact hw.early

lemma hasWatcher (name : String) : s.watchers.has name = t.watchers.has name := by
  have hw := h.watchers name
  unfold Ledger.has
  generalize s.watchers.get? name = u, t.watchers.get? name = v at hw ⊢
  cases hw <;> rfl

lemma modifyInstance (k : InstanceId) {f : Instance H.Predicate → Instance H.Predicate}
    (hf : ∀ i, f (i.raise o.roster.size) = (f i).raise o.roster.size) :
    o.Mirrors (s.modifyInstance (o.later k) f) (t.modifyInstance k f) := by
  refine { h with roster := Array.ext_getElem? fun j => ?_ }
  rcases Nat.lt_or_ge j o.roster.size with hj | hj
  · have hne : o.later k ≠ j := (hj.trans_le (Nat.le_add_right _ _)).ne'
    rw [Array.getElem?_append_left hj]
    exact ((s.instance?_modifyInstance _ _ f).trans (if_neg hne)).trans (h.instance?_before hj)
  · obtain ⟨m, rfl⟩ := Nat.exists_eq_add_of_le hj
    rw [Array.getElem?_append_right hj, Array.getElem?_map, Nat.add_sub_cancel_left]
    change (s.modifyInstance (o.later k) f).instance? (o.later m) =
      ((t.modifyInstance k f).instance? m).map _
    rw [s.instance?_modifyInstance, t.instance?_modifyInstance, h.instance?]
    by_cases hkm : k = m
    · subst hkm
      simp [Function.comp_def, hf]
    · simp [hkm, o.later_injective.eq_iff]

end Mirrors

end Session

namespace Engine

variable {H : Host} {α β γ δ : Type} {o : Session H} {S : Services H.Game}

lemma stage_inStep {A : α → β → Prop} {p : Stage H.Game InstanceId α}
    {q : Stage H.Game InstanceId β} (h : InStep (Screen.Mirrors o.later) A p q) :
    InStep o.Mirrors A (stage p) (stage q) := by
  intro s t hst
  have hr := h s.screen t.screen hst.screen
  unfold stage
  cases hp : p s.screen <;> cases hq : q t.screen <;> rw [hp, hq] at hr <;> cases hr
  · next ha hscreen => exact .ok ha { hst with screen := hscreen }
  · next ha hscreen => exact .error ha { hst with screen := hscreen }

lemma play_inStep {A : α → β → Prop} {p : Play H.Game α} {q : Play H.Game β}
    (h : InStep Scene.Alike A p q) : InStep o.Mirrors A (play p) (play q) :=
  stage_inStep (Stage.play_inStep h)

lemma log_inStep (level : LogLevel) (text text' : String) :
    InStep o.Mirrors Eq (log level text : Engine H Unit) (log level text') :=
  play_inStep (Play.log_inStep level text text')

lemma logFor_inStep (id id' : InstanceId) (level : LogLevel) (text text' : String) :
    InStep o.Mirrors Eq (logFor id level text : Engine H Unit) (logFor id' level text') :=
  InStep.get.bind fun _ _ _ => log_inStep level _ _

lemma perform_inStep (hS : S.Oblivious) (c : Call) :
    InStep o.Mirrors Eq (perform S c : Engine H Unit) (perform S c) :=
  play_inStep (hS.offers (.perform c))

lemma count_inStep {f : Counters → Counters} (hf : Counters.IsCount f) :
    InStep o.Mirrors Eq (count f : Engine H Unit) (count f) :=
  .modify fun _ t h => { h with counters := h.counters ▸ hf _ t.counters }

lemma ofExcept_inStep (x : Except Fault α) :
    InStep o.Mirrors Eq (ofExcept x : Engine H α) (ofExcept x) := by
  cases x with
  | ok a => exact .same a
  | error f => exact .fail f

lemma attempt_inStep {A : α → β → Prop} {B : γ → δ → Prop} {p : Engine H α} {q : Engine H β}
    {f : Except Fault α → Engine H γ} {g : Except Fault β → Engine H δ}
    (h : InStep o.Mirrors A p q)
    (hok : ∀ a b, A a b → InStep o.Mirrors B (f (.ok a)) (g (.ok b)))
    (herror : ∀ e e', e.Alike e' → InStep o.Mirrors B (f (.error e)) (g (.error e'))) :
    InStep o.Mirrors B (attempt p >>= f) (attempt q >>= g) := by
  intro s t hst
  have hr := h s t hst
  cases hp : p s <;> cases hq : q t <;> rw [hp, hq] at hr <;> cases hr
  · next ha hst' =>
    rw [bind_of_ok (attempt_of_ok hp), bind_of_ok (attempt_of_ok hq)]
    exact hok _ _ ha _ _ hst'
  · next ha hst' =>
    rw [bind_of_ok (attempt_of_error hp), bind_of_ok (attempt_of_error hq)]
    exact herror _ _ ha _ _ hst'

lemma theInstance_inStep (k : InstanceId) :
    InStep o.Mirrors (fun i j => i = j.raise o.roster.size)
      (theInstance (o.later k) : Engine H (Instance H.Predicate)) (theInstance k) := by
  refine InStep.get.bind fun s t h => ?_
  rw [h.instance?]
  cases t.instance? k with
  | none => exact .fail _
  | some i => exact .pure rfl

lemma theInstance_andThen {A : α → β → Prop} (k : InstanceId)
    {f : Instance H.Predicate → Engine H α} {g : Instance H.Predicate → Engine H β}
    (h : ∀ i, InStep o.Mirrors A (f (i.raise o.roster.size)) (g i)) :
    InStep o.Mirrors A (theInstance (o.later k) >>= f) (theInstance k >>= g) :=
  (theInstance_inStep k).bind fun _ i hi => hi ▸ h i

lemma updateInstance_inStep (k : InstanceId) {f : Instance H.Predicate → Instance H.Predicate}
    (hf : ∀ i, f (i.raise o.roster.size) = (f i).raise o.roster.size) :
    InStep o.Mirrors Eq (updateInstance (o.later k) f : Engine H Unit) (updateInstance k f) :=
  .modify fun _ _ h => h.modifyInstance k hf

lemma setStatus_inStep (k : InstanceId) (x : Status H.Predicate) :
    InStep o.Mirrors Eq (setStatus (o.later k) x : Engine H Unit) (setStatus k x) :=
  updateInstance_inStep k fun _ => rfl

lemma setCursor_inStep (k : InstanceId) (n : Nat) :
    InStep o.Mirrors Eq (setCursor (o.later k) n : Engine H Unit) (setCursor k n) :=
  updateInstance_inStep k fun _ => rfl

lemma create_inStep (script : Script) (owner : Option EntityId) (pausable : Bool)
    (watcher : Option String) : InStep o.Mirrors (fun j k => j = o.later k)
      (create script owner pausable watcher : Engine H InstanceId)
      (create script owner pausable watcher) := by
  refine InStep.get.bind fun s t h => ?_
  have hid : s.roster.size = o.later t.roster.size := by
    simp [h.roster, Session.later]
  have hname : owner.bind s.scene.entity? = owner.bind t.scene.entity? := by
    congr 1
    exact funext h.entity?
  dsimp only
  rw [hid, hname]
  refine (InStep.set { h with roster := ?_ }).andThen fun _ => .pure rfl
  rw [h.roster, Array.map_push, Array.append_push]
  rfl

lemma note_inStep (watcher : String) (occasion : Occasion) (k : InstanceId) :
    InStep o.Mirrors Eq (note watcher occasion (o.later k) : Engine H Unit)
      (note watcher occasion k) := by
  refine .modify fun s t h => ?_
  have hw := h.watchers watcher
  generalize s.watchers.get? watcher = u, t.watchers.get? watcher = v at hw ⊢
  cases hw with
  | none => exact h
  | some hw =>
    refine { h with watchers := fun name => ?_ }
    dsimp only
    rw [Ledger.get?_put, Ledger.get?_put]
    split
    · obtain ⟨before, told, hu, hv⟩ := hw.notes
      exact .some ⟨hw.failsOn, hw.early, before, told.push (occasion, k), by simp [hu], by simp [hv]⟩
    · exact h.watchers name

lemma noteAll_inStep (occasion : Occasion) (k : InstanceId) (ws : List String) :
    InStep o.Mirrors Eq (noteAll occasion (o.later k) ws : Engine H Unit)
      (noteAll occasion k ws) := by
  induction ws with
  | nil => exact .same ()
  | cons w ws ih =>
    refine (note_inStep w occasion k).andThen fun _ => InStep.get.bind fun s t h => ?_
    rw [h.fails]
    exact .guard Iff.rfl (.refl _) ih

lemma ended_inStep (k : InstanceId) (occasion : Occasion) :
    InStep o.Mirrors Eq (ended (o.later k) occasion : Engine H Unit) (ended k occasion) := by
  refine theInstance_andThen k fun i => InStep.get.bind fun s t h => ?_
  rw [funext h.isEarly]
  have hrest := (noteAll_inStep (o := o) occasion k (i.watchers.filter (!t.isEarly ·))).andThen
    fun _ => updateInstance_inStep k (f := ({ · with counted := false, watchers := [] })) fun _ => rfl
  have hcount : Counters.IsCount fun c =>
      if occasion = .complete then c.countCompletion else c.countCancel := by
    intro c d
    dsimp only
    split <;> rfl
  exact (noteAll_inStep occasion k _).andThen fun _ =>
    .ite Iff.rfl ((count_inStep hcount).andThen fun _ => hrest) hrest

lemma begin_inStep (k : InstanceId) :
    InStep o.Mirrors Eq (begin (o.later k) : Engine H Unit) (begin k) := by
  refine theInstance_andThen k fun i => .ite Iff.rfl ?_ (.same ())
  have hbegun := updateInstance_inStep (o := o) k (f := ({ · with begun := true })) fun _ => rfl
  refine hbegun.andThen fun _ => ?_
  exact (logFor_inStep _ _ _ _ _).andThen fun _ => noteAll_inStep _ _ _

lemma complete_inStep (k : InstanceId) :
    InStep o.Mirrors Eq (complete (o.later k) : Engine H Unit) (complete k) := by
  refine theInstance_andThen k fun i => .ite Iff.rfl ?_ (.same ())
  exact (setStatus_inStep k _).andThen fun _ => (logFor_inStep _ _ _ _ _).andThen fun _ =>
    ended_inStep k _

lemma cancel_inStep (k : InstanceId) :
    InStep o.Mirrors Eq (cancel (o.later k) : Engine H Unit) (cancel k) := by
  refine theInstance_andThen k fun i => .ite Iff.rfl ?_ (.same ())
  exact (setStatus_inStep k _).andThen fun _ => (logFor_inStep _ _ _ _ _).andThen fun _ =>
    ended_inStep k _

lemma release_inStep (hS : S.Oblivious) (k : InstanceId) :
    InStep o.Mirrors Eq (stage (Stage.release S (o.later k)) : Engine H Unit)
      (stage (Stage.release S k)) :=
  stage_inStep (Stage.release_inStep hS o.later_injective k)

lemma abort_inStep (hS : S.Oblivious) (k : InstanceId) :
    InStep o.Mirrors Eq (abort S (o.later k) : Engine H Unit) (abort S k) :=
  theInstance_andThen k fun _ => .ite Iff.rfl
    ((release_inStep hS k).andThen fun _ => cancel_inStep k) (.same ())

lemma suspend_inStep (k : InstanceId) (x : Wait H.Predicate) :
    InStep o.Mirrors Eq (suspend (o.later k) x : Engine H Unit) (suspend k x) := by
  refine theInstance_andThen k fun i => ?_
  rw [i.raise_status]
  split
  · exact setStatus_inStep k _
  · exact .fail _

lemma resume_inStep (k : InstanceId) :
    InStep o.Mirrors Eq (resume (o.later k) : Engine H Unit) (resume k) := by
  refine theInstance_andThen k fun i => ?_
  rw [i.raise_status]
  split
  · exact setStatus_inStep k _
  · exact .fail _

lemma jump_inStep (k : InstanceId) (target : Int) :
    InStep o.Mirrors Eq (jump (o.later k) target : Engine H Unit) (jump k target) :=
  theInstance_andThen k fun _ => .guard Iff.rfl (.refl _) (setCursor_inStep k _)

lemma owner?_inStep (k : InstanceId) :
    InStep o.Mirrors Eq (owner? (o.later k) : Engine H (Option (EntityId × Entity)))
      (owner? k) := by
  refine theInstance_andThen k fun i => InStep.get.bind fun s t h => .pure ?_
  have hentity : s.scene.entity? = t.scene.entity? := funext h.entity?
  simp only [Instance.owner?, Instance.raise, hentity]

end Engine

end EventScript
