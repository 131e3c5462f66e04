import EventScript.Proofs.Ensemble.Schedule
import EventScript.Proofs.Schedule.Charge
import EventScript.Proofs.Schedule.Headway

/-! Runs that end. Every tick has a turn for an instance that is alone, and each turn uses up one of
those that are due. -/

namespace EventScript

variable {H : Host} {w : Wiring H} {V : Pace H.Game} {id : InstanceId} {script : Script}
  {s t : Session H} {x : Wait H.Predicate} {k n : Nat}

/-! ### Between the turns -/

structure Screen.Eases {σ η : Type} (V : Pace σ) (x y : Screen σ η) : Prop where
  talk : ∀ z, y.ui.talk = some z → x.ui.talk = some z
  lasts : ∀ n, x.Lasts V n → y.Lasts V n

namespace Screen.Eases

variable {σ η : Type} {V : Pace σ} {x y z : Screen σ η}

lemma refl (V : Pace σ) (x : Screen σ η) : x.Eases V x := ⟨fun _ h => h, fun _ h => h⟩

lemma of_movie (htalk : ∀ u, y.ui.talk = some u → x.ui.talk = some u)
    (hmovie : y.ui.movie = x.ui.movie) (hrests : V.Rests x.scene.game y.scene.game) : x.Eases V y :=
  ⟨htalk, fun _ h => h.rests hrests hmovie⟩

lemma trans (h : x.Eases V y) (h' : y.Eases V z) : x.Eases V z :=
  ⟨fun u hu => h.talk u (h'.talk u hu), fun n hn => h'.lasts n (h.lasts n hn)⟩

end Screen.Eases

namespace Stage

variable {σ η : Type} {S : Services σ} {V : Pace σ} {x : Screen σ η}

lemma play_eases {α : Type} {p : Play σ α} (hp : ∀ x, V.Rests x.game (endState p x).game) :
    Preserves (x.Eases V) (play p : Stage σ η α) :=
  play_related (fun _ _ hx hr hu => hx.trans (.of_movie (by simp [hu]) (by rw [hu]) hr)) hp

lemma updateUi_eases {f : Ui η → Ui η} (htalk : ∀ u z, (f u).talk = some z → u.talk = some z)
    (hmovie : ∀ u, (f u).movie = u.movie) :
    Preserves (x.Eases V) (updateUi f : Stage σ η Unit) :=
  Leads.modify fun y hy => hy.trans (.of_movie (htalk y.ui) (hmovie y.ui) (.refl V _))

variable (hS : S.Unattended V)

include hS

lemma updateMovie_eases : Preserves (x.Eases V) (updateMovie S : Stage σ η Unit) := by
  have htalk (u : Option (Talk η)) :
      Preserves (fun y : Screen σ η => y.ui.talk = u) (updateMovie S) :=
    (Modular.preserves _).updateMovie (fun _ => play_related (R := fun _ _ => True)
      (fun _ _ hx _ hu => by rw [hu, hx]) fun _ => trivial) fun _ _ => Leads.modify fun _ hx => hx
  refine Leads.of_endState fun y hy => hy.trans ⟨fun z hz => ?_, fun n hn => ?_⟩
  · rwa [(htalk y.ui.talk).endState rfl] at hz
  · exact (updateMovie_lasts hS).endState hn

lemma release_eases [DecidableEq η] (who : η) :
    Preserves (x.Eases V) (release S who : Stage σ η Unit) :=
  (Modular.preserves _).release (updateUi_eases (fun _ _ h => by cases h) fun _ => rfl)
    (updateUi_eases (fun _ _ h => h) fun _ => rfl)
    (fun c => play_eases fun y => hS.offers (.perform c) y) who

end Stage

lemma Change.eases {a : Aspect} (h : Change a s t) (hscene : a ≠ .scene) (hmovie : a ≠ .movie)
    (htalk : a ≠ .talk) : s.screen.Eases V t.screen := by
  cases h with
  | scene => exact absurd rfl hscene
  | movie => exact absurd rfl hmovie
  | talk => exact absurd rfl htalk
  | _ => exact .of_movie (fun _ h => h) rfl (.refl V _)

lemma Session.Awaits.eases (h : s.Awaits V k x) (hst : s.screen.Eases V t.screen) :
    t.Awaits V k x := by
  cases x with
  | dialogue => exact fun z hz => h z (hst.talk z hz)
  | movie => exact hst.lasts k h
  | _ => exact h

lemma Session.EndsIn.eases {A : Set Aspect} (h : s.EndsIn V id script n) (hst : Changes A s t)
    (hA : .roster ∉ A ∧ .cursor id ∉ A ∧ .status id ∉ A) (hscreen : s.screen.Eases V t.screen) :
    t.EndsIn V id script n := by
  have hstatus : t.status? id = s.status? id :=
    hst.ignored (I := fun u => u.status? id = s.status? id) (fun a ha u v hc hu =>
      (hc.status?_eq (fun h => hA.1 (h ▸ ha)) fun h => hA.2.2 (h ▸ ha)).trans hu) rfl
  have hplace {p : Script × Nat} (hp : s.place? id = some p) : t.place? id = some p :=
    hst.ignored (fun a ha _ _ hc hu => hc.place? (fun h => hA.2.1 (h ▸ ha)) hu) hp
  intro hactive
  rw [t.isActive_eq, hstatus, ← s.isActive_eq] at hactive
  refine (h hactive).imp_right fun hdue => ?_
  cases hdue with
  | running hs hn => exact .running ⟨hplace hs.1, hstatus.trans hs.2⟩ hn
  | waiting hs hk hn => exact .waiting ⟨hplace hs.1, hstatus.trans hs.2⟩ (hk.eases hscreen) hn

@[simp] def Aspect.due (id : InstanceId) : Set Aspect :=
  {.scene, .movie, .talk, .roster, .cursor id, .status id}

lemma Session.EndsIn.ignores {a : Aspect} (ha : a ∉ Aspect.due id) :
    Ignores (Session.EndsIn V id script n) a := by
  simp only [Aspect.due, Set.mem_insert_iff, Set.mem_singleton_iff, not_or] at ha
  obtain ⟨hscene, hmovie, htalk, hroster, hcursor, hstatus⟩ := ha
  exact fun s t hc hs => hs.eases (hc.changes (Set.mem_singleton a))
    ⟨Ne.symm hroster, Ne.symm hcursor, Ne.symm hstatus⟩ (hc.eases hscene hmovie htalk)

namespace Engine

lemma endsIn_within {α : Type} {A : Set Aspect} {q : Engine H α} (hq : Within A q)
    (hA : ∀ a ∈ A, a ∉ Aspect.due id) : Preserves (Session.EndsIn V id script n) q :=
  hq.preserves fun a ha => Session.EndsIn.ignores (hA a ha)

lemma endsIn_stage {α : Type} {A : Set Aspect} {q : Stage H.Game InstanceId α}
    (hq : Within A (stage q)) (hA : .roster ∉ A ∧ .cursor id ∉ A ∧ .status id ∉ A)
    (heases : ∀ x, Preserves (Screen.Eases V x) q) :
    Preserves (Session.EndsIn V id script n) (stage q) :=
  Leads.of_endState fun s hs =>
    hs.eases (hq s) hA ((stage_preserves (heases s.screen)).endState (.refl V _))

variable (hS : w.services.Unattended V) {j : InstanceId}

include hS

lemma log_endsIn (level : LogLevel) (text : String) :
    Preserves (Session.EndsIn V id script n) (log level text : Engine H Unit) :=
  endsIn_stage (log_within (A := {.scene}) rfl level text) (by simp)
    fun _ => Stage.play_eases (hS.asks (.log level text))

lemma begin_endsIn : Preserves (Session.EndsIn V id script n) (begin j : Engine H Unit) := by
  refine (theInstance_here j).bind fun i => .ite ?_ (.pure _)
  refine (endsIn_within (setMarks_within (A := {.marks j}) rfl ?_) (by simp)).bind fun _ => ?_
  · exact fun i => ⟨true, i.counted, i.watchers, rfl⟩
  refine Preserves.bind (Preserves.get.bind fun _ => log_endsIn hS _ _) fun _ => ?_
  exact endsIn_within (noteAll_within (A := {.watchers}) rfl _ _ _) (by simp)

lemma release_endsIn : Preserves (Session.EndsIn V id script n)
    (stage (Stage.release w.services j) : Engine H Unit) :=
  endsIn_stage (release_within (A := {.scene, .talk, .chooser}) (by simp) (by simp) (by simp) _ j)
    (by simp) fun _ => Stage.release_eases hS j

lemma cancel_endsIn : Preserves (Session.EndsIn V id script n) (cancel j : Engine H Unit) := by
  refine (theInstance_here j).bind fun i => .ite ?_ (.pure _)
  have hended : Within {.counters, .watchers, .marks j} (ended j .cancel : Engine H Unit) :=
    ended_within (by simp) (by simp) (by simp) _
  refine Preserves.bind (Leads.of_endState fun s hs => ?_) fun _ => Preserves.bind
    (Preserves.get.bind fun _ => log_endsIn hS _ _) fun _ => endsIn_within hended (by simp)
  change (s.modifyInstance j ({ · with status := .canceled })).EndsIn V id script n
  by_cases hj : j = id
  · subst hj
    refine .of_ended ?_
    rw [Session.isActive_eq, Session.status?_setStatus, if_pos rfl]
    cases s.status? j <;> rfl
  · exact Session.EndsIn.ignores (by simpa using hj) _ _ (.status s j .canceled) hs

end Engine

lemma endsIn_openingKeeps (hS : w.services.Unattended V) :
    w.OpeningKeeps (Session.EndsIn V id script n) where
  ordering a ha := by
    refine Session.EndsIn.ignores ?_
    rcases ha with rfl | rfl | rfl | rfl | rfl | rfl <;> simp
  fade := Session.EndsIn.ignores (by simp)
  log := Engine.log_endsIn hS
  orphan := Engine.endsIn_within (Engine.count_within (A := {.counters}) rfl _) (by simp)
  begin _ := Engine.begin_endsIn hS
  abort j := (Engine.theInstance_here j).bind fun i =>
    .ite ((Engine.release_endsIn hS).bind fun _ => Engine.cancel_endsIn hS) (.pure _)
  release _ := Engine.release_endsIn hS
  updateMovie := Engine.endsIn_stage
    (Engine.updateMovie_within (A := {.scene, .movie}) (by simp) (by simp) _) (by simp)
    fun _ => Stage.updateMovie_eases hS

/-! ### One that is alone -/

/-- Only one instance was ever started, and ticks do not pass it over. -/
structure Session.IsAlone (s : Session H) : Prop where
  unpaused : s.paused = false
  single : s.roster.size = 1

def Session.Plays (id : InstanceId) (script : Script) (s : Session H) : Prop :=
  (s.instance? id).map (·.script) = some script

namespace Session.IsAlone

lemma ignores {a : Aspect} (ha : a ∈ Aspect.opening) : Ignores (IsAlone (H := H)) a := by
  intro s t hc hs
  cases hc with
  | paused => exact absurd rfl ha.1
  | roster => exact absurd rfl ha.2
  | cursor | status | marks => exact ⟨hs.unpaused, Array.size_modify.trans hs.single⟩
  | _ => exact ⟨hs.unpaused, hs.single⟩

lemma eq_zero {j : InstanceId} (hs : s.IsAlone) (hj : s.isActive j = true) : j = 0 := by
  rw [s.isActive_eq] at hj
  cases hi : s.roster[j]? with
  | none => simp [Session.status?, Session.instance?, hi] at hj
  | some i =>
    have hlt := (Array.getElem?_eq_some_iff.mp hi).1
    rw [hs.single] at hlt
    exact Nat.lt_one_iff.mp hlt

lemma takesPart_eq (hs : s.IsAlone) (k : InstanceId) : s.takesPart k = s.isActive k := by
  unfold takesPart isActive
  cases s.instance? k <;> simp [hs.unpaused]

end Session.IsAlone

lemma plays_dependsOnStatus (id : InstanceId) (script : Script) :
    DependsOnStatus (Session.Plays (H := H) id script) where
  ignores _ _ _ _ hc hs := hc.trait? (fun _ _ _ => rfl) (fun _ _ _ => rfl) (fun _ _ _ _ => rfl) hs
  moves s k _ y _ _ _ hs := (Change.status s k y).trait? (fun _ _ _ => rfl) (fun _ _ _ => rfl)
    (fun _ _ _ _ => rfl) hs

namespace Engine

lemma isAlone_within {α : Type} {q : Engine H α} (hq : Within Aspect.opening q) :
    Preserves Session.IsAlone q :=
  hq.preserves fun _ ha => Session.IsAlone.ignores ha

lemma execute_isAlone {c : Command} (hc : ∀ i, c.instruction? = some i → i.dawdles = false) :
    Leads (fun s => s.hostCommands = [] ∧ s.IsAlone) (execute w id c) Session.IsAlone := by
  have hquiet {q : Engine H Unit} (hq : Within Aspect.opening q) :
      Leads (fun s => s.hostCommands = [] ∧ s.IsAlone) q Session.IsAlone :=
    (isAlone_within hq).weaken (fun _ h => h.2) fun _ h => h
  unfold execute
  split
  · exact hquiet ((theInstance_within id).bind fun _ => .throw _)
  · next herror =>
    refine Leads.after (Leads.modify fun _ hs => ⟨hs.1, hs.2.unpaused, hs.2.single⟩)
      (fun _ h => h.2) fun _ => ?_
    split
    · next v hv =>
      refine hquiet (executeBuiltin_within ?_ (by simp) w.services v fun file hfile => ?_)
      · intro a ha
        rcases ha with ⟨(ha | ha) | ha, hnot⟩
        · rcases ha with rfl | rfl <;> simp
        · exact absurd ha hnot
        · rcases ha with rfl | rfl | rfl | rfl | rfl | rfl <;> simp
      · cases hc _ ((Command.instruction?_of herror hv).trans hfile)
    · refine Triple.get_bind fun s hs => ?_
      rw [hs.1]
      rintro _ rfl
      exact .error hs.2
    · exact hquiet (.throw _)

lemma runCommandAt_isAlone {c : Command} (hc : ∀ i, c.instruction? = some i → i.dawdles = false) :
    Leads (fun s => s.hostCommands = [] ∧ s.IsAlone) (runCommandAt w id c) Session.IsAlone := by
  refine Leads.after (theInstance_here id) (fun _ h => h.2) fun i => ?_
  refine Leads.after (Leads.modify fun _ hs => ?_) (fun _ h => h.2) fun _ => ?_
  · exact ⟨hs.1, hs.2.unpaused, Array.size_modify.trans hs.2.single⟩
  refine Leads.bind (attempt_leads (execute_isAlone hc)) fun r => isAlone_within ?_
  have hsettle : Within Aspect.opening (settle id : Engine H StepResult) :=
    settle_within (Set.subset_union_left.trans (Aspect.canceling_opening id))
  have hreported (f : Counters → Counters) (level : LogLevel) (text : String)
      {q : Engine H StepResult} (hq : Within Aspect.opening q) :
      Within Aspect.opening (do count f; logFor id level text; q) :=
    (count_within (by simp) f).bind fun _ => (logFor_within (by simp) id level text).bind fun _ => hq
  split
  · exact hsettle
  · refine hreported _ _ _ (Within.bind ?_ fun _ => .pure _)
    exact abort_within (Aspect.canceling_opening id) w.services
  · exact hreported _ _ _ hsettle
  · exact hreported _ _ _ hsettle

lemma checkWait_isAlone (elapsed : Option Float) :
    Leads (fun s => (s.IsHostless ∧ s.IsAlone) ∧ s.status? id = some (.suspended x))
      (checkWait w id elapsed x) Session.IsAlone := by
  refine Leads.bind (attempt_leads ?_) fun r => isAlone_within ?_
  · rintro s ⟨⟨hless, hs⟩, hx⟩
    rw [poll_of_hostless hless]
    refine isAlone_within (pollWait_within (by simp) (by simp) (by simp) (by simp) (by simp) w elapsed
      ?_) s hs
    rintro p rfl
    exact hless.own id p hx
  · split
    · exact .pure _
    · refine (reportWait_within (Aspect.canceling_opening id) _ _).bind fun _ => ?_
      refine (theInstance_within id).bind fun i => .ite (.pure _) ?_
      exact (release_within (by simp) (by simp) (by simp) _ id).bind fun _ => .pure _

lemma step_isAlone (hbrisk : script.IsBrisk) (elapsed : Option Float) :
    Leads (fun s => (s.IsHostless ∧ s.Plays id script) ∧ s.IsAlone) (step w id elapsed)
      Session.IsAlone := by
  refine theInstance_bind (fun i => ?_) fun _ hs _ => hs.2
  have hquiet {q : Engine H StepResult} (hq : Within Aspect.opening q) :
      Leads (fun s => ((s.IsHostless ∧ s.Plays id script) ∧ s.IsAlone) ∧ s.instance? id = some i)
        q Session.IsAlone :=
    (isAlone_within hq).weaken (fun _ h => h.1.2) fun _ h => h
  have hending : Aspect.ending id ⊆ Aspect.opening :=
    Set.subset_union_left.trans (Aspect.canceling_opening id)
  split
  · exact hquiet (.pure _)
  · exact hquiet (.pure _)
  · next x hx =>
    refine Leads.bind ((checkWait_isAlone elapsed).weaken (fun s hs => ?_) fun _ h => h) fun ready =>
      isAlone_within ?_
    · exact ⟨⟨hs.1.1.1, hs.1.2⟩, by simp [Session.status?, hs.2, hx]⟩
    · exact .ite ((resume_within (by simp)).bind fun _ => finish_within hending)
        ((theInstance_within id).bind fun _ => .pure _)
  · split
    · exact hquiet ((complete_within hending).bind fun _ => .pure _)
    · next c hc =>
      rintro s ⟨⟨⟨hless, hplays⟩, hs⟩, hi⟩
      obtain rfl : i.script = script := by simpa [Session.Plays, hi] using hplays
      exact runCommandAt_isAlone (hbrisk c (List.mem_of_getElem? hc)) s ⟨hless.noCommands, hs⟩

lemma takeTurn_isAlone (hbrisk : script.IsBrisk) (elapsed : Option Float) :
    Leads (fun s => (s.IsHostless ∧ s.Plays id script) ∧ s.IsAlone) (takeTurn w id elapsed)
      Session.IsAlone := by
  refine Leads.bind (attempt_leads (step_isAlone hbrisk elapsed)) fun r => isAlone_within ?_
  split
  · exact .pure _
  · refine (count_within (by simp) _).bind fun _ => Within.get.bind fun _ => ?_
    refine (log_within (by simp) _ _).bind fun _ => ?_
    exact (abort_within (Aspect.canceling_opening id) _).bind fun _ => .pure _

end Engine

/-! ### Winding down -/

def Session.Tends (V : Pace H.Game) (script : Script) (s : Session H) : Prop :=
  (s.IsHostless ∧ s.Plays 0 script) ∧ s.screen.Lasts V (V.frames - 1)

/-- The script has the session to itself, and ends within this number of turns. -/
structure Session.WindsDown (V : Pace H.Game) (script : Script) (n : Nat) (s : Session H) :
    Prop where
  tends : s.Tends V script
  alone : s.IsAlone
  ends : s.EndsIn V 0 script n

section Ticks

variable {elapsed : Option Float} {us : List (Turn H)} (hS : w.services.Unattended V)

include hS

lemma tends_tickKeeps : w.TickKeeps (Session.Tends V script) :=
  ((isHostless_dependsOnStatus.and (plays_dependsOnStatus 0 script)).tickKeeps w).and
    (lasts_stageKeeps hS).tickKeeps

namespace Session.WindsDown

lemma opening (hs : s.WindsDown V script n) (h : Engine.opening w.services s = .ok () t) :
    t.WindsDown V script n := by
  have htends := (tends_tickKeeps hS).opening.endState hs.tends
  have halone := (Engine.isAlone_within (Engine.opening_within w.services)).endState hs.alone
  have hends := (endsIn_openingKeeps hS).opening.endState hs.ends
  rw [endState_of_ok h] at htends halone hends
  exact ⟨htends, halone, hends⟩

lemma retire (hs : s.WindsDown V script n) : s.retire.WindsDown V script n :=
  ⟨(tends_tickKeeps hS).retire.endState hs.tends, ⟨hs.alone.unpaused, hs.alone.single⟩,
    (endsIn_openingKeeps hS).retire.endState hs.ends⟩

variable (hbrisk : script.IsBrisk)

include hbrisk

lemma takeTurn (hs : s.WindsDown V script n) (hactive : s.isActive 0 = true) {r : StepResult}
    (h : Engine.takeTurn w 0 elapsed s = .ok r t) : ∃ m, n = m + 1 ∧ t.WindsDown V script m := by
  obtain ⟨hn, hdue⟩ := hs.ends hactive
  obtain ⟨m, rfl⟩ := Nat.exists_eq_add_one.mpr hn
  have htends := (((tends_tickKeeps hS).turn 0).takeTurn (fun _ h => h.1.1) elapsed).endState hs.tends
  have halone := (Engine.takeTurn_isAlone (w := w) hbrisk elapsed).endState ⟨hs.tends.1, hs.alone⟩
  have hends := Engine.takeTurn_endsIn hS hbrisk elapsed s ⟨hs.tends.1.1, hs.tends.2, hdue⟩
  rw [endState_of_ok h] at htends halone
  rw [h] at hends
  cases hends with
  | ok hends => exact ⟨m, rfl, htends, halone, hends⟩

lemma turns (hs : s.WindsDown V script n) (h : Turns w elapsed s us t) :
    us.length ≤ n ∧ t.WindsDown V script (n - us.length) := by
  induction h generalizing n with
  | done => exact ⟨Nat.zero_le n, hs⟩
  | turn hactive hturn _ ih =>
    obtain rfl := hs.alone.eq_zero hactive
    obtain ⟨m, rfl, ht⟩ := hs.takeTurn hS hbrisk hactive hturn
    obtain ⟨hlen, hu⟩ := ih ht
    rw [List.length_cons, Nat.succ_sub_succ]
    exact ⟨Nat.succ_le_succ hlen, hu⟩

/-- A tick has a turn for the instance, unless it has ended. -/
lemma tick (hs : s.WindsDown V script (n + 1)) (hb : s.Booked .calmly) (elapsed : Option Float) :
    ∃ t, Engine.tick w elapsed s = .ok () t ∧ t.Booked .calmly ∧ t.WindsDown V script n := by
  rcases Engine.opening_cases hS.toSettles hb with
    ⟨s₁, hopen, h₁, hpending, -⟩ | ⟨t, -, -, hdisturbed⟩
  · have hs₁ := hs.opening hS hopen
    obtain ⟨us, s₂, hround, hus, htick, hmid⟩ :=
      Engine.tick_round hS.toSettles hopen h₁ hpending hs₁.tends.1.1 elapsed
    obtain ⟨hlen, hs₂⟩ := hs₁.turns hS hbrisk hus
    refine ⟨_, htick, hmid.retire, retire hS ⟨hs₂.tends, hs₂.alone, ?_⟩⟩
    cases hlist : s₁.active with
    | nil =>
      -- Whoever is not listed has ended.
      rw [hlist] at hround
      cases hround
      refine .of_ended (Bool.eq_false_iff.mpr fun hactive => ?_)
      simpa [instances, hlist, hpending] using h₁.listed trivial 0 hactive
    | cons id ids =>
      have hactive : s₁.isActive id = true := h₁.live trivial id (by simp [instances, hlist])
      obtain rfl := hs₁.alone.eq_zero hactive
      -- The budget allows it at least one turn, which is one less of those that are due.
      obtain ⟨m, hm⟩ := Nat.exists_eq_add_one.mpr s₁.setup.maxSteps_pos
      rw [hlist, hm] at hround
      obtain ⟨vs, rfl⟩ := hround.exists_cons ((hs₁.alone.takesPart_eq 0).trans hactive)
      refine hs₂.ends.weaken ?_
      rw [List.length_cons]
      omega
  · exact absurd hdisturbed (hb.undisturbed trivial).not_isDisturbed

end Session.WindsDown

end Ticks

/-! ### Whole runs -/

lemma Session.IsAlone.isActive_zero (hs : s.IsAlone) (hb : s.Booked .calmly) (h : s.isRunning = true) :
    s.isActive 0 = true := by
  obtain ⟨k, hk⟩ : ∃ k, s.isActive k = true := by
    rcases Bool.or_eq_true_iff.mp h with h | h
    · obtain ⟨k, -, hk⟩ := List.any_eq_true.mp h
      exact ⟨k, hk⟩
    · obtain ⟨k, hk⟩ := List.exists_mem_of_ne_nil s.pending (by simpa using h)
      exact ⟨k, hb.live trivial k (List.mem_append_right _ hk)⟩
  exact hs.eq_zero hk ▸ hk

lemma Session.WindsDown.runs (hS : w.services.Unattended V) (hbrisk : script.IsBrisk)
    (hs : s.WindsDown V script n) (hb : s.Booked .calmly) (elapsed : Option Float) {maxTicks : Nat}
    (hmax : n ≤ maxTicks) : ∃ k t, Engine.tickWhileRunning w elapsed maxTicks s = .ok k t ∧
      k ≤ n ∧ t.isRunning = false := by
  induction maxTicks generalizing n s with
  | zero =>
    refine ⟨0, s, rfl, Nat.zero_le n, Bool.eq_false_iff.mpr fun hrunning => ?_⟩
    have hn := (hs.ends (hs.alone.isActive_zero hb hrunning)).1
    omega
  | succ m ih =>
    unfold Engine.tickWhileRunning
    rw [bind_of_ok (get_apply s)]
    by_cases hrunning : s.isRunning = true
    · obtain ⟨n, rfl⟩ :=
        Nat.exists_eq_add_one.mpr (hs.ends (hs.alone.isActive_zero hb hrunning)).1
      obtain ⟨t, htick, ht, hdown⟩ := hs.tick hS hbrisk hb elapsed
      obtain ⟨k, u, hrest, hk, hu⟩ := ih hdown ht (by omega)
      rw [if_pos hrunning, bind_of_ok htick, bind_of_ok hrest]
      exact ⟨k + 1, u, rfl, by omega, hu⟩
    · rw [if_neg hrunning]
      exact ⟨0, s, rfl, Nat.zero_le n, by simpa using hrunning⟩

lemma Session.IsAtStartWith.windsDown (hS : w.services.Unattended V)
    (hplayer : Returns w.services.player) {v : Store} {s₀ : Session H} (h₀ : s₀.IsAtStartWith v)
    (hfits : V.fits s₀.scene.game) (elapsed : Option Float) (maxTicks : Nat) :
    ∃ s, Engine.runToEnd w script elapsed maxTicks s₀ = Engine.tickWhileRunning w elapsed maxTicks s ∧
      s.Booked .calmly ∧ s.WindsDown V script (max 1 (V.turns script 0)) := by
  have hless : s₀.IsHostless := by
    obtain ⟨a, ha, rfl⟩ := h₀
    exact ha.isHostless.same rfl rfl rfl
  have hbooked : s₀.Booked .calmly := by
    obtain ⟨a, ha, rfl⟩ := h₀
    exact (ha.booked True).same rfl rfl rfl (.refl _)
  obtain ⟨setup, scene, fade, files, rfl⟩ := h₀.eq_mk
  obtain ⟨player, y, hplay⟩ := hplayer scene
  have hy := (hS.offers .player scene).fits hfits
  rw [endState_of_ok hplay] at hy
  let s₁ : Session H := { setup, screen := { scene := y, ui := { fade } }, store := v, files }
  have hstart := Engine.start_apply script player true none s₁
  have hstarted := ((isHostless_dependsOnStatus.tickKeeps w).start script player true none).endState
    (s := s₁) (hless.same rfl rfl rfl)
  rw [endState_of_ok hstart] at hstarted
  refine ⟨_, ?_, ?_, ⟨⟨⟨hstarted, rfl⟩, ⟨hy, by simp [Movie.video?]⟩⟩, ⟨rfl, rfl⟩, ?_⟩⟩
  · unfold Engine.runToEnd
    rw [bind_of_ok (Engine.play_of_ok hplay)]
    exact bind_of_ok hstart
  · exact (hbooked.same (t := s₁) rfl rfl rfl (.refl _)).grows ⟨rfl, rfl, rfl, rfl, rfl, rfl, rfl⟩
  · exact fun _ => ⟨by omega, .running ⟨rfl, rfl⟩ (Nat.le_max_right _ _)⟩

/-- In a headless game, a script that neither starts scripts nor waits for time to pass ends within
a tick for each command and for each line, choice and frame it waits for. -/
theorem headless_run_ends {world : H.Game → Headless} (hS : w.services.IsHeadless world)
    {s₀ : Session H} {v : Store} (h₀ : s₀.IsAtStartWith v) {script : Script}
    (hscript : ∀ c ∈ script.commands, ∀ b ∈ [Verb.runScript, .sleep, .fadeOut, .fadeIn],
      c.kind ≠ .builtin b)
    (elapsed : Option Float) {maxTicks : Nat}
    (hmax : max 1 (script.commands.map
      fun c => 1 + (world s₀.scene.game).pace.delay c).sum ≤ maxTicks) :
    ∃ k t, Engine.runToEnd w script elapsed maxTicks s₀ = .ok k t ∧
      k ≤ max 1 (script.commands.map fun c => 1 + (world s₀.scene.game).pace.delay c).sum ∧
      t.isRunning = false := by
  have hunattended := hS.unattended (world s₀.scene.game)
  have hbrisk : script.IsBrisk := Script.isBrisk_of_verbs hscript
  obtain ⟨s, hrun, hbooked, hdown⟩ :=
    h₀.windsDown hunattended hS.player_returns ⟨rfl, rfl⟩ elapsed maxTicks
  rw [hrun]
  exact hdown.runs hunattended hbrisk hbooked elapsed hmax

/-- Two lines to read, a choice, a video and a command nobody knows take at most ten ticks. -/
theorem headless_run_ends_cli : ∃ (s₀ : Session Cli.host) (script : Script) (k : Nat)
    (t : Session Cli.host), s₀.IsAtStartWith [("$x", 5)] ∧ script.size = 5 ∧
      s₀.scene.game.headless.talk.length = 2 ∧ s₀.scene.game.headless.videoFrames = 2 ∧
      Engine.runToEnd Cli.wiring script none 10 s₀ = .ok k t ∧ k ≤ 10 ∧ t.isRunning = false := by
  let start : Session Cli.host := .sample 1 {
    game := .mk { talk := [(1, ⟨1, 0, "one"⟩), (3, ⟨3, 4, "three"⟩)], videoFrames := 2 } 0 }
  let script : Script := { name := "a", commands := [
    { kind := .builtin .talk, name := "Talk", args := [.int 0, .int 9] },
    { kind := .builtin .choose, name := "Choose", args := [.text "a", .text "b", .text "?"] },
    { kind := .builtin .playMovie, name := "PlayMovie", args := [.text "m"] },
    { kind := .builtin .waitMovieEnd, name := "WaitMovieEnd" },
    { kind := .unknown, name := "Nod" }] }
  have h₀ : ({ start with store := [("$x", 5)] } : Session Cli.host).IsAtStartWith [("$x", 5)] :=
    ⟨start, Session.sample_isAtStart, rfl⟩
  have hscript : ∀ c ∈ script.commands, ∀ b ∈ [Verb.runScript, .sleep, .fadeOut, .fadeIn],
      c.kind ≠ .builtin b := by decide
  obtain ⟨k, t, hrun, hk, ht⟩ :=
    headless_run_ends (w := Cli.wiring) Cli.services_isHeadless h₀ hscript none
      (show _ ≤ 10 by decide)
  exact ⟨_, script, k, t, h₀, rfl, rfl, rfl, hrun, hk.trans (by decide), ht⟩

end EventScript
