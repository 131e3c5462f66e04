import EventScript.Proofs.Schedule.Due

/-! A turn makes headway: it uses up one of the turns that are due. A command moves the cursor on, and
a look at a wait leaves fewer lines or fewer frames. -/

namespace EventScript

variable {H : Host} {w : Wiring H} {V : Pace H.Game} {id : InstanceId} {script : Script}
  {s t : Session H} {p : Script × Nat} {x : Wait H.Predicate} {j k m n : Nat}

namespace Engine

/-! ### Steering -/

lemma jump_goes (target : Int) :
    Preserves (Session.Goes id script m) (jump id target : Engine H Unit) := by
  refine theInstance_bind (fun i => Leads.ite (fun _ s hs => .error hs.1) fun htarget =>
    Leads.modify ?_) fun _ hs _ => hs
  rintro s ⟨⟨j, hj, hs⟩, hi⟩
  have hcursor : i.cursor = j := (Prod.mk.inj (Session.eq_of_place? hi hs.1)).2
  exact ⟨target.toNat, by omega, hs.setCursor _⟩

lemma steer_goes (target : Option Nat) (i : Instruction) :
    Preserves (Session.Goes id script m) (steer id target i : Engine H Unit) := by
  have htarget : Preserves (Session.Goes id script m) (jumpToTarget id target : Engine H Unit) := by
    cases target with
    | none => exact .throw _
    | some n => exact jump_goes n
  cases i with
  | jumpUnless c | jumpIf c =>
    exact ((Modular.preserves (Session.Goes id script m)).decideOn c).bind fun _ =>
      .ite htarget (.pure _)
  | jump => exact htarget
  | leave => exact (theInstance_here id).bind fun _ => jump_goes _
  | _ => exact .pure _

/-! ### Commands -/

lemma suspend_due (hn : 1 + k + V.turns script m ≤ n) :
    Triple (fun s => s.Goes id script m ∧ s.Awaits V k x) (suspend id x : Engine H Unit)
      (fun _ => Session.Due V id script n) fun _ => Session.Goes id script m := by
  rintro s ⟨⟨j, hj, hs⟩, hk⟩
  obtain ⟨i, hi, hr⟩ := Option.map_eq_some_iff.mp hs.2
  have hleft : V.turns script j ≤ V.turns script m := Pace.turns_le hj
  exact .of_ok (suspend_of_running hi hr x) (.waiting (hs.setStatus _) (hk.same rfl) (by omega))

lemma due_of_goes {α : Type} {P : Session H → Prop} {q : Engine H α} (hn : V.turns script m ≤ n)
    (hq : Preserves (Session.Goes id script m) q) :
    Triple (fun s => P s ∧ s.Goes id script m) q (fun _ => Session.Due V id script n)
      fun _ => Session.Goes id script m :=
  Triple.weaken hq (fun _ h => h.2) (fun _ _ h => h.due hn) fun _ _ h => h

variable (hS : w.services.Unattended V)

lemma perform_keepsTalk (S : Services H.Game) (c : Call) (u : Option (Talk InstanceId)) :
    Preserves (fun s : Session H => s.ui.talk = u) (perform S c) := by
  refine (perform_within (A := {.scene}) rfl S c).preserves ?_
  rintro _ rfl s t hc hs
  cases hc
  exact hs

include hS

lemma talk_due (first last : Int) :
    Triple (fun s => s.screen.Lasts V (V.frames - 1) ∧ s.Goes id script m)
      (talk w.services id first last)
      (fun _ => Session.Due V id script
        ((linesBetween V.text first last).length + V.turns script m))
      fun _ => Session.Goes id script m := by
  rintro s ⟨hlasts, hs⟩
  unfold talk
  rw [bind_of_ok (get_apply s)]
  rcases Stage.checkPromptFree_cases s.holders id s.screen with ⟨-, hfree⟩ | ⟨f, herror, -⟩
  · obtain ⟨u, scene, hbegin, -, hleaves⟩ :=
      beginTalk_reads hS.reads hlasts.fits hfree first last
    rw [bind_of_ok hbegin]
    have hgoes : (s.withTalk u scene).Goes id script m := hs
    generalize linesBetween V.text first last = lines at hleaves ⊢
    rcases hleaves with _ | @⟨l, z, -⟩
    · exact (due_of_goes (P := fun _ => True) (by omega)
        ((Modular.preserves (Session.Goes id script m)).checkDigits [first, last])) _ ⟨trivial, hgoes⟩
    · have hshow : Preserves (fun s => s.Goes id script m ∧ s.ui.talk = some z)
          (perform w.services (.showDialog l.text l.portrait)) :=
        (goes (perform_within (A := {.scene}) rfl _ _) (by simp)).and (perform_keepsTalk _ _ _)
      refine Triple.bind (Triple.weaken hshow (fun _ h => h) (fun _ _ h => h) fun _ _ h => h.1)
        (fun _ => ?_) _ ⟨hgoes, rfl⟩
      refine (suspend_due (k := (linesBetween V.text z.current z.last).length) ?_).weaken
        (fun s hs => ⟨hs.1, ?_⟩) (fun _ _ h => h) fun _ _ h => h
      · simp only [List.length_cons]
        omega
      · rintro z' hz
        obtain rfl : z = z' := Option.some.inj (hs.2.symm.trans hz)
        exact le_rfl
  · have hbegin : Stage.beginTalk w.services s.holders id first last s.screen =
        .error f s.screen := bind_of_error herror
    rw [bind_of_error (stage_of_error hbegin)]
    exact .error hs

omit hS in
lemma choose_due (S : Services H.Game) (a b question : String) (out : Option String) :
    Triple (Session.Goes id script m) (choose S id a b question out)
      (fun _ => Session.Due V id script (1 + V.turns script m)) fun _ => Session.Goes id script m := by
  refine Triple.after .get (fun _ _ h => h) fun s => ?_
  refine Triple.after (goes (beginSelection_within (A := {.chooser}) rfl _ id) (by simp))
    (fun _ _ h => h) fun _ => ?_
  refine Triple.after (goes (perform_within (A := {.scene}) rfl _ _) (by simp))
    (fun _ _ h => h) fun _ => ?_
  exact (suspend_due (k := 0) (by omega)).weaken (fun _ h => ⟨h, trivial⟩) (fun _ _ h => h)
    fun _ _ h => h

lemma waitMovieEnd_due :
    Triple (fun s => s.screen.Lasts V (V.frames - 1) ∧ s.Goes id script m)
      (carryOut w.services id .waitMovieEnd)
      (fun _ => Session.Due V id script (V.frames + V.turns script m))
      fun _ => Session.Goes id script m := by
  have hstays : Preserves (Session.Goes id script m)
      (stage (Stage.movieEnded w.services) : Engine H Bool) :=
    goes (movieEnded_within (A := {.scene}) rfl w.services) (by simp)
  have hlook := (stage_triple (H := H) (Stage.movieEnded_lasts (n := V.frames - 1) hS)).and_preserves
    hstays
  refine Triple.bind (hlook.weaken (fun _ h => ⟨h.2, h.1⟩) (fun _ _ h => h) fun _ _ h => h.1)
    fun ended => ?_
  cases ended with
  | true => exact Triple.pure fun s hs => hs.1.due (by omega)
  | false =>
    rintro s ⟨hs, hleft⟩
    obtain ⟨k, hk, hlasts⟩ := hleft rfl
    exact suspend_due (k := k) (x := .movie) (by omega) s ⟨hs, hlasts⟩

lemma carryOut_due {i : Instruction} (hi : i.dawdles = false) :
    Triple (fun s => s.screen.Lasts V (V.frames - 1) ∧ s.Goes id script m)
      (carryOut w.services id i) (fun _ => Session.Due V id script (V.holdUp i + V.turns script m))
      fun _ => Session.Goes id script m := by
  have hleft : V.turns script m ≤ V.holdUp i + V.turns script m := by omega
  have hquiet {A : Set Aspect} (hq : Within A (carryOut w.services id i : Engine H Unit))
      (hA : .cursor id ∉ A ∧ .status id ∉ A) := due_of_goes (P := fun s : Session H =>
        s.screen.Lasts V (V.frames - 1)) hleft (goes hq hA)
  cases i with
  | runScript | sleep | fadeOut | fadeIn => cases hi
  | talk first last => exact talk_due hS first last
  | choose a b question out =>
    exact (choose_due w.services a b question out).weaken (fun _ h => h.2) (fun _ _ h => h)
      fun _ _ h => h
  | waitMovieEnd => exact waitMovieEnd_due hS
  | assign x n => exact hquiet (assign_within (A := {.store}) rfl x n) (by simp)
  | add x n => exact hquiet (add_within (A := {.store}) rfl x n) (by simp)
  | playMovie file color =>
    exact hquiet ((playMovie_within (A := {.scene, .movie}) (by simp) (by simp) _ file color).bind
      fun _ => .pure _) (by simp)
  | stopMovie =>
    exact hquiet (stopMovie_within (A := {.scene, .movie}) (by simp) (by simp) _) (by simp)
  | _ => exact hquiet (carryOut_beside subset_rfl _ id rfl) (by simp)

lemma execute_due {c : Command} (hc : ∀ i, c.instruction? = some i → i.dawdles = false) :
    Triple (fun s => (s.hostCommands = [] ∧ s.screen.Lasts V (V.frames - 1)) ∧ s.Goes id script m)
      (execute w id c) (fun _ => Session.Due V id script (V.delay c + V.turns script m))
      fun _ => Session.Goes id script m := by
  have hleft : V.turns script m ≤ V.delay c + V.turns script m := by omega
  unfold execute
  split
  · exact due_of_goes hleft ((theInstance_here id).bind fun _ => .throw _)
  · next herror =>
    refine Triple.after (Leads.modify fun _ hs => hs) (fun _ _ h => h.2) fun _ => ?_
    split
    · next v hv =>
      have hinstruction := Command.instruction?_of herror hv
      refine Triple.after .get (fun _ _ h => h.2) fun s =>
        Triple.ite (fun _ _ hs => .error hs.2) fun _ => ?_
      cases hi : Instruction.ofArgs? v c.args with
      | none => exact Triple.throw fun _ hs => hs.2
      | some i =>
        have hdelay : V.delay c = V.holdUp i := by simp [Pace.delay, hinstruction, hi]
        refine Triple.ite (fun _ => due_of_goes hleft (steer_goes _ i)) fun _ => ?_
        rw [hdelay]
        exact (carryOut_due hS (hc i (hinstruction.trans hi))).weaken (fun _ h => ⟨h.1.2, h.2⟩)
          (fun _ _ h => h) fun _ _ h => h
    · refine Triple.get_bind fun s hs => ?_
      rw [hs.1.1]
      rintro _ rfl
      exact .error hs.2
    · exact Triple.throw fun _ hs => hs.2

/-! ### Waits -/

lemma waitDialogue_left :
    Triple (fun s => s.screen.Lasts V (V.frames - 1) ∧ s.Awaits V k .dialogue)
      (waitDialogue w.services id)
      (fun ready s => ready = false → ∃ j, k = j + 1 ∧ s.Awaits V j .dialogue) fun _ _ => True := by
  refine Triple.get_bind fun s hs => Triple.ite (fun _ => Triple.pure (by simp)) fun hholds => ?_
  obtain ⟨z, hz⟩ : ∃ z, s.ui.talk = some z := by
    cases hz : s.ui.talk with
    | none => simp [Ui.holdsTalk, hz] at hholds
    | some z => exact ⟨z, rfl⟩
  obtain ⟨scene, hended⟩ := hS.dialogEnded s.scene
  have hfits := (hS.offers .dialogEnded s.scene).fits hs.1.fits
  rw [endState_of_ok hended] at hfits
  obtain ⟨u, scene', hadvance, -, hleaves⟩ := Stage.advanceTalk_reads hS.reads
    (x := (s.withScene scene).screen) hz hfits
  have hlines := hs.2 z hz
  rintro t rfl
  rw [bind_of_ok (play_of_ok hended)]
  change Ends _ _ ((stage (Stage.advanceTalk w.services) >>= _) (t.withScene scene))
  rw [bind_of_ok (stage_of_ok hadvance)]
  generalize linesBetween V.text z.current z.last = lines at hlines hleaves ⊢
  rcases hleaves with _ | @⟨l, z', -⟩
  · exact .ok (by simp)
  · have hshow : Preserves (fun s : Session H => s.ui.talk = some z')
        (perform w.services (.showDialog l.text l.portrait)) := perform_keepsTalk _ _ _
    refine Triple.bind (Triple.weaken hshow (fun _ h => h) (fun _ _ h => h) fun _ _ _ => trivial)
      (fun _ => Triple.pure fun s hs _ => ?_) _ rfl
    refine ⟨k - 1, ?_, fun y hy => ?_⟩
    · simp only [List.length_cons] at hlines
      omega
    · obtain rfl : z' = y := Option.some.inj (hs.symm.trans hy)
      simp only [List.length_cons] at hlines
      omega

lemma waitSelection_over {P : Session H → Prop} (out : Option String) :
    Triple P (waitSelection w.services id out) (fun ready _ => ready = true) fun _ _ => True := by
  refine Triple.get_bind fun s _ => Triple.ite (fun _ => Triple.pure (by simp)) fun _ => ?_
  obtain ⟨scene, hended⟩ := hS.selectionEnded s.scene
  rintro _ rfl
  rw [bind_of_ok (play_of_ok hended)]
  refine Triple.bind (Triple.of_true (P := fun _ => True) _) (fun _ => ?_) _ trivial
  exact (Triple.of_true _).bind fun _ => (Triple.of_true _).bind fun _ => Triple.pure (by simp)

lemma pollWait_left (elapsed : Option Float) :
    Triple (fun s => s.Stands id p (.suspended x) ∧ s.screen.Lasts V (V.frames - 1) ∧
        s.Awaits V k x) (pollWait w id elapsed x)
      (fun ready s => s.Stands id p (.suspended x) ∧
        (ready = false → ∃ j, k = j + 1 ∧ s.Awaits V j x))
      fun _ s => s.Stands id p (.suspended x) ∧ True := by
  cases x with
  | dialogue =>
    exact (waitDialogue_left hS).and_preserves
      (stands (waitDialogue_within (A := {.scene, .talk}) (by simp) (by simp) _ id) (by simp))
  | selection out =>
    have hstays : Preserves (Session.Stands id p (.suspended (.selection out)))
        (waitSelection w.services id out) :=
      stands (waitSelection_within (A := {.scene, .chooser, .store}) (by simp) (by simp) (by simp)
        _ id out) (by simp)
    exact ((waitSelection_over hS out).and_preserves hstays).weaken (fun _ h => h)
      (fun _ _ h => ⟨h.1, by simp [h.2]⟩) fun _ _ h => h
  | movie =>
    have hstays : Preserves (Session.Stands id p (.suspended .movie))
        (stage (Stage.movieEnded w.services) : Engine H Bool) :=
      stands (movieEnded_within (A := {.scene}) rfl w.services) (by simp)
    have hlook := stage_triple (H := H) (Stage.movieEnded_lasts (n := k) hS)
    exact (hlook.and_preserves hstays).weaken (fun _ h => ⟨h.1, h.2.2⟩) (fun _ _ h => h)
      fun _ _ h => h
  | _ => exact fun s hs => hs.2.2.elim

lemma poll_left (elapsed : Option Float) :
    Triple (fun s => s.IsHostless ∧ s.Stands id p (.suspended x) ∧
        s.screen.Lasts V (V.frames - 1) ∧ s.Awaits V k x) (poll w id elapsed x)
      (fun ready s => s.Stands id p (.suspended x) ∧
        (ready = false → ∃ j, k = j + 1 ∧ s.Awaits V j x))
      fun _ s => s.Stands id p (.suspended x) ∧ True := by
  rintro s ⟨hless, hs⟩
  rw [poll_of_hostless hless]
  exact pollWait_left hS elapsed s hs

lemma checkWait_endsIn (elapsed : Option Float) (hn : k + V.turns script m ≤ n) :
    Triple (fun s => s.IsHostless ∧ s.Stands id (script, m) (.suspended x) ∧
        s.screen.Lasts V (V.frames - 1) ∧ s.Awaits V k x) (checkWait w id elapsed x)
      (fun ready s => if ready then s.place? id = some (script, m) else s.EndsIn V id script n)
      fun _ _ => True := by
  refine Triple.bind (attempt_triple (poll_left hS elapsed)) fun r => ?_
  cases r with
  | ok ready =>
    refine Triple.pure ?_
    rintro s ⟨hs, hleft⟩
    cases ready with
    | true => exact hs.1
    | false =>
      obtain ⟨j, rfl, hj⟩ := hleft rfl
      exact fun _ => ⟨by omega, .waiting hs hj (by omega)⟩
  | error f =>
    -- A wait that fails leaves the instance where it is, to go on or ended.
    have hplace {α : Type} {q : Engine H α} (hq : Within Aspect.steady q) :
        Triple (fun s => s.place? id = some (script, m)) q
          (fun _ s => s.place? id = some (script, m)) fun _ _ => True :=
      Triple.weaken (Leads.of_endState fun s hs => (hq s).keepsPlaces id _ hs) (fun _ h => h)
        (fun _ _ h => h) fun _ _ _ => trivial
    refine Triple.bind ((hplace (reportWait_within (canceling_steady id) _ f)).weaken
      (fun _ h => h.1.1) (fun _ _ h => h) fun _ _ h => h) fun _ => ?_
    refine theInstance_bind (fun i => Triple.ite (fun hended => Triple.pure ?_) fun _ => ?_)
      fun _ _ _ => trivial
    · rintro s ⟨-, hi⟩
      exact .of_ended (by simpa [Session.isActive, hi] using hended)
    · exact Triple.bind ((hplace (release_within (by simp) (by simp) (by simp) _ id)).weaken
        (fun _ h => h.1) (fun _ _ h => h) fun _ _ h => h) fun _ => Triple.pure fun _ h => h

/-! ### Steps -/

omit hS in
lemma resume_endsIn (hn : V.turns script m ≤ n) :
    Triple (fun s => s.place? id = some (script, m)) (do resume id; finish id)
      (fun _ => Session.EndsIn V id script n) fun _ _ => True := by
  refine Triple.bind (R := fun _ => Session.Stands id (script, m) .running) ?_ fun _ =>
    Triple.weaken (finish_endsIn hn) (fun _ h => h) (fun _ _ h => h) fun _ _ _ => trivial
  refine theInstance_bind (fun i => ?_) fun _ _ _ => trivial
  split
  · refine Triple.modify ?_
    rintro s ⟨hs, hi⟩
    have hstands : s.Stands id (script, m) i.status := ⟨hs, by simp [Session.status?, hi]⟩
    exact hstands.setStatus _
  · exact Triple.throw fun _ _ => trivial

lemma runCommandAt_endsIn {c : Command} (hc : script.commands[m]? = some c)
    (hbrisk : script.IsBrisk) (hn : V.turns script m ≤ n + 1) :
    Triple (fun s => s.IsHostless ∧ s.Stands id (script, m) .running ∧
        s.screen.Lasts V (V.frames - 1)) (runCommandAt w id c)
      (fun _ => Session.EndsIn V id script n) fun _ _ => True := by
  rw [Pace.turns_of_command hc] at hn
  refine theInstance_bind (fun i => ?_) fun _ _ _ => trivial
  refine Triple.bind (R := fun _ s => (s.hostCommands = [] ∧ s.screen.Lasts V (V.frames - 1)) ∧
    s.Goes id script (m + 1)) (Triple.modify ?_) fun _ => ?_
  · rintro s ⟨⟨hless, hs, hlasts⟩, hi⟩
    rw [(Prod.mk.inj (Session.eq_of_place? hi hs.1)).2]
    exact ⟨⟨hless.noCommands, hlasts⟩, m + 1, le_rfl, hs.setCursor _⟩
  refine Triple.bind (attempt_triple (execute_due hS (hbrisk c (List.mem_of_getElem? hc))))
    fun r => ?_
  have hreported (f : Counters → Counters) (level : LogLevel) (text : String) :
      Triple (Session.Goes id script (m + 1)) (do count f; logFor id level text; settle id)
        (fun _ => Session.EndsIn V id script n) fun _ _ => True := by
    refine Triple.after (goes (count_within (A := {.counters}) rfl f) (by simp))
      (fun _ _ _ => trivial) fun _ => ?_
    refine Triple.after (goes (logFor_within (A := {.scene}) rfl id level text) (by simp))
      (fun _ _ _ => trivial) fun _ => ?_
    exact Triple.weaken settle_endsIn (fun _ h => h.due (by omega)) (fun _ _ h => h)
      fun _ _ _ => trivial
  cases r with
  | ok _ =>
    exact Triple.weaken settle_endsIn (fun _ h => h.weaken (by omega)) (fun _ _ h => h)
      fun _ _ _ => trivial
  | error f =>
    cases f with
    | fatal text =>
      refine (Triple.of_true _).bind fun _ => (Triple.of_true _).bind fun _ => ?_
      exact (abort_ends w.services).bind fun _ => Triple.pure fun _ h => .of_ended h
    | _ => exact hreported _ _ _

omit hS in
lemma complete_endsIn : Triple (fun s : Session H => s.isActive id = true)
    (do complete id; return StepResult.completed) (fun _ => Session.EndsIn V id script n)
    fun _ _ => True := by
  have hcomplete : Leads (fun s : Session H => s.isActive id = true) (complete id)
      (fun s => s.status? id = some .completed) := terminate_status .completed _ _
  refine Triple.bind (Triple.weaken hcomplete (fun _ h => h) (fun _ _ h => h) fun _ _ _ => trivial)
    fun _ => Triple.pure fun s hs => .of_ended ?_
  rw [s.isActive_eq, hs]
  rfl

lemma step_endsIn (hbrisk : script.IsBrisk) (elapsed : Option Float) :
    Triple (fun s => s.IsHostless ∧ s.screen.Lasts V (V.frames - 1) ∧ s.Due V id script (n + 1))
      (step w id elapsed) (fun _ => Session.EndsIn V id script n) fun _ _ => True := by
  rintro s ⟨hless, hlasts, hdue⟩
  cases hdue with
  | @running m hs hn =>
    obtain ⟨i, hi, hr⟩ := Option.map_eq_some_iff.mp hs.2
    obtain ⟨rfl, rfl⟩ := Prod.mk.inj (Session.eq_of_place? hi hs.1)
    cases hc : i.command? with
    | some c =>
      rw [step_of_command w elapsed hi hr hc]
      exact runCommandAt_endsIn hS hc hbrisk hn s ⟨hless, hs, hlasts⟩
    | none =>
      unfold step
      rw [bind_of_ok (theInstance_of_some hi), hr]
      simp only [hc]
      have hactive : s.isActive id = true := by
        rw [s.isActive_eq, hs.2]
        rfl
      exact complete_endsIn s hactive
  | @waiting m k x hs hk hn =>
    obtain ⟨i, hi, hx⟩ := Option.map_eq_some_iff.mp hs.2
    unfold step
    rw [bind_of_ok (theInstance_of_some hi), hx]
    have hleft : k + V.turns script m ≤ n := by omega
    refine Triple.bind (checkWait_endsIn hS elapsed hleft) (fun ready => ?_) s
      ⟨hless, hs, hlasts, hk⟩
    cases ready with
    | true => exact resume_endsIn ((Nat.le_add_left _ k).trans hleft)
    | false =>
      exact Triple.after (theInstance_here id) (fun _ _ _ => trivial) fun _ =>
        Triple.pure fun _ h => h

lemma takeTurn_endsIn (hbrisk : script.IsBrisk) (elapsed : Option Float) :
    Triple (fun s => s.IsHostless ∧ s.screen.Lasts V (V.frames - 1) ∧ s.Due V id script (n + 1))
      (takeTurn w id elapsed) (fun _ => Session.EndsIn V id script n) fun _ _ => True := by
  refine Triple.bind (attempt_triple (step_endsIn hS hbrisk elapsed)) fun r => ?_
  cases r with
  | ok r => exact Triple.pure fun _ h => h
  | error f =>
    refine (Triple.of_true _).bind fun _ => (Triple.of_true _).bind fun _ => ?_
    refine (Triple.of_true _).bind fun _ => ?_
    exact (abort_ends w.services).bind fun _ => Triple.pure fun _ h => .of_ended h

end Engine

end EventScript
