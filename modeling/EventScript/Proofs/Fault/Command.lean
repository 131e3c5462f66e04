import EventScript.Proofs.Ensemble.Spot
import EventScript.Proofs.Fault.Spare

/-! Commands fail early: one that fails has left the session as it was. -/

namespace EventScript

variable {H : Host} {world : H.Game → Headless} {α : Type}

/-! ### Messages -/

namespace Template

def Piece.isPlain : Piece → Bool
  | .char _ => true
  | .field key conversion layout => key = "name".toList && conversion.isNone && layout.isEmpty

lemma mapM_isSome {α β : Type} {f : α → Option β} {xs : List α}
    (h : ∀ x ∈ xs, (f x).isSome = true) : (xs.mapM f).isSome = true := by
  induction xs with
  | nil => rfl
  | cons x xs ih =>
    obtain ⟨hx, hxs⟩ := List.forall_mem_cons.mp h
    obtain ⟨y, hy⟩ := Option.isSome_iff_exists.mp hx
    obtain ⟨ys, hys⟩ := Option.isSome_iff_exists.mp (ih hxs)
    simp [List.mapM_cons, hy, hys]

lemma fill_isSome {template : String} (value : String)
    (h : (pieces? .text template.toList).any (·.all Piece.isPlain) = true) :
    (fill template "name" value).isSome = true := by
  obtain ⟨ps, hps, hplain⟩ := (Option.any_eq_true _ _).mp h
  rw [List.all_eq_true] at hplain
  have hlookup : lookup? "name" value ['n', 'a', 'm', 'e'] = some value.toList := rfl
  have hread : Layout.read? [] = some {} := rfl
  rw [fill, depthLimit, Option.isSome_map, fillChars, hps]
  change (Option.bind (List.mapM _ ps) _).isSome = true
  rw [Option.isSome_bind, Option.any_eq_true]
  refine (Option.isSome_iff_exists.mp (mapM_isSome fun p hp => ?_)).imp fun _ hx => ⟨hx, rfl⟩
  cases p with
  | char c => rfl
  | field key conversion layout =>
    have hfield := hplain _ hp
    simp only [Piece.isPlain, Bool.and_eq_true, decide_eq_true_eq, Option.isNone_iff_eq_none,
      List.isEmpty_iff] at hfield
    obtain ⟨⟨rfl, rfl⟩, rfl⟩ := hfield
    simp [hlookup, convert?, hread, Layout.lay?]

end Template

/-! ### On screen -/

section Screen

variable {σ η : Type} {S : Services σ} {w : σ → Headless} (hS : S.FailsEarly w)

include hS

lemma Services.FailsEarly.stopMovie : Returns (Stage.stopMovie S : Stage σ η Unit) :=
  Stage.stopMovie_returns (fun _ => hS.grants (.videoStopped _)) fun _ => hS.grants (.stopVideo _)

lemma Stage.playMovie_returns (file : String) {color : Color}
    (hcolor : color.parts.any Text.exceedsDigitLimit = false) :
    Returns (playMovie S file color : Stage σ η Bool) := by
  refine hS.stopMovie.bind fun _ => ?_
  refine (play_returns (hS.playVideo file color hcolor)).bind fun video => ?_
  split
  · exact (play_returns (Returns.modify _)).bind fun _ => .pure _
  · exact (Returns.modify _).bind fun _ => .pure _

lemma Stage.movieEnded_returns : Returns (movieEnded S : Stage σ η Bool) := by
  refine Returns.get.bind fun x => ?_
  split
  · exact .pure _
  · exact play_returns (hS.grants (.videoStopped _))

/-- The game can be written out, and so can the portrait of the line that was found. -/
def Screen.Found (w : σ → Headless) (line : Option TalkLine) (x : Screen σ η) : Prop :=
  (w x.scene.game).IsPrintable ∧ ∀ l, line = some l → Text.exceedsDigitLimit l.portrait = false

lemma Stage.seekLine_found (n : Nat) : Triple (fun x : Screen σ η => (w x.scene.game).IsPrintable)
    (seekLine S n) (Screen.Found w) fun _ _ => True := by
  induction n with
  | zero => exact Triple.pure fun x hx => ⟨hx, by simp⟩
  | succ n ih =>
    refine Triple.get_bind fun x hx => ?_
    split
    · rintro _ rfl
      exact .ok ⟨hx, by simp⟩
    · next t ht =>
      have hline : Triple (· = x) (play (S.talkLine t.current) : Stage σ η (Option TalkLine))
          (Screen.Found w) fun _ _ => True := by
        rintro x rfl
        have hkept := (hS.keeps.asks (.offered (.talkLine t.current))).endState hx
        unfold play
        cases h : S.talkLine t.current x.scene with
        | ok line y =>
          rw [endState_of_ok h] at hkept
          exact .ok ⟨hkept, by rintro l rfl; exact hS.line _ _ l y hx h⟩
        | error f y => exact .error trivial
      refine hline.bind fun line => Triple.bind (R := fun _ => Screen.Found w line)
        (Triple.modify fun y hy => hy) fun _ => ?_
      cases line with
      | some l => exact Triple.pure fun y hy => hy
      | none => exact ih.weaken (fun _ h => h.1) (fun _ _ h => h) fun _ _ h => h

lemma Stage.advanceTalk_found : Triple (fun x : Screen σ η => (w x.scene.game).IsPrintable)
    (advanceTalk S) (Screen.Found w) fun _ _ => True := by
  refine Triple.get_bind fun x hx => ?_
  split
  · rintro _ rfl
    exact .ok ⟨hx, by simp⟩
  · refine Triple.bind (R := Screen.Found w) ((seekLine_found hS _).weaken
      (by rintro _ rfl; exact hx) (fun _ _ h => h) fun _ _ h => h) fun line => ?_
    exact Triple.ite (fun _ => Triple.bind (R := fun _ => Screen.Found w line)
      (Triple.modify fun _ h => h) fun _ => Triple.pure fun _ h => h) fun _ => Triple.pure fun _ h => h

variable [DecidableEq η]

lemma Stage.beginTalk_cases (holders : Holders η) (who : η) (first last : Int) {x : Screen σ η}
    (hx : (w x.scene.game).IsPrintable) :
    (∃ line y, beginTalk S holders who first last x = .ok line y ∧ y.Found w line ∧
        (line = none → y.ui.talk = none)) ∨
      ∃ f, beginTalk S holders who first last x = .error f x := by
  unfold beginTalk
  rcases checkPromptFree_cases holders who x with ⟨hok, -⟩ | ⟨f, herr, -⟩
  · let x' : Screen σ η := { x with ui := { x.ui with
      talk := some { holder := who, first, last, current := first } } }
    obtain ⟨line, u, scene, h, hcases⟩ :=
      advanceTalk_of_talk (fun i => hS.grants (.talkLine i)) (x := x') rfl
    rw [bind_of_ok hok]
    refine .inl ⟨line, _, h, (advanceTalk_found hS).answer (s := x') hx h, ?_⟩
    rintro rfl
    rcases hcases with ⟨-, rfl⟩ | ⟨l, t', hl, -⟩
    · rfl
    · cases hl
  · exact .inr ⟨f, bind_of_error herr⟩

end Screen

namespace Engine

variable {b : Session H} {S : Services H.Game} {id : InstanceId}

lemma returns_play {p : Play H.Game α} (hp : Returns p) : Returns (play p : Engine H α) :=
  returns_stage (Stage.play_returns hp)

lemma stage_running (p : Stage H.Game InstanceId α) :
    Preserves (fun s : Session H => s.status? id = some .running) (stage p) := by
  intro s hs
  unfold stage
  cases p s.screen
  · exact .ok hs
  · exact .error hs

/-! ### Waiting and looking things up -/

lemma suspend_returns {s : Session H} (hs : s.status? id = some .running) (x : Wait H.Predicate) :
    ∃ a t, suspend id x s = .ok a t := by
  obtain ⟨i, hi, hr⟩ := Option.map_eq_some_iff.mp hs
  exact ⟨_, _, suspend_of_running hi hr x⟩

lemma stage_suspend_failsEarly (hb : b.IsReady world id) {p : Stage H.Game InstanceId α}
    (hp : FailsEarly world b (stage p)) {f : α → Engine H Unit}
    (hf : ∀ a s, s.status? id = some .running → ∃ c t, f a s = .ok c t) :
    FailsEarly world b (stage p >>= f) :=
  hp.follow (stage_running p) (fun _ hs => (hs.isReady hb).running) hf

lemma suspend_failsEarly (hb : b.IsReady world id) (x : Wait H.Predicate) :
    FailsEarly world b (suspend id x) := by
  intro s hs
  obtain ⟨a, t, h⟩ := suspend_returns (hs.isReady hb).running x
  exact .of_ok h trivial

lemma updateEntity_returns (e : Option EntityId) (f : Entity → Entity) :
    Returns (updateEntity e f : Engine H Unit) := by
  cases e with
  | none => exact .pure _
  | some e => exact returns_play (.modify _)

lemma updateOfKind_failsEarly (kind : EntityKind) (e : Option EntityId) (f : Entity → Entity) :
    FailsEarly world b (updateOfKind kind e f : Engine H Unit) := by
  refine .bind .get fun s => ?_
  dsimp only
  split
  · exact .of_returns (.pure _)
  · exact .ite (.of_returns (updateEntity_returns _ _)) (.throw _)

lemma readScript_failsEarly (path : Path) :
    FailsEarly world b (readScript path : Engine H Script) := by
  refine .bind .get fun s => ?_
  split
  · exact .of_returns (.pure _)
  · refine .bind (Within.ofExcept _).spares fun text => .bind (Within.ofExcept _).spares fun x => ?_
    have hput (f : Session H → Session H) : Returns (do
        modify f
        return x : Engine H Script) := (Returns.modify f).bind fun _ => .pure _
    dsimp only
    split
    · exact .of_returns ((returns_play (.modify _)).bind fun _ => hput _)
    · exact .of_returns (hput _)

lemma owner?_returns {s : Session H} (hs : s.status? id = some .running) :
    ∃ o, owner? id s = .ok o s := by
  obtain ⟨i, hi, -⟩ := Option.map_eq_some_iff.mp hs
  exact ⟨_, bind_of_ok (theInstance_of_some hi)⟩

section Services

variable (hS : S.FailsEarly world)

include hS

lemma perform_returns {c : Call} (hc : c.isRisky = false) : Returns (perform S c : Engine H Unit) :=
  returns_play (hS.grants (.perform c hc))

lemma perform_failsEarly {c : Call} (hc : c.noted.any Text.exceedsDigitLimit = false) :
    FailsEarly world b (perform S c : Engine H Unit) := by
  rintro s hs
  obtain ⟨x, n, hx, hn, rfl⟩ := hs
  let s : Session H := { b.withScene x with counters := n }
  change Ends _ _ (play (S.perform c) s)
  cases h : S.perform c x with
  | ok a y => exact .of_ok (play_of_ok (s := s) h) trivial
  | error f y =>
    rw [play_of_error (s := s) h]
    exact .error fun hp => ⟨y, n, hx.trans (hS.perform c x f y h hc hp.money), hn, rfl⟩

/-- What one asks for is shown, and one waits on it. -/
lemma prompt_returns {c : Call} (hc : c.isPrompt = true)
    (hnoted : c.noted.any Text.exceedsDigitLimit = false) (x : Wait H.Predicate) {s : Session H}
    (hr : s.status? id = some .running) (hs : (world s.scene.game).IsPrintable) :
    ∃ t, (perform S c >>= fun _ => suspend id x) s = .ok () t := by
  obtain ⟨y, h⟩ := hS.prompt c s.scene hc hnoted hs
  unfold perform
  rw [bind_of_ok (play_of_ok h)]
  obtain ⟨_, t, h⟩ := suspend_returns (s := s.withScene y) hr x
  exact ⟨t, h⟩

lemma loadHere_failsEarly (file : String) :
    FailsEarly world b (loadHere S file : Engine H Script) := by
  refine .bind (answer_spares hS .mapName) fun map => .bind .get fun s => ?_
  refine .bind (Within.ofExcept _).spares fun path => ?_
  split
  · exact readScript_failsEarly _
  · exact .throw _

lemma loadOptional_failsEarly (file : String) :
    FailsEarly world b (loadOptional S file : Engine H (Option Script)) :=
  .ite (.of_returns (.pure _)) ((loadHere_failsEarly hS file).followReturns fun _ => .pure _)

lemma runScript_failsEarly (hb : b.IsReady world id) (file : String) :
    FailsEarly world b (runScript S id file : Engine H Unit) := by
  refine .bind .get fun s => .guard ?_
  have hcalm : Preserves (fun t : Session H => t.status? id = some .running) (loadHere S file) :=
    (loadHere_within (A := Aspect.beside) (fun _ h => h) S file).preserves fun a ha =>
      status?_ignores (by rcases ha with rfl | rfl <;> rfl) _
  refine (loadHere_failsEarly hS file).follow hcalm (fun _ hs => (hs.isReady hb).running) ?_
  intro script t ht
  obtain ⟨o, ho⟩ := owner?_returns ht
  rw [bind_of_ok ho, bind_of_ok (start_apply _ _ _ _ t)]
  exact ⟨_, _, rfl⟩

/-! ### Commands -/

lemma talk_cases {s : Session H} (hr : s.status? id = some .running)
    (hs : (world s.scene.game).IsPrintable) (first last : Int) :
    (∃ t, talk S id first last s = .ok () t) ∨ (∃ f, talk S id first last s = .error f s) ∨
      ∃ t, talk S id first last s = .error .tooManyDigits t ∧ t.ui.talk = none ∧
        [first, last].any Text.exceedsDigitLimit = true := by
  unfold talk
  rw [bind_of_ok (get_apply s)]
  rcases Stage.beginTalk_cases hS s.holders id first last (x := s.screen) hs with
    ⟨line, y, h, hfound, hnone⟩ | ⟨f, h⟩
  · rw [bind_of_ok (stage_of_ok h)]
    cases line with
    | none =>
      cases hany : [first, last].any Text.exceedsDigitLimit with
      | true =>
        exact .inr (.inr ⟨_, (checkDigits_apply _ _).trans (if_pos hany), hnone rfl, rfl⟩)
      | false =>
        exact .inl ⟨_, (checkDigits_apply _ _).trans (if_neg (Bool.eq_false_iff.mp hany))⟩
    | some line =>
      refine .inl (prompt_returns hS rfl ?_ .dialogue (s := { s with screen := y }) hr hfound.1)
      simp [Call.noted, hfound.2 line rfl]
  · exact .inr (.inl ⟨f, bind_of_error (stage_of_error h)⟩)

lemma choose_cases {s : Session H} (hr : s.status? id = some .running)
    (hs : (world s.scene.game).IsPrintable) (x y question : String) (out : Option String) :
    (∃ t, choose S id x y question out s = .ok () t) ∨
      ∃ f, choose S id x y question out s = .error f s := by
  unfold choose
  rw [bind_of_ok (get_apply s)]
  rcases Stage.beginSelection_cases s.holders id s.screen with ⟨h, -⟩ | ⟨f, h, -⟩
  · rw [bind_of_ok (stage_of_ok h)]
    exact .inl (prompt_returns hS rfl rfl _ (s := { s with screen := _ }) hr hs)
  · exact .inr ⟨f, bind_of_error (stage_of_error h)⟩

lemma talk_failsEarly (hb : b.IsReady world id) {first last : Int}
    (hdigits : [first, last].any Text.exceedsDigitLimit = false) :
    FailsEarly world b (talk S id first last) := by
  intro s hs
  have hready := hs.isReady hb
  rcases talk_cases hS hready.running hready.game first last with ⟨t, h⟩ | ⟨f, h⟩ | ⟨t, -, -, hany⟩
  · exact .of_ok h trivial
  · rw [h]
    exact .error fun _ => hs
  · cases hany.symm.trans hdigits

lemma choose_failsEarly (hb : b.IsReady world id) (x y question : String) (out : Option String) :
    FailsEarly world b (choose S id x y question out) := by
  intro s hs
  have hready := hs.isReady hb
  rcases choose_cases hS hready.running hready.game x y question out with ⟨t, h⟩ | ⟨f, h⟩
  · exact .of_ok h trivial
  · rw [h]
    exact .error fun _ => hs

lemma showNamed_returns {template : String}
    (h : (Template.pieces? .text template.toList).any (·.all Template.Piece.isPlain) = true)
    (name : String) : Returns (showNamed S template name : Engine H Unit) := by
  obtain ⟨text, htext⟩ := Option.isSome_iff_exists.mp (Template.fill_isSome name h)
  unfold showNamed
  rw [htext]
  exact perform_returns hS rfl

lemma addGood_failsEarly (hb : b.IsReady world id) (file : String) :
    FailsEarly world b (addGood S file : Engine H Unit) := by
  refine Triple.get_bind fun s hs => Triple.of_returns ?_
  rw [(hs.isReady hb).settings]
  refine (returns_play (hS.grants (.addGood file))).bind fun r => ?_
  have hview : Returns (perform S .updateGoodsView : Engine H Unit) := perform_returns hS rfl
  dsimp only
  split
  · exact (showNamed_returns hS rfl _).bind fun _ => hview
  · exact (perform_returns hS rfl).bind fun _ => hview

lemma addMagic_failsEarly (hb : b.IsReady world id) (file : String) :
    FailsEarly world b (addMagic S file : Engine H Unit) := by
  refine Triple.get_bind fun s hs => Triple.of_returns ?_
  rw [(hs.isReady hb).settings]
  refine (returns_play (hS.grants (.addMagic file))).bind fun r => ?_
  split
  · exact (showNamed_returns hS rfl _).bind fun _ => perform_returns hS rfl
  · exact showNamed_returns hS rfl _
  · exact perform_returns hS rfl

lemma setLevelFile_failsEarly (file : String) :
    FailsEarly world b (setLevelFile S id file : Engine H Unit) := by
  refine .bind (entityOfKind_within _ id).spares fun e => ?_
  split
  · exact .of_returns (.pure _)
  · exact .bind .get fun s => .bind (answer_spares hS (.levelList _)) fun _ =>
      .of_returns (updateEntity_returns _ _)

lemma addRandMoney_failsEarly {least most : Int}
    (hdigits : [least, most].any Text.exceedsDigitLimit = false) :
    FailsEarly world b (addRandMoney S least most : Engine H Unit) := by
  obtain ⟨hleast, hmost⟩ : Text.exceedsDigitLimit least = false ∧
      Text.exceedsDigitLimit most = false := by simpa using hdigits
  have hP := spares_inquiring (b := b) hS
  have hdraw : Triple (b.Spared world) (play (S.random least (most + 1)))
      (fun n s => b.Spared world s ∧ Text.exceedsDigitLimit n = false)
      fun _ s => b.Spared world s := by
    intro s hs
    have h := answer_spares hS (.random least (most + 1)) s hs
    cases hr : S.random least (most + 1) s.scene with
    | ok n y =>
      obtain ⟨hlo, hhi⟩ := hS.draws _ _ _ _ _ hr
      rw [play_of_ok hr] at h ⊢
      cases h with
      | ok h => exact .ok ⟨h, Text.exceedsDigitLimit_between hlo (by omega) hleast hmost⟩
    | error f y =>
      rw [play_of_error hr] at h ⊢
      cases h with
      | error h => exact .error h
  have hearn : FailsEarly world b (do
      perform S (.addPlayerMoney (← play (S.random least (most + 1)))) : Engine H Unit) := by
    refine Triple.bind (hdraw.weaken (fun _ h => h) (fun _ _ h => h) fun _ _ h _ => h) fun n s hs => ?_
    exact perform_failsEarly hS (by simp [Call.noted, hs.2]) s hs.1
  refine .bind hP.requirePlayer fun _ => .ite (.bind ?_ fun _ => hearn) hearn
  exact (hP.checkDigits _).bind fun _ => .throw _

end Services

lemma assign_failsEarly (x : String) (n : Int) :
    FailsEarly world b (assign x n : Engine H Unit) := by
  intro s hs
  rw [assign_apply]
  split
  · exact .error fun _ => hs
  · exact .ok trivial

/-- Adding fails only after it has added, but then the sum cannot be written out. -/
lemma add_failsEarly (x : String) {n : Int} (hn : Text.exceedsDigitLimit n = false) :
    FailsEarly world b (add x n : Engine H Unit) := by
  intro s hs
  rw [add_apply, hn, Bool.false_or]
  split
  · next hsum => exact .error fun hprint => by simp [hprint.store x] at hsum
  · exact .ok trivial

lemma carryOut_failsEarly (hS : S.FailsEarly world) (hb : b.IsReady world id) {i : Instruction}
    (hi : i.noted.any Text.exceedsDigitLimit = false) : FailsEarly world b (carryOut S id i) := by
  have hP := spares_inquiring (b := b) hS
  have hscript {e : Option EntityId} (file : String) (f : Option Script → Entity → Entity) :
      FailsEarly world b (do
        let script ← loadOptional S file
        updateEntity e (f script) : Engine H Unit) :=
    (loadOptional_failsEarly hS file).followReturns fun _ => updateEntity_returns _ _
  -- Each program is put together from parts that fail early or not at all; only in the last part may
  -- something have happened that fails after all.
  cases i with
  | jumpUnless | jumpIf | jump | pass | leave => exact .of_returns (.pure _)
  | assign x n => exact assign_failsEarly x n
  | add x n => exact add_failsEarly x (by simpa [Instruction.noted] using hi)
  | talk first last => exact talk_failsEarly hS hb hi
  | choose x y question out => exact choose_failsEarly hS hb x y question out
  | memoLine index | messageLine index =>
    refine .bind (hP.talkText? index) fun text => ?_
    split
    · exact perform_failsEarly hS rfl
    · exact .of_returns (.pure _)
  | sleep n =>
    change FailsEarly world b (sleep id n)
    unfold sleep
    split
    · exact suspend_failsEarly hb _
    · exact .throw _
  | fadeOut | fadeIn =>
    exact stage_suspend_failsEarly hb (.of_returns (returns_stage (.modify _))) fun _ _ ht =>
      suspend_returns ht _
  | playSound file =>
    exact .bind hP.listener fun _ => .bind (hP.owner? id) fun _ =>
      perform_failsEarly hS rfl
  | playMovie file color =>
    have hplay := returns_stage (H := H) (Stage.playMovie_returns hS file hi)
    exact .of_returns (hplay.bind fun _ => .pure _)
  | stopMovie => exact .of_returns (returns_stage hS.stopMovie)
  | waitMovieEnd =>
    refine stage_suspend_failsEarly hb (.of_returns (returns_stage (Stage.movieEnded_returns hS)))
      fun stopped t ht => ?_
    cases stopped with
    | true => exact ⟨_, _, rfl⟩
    | false => exact suspend_returns ht .movie
  | runScript file => exact runScript_failsEarly hS hb file
  | setNpcScript name file | setNpcDeathScript name file =>
    exact .bind (hP.character? id name) fun _ => hscript file _
  | setObjScript name file => exact .bind (hP.obj? id name) fun _ => hscript file _
  | addRandMoney least most => exact addRandMoney_failsEarly hS hi
  | setNpcLevel name level =>
    exact .bind (hP.character? id name) fun _ => updateOfKind_failsEarly _ _ _
  | setLevelFile file => exact setLevelFile_failsEarly hS file
  | addGoods file => exact addGood_failsEarly hS hb file
  | addRandGoods file =>
    exact .bind .get fun _ => .bind (hP.randomItem _) fun _ =>
      .ite (addGood_failsEarly hS hb _) (.of_returns (.pure _))
  | deleteOwnGood =>
    refine .bind (hP.owner? id) fun owner => ?_
    split
    · exact .ite (perform_failsEarly hS rfl) (.of_returns (.pure _))
    · exact .of_returns (.pure _)
  | addMagic file => exact addMagic_failsEarly hS hb file
  | setMagicLevel file level =>
    exact .of_returns ((perform_returns hS rfl).bind fun _ => perform_returns hS rfl)
  | loadMap file =>
    exact .of_returns ((perform_returns hS rfl).bind fun _ =>
      (returns_play (.modify _)).bind fun _ => perform_returns hS rfl)
  | deleteOwnObj =>
    exact .bind (hP.entityOfKind _ id) fun _ => .of_returns (updateEntity_returns _ _)
  | openBox name => exact .bind (hP.obj? id name) fun _ => updateOfKind_failsEarly _ _ _
  | saveTraps => exact .bind .get fun _ => perform_failsEarly hS rfl
  | call c => exact perform_failsEarly hS hi
  | callForPlayer c => exact .bind hP.requirePlayer fun _ => perform_failsEarly hS hi
  | callIfPlayer c =>
    exact .bind (hP.answers .player) fun _ =>
      .ite (perform_failsEarly hS hi) (.of_returns (.pure _))

lemma jump_failsEarly (target : Int) : FailsEarly world b (jump id target : Engine H Unit) :=
  .bind (theInstance_within id).spares fun _ => .guard (.of_returns (.modify _))

lemma steer_failsEarly (target : Option Nat) (i : Instruction) :
    FailsEarly world b (steer id target i : Engine H Unit) := by
  have hjump : FailsEarly world b (jumpToTarget id target : Engine H Unit) := by
    cases target with
    | none => exact .throw _
    | some t => exact jump_failsEarly t
  cases i with
  | jumpUnless c | jumpIf c =>
    refine .bind ((Within.modular ∅).decideOn c).spares fun _ => .ite hjump (.of_returns (.pure _))
  | jump => exact hjump
  | leave => exact .bind (theInstance_within id).spares fun _ => jump_failsEarly _
  | _ => exact .of_returns (.pure _)

end Engine

/-- All numbers that are noted when the command is carried out can be written out. -/
def Command.IsPrintable (c : Command) : Prop :=
  ∀ i, c.instruction? = some i → i.noted.any Text.exceedsDigitLimit = false

lemma Engine.execute_failsEarly {w : Wiring H} {id : InstanceId} {b : Session H} {c : Command}
    (hS : w.services.FailsEarly world) (hb : b.IsReady world id) (hc : c.IsPrintable) :
    FailsEarly world b (execute w id c) := by
  unfold execute
  split
  · exact .bind (theInstance_within id).spares fun _ => .throw _
  · next herror =>
    have hcount : Preserves (b.Spared world) (count Counters.countExecuted : Engine H Unit) := by
      refine Leads.modify ?_
      rintro _ ⟨x, n, hx, hn, rfl⟩
      exact ⟨x, n.countExecuted, hx, hn, rfl⟩
    refine .bind hcount fun _ => ?_
    split
    · next v hkind =>
      refine .bind .get fun s => .guard ?_
      split
      · exact .throw _
      · next i hi =>
        refine .ite (steer_failsEarly _ _) (carryOut_failsEarly hS hb (hc i ?_))
        rw [Command.instruction?_of herror hkind, hi]
    · refine Triple.get_bind fun s hs => ?_
      rw [(hs.isReady hb).noCommands]
      rintro _ rfl
      exact .error fun _ => hs
    · exact .throw _

end EventScript
