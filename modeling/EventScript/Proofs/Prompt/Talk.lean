import EventScript.Proofs.Prompt.Poll

/-! A dialogue shows the lines of its range, each once and in order, one at a time as those before
have been read. -/

namespace EventScript

/-! ### Lines of talk text -/

variable {text : Int → Option TalkLine}

def linesFrom (text : Int → Option TalkLine) (i : Int) (n : Nat) : List TalkLine :=
  (List.range n).filterMap fun k : Nat => text (i + k)

def linesBetween (text : Int → Option TalkLine) (first last : Int) : List TalkLine :=
  linesFrom text first (last + 1 - first).toNat

lemma linesFrom_succ (i : Int) (n : Nat) :
    linesFrom text i (n + 1) = (text i).toList ++ linesFrom text (i + 1) n := by
  have hshift (k : Nat) : text (i + (k + 1 : Nat)) = text (i + 1 + k) := by
    congr 1
    omega
  have hfirst : text (i + (0 : Nat)) = text i := congrArg text (Int.add_zero i)
  unfold linesFrom
  rw [List.range_succ_eq_map, List.filterMap_cons, List.filterMap_map, hfirst]
  simp only [Function.comp_def, Nat.succ_eq_add_one, hshift]
  cases text i <;> rfl

def TalkLine.display (l : TalkLine) : String × Int := (l.text, l.portrait)

/-- The game has this talk text, and `shown` is what it was told to show in dialogues. -/
structure Services.Recites {σ : Type} (S : Services σ) (text : Int → Option TalkLine)
    (shown : σ → List (String × Int)) : Prop where
  talkLine : ∀ i x, ∃ y, S.talkLine i x = .ok (text i) y ∧ shown y.game = shown x.game
  showDialog : ∀ t p x, ∃ y, S.perform (.showDialog t p) x = .ok () y ∧
    shown y.game = shown x.game ++ [(t, p)]
  dialogEnded : ∀ x, ∃ b y, S.dialogEnded x = .ok b y ∧ shown y.game = shown x.game

/-- As long as the property holds the game has this talk text, and it survives that it is asked. -/
def Services.Reads {σ : Type} (S : Services σ) (text : Int → Option TalkLine)
    (J : Scene σ → Prop) : Prop :=
  ∀ i x, J x → ∃ y, S.talkLine i x = .ok (text i) y ∧ J y

lemma Services.Recites.reads {σ : Type} {S : Services σ} {shown : σ → List (String × Int)}
    (hS : S.Recites text shown) (ts : List (String × Int)) :
    S.Reads text fun x => shown x.game = ts := by
  intro i x hx
  obtain ⟨y, h, hshown⟩ := hS.talkLine i x
  exact ⟨y, h, hshown.trans hx⟩

namespace Stage

variable {σ η : Type} {S : Services σ} {J : Scene σ → Prop} {x : Screen σ η} {t : Talk η}

lemma play_of_ok {α : Type} {p : Play σ α} {a : α} {y : Scene σ} (h : p x.scene = .ok a y) :
    play p x = .ok a { x with scene := y } := by
  simp [play, h]

lemma seekLine_reads (hS : S.Reads text J) {n : Nat} (ht : x.ui.talk = some t)
    (hn : n = (t.last + 1 - t.current).toNat) (hx : J x.scene) :
    ∃ t' scene, seekLine S n x = .ok (linesFrom text t.current n).head?
        { scene := scene, ui := { x.ui with talk := some t' } } ∧
      J scene ∧ t'.holder = t.holder ∧
      linesBetween text t'.current t'.last = (linesFrom text t.current n).tail := by
  induction n generalizing x t with
  | zero =>
    refine ⟨t, x.scene, by rw [← ht]; rfl, hx, rfl, ?_⟩
    rw [linesBetween, ← hn]
    rfl
  | succ n ih =>
    obtain ⟨scene, hline, hscene⟩ := hS t.current x.scene hx
    have hn' : n = (t.last + 1 - (t.current + 1)).toNat := by omega
    unfold seekLine
    rw [bind_of_ok (get_apply x)]
    simp only [ht]
    rw [bind_of_ok (play_of_ok hline), linesFrom_succ]
    cases hl : text t.current with
    | some l =>
      refine ⟨{ t with current := t.current + 1 }, scene, rfl, hscene, rfl, ?_⟩
      rw [linesBetween, ← hn']
      rfl
    | none =>
      exact ih (x := { scene := scene
                       ui := { x.ui with talk := some { t with current := t.current + 1 } } })
        (t := { t with current := t.current + 1 }) rfl hn' hscene

/-- Where the dialogue stands after it has shown the first of these lines. -/
inductive Leaves (text : Int → Option TalkLine) (holder : η) :
    List TalkLine → Option (Talk η) → Prop
  | over : Leaves text holder [] none
  | more {l : TalkLine} {t : Talk η} : t.holder = holder →
      Leaves text holder (l :: linesBetween text t.current t.last) (some t)

lemma advanceTalk_reads (hS : S.Reads text J) (ht : x.ui.talk = some t) (hx : J x.scene) :
    ∃ u scene, advanceTalk S x = .ok (linesBetween text t.current t.last).head?
        { scene := scene, ui := { x.ui with talk := u } } ∧
      J scene ∧ Leaves text t.holder (linesBetween text t.current t.last) u := by
  obtain ⟨t', scene, h, hscene, hholder, hrest⟩ := seekLine_reads hS ht rfl hx
  unfold advanceTalk
  rw [bind_of_ok (get_apply x)]
  simp only [ht]
  rw [bind_of_ok h]
  unfold linesBetween
  cases hlines : linesFrom text t.current (t.last + 1 - t.current).toNat with
  | nil => exact ⟨none, scene, rfl, hscene, .over⟩
  | cons l ls =>
    rw [hlines] at hrest
    refine ⟨some t', scene, rfl, hscene, ?_⟩
    rw [show ls = linesBetween text t'.current t'.last from hrest.symm]
    exact .more hholder

end Stage

variable {H : Host} {w : Wiring H} {shown : H.Game → List (String × Int)} {s t : Session H}
  {id : InstanceId}

def Session.withTalk (s : Session H) (y : Option (Talk InstanceId)) (scene : Scene H.Game) :
    Session H :=
  { s with screen := { scene, ui := { s.screen.ui with talk := y } } }

namespace Engine

/-! ### The command -/

lemma beginTalk_reads {J : Scene H.Game → Prop} (hS : w.services.Reads text J) (hs : J s.scene)
    (hfree : ¬ s.ui.IsTakenFrom s.holders id) (first last : Int) :
    ∃ y scene, stage (Stage.beginTalk w.services s.holders id first last) s =
        .ok (linesBetween text first last).head? (s.withTalk y scene) ∧
      J scene ∧ Stage.Leaves text id (linesBetween text first last) y := by
  rcases Stage.checkPromptFree_cases s.holders id s.screen with ⟨hok, -⟩ | ⟨f, -, htaken, -⟩
  · obtain ⟨y, scene, hadv, hscene, hleaves⟩ := Stage.advanceTalk_reads hS
      (x := { s.screen with ui := { s.screen.ui with
        talk := some { holder := id, first, last, current := first } } }) rfl hs
    refine ⟨y, scene, stage_of_ok ?_, hscene, hleaves⟩
    unfold Stage.beginTalk
    rw [bind_of_ok hok]
    exact hadv
  · exact absurd htaken hfree

variable (hS : w.services.Recites text shown)

include hS

lemma talk_without_lines (hfree : ¬ s.ui.IsTakenFrom s.holders id) {first last : Int}
    (hlines : linesBetween text first last = []) :
    ∃ scene, talk w.services id first last s =
        checkDigits [first, last] (s.withTalk none scene) ∧
      shown scene.game = shown s.scene.game := by
  obtain ⟨y, scene, hbegin, hshown, hleaves⟩ := beginTalk_reads (hS.reads _) rfl hfree first last
  rw [hlines] at hbegin hleaves
  cases hleaves
  refine ⟨scene, ?_, hshown⟩
  unfold talk
  rw [bind_of_ok (get_apply s), bind_of_ok hbegin]
  rfl

lemma show_recites (l : TalkLine) (s : Session H) :
    ∃ scene, perform w.services (.showDialog l.text l.portrait) s = .ok () (s.withScene scene) ∧
      shown scene.game = shown s.scene.game ++ [l.display] := by
  obtain ⟨scene, h, hshown⟩ := hS.showDialog l.text l.portrait s.scene
  exact ⟨scene, play_of_ok h, hshown⟩

lemma talk_with_lines (hfree : ¬ s.ui.IsTakenFrom s.holders id) (hr : s.status? id = some .running)
    {first last : Int} {l : TalkLine} {ls : List TalkLine}
    (hlines : linesBetween text first last = l :: ls) :
    ∃ y scene, talk w.services id first last s = .ok () ((s.withTalk (some y) scene).modifyInstance id
        ({ · with status := .suspended .dialogue })) ∧
      shown scene.game = shown s.scene.game ++ [l.display] ∧ y.holder = id ∧
      ls = linesBetween text y.current y.last := by
  obtain ⟨y, scene, hbegin, hshown, hleaves⟩ := beginTalk_reads (hS.reads _) rfl hfree first last
  rw [hlines] at hbegin hleaves
  cases hleaves with
  | @more _ y hholder =>
    obtain ⟨scene', hshow, hshown'⟩ := show_recites hS l (s.withTalk (some y) scene)
    obtain ⟨i, hi, hr⟩ := Option.map_eq_some_iff.mp hr
    refine ⟨y, scene', ?_, hshown'.trans (congrArg (· ++ [l.display]) hshown), hholder, rfl⟩
    unfold talk
    rw [bind_of_ok (get_apply s), bind_of_ok hbegin]
    dsimp only [List.head?_cons]
    rw [bind_of_ok hshow]
    exact suspend_of_running (s := s.withTalk (some y) scene') hi hr .dialogue

/-! ### The wait -/

variable {y : Talk InstanceId}

lemma waitDialogue_recites (hs : s.Holds (.talk y) .dialogue) :
    ∃ b scene, w.services.dialogEnded s.scene = .ok b scene ∧
      shown scene.game = shown s.scene.game ∧
      (b = false → waitDialogue w.services y.holder s = .ok false (s.withScene scene)) ∧
      (b = true → linesBetween text y.current y.last = [] → ∃ scene',
        waitDialogue w.services y.holder s = .ok true (s.withTalk none scene') ∧
          shown scene'.game = shown s.scene.game) ∧
      (b = true → ∀ l ls, linesBetween text y.current y.last = l :: ls → ∃ y' scene',
        waitDialogue w.services y.holder s = .ok false (s.withTalk (some y') scene') ∧
          shown scene'.game = shown s.scene.game ++ [l.display] ∧ y'.holder = y.holder ∧
          ls = linesBetween text y'.current y'.last) := by
  have hheld : s.ui.talk = some y := hs.held
  have hholds : s.ui.holdsTalk y.holder = true := by simp [Ui.holdsTalk, hheld]
  obtain ⟨b, scene, hended, hshown⟩ := hS.dialogEnded s.scene
  obtain ⟨u, scene', hadv, hshown', hleaves⟩ := Stage.advanceTalk_reads (hS.reads _)
    (x := (s.withScene scene).screen) hheld rfl
  unfold waitDialogue
  rw [bind_of_ok (get_apply s), hholds]
  refine ⟨b, scene, hended, hshown, ?_, ?_, ?_⟩
  · rintro rfl
    exact bind_of_ok (play_of_ok hended)
  · rintro rfl hlines
    rw [hlines] at hadv hleaves
    cases hleaves
    refine ⟨scene', ?_, hshown'.trans hshown⟩
    refine (bind_of_ok (play_of_ok hended)).trans ?_
    exact bind_of_ok (stage_of_ok hadv)
  · rintro rfl l ls hlines
    rw [hlines] at hadv hleaves
    cases hleaves with
    | @more _ y' hholder =>
      obtain ⟨scene'', hshow, hshown''⟩ := show_recites hS l (s.withTalk (some y') scene')
      refine ⟨y', scene'', ?_, ?_, hholder, rfl⟩
      · refine (bind_of_ok (play_of_ok hended)).trans ?_
        refine (bind_of_ok (stage_of_ok hadv)).trans ?_
        exact bind_of_ok hshow
      · rw [hshown'']
        exact congrArg (· ++ [l.display]) (hshown'.trans hshown)

end Engine

/-! ### Steps -/

def Session.IsTalking (id : InstanceId) (s : Session H) : Prop :=
  s.status? id = some (.suspended .dialogue) ∧ s.talker? = some id

def Session.HasYet (text : Int → Option TalkLine) (N : Prop) (id : InstanceId)
    (ts : List (String × Int)) (s : Session H) : Prop :=
  ∃ y : Talk InstanceId, s.HoldsFast N (.talk y) .dialogue ∧ y.holder = id ∧
    (linesBetween text y.current y.last).map TalkLine.display = ts

lemma Session.HasYet.isTalking {N : Prop} {ts : List (String × Int)}
    (hs : s.HasYet text N id ts) : s.IsTalking id := by
  obtain ⟨y, hy, rfl, -⟩ := hs
  have hheld : s.ui.talk = some y := hy.holds.held
  exact ⟨hy.holds.suspended, by simp [Session.talker?, hheld]⟩

def Turn.dialogEnded (w : Wiring H) (u : Turn H) : Bool :=
  match w.services.dialogEnded u.before.scene with
  | .ok b _ => b
  | .error .. => false

namespace Act

variable {u v : Act H} {ls : List TalkLine}

def shows (shown : H.Game → List (String × Int)) (v : Act H) : List (String × Int) :=
  (shown v.after.scene.game).drop (shown v.before.scene.game).length

lemma shows_of_append {ts : List (String × Int)}
    (h : shown v.after.scene.game = shown v.before.scene.game ++ ts) : v.shows shown = ts := by
  rw [shows, h, List.drop_left]

lemma shows_of_eq (h : shown v.after.scene.game = shown v.before.scene.game) :
    v.shows shown = [] :=
  shows_of_append (by rw [h, List.append_nil])

lemma talks (hS : w.services.Recites text shown) (hu : u.IsStep w)
    (hwithdrawn : u.before.withdrawn = []) {first last : Int}
    (hx : u.instruction? = some (.talk first last))
    (hfree : ¬ u.before.ui.IsTakenFrom u.before.holders u.id) :
    (linesBetween text first last = [] →
      u.shows shown = [] ∧ u.after.ui.talk = none ∧ u.after.HasGoneOn u.id) ∧
    ∀ l ls, linesBetween text first last = l :: ls → u.shows shown = [l.display] ∧
      ∃ y, u.after.Holds (.talk y) .dialogue ∧ u.after.active = u.before.active ∧
        y.holder = u.id ∧ ls = linesBetween text y.current y.last := by
  obtain ⟨elapsed, hafter⟩ := hu
  obtain ⟨n, hrunning, hsuspends, hgoes, hfails⟩ := Engine.step_of_asks hwithdrawn rfl hx elapsed
  let s := u.before.fetched u.id n
  have hfree' : ¬ s.ui.IsTakenFrom s.holders u.id := mt Session.isTaken_fetched.mp hfree
  refine ⟨fun hlines => ?_, fun l ls hlines => ?_⟩
  · obtain ⟨scene, htalk, hshown⟩ := Engine.talk_without_lines hS hfree' hlines
    -- That there is nothing to show is noted with both numbers, and only that can fail.
    rw [Engine.checkDigits_apply] at htalk
    obtain ⟨hgone, hsame⟩ : u.after.HasGoneOn u.id ∧ (s.withTalk none scene).Agrees u.after := by
      rw [hafter]
      split at htalk
      · exact hfails _ _ htalk (by simp) hrunning
      · exact hgoes _ htalk hrunning
    exact ⟨shows_of_eq ((congrArg shown hsame.game).trans hshown), congrArg Ui.talk hsame.ui, hgone⟩
  · obtain ⟨y, scene, htalk, hshown, hholder, hrest⟩ :=
      Engine.talk_with_lines hS hfree' hrunning hlines
    have ht := (s.withTalk (some y) scene).status?_suspended (x := .dialogue) hrunning
    rw [hsuspends _ _ htalk ht] at hafter
    refine ⟨shows_of_append (by rw [hafter]; exact hshown), y, ?_, by rw [hafter]; rfl,
      hholder, hrest⟩
    rw [hafter]
    refine ⟨?_, rfl⟩
    rw [show (Hold.talk y).holder = u.id from hholder]
    exact ht

lemma tells (hS : w.services.Recites text shown) (hv : v.IsStep w) {N : Prop}
    {ts : List (String × Int)} (hs : v.before.HasYet text N v.id ts) :
    (v.dialogEnded w = false → v.shows shown = [] ∧ v.after.HasYet text N v.id ts) ∧
    (v.dialogEnded w = true → ts = [] →
      v.shows shown = [] ∧ v.after.ui.talk = none ∧ v.after.HasGoneOn v.id) ∧
    (v.dialogEnded w = true → ∀ l ls, ts = l :: ls →
      v.shows shown = [l] ∧ v.after.HasYet text N v.id ls) := by
  obtain ⟨elapsed, hafter⟩ := hv
  obtain ⟨y, hy, hid, rfl⟩ := hs
  rw [← hid] at hafter ⊢
  obtain ⟨b, scene, hended, hshown, hno, hover, hmore⟩ := Engine.waitDialogue_recites hS hy.holds
  have hsuspended : v.before.status? y.holder = some (.suspended .dialogue) := hy.holds.suspended
  have hb : v.dialogEnded w = b := by
    unfold Turn.dialogEnded
    rw [hended]
  rw [hb]
  refine ⟨fun hb => ?_, fun hb hlines => ?_, fun hb l ls hlines => ?_⟩
  · rw [Engine.step_waits hsuspended (Engine.checkWait_of_ok hy.hostless (hno hb))] at hafter
    refine ⟨shows_of_eq (by rw [hafter]; exact hshown), y, ?_, rfl, rfl⟩
    rw [hafter]
    exact ⟨hy.hostless.same rfl rfl rfl,
      ⟨hy.holds.suspended, hy.holds.held⟩, hy.listed⟩
  · obtain ⟨scene', hwait, hshown'⟩ := hover hb (List.map_eq_nil_iff.mp hlines)
    obtain ⟨hgone, hsame⟩ := Engine.step_goesOn hsuspended
      (Engine.checkWait_of_ok hy.hostless hwait) hsuspended
    rw [← hafter] at hgone hsame
    exact ⟨shows_of_eq ((congrArg shown hsame.game).trans hshown'), congrArg Ui.talk hsame.ui, hgone⟩
  · obtain ⟨line, lines, hbetween, rfl, rfl⟩ := List.map_eq_cons_iff.mp hlines
    obtain ⟨y', scene', hwait, hshown', hholder, hrest⟩ := hmore hb line lines hbetween
    rw [Engine.step_waits hsuspended (Engine.checkWait_of_ok hy.hostless hwait)] at hafter
    refine ⟨shows_of_append (by rw [hafter]; exact hshown'), y', ?_, hholder,
      congrArg (List.map _) hrest.symm⟩
    have hsame : (Hold.talk y').holder = y.holder := hholder
    rw [hafter]
    refine ⟨hy.hostless.same rfl rfl rfl, ⟨?_, rfl⟩, fun h => ?_⟩
    · rw [hsame]
      exact hsuspended
    · rw [hsame]
      exact hy.listed h

end Act

/-! ### Whole dialogues -/

/-- How often an instance found, in its steps, that the line on screen had been read. -/
def timesRead (w : Wiring H) (id : InstanceId) (vs : List (Act H)) : Nat :=
  (actsOf id vs).countP (·.dialogEnded w)

section TimesRead

variable {vs : List (Act H)} {v : Act H}

lemma timesRead_concat_self (hv : v.id = id) :
    timesRead w id (vs ++ [v]) = timesRead w id vs + if v.dialogEnded w then 1 else 0 := by
  simp [timesRead, actsOf_concat_self hv]

lemma timesRead_concat_of_ne (hv : v.id ≠ id) : timesRead w id (vs ++ [v]) = timesRead w id vs := by
  rw [timesRead, actsOf_concat_of_ne hv, timesRead]

end TimesRead

variable {A : Set (Aside H)} {N : Prop} {u : Act H} {vs : List (Act H)} {ts : List (String × Int)}

lemma Course.tells (hS : w.services.PerformsPrompts) (hR : w.services.Recites text shown)
    (hA : .newGame ∈ A → N) (hu : u.shows shown = ts.take 1)
    (hyet : u.after.HasYet text N u.id (ts.drop 1)) (h : Course w A u.after vs t)
    (hn : timesRead w u.id vs < ts.length) :
    t.IsCanceled u.id ∨
      (u :: actsOf u.id vs).flatMap (·.shows shown) = ts.take (timesRead w u.id vs + 1) ∧
        t.HasYet text N u.id (ts.drop (timesRead w u.id vs + 1)) := by
  -- What was shown and what is still to come make up `ts` at every moment of the course.
  induction h with
  | start => exact .inr ⟨by simpa [actsOf, timesRead] using hu, hyet⟩
  | @act t vs v hvs hv hbefore ih =>
    subst hbefore
    by_cases hid : v.id = u.id
    · rw [timesRead_concat_self hid] at hn ⊢
      rw [actsOf_concat_self hid, ← List.cons_append, List.flatMap_append, List.flatMap_singleton]
      refine (ih (by omega)).elim (fun hc => .inl (hv.isCanceled hc)) ?_
      rintro ⟨hshown, hs⟩
      rw [← hid] at hs
      obtain ⟨hno, -, hmore⟩ := Act.tells hR hv hs
      rw [hshown, ← hid]
      cases hread : v.dialogEnded w with
      | false =>
        obtain ⟨hnone, hs'⟩ := hno hread
        rw [hnone]
        exact .inr ⟨by simp, hs'⟩
      | true =>
        simp only [hread, if_true, ← hid] at hn ⊢
        obtain ⟨hline, hs'⟩ := hmore hread _ _ (List.drop_eq_getElem_cons (hid ▸ hn))
        refine .inr ⟨?_, hs'⟩
        rw [hline]
        exact List.take_append_getElem hn
    · rw [timesRead_concat_of_ne hid] at hn ⊢
      rw [actsOf_concat_of_ne hid]
      refine (ih hn).elim (fun hc => .inl (hv.isCanceled hc)) ?_
      rintro ⟨hshown, y, hy, hholder, hrest⟩
      have hother : v.id ≠ (Hold.talk y).holder := fun h => hid (h.trans hholder)
      exact .inr ⟨hshown, y, hv.holdsFast hother hy, hholder, hrest⟩
  | @aside t vs a hvs ha ih =>
    refine (ih hn).elim (fun hc => .inl ?_) ?_
    · exact ((isCanceled_dependsOnStatus u.id).aside (fun _ h => h.1) w a).endState hc
    · rintro ⟨hshown, y, hy, hholder, hrest⟩
      have hlasts : Session.Lasts N (.talk y) .dialogue (endState (a.run w) t) :=
        (Engine.aside_lasts hS fun h => hA (h ▸ ha)).endState (.inl hy)
      rcases hlasts with hlasts | hlasts
      · exact .inr ⟨hshown, y, hlasts, hholder, hrest⟩
      · exact .inl (hholder ▸ hlasts)

/-- Every history of a session is a course. Whoever has a dialogue accepted in one shows the lines of
its range, as its lines are found read, and nothing can keep it from that but being canceled; if the
schedule does not run it, a new game can. -/
theorem dialogue_shows_its_lines (w : Wiring H) (hS : w.services.PerformsPrompts)
    (hR : w.services.Recites text shown) {s₀ : Session H} (h₀ : s₀.IsAtStart) :
    (∀ rs, ∃ us, Course w .univ s₀ us (s₀.after w rs)) ∧
    ∀ us s, Course w .univ s₀ us s → ∀ u : Act H, u.IsStep w → u.before = s →
      ∀ first last, u.instruction? = some (.talk first last) →
      ¬ s.ui.IsTakenFrom s.holders u.id →
      let lines := (linesBetween text first last).map TalkLine.display
      (lines = [] → u.shows shown = [] ∧ u.after.ui.talk = none ∧ u.after.HasGoneOn u.id) ∧
      (lines ≠ [] → u.shows shown = lines.take 1 ∧ u.after.IsTalking u.id) ∧
      ∀ A : Set (Aside H), u.id ∈ s.active ∨ .newGame ∉ A →
        ∀ vs t, Course w A u.after vs t → timesRead w u.id vs < lines.length →
        t.IsCanceled u.id ∨
          (u :: actsOf u.id vs).flatMap (·.shows shown) = lines.take (timesRead w u.id vs + 1) ∧
          t.IsTalking u.id ∧
          ∀ v : Act H, v.IsStep w → v.before = t → v.id = u.id →
            (v.dialogEnded w = false → v.shows shown = [] ∧ v.after.IsTalking u.id) ∧
            (v.dialogEnded w = true → ∀ l, lines[timesRead w u.id vs + 1]? = some l →
              v.shows shown = [l] ∧ v.after.IsTalking u.id) ∧
            (v.dialogEnded w = true → timesRead w u.id vs + 1 = lines.length →
              v.shows shown = [] ∧ v.after.ui.talk = none ∧ v.after.HasGoneOn u.id) := by
  refine ⟨s₀.after_course w, ?_⟩
  rintro us _ hus u hu rfl first last hx hfree lines
  have hwithdrawn := hus.withdrawn h₀
  have hless := (hus.act hu rfl).isHostless h₀
  obtain ⟨hnone, hsome⟩ := Act.talks hR hu hwithdrawn hx hfree
  -- The first line is shown in the step that asks for the dialogue; the others are still to come.
  have hyet {N : Prop} (hN : N → u.id ∈ u.before.active) (hlines : lines ≠ []) :
      u.shows shown = lines.take 1 ∧ u.after.HasYet text N u.id (lines.drop 1) := by
    obtain ⟨l, ls, hls⟩ := List.exists_cons_of_ne_nil (mt (congrArg (List.map _)) hlines)
    obtain ⟨hshown, y, hheld, hactive, hholder, hrest⟩ := hsome l ls hls
    have hlines : lines = l.display :: ls.map TalkLine.display := congrArg (List.map _) hls
    rw [hlines, hshown]
    refine ⟨rfl, y, ⟨hless, hheld, fun h => ?_⟩, hholder, congrArg (List.map _) hrest.symm⟩
    rw [hactive, show (Hold.talk y).holder = u.id from hholder]
    exact hN h
  refine ⟨fun hlines => hnone (List.map_eq_nil_iff.mp hlines), fun hlines => ?_,
    fun A hA vs t hvs hn => ?_⟩
  · obtain ⟨hshown, hyet⟩ := hyet (N := False) False.elim hlines
    exact ⟨hshown, hyet.isTalking⟩
  · have hlines : lines ≠ [] := List.ne_nil_of_length_pos (by omega)
    obtain ⟨hshown, hfirst⟩ := hyet (N := u.id ∈ u.before.active) id hlines
    have hnew : .newGame ∈ A → u.id ∈ u.before.active := fun h => hA.resolve_right (not_not_intro h)
    refine (Course.tells hS hR hnew hshown hfirst hvs hn).imp_right ?_
    rintro ⟨hshown, hs⟩
    refine ⟨hshown, hs.isTalking, ?_⟩
    rintro v hv rfl hid
    rw [← hid] at hs ⊢
    obtain ⟨hno, hover, hmore⟩ := Act.tells hR hv hs
    refine ⟨fun hread => ⟨(hno hread).1, (hno hread).2.isTalking⟩, fun hread x hx => ?_,
      fun hread hlast => hover hread ?_⟩
    · obtain ⟨hlt, rfl⟩ := List.getElem?_eq_some_iff.mp hx
      obtain ⟨hline, hs'⟩ := hmore hread _ _ (List.drop_eq_getElem_cons hlt)
      exact ⟨hline, hs'.isTalking⟩
    · rw [hlast, List.drop_length]

/-! ### A game of nothing but lines -/

/-- A game in which every line is read at once, and which keeps what it was told to show. -/
def Services.reader (text : TalkText) : Services (List (String × Int)) :=
  { Services.silent fun lo _ => return lo with
    perform := fun
      | .showDialog text portrait => Play.updateGame (· ++ [(text, portrait)])
      | _ => pure ()
    talkLine := fun i => return text.get? i }

namespace Reader

abbrev host : Host := .plain (List (String × Int))

def told (g : host.Game) : List (String × Int) := g

/-- Of these three lines the second is missing. -/
def lines : TalkText := [(1, ⟨1, 0, "one"⟩), (3, ⟨3, 4, "three"⟩)]

def wiring : Wiring host := (Services.reader lines).wiring

def talk : Command := { kind := .builtin .talk, name := "Talk", args := [.int 1, .int 3] }

def script : Script := { name := "tale", commands := [talk] }

lemma services_performsPrompts : wiring.services.PerformsPrompts := by
  refine ⟨fun c _ s => ?_⟩
  cases c <;> exact ⟨(), _, rfl⟩

lemma services_recites : wiring.services.Recites lines.get? told where
  talkLine _ x := ⟨x, rfl, rfl⟩
  showDialog _ _ _ := ⟨_, rfl, rfl⟩
  dialogEnded x := ⟨true, x, rfl, rfl⟩

end Reader

theorem dialogue_shows_its_lines_reader : ∃ s₀ s : Session Reader.host,
    Reader.wiring.services.PerformsPrompts ∧
      Reader.wiring.services.Recites Reader.lines.get? Reader.told ∧ s₀.IsAtStart ∧
      Course Reader.wiring .univ s₀ [] s ∧ ∃ u v : Act Reader.host,
      u.IsStep Reader.wiring ∧ u.before = s ∧ u.instruction? = some (.talk 1 3) ∧
      ¬ s.ui.IsTakenFrom s.holders u.id ∧ u.id ∈ s.active ∧ v.IsStep Reader.wiring ∧
      v.before = u.after ∧ v.id = u.id ∧ u.shows Reader.told = [("one", 0)] ∧
      v.shows Reader.told = [("three", 4)] ∧ v.after.IsTalking u.id := by
  have hstart : ∃ s₀ : Session Reader.host, s₀.IsAtStart ∧
      let s := endState (Aside.opening.run Reader.wiring)
        (endState ((Request.start Reader.script none true none).run Reader.wiring) s₀)
      Turn.command? ⟨s, 0⟩ = some (0, Reader.talk) ∧ s.ui.talk.isNone ∧ s.ui.chooser = none ∧
        0 ∈ s.active := by
    refine ⟨.sample 1 { game := [] }, Session.sample_isAtStart, ?_, ?_, ?_, ?_⟩ <;>
      decide +kernel
  obtain ⟨s₀, h₀, hcommand, htalk, hchooser, hlisted⟩ := hstart
  set s := endState (Aside.opening.run Reader.wiring)
    (endState ((Request.start Reader.script none true none).run Reader.wiring) s₀)
  have hx : Turn.instruction? ⟨s, 0⟩ = some (.talk 1 3) :=
    (Turn.instruction?_of_command hcommand).trans rfl
  have hfree := Ui.not_isTakenFrom htalk hchooser s.holders 0
  let u := Turn.act Reader.wiring none ⟨s, 0⟩
  let v := Turn.act Reader.wiring none ⟨u.after, 0⟩
  obtain ⟨-, hfirst, hlater⟩ := (dialogue_shows_its_lines Reader.wiring Reader.services_performsPrompts
    Reader.services_recites h₀).2 [] s (Course.opened _) u (Turn.act_isStep _ _) rfl 1 3 hx hfree
  obtain ⟨hone, htalking⟩ := hfirst (by decide)
  rcases hlater .univ (.inl hlisted) [] u.after .start Nat.two_pos with
    ⟨-, hcanceled, -⟩ | ⟨-, -, hv⟩
  · simp [htalking.1] at hcanceled
  · obtain ⟨hthree, hv⟩ := (hv v (Turn.act_isStep _ _) rfl rfl).2.1 rfl ("three", 4) rfl
    exact ⟨s₀, s, Reader.services_performsPrompts, Reader.services_recites, h₀, Course.opened _, u, v,
      Turn.act_isStep _ _, rfl, hx, hfree, hlisted, Turn.act_isStep _ _, rfl, rfl, hone, hthree, hv⟩

/-- One that the schedule does not run has its dialogue taken away by a new game, and goes on without
showing the rest. -/
theorem new_game_silences_unlisted : ∃ s₀ : Session Reader.host, s₀.IsAtStart ∧
    let s := endState ((Aside.create Reader.script none true none).run Reader.wiring) s₀
    let u := Turn.act Reader.wiring none ⟨s, 0⟩
    let v := Turn.act Reader.wiring none ⟨endState (Aside.newGame.run Reader.wiring) u.after, 0⟩
    u.command? = some (0, Reader.talk) ∧ s.ui.talk.isNone ∧ s.ui.chooser = none ∧
      u.shows Reader.told = [("one", 0)] ∧
      (v.before.status? 0).map Status.tag = some "SUSPENDED" ∧
      v.dialogEnded Reader.wiring = true ∧ v.shows Reader.told = [] ∧
      (v.after.status? 0).map Status.tag = some "COMPLETED" := by
  refine ⟨.sample 1 { game := [] }, Session.sample_isAtStart,
    ?_, ?_, ?_, ?_, ?_, ?_, ?_, ?_⟩ <;> decide +kernel

end EventScript
