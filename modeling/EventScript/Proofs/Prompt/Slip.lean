import EventScript.Proofs.Prompt.Duty

/-! Asking for the prompt. Who is not refused waits on what it has got, unless the game fails to
show it: then the instance goes on, and keeps what it never waits on. -/

namespace EventScript

variable {H : Host} {w : Wiring H} {S : Services H.Game} {s t : Session H} {p : PromptPart}
  {k : InstanceId} {x : Instruction}

/-- The instance asks for this part of the prompt, and nobody keeps it back. -/
structure Act.Claims (p : PromptPart) (v : Act H) : Prop where
  asks : v.instruction?.bind Instruction.part? = some p
  free : ¬ v.before.ui.IsTakenFrom v.before.holders v.id

/-- The command fails, if not fatally, before the instance waits on what it has claimed. -/
structure Act.Slips (w : Wiring H) (p : PromptPart) (v : Act H) : Prop extends v.Claims p where
  fails : ∃ i x f t, v.before.instance? v.id = some i ∧ v.instruction? = some x ∧
    Engine.carryOut w.services v.id x (v.before.fetched v.id (i.cursor + 1)) = .error f t ∧
    (∀ text, f ≠ .fatal text) ∧ t.holder? p = some v.id

/-- When the instance claimed this part for the last time, it slipped. -/
def Slipped (w : Wiring H) (p : PromptPart) (k : InstanceId) (us : List (Act H)) : Prop :=
  ∃ us₁ v us₂, us = us₁ ++ v :: us₂ ∧ v.id = k ∧ v.Slips w p ∧ ∀ u ∈ us₂, u.id = k → ¬ u.Claims p

lemma Instruction.asks_of_part? (hx : x.part? = some p) : x.asks = true := by
  cases x <;> first | rfl | cases hx

lemma Session.Agrees.holder? (h : s.Agrees t) : t.holder? p = s.holder? p := by
  cases p with
  | dialogue => exact congrArg (·.talk.map (·.holder)) h.ui
  | selection => exact congrArg Ui.chooser h.ui

namespace Engine

open Session

lemma beginTalk_talker {first last : Int} (hfree : ¬ s.ui.IsTakenFrom s.holders k) :
    Ends (fun line t => t.talker? = if line.isSome then some k else none)
      (fun _ t => t.talker? = some k) (stage (Stage.beginTalk S s.holders k first last) s) := by
  rcases Stage.checkPromptFree_cases s.holders k s.screen with ⟨hok, -⟩ | ⟨f, -, htaken, -⟩
  · unfold Stage.beginTalk
    rw [stage_bind, bind_of_ok (stage_of_ok hok), stage_bind,
      bind_of_ok (stage_of_ok (Stage.setTalk_apply _ _))]
    exact advanceTalk_talker (some k) _ rfl
  · exact absurd htaken hfree

lemma present_held {y : Wait H.Predicate} (c : Call) :
    Triple (fun t => t.status? k = some .running ∧ t.holder? p = some k) (do
      perform S c
      suspend k y : Engine H Unit) (fun _ t => t.status? k = some (.suspended y))
      fun _ t => t.status? k = some .running ∧ t.holder? p = some k := by
  have hperform : Preserves (fun t : Session H => t.status? k = some .running ∧ t.holder? p = some k)
      (perform S c) := by
    refine (perform_within (A := {.scene}) rfl S c).preserves ?_
    rintro _ rfl t u hc ⟨hr, hh⟩
    refine ⟨status?_ignores_of_ne (by simp) t u hc hr, ?_⟩
    rwa [hc.holder? (by cases p <;> simp [PromptPart.aspect])]
  refine Triple.bind hperform fun _ t ht => ?_
  obtain ⟨i, hi, hr⟩ := Option.map_eq_some_iff.mp ht.1
  rw [suspend_of_running hi hr]
  exact .ok (t.status?_suspended ht.1)

/-- One that is not refused waits on what it has or has nothing, unless the game fails: then it
still runs and has what it asked for. -/
lemma carryOut_claims (hx : x.part? = some p) (hr : s.status? k = some .running)
    (hfree : ¬ s.ui.IsTakenFrom s.holders k) :
    Ends (fun _ t => (∃ y, t.status? k = some (.suspended y) ∧ y.kind = p.kind) ∨
        t.status? k = some .running ∧ t.Lacks p k)
      (fun _ t => t.status? k = some .running ∧ (t.holder? p = some k ∨ t.Lacks p k))
      (carryOut S k x s) := by
  cases x with
  | talk first last =>
    obtain rfl := Option.some.inj hx
    have hbegin : Triple (fun t => t.status? k = some .running ∧ t = s)
        (stage (Stage.beginTalk S s.holders k first last) : Engine H (Option TalkLine))
        (fun line t => t.status? k = some .running ∧
          t.talker? = if line.isSome then some k else none)
        fun _ t => t.status? k = some .running ∧ t.talker? = some k := by
      refine Triple.and_preserves ?_ ?_
      · rintro _ rfl
        exact beginTalk_talker hfree
      · exact (beginTalk_within (A := {.scene, .talk}) (by simp) (by simp) S _ k first
          last).preserves fun _ ha => status?_ignores_of_ne (by rintro rfl; simp at ha)
    refine Triple.apply (P := (· = s)) (Triple.get_bind fun t ht => ?_) rfl
    subst ht
    refine Triple.bind (hbegin.weaken (by rintro _ rfl; exact ⟨hr, rfl⟩) (fun _ _ h => h)
      fun _ _ h => ⟨h.1, .inl h.2⟩) fun line => ?_
    cases line with
    | none =>
      -- There is nothing to show, and only the note of that can fail.
      have hlacks : Leads (fun t : Session H => t.status? k = some .running ∧ t.talker? = none)
          (checkDigits [first, last]) fun t =>
            t.status? k = some .running ∧ t.Lacks .dialogue k := by
        refine ((Modular.preserves _).checkDigits _).weaken (fun _ h => h) fun t ht => ?_
        exact ⟨ht.1, by simp [Lacks, Session.holder?, ht.2]⟩
      exact Triple.weaken hlacks (fun _ h => h) (fun _ _ h => .inr h) fun _ _ h => ⟨h.1, .inr h.2⟩
    | some line =>
      exact (present_held (p := .dialogue) _).weaken (fun _ h => h)
        (fun _ _ h => .inl ⟨_, h, rfl⟩) fun _ _ h => ⟨h.1, .inl h.2⟩
  | choose a b question out =>
    obtain rfl := Option.some.inj hx
    rcases Stage.beginSelection_cases s.holders k s.screen with ⟨hbegin, -⟩ | ⟨f, -, htaken⟩
    · unfold carryOut choose
      dsimp only
      rw [bind_of_ok (get_apply s), bind_of_ok (stage_of_ok hbegin)]
      exact ((present_held (p := .selection) _).weaken (fun _ h => h)
        (fun _ _ h => .inl ⟨_, h, rfl⟩) fun _ _ h => ⟨h.1, .inl h.2⟩) _ ⟨hr, rfl⟩
    · exact absurd htaken hfree
  | _ => cases hx

lemma step_claims (hdialog : Returns (w.services.perform .closeDialog))
    (hselection : Returns (w.services.perform .closeSelection)) (hs : s.withdrawn = [])
    (hx : Turn.instruction? ⟨s, k⟩ = some x) (hpart : x.part? = some p)
    (hfree : ¬ s.ui.IsTakenFrom s.holders k) (elapsed : Option Float) :
    ∃ i, s.instance? k = some i ∧
      ((∀ f t, carryOut w.services k x (s.fetched k (i.cursor + 1)) = .error f t →
          (∃ text, f = .fatal text) ∨ t.Lacks p k) ∧
          (endState (step w k elapsed) s).HoldsDuly p k ∨
        ∃ f t, carryOut w.services k x (s.fetched k (i.cursor + 1)) = .error f t ∧
          (∀ text, f ≠ .fatal text) ∧ t.holder? p = some k ∧
          (endState (step w k elapsed) s).holder? p = some k ∧
          (endState (step w k elapsed) s).HasGoneOn k) := by
  obtain ⟨i, c, hi, hr, hstep, hexecute⟩ := step_of_instruction (w := w) hs
    (Instruction.steers_of_asks (Instruction.asks_of_part? hpart)) hx elapsed
  refine ⟨i, hi, ?_⟩
  have hrunning : (s.fetched k (i.cursor + 1)).status? k = some .running := by
    rw [Session.status?_fetched]
    simp [Session.status?, hi, hr]
  have hclaims := carryOut_claims (S := w.services) hpart hrunning
    (mt Session.isTaken_fetched.mp hfree)
  cases hcarry : carryOut w.services k x (s.fetched k (i.cursor + 1)) with
  | ok r t =>
    refine .inl ⟨by simp, ?_⟩
    rw [hcarry] at hclaims hexecute
    rw [endState_congr (hstep.trans (runCommandAt_of_ok hi hexecute))]
    cases hclaims with
    | ok h =>
      rcases h with ⟨y, hwait, hkind⟩ | ⟨hrunning, hlacks⟩
      · rw [endState_of_ok (settle_waits hwait)]
        exact holdsDuly_of_wait (s := { t with counters := _ }) hwait hkind
      · have hsame : t.Agrees (endState (settle k) t) := settle_agrees.endState ⟨rfl, rfl, rfl⟩
        exact Lacks.holdsDuly (by rwa [Lacks, hsame.holder?])
  | error f t =>
    rw [hcarry] at hclaims hexecute
    obtain ⟨level, text, hrun⟩ := runCommandAt_of_error hi hexecute
    rw [endState_congr (hstep.trans hrun)]
    cases hclaims with
    | error h =>
      obtain ⟨hrunning, hholds⟩ := h
      -- After a fatal fault the instance is aborted, which gives back what it holds.
      by_cases hf : ∀ text, f ≠ .fatal text
      · obtain ⟨hgone, hsame⟩ := fault_goesOn (S := w.services) f.tally level text hf hrunning
        rcases hholds with hholds | hlacks
        · exact .inr ⟨f, t, rfl, hf, hholds, hsame.holder?.trans hholds, hgone⟩
        · refine .inl ⟨fun f' t' h => .inr (by cases h; exact hlacks), Lacks.holdsDuly ?_⟩
          rwa [Lacks, hsame.holder?]
      · obtain ⟨message, rfl⟩ : ∃ message, f = .fatal message := by simpa using hf
        refine .inl ⟨fun f' t' h => .inl ⟨message, by cases h; rfl⟩, Lacks.holdsDuly ?_⟩
        let u : Session H := { t with counters := Fault.tally (.fatal message) t.counters }
        obtain ⟨y, hlog, -⟩ := logFor_apply k level text u
        have hactive : (u.withScene y).isActive k = true := by
          rw [Session.isActive_eq]
          change ((t.status? k).map Status.isActive).getD false = true
          rw [hrunning]
          rfl
        have habort : Leads (fun s => s.isActive k = true) (afterFault w.services k (.fatal message))
            (Lacks p k) :=
          (abort_self hdialog hselection).bind fun _ => .pure _
        rw [endState_congr (bind_of_ok (count_apply _ t)), endState_congr (bind_of_ok hlog)]
        exact habort.endState hactive

end Engine

section Acts

variable {v : Act H} (hdialog : Returns (w.services.perform .closeDialog))
  (hselection : Returns (w.services.perform .closeSelection)) (hv : v.IsStep w)
  (hwithdrawn : v.before.withdrawn = [])

include hdialog hselection hv hwithdrawn

lemma Act.IsStep.claims (hclaims : v.Claims p) : v.after.HoldsDuly p v.id ∨ v.Slips w p := by
  obtain ⟨elapsed, hafter⟩ := hv
  obtain ⟨x, hx, hpart⟩ := Option.bind_eq_some_iff.mp hclaims.asks
  obtain ⟨i, hi, ⟨-, hduly⟩ | ⟨f, t, hfails, hf, hheld, -⟩⟩ :=
    Engine.step_claims hdialog hselection hwithdrawn hx hpart hclaims.free elapsed
  · exact .inl (hafter ▸ hduly)
  · exact .inr ⟨hclaims, i, x, f, t, hi, hx, hfails, hf, hheld⟩

lemma Act.IsStep.slips (hslips : v.Slips w p) :
    v.after.holder? p = some v.id ∧ v.after.HasGoneOn v.id := by
  obtain ⟨elapsed, hafter⟩ := hv
  obtain ⟨x, hx, hpart⟩ := Option.bind_eq_some_iff.mp hslips.asks
  obtain ⟨i, x', f, t, hi, hx', hfails, hf, hheld⟩ := hslips.fails
  obtain rfl := Option.some.inj (hx'.symm.trans hx)
  obtain ⟨i', hi', ⟨hharmless, -⟩ | ⟨f, t, -, -, -, hheld, hgone⟩⟩ :=
    Engine.step_claims hdialog hselection hwithdrawn hx hpart hslips.free elapsed
  · obtain rfl := Option.some.inj (hi'.symm.trans hi)
    rcases hharmless f t hfails with ⟨text, rfl⟩ | hlacks
    · exact absurd rfl (hf text)
    · exact absurd hheld hlacks
  · exact hafter ▸ ⟨hheld, hgone⟩

lemma Act.IsStep.duly (hless : v.before.IsHostless) (hs : v.before.HoldsDuly p k)
    (hclaims : v.id = k → ¬ v.Claims p) : v.after.HoldsDuly p k := by
  obtain ⟨elapsed, hafter⟩ := hv
  by_cases hid : v.id = k
  · subst hid
    by_cases hasks : v.instruction?.bind Instruction.part? = some p
    · obtain ⟨x, hx, hpart⟩ := Option.bind_eq_some_iff.mp hasks
      have htaken : v.before.ui.IsTakenFrom v.before.holders v.id := by
        by_contra hfree
        exact hclaims rfl ⟨hasks, hfree⟩
      obtain ⟨n, hrunning, -, -, hrefused⟩ := Engine.step_of_asks (w := w) hwithdrawn
        (Instruction.asks_of_part? hpart) hx elapsed
      obtain ⟨message, herror⟩ := Engine.asks_refused (S := w.services)
        (Instruction.asks_of_part? hpart) (Session.isTaken_fetched (n := n).mpr htaken)
      have hsame := (hrefused _ _ herror (by simp) hrunning).2
      have hlacks : v.before.Lacks p v.id := by
        intro hheld
        rw [Session.status?_fetched] at hrunning
        simpa [Session.waitKind?, hrunning, Status.waitKind?, Status.wait?] using hs hheld
      rw [hafter]
      exact Session.Lacks.holdsDuly fun hheld => hlacks (by rwa [hsame.holder?] at hheld)
    · rw [hafter]
      refine Engine.step_duly_self hdialog hselection hless hs elapsed fun x hx hpart => ?_
      exact hasks (Option.bind_eq_some_iff.mpr ⟨x, hx, hpart⟩)
  · rw [hafter]
    exact Engine.step_duly_of_ne hid hless hs elapsed

end Acts

lemma Course.duly (hdialog : Returns (w.services.perform .closeDialog))
    (hselection : Returns (w.services.perform .closeSelection)) {s₀ : Session H} (h₀ : s₀.IsAtStart)
    {us : List (Act H)} (h : Course w .univ s₀ us s) : s.HoldsDuly p k ∨ Slipped w p k us := by
  -- Only a claim can break the duty, and a claim that does not slip restores it.
  induction h with
  | start =>
    obtain ⟨setup, scene, fade, files, rfl⟩ := h₀.eq_mk
    exact .inl (Session.Lacks.holdsDuly (by
      cases p <;> simp [Session.Lacks, Session.holder?, Session.talker?, Session.ui]))
  | @act t us v hc hv hbefore ih =>
    subst hbefore
    have hwithdrawn := hc.withdrawn h₀
    by_cases hclaims : v.id = k ∧ v.Claims p
    · obtain ⟨rfl, hclaims⟩ := hclaims
      refine (hv.claims hdialog hselection hwithdrawn hclaims).imp_right fun hslips => ?_
      exact ⟨us, v, [], rfl, rfl, hslips, by simp⟩
    · rcases ih with hduly | ⟨us₁, u, us₂, rfl, hu, hslips, hlast⟩
      · exact .inl (hv.duly hdialog hselection hwithdrawn (hc.isHostless h₀) hduly fun hid h =>
          hclaims ⟨hid, h⟩)
      · refine .inr ⟨us₁, u, us₂ ++ [v], by simp, hu, hslips, fun u' hu' hid h => ?_⟩
        rcases List.mem_append.mp hu' with hu' | hu'
        · exact hlast u' hu' hid h
        · obtain rfl := List.mem_singleton.mp hu'
          exact hclaims ⟨hid, h⟩
  | aside hc _ ih =>
    exact ih.imp_left fun hduly => (Engine.aside_duly hdialog hselection _).endState hduly

/-- The game may fail wherever it is asked to show a prompt, to tell whether it has been read or
answered, or for a line of talk text, but not where it is to close one. -/
theorem prompt_kept_without_wait_only_after_slip (w : Wiring H)
    (hdialog : Returns (w.services.perform .closeDialog))
    (hselection : Returns (w.services.perform .closeSelection)) {s₀ : Session H} (h₀ : s₀.IsAtStart)
    {us : List (Act H)} {s : Session H} (h : Course w .univ s₀ us s) (p : PromptPart) :
    (∀ k, s.holder? p = some k → s.waitKind? k = some p.kind ∨ Slipped w p k us) ∧
      ∀ v : Act H, v.IsStep w → v.before = s → v.Slips w p →
        v.after.holder? p = some v.id ∧ v.after.HasGoneOn v.id := by
  refine ⟨fun k hheld => ?_, ?_⟩
  · exact (h.duly hdialog hselection h₀).imp_left fun hduly => hduly hheld
  · rintro v hv rfl hslips
    exact hv.slips hdialog hselection (h.withdrawn h₀) hslips

def Services.mute : Services Unit :=
  { Services.silent fun lo _ => return lo with
    perform := fun
      | .showDialog .. => throw (.raised "RuntimeError" "no screen")
      | _ => pure ()
    talkLine := fun index => return some ⟨index, 0, "line"⟩ }

namespace Mute

abbrev host : Host := .plain Unit

def wiring : Wiring host := Services.mute.wiring

def talk : Command := { kind := .builtin .talk, name := "Talk", args := [.int 1, .int 3] }

def script : Script := { name := "tale", commands := [talk, talk] }

end Mute

/-- The script goes on to its next command with the dialogue in its hands. -/
theorem prompt_kept_without_wait_only_after_slip_mute : ∃ s₀ s : Session Mute.host,
    s₀.IsAtStart ∧ Course Mute.wiring .univ s₀ [] s ∧ ∃ v : Act Mute.host,
      v.IsStep Mute.wiring ∧ v.before = s ∧ v.Slips Mute.wiring .dialogue ∧
      (v.after.holder? .dialogue = some v.id ∧ v.after.HasGoneOn v.id) ∧
      v.after.waitKind? v.id = none ∧ Slipped Mute.wiring .dialogue v.id [v] := by
  have hstart : ∃ s₀ : Session Mute.host, s₀.IsAtStart ∧
      let s := endState (Aside.opening.run Mute.wiring)
        (endState ((Request.start Mute.script none true none).run Mute.wiring) s₀)
      Turn.command? ⟨s, 0⟩ = some (0, Mute.talk) ∧ s.ui.talk.isNone ∧ s.ui.chooser = none ∧
        let t := (Turn.act Mute.wiring none ⟨s, 0⟩).after
        t.talker? = some 0 ∧ t.waitKind? 0 = none := by
    refine ⟨.sample 1 { game := () }, Session.sample_isAtStart, ?_, ?_, ?_, ?_, ?_⟩ <;>
      decide +kernel
  obtain ⟨s₀, h₀, hcommand, htalk, hchooser, hheld, hidle⟩ := hstart
  set s := endState (Aside.opening.run Mute.wiring)
    (endState ((Request.start Mute.script none true none).run Mute.wiring) s₀)
  have hopened : Course Mute.wiring .univ s₀ [] s := Course.opened _
  let v := Turn.act Mute.wiring none ⟨s, 0⟩
  have hv : v.IsStep Mute.wiring := Turn.act_isStep _ _
  have hdialog : Returns (Mute.wiring.services.perform .closeDialog) := fun x => ⟨(), x, rfl⟩
  have hselection : Returns (Mute.wiring.services.perform .closeSelection) := fun x => ⟨(), x, rfl⟩
  have hclaims : v.Claims .dialogue := by
    refine ⟨?_, Ui.not_isTakenFrom htalk hchooser s.holders 0⟩
    rw [show v.instruction? = some (.talk 1 3) from Turn.instruction?_of_command hcommand]
    rfl
  have hslips : v.Slips Mute.wiring .dialogue := by
    refine (hv.claims hdialog hselection (hopened.withdrawn h₀) hclaims).resolve_left fun hduly => ?_
    cases hidle.symm.trans (hduly hheld)
  refine ⟨s₀, s, h₀, hopened, v, hv, rfl, hslips, ?_, hidle, ?_⟩
  · exact (prompt_kept_without_wait_only_after_slip Mute.wiring hdialog hselection h₀ hopened
      .dialogue).2 v hv rfl hslips
  · have hwaits := (prompt_kept_without_wait_only_after_slip Mute.wiring hdialog hselection h₀
      (hopened.act hv rfl) .dialogue).1 0 hheld
    exact hwaits.resolve_left (by simp [v, hidle])

end EventScript
