import EventScript.Cli.Run
import EventScript.Proofs.Ensemble.Solo
import Mathlib.Data.List.Lattice

/-! Scripts that share no variables. However their instances take turns, each of them does to its
own variables what it does when it runs alone. -/

namespace EventScript

variable {H : Host}

namespace Script

variable {a b : Script} {p : Spot} {n m : Nat}

/-- No variable is read or written by both scripts. -/
def Apart (a b : Script) : Prop := a.names.Disjoint b.names

lemma iterate_advance_unique (hn : a.size ≤ (a.advance^[n] p).cursor)
    (hm : a.size ≤ (a.advance^[m] p).cursor) : a.advance^[n] p = a.advance^[m] p := by
  wlog hnm : n ≤ m generalizing n m
  · exact (this hm hn (Nat.le_of_not_le hnm)).symm
  · obtain ⟨d, rfl⟩ := Nat.exists_eq_add_of_le hnm
    rw [Nat.add_comm, Function.iterate_add_apply, Function.iterate_fixed (advance_of_le hn)]

end Script

/-- The copy is where it could be by itself, as far as its own variables tell. -/
structure Copy.IsAsAlone (c : Copy) (v t : Store) : Prop where
  follows : ∃ n, (c.script.advance^[n] ⟨0, v⟩).Agrees c.script.names ⟨c.cursor, t⟩
  done : c.phase = .completed → c.script.size ≤ c.cursor

namespace Copy.IsAsAlone

variable {c : Copy} {v t : Store}

lemma moved (h : c.IsAsAlone v t) (hr : c.phase = .running) :
    (c.moved (c.script.advance ⟨c.cursor, t⟩)).IsAsAlone v
      (c.script.advance ⟨c.cursor, t⟩).store := by
  obtain ⟨n, hn⟩ := h.follows
  refine ⟨⟨n + 1, ?_⟩, ?_⟩
  · rw [Function.iterate_succ_apply']
    exact Script.advance_agrees hn
  · rw [moved_phase hr]
    split
    · next hend => exact fun _ => hend
    · nofun

lemma of_same (h : c.IsAsAlone v t) {u : Store}
    (hu : ∀ x ∈ c.script.names, Ledger.get? u x = Ledger.get? t x) : c.IsAsAlone v u := by
  obtain ⟨n, hcursor, hstore⟩ := h.follows
  exact ⟨⟨n, hcursor, fun x hx => (hstore x hx).trans (hu x hx).symm⟩, h.done⟩

lemma agreesOn {d : Copy} {u : Store} (hc : c.IsAsAlone v t) (hd : d.IsAsAlone v u)
    (hscript : d.script = c.script) (hcdone : c.phase = .completed)
    (hddone : d.phase = .completed) : t.AgreesOn c.script.names u := by
  obtain ⟨n, hn, hnstore⟩ := hc.follows
  obtain ⟨m, hm, hmstore⟩ := hd.follows
  have hcend := hc.done hcdone
  have hdend := hd.done hddone
  rw [hscript] at hm hmstore hdend
  have hsame := Script.iterate_advance_unique (hcend.trans hn.ge) (hdend.trans hm.ge)
  intro x hx
  rw [← hnstore x hx, ← hmstore x hx, hsame]

end Copy.IsAsAlone

namespace Ensemble

structure Isolated (v : Store) (e : Ensemble) : Prop where
  alone : ∀ (j : Nat) (c : Copy), e.copies[j]? = some c → c.IsAsAlone v e.store
  rest : ∀ x, (∀ script ∈ e.scripts, x ∉ script.names) → Ledger.get? e.store x = Ledger.get? v x

variable {e : Ensemble} {v : Store} {j k : Nat} {c d : Copy}

lemma apart_of_ne (hapart : e.scripts.Pairwise Script.Apart) (hj : e.copies[j]? = some c)
    (hk : e.copies[k]? = some d) (hne : j ≠ k) : c.script.Apart d.script := by
  obtain ⟨hjlt, rfl⟩ := List.getElem?_eq_some_iff.mp hj
  obtain ⟨hklt, rfl⟩ := List.getElem?_eq_some_iff.mp hk
  have hpairs := List.pairwise_iff_getElem.mp (List.pairwise_map.mp hapart)
  rcases Nat.lt_or_gt_of_ne hne with hlt | hgt
  · exact hpairs j k hjlt hklt hlt
  · exact (hpairs k j hklt hjlt hgt).symm

lemma Isolated.start (h : e.Isolated v) {script : Script}
    (hapart : ∀ a ∈ e.scripts, a.Apart script) : (e.start script).Isolated v := by
  refine ⟨fun j c hj => ?_, fun x hx => h.rest x fun a ha => hx a ?_⟩
  · rcases List.mem_append.mp (List.mem_of_getElem? hj) with hc | hc
    · obtain ⟨i, hi, rfl⟩ := List.mem_iff_getElem.mp hc
      exact h.alone i _ (List.getElem?_eq_getElem hi)
    · obtain rfl := List.mem_singleton.mp hc
      -- Nobody has touched the variables of the new script so far.
      refine ⟨⟨0, rfl, fun x hx => ?_⟩, nofun⟩
      exact (h.rest x fun a ha hxa => hapart a ha hxa hx).symm
  · simp only [scripts, Ensemble.start, List.map_append]
    exact List.mem_append_left _ ha

lemma Isolated.move (h : e.Isolated v) (hapart : e.scripts.Pairwise Script.Apart)
    (hc : e.copies[k]? = some c) (hr : c.phase = .running) :
    (e.move k c (c.script.advance ⟨c.cursor, e.store⟩)).Isolated v := by
  have hscripts : (e.move k c (c.script.advance ⟨c.cursor, e.store⟩)).scripts = e.scripts :=
    scripts_put hc rfl
  refine ⟨fun j d hj => ?_, fun x hx => ?_⟩
  · change (e.copies.set k _)[j]? = some d at hj
    by_cases hk : k = j
    · subst hk
      obtain ⟨hlt, -⟩ := List.getElem?_eq_some_iff.mp hc
      rw [List.getElem?_set_self hlt] at hj
      obtain rfl := Option.some.inj hj
      exact (h.alone k c hc).moved hr
    · rw [List.getElem?_set_ne hk] at hj
      refine (h.alone j d hj).of_same fun x hx => Script.get?_advance fun hxc => ?_
      exact apart_of_ne hapart hc hj hk hxc hx
  · rw [hscripts] at hx
    have hxc : x ∉ c.script.names := hx _ (List.mem_map_of_mem (List.mem_of_getElem? hc))
    exact (Script.get?_advance (p := ⟨c.cursor, e.store⟩) hxc).trans (h.rest x hx)

lemma Isolated.cancel (h : e.Isolated v) (hc : e.copies[k]? = some c) :
    (e.put k { c with phase := .canceled }).Isolated v := by
  have hscripts : (e.put k { c with phase := .canceled }).scripts = e.scripts := scripts_put hc rfl
  refine ⟨fun j d hj => ?_, fun x hx => h.rest x ?_⟩
  · by_cases hk : k = j
    · subst hk
      obtain ⟨hlt, -⟩ := List.getElem?_eq_some_iff.mp hc
      rw [Ensemble.put, List.getElem?_set_self hlt] at hj
      obtain rfl := Option.some.inj hj
      exact ⟨(h.alone k c hc).follows, by simp⟩
    · rw [Ensemble.put, List.getElem?_set_ne hk] at hj
      exact h.alone j d hj
  · rwa [hscripts] at hx

lemma Isolated.play (h : e.Isolated v) {cues : List Cue}
    (hapart : (e.scripts ++ Cue.started cues).Pairwise Script.Apart) :
    (e.play cues).Isolated v := by
  induction cues generalizing e with
  | nil => exact h
  | cons cue cues ih =>
    rw [Cue.started_cons, ← List.append_assoc, ← scripts_apply] at hapart
    refine ih ?_ hapart
    rw [scripts_apply] at hapart
    obtain ⟨hold, -, hnew⟩ := List.pairwise_append.mp (List.pairwise_append.mp hapart).1
    refine apply_induction cue ?_ ?_ ?_ h
    · rintro script rfl
      exact h.start fun a ha => hnew a ha script (by simp [Cue.script?])
    · intro k c _ hc hr
      exact h.move hold hc hr
    · intro k c hc _
      exact h.cancel hc

end Ensemble

lemma Session.IsAtStartWith.completed_isAsAlone {v : Store} {s : Session H}
    (h : s.IsAtStartWith v) (w : Wiring H) {rs : List (Request H)}
    (hrs : ∀ r ∈ rs, r.isQuiet = true) (hplain : ∀ a ∈ Request.started rs, a.IsPlain)
    (hapart : (Request.started rs).Pairwise Script.Apart) {k : InstanceId} {script : Script}
    (hk : (Request.started rs)[k]? = some script) (hdone : (s.after w rs).HasCompleted k) :
    ∃ c : Copy, c.script = script ∧ c.phase = .completed ∧ c.IsAsAlone v (s.after w rs).store := by
  obtain ⟨cues, hstarted, hs⟩ := h.after_ensemble w hrs hplain
  have hstart : Ensemble.Isolated v { store := v } := ⟨by simp, fun _ _ => rfl⟩
  have hisolated : (s.after w rs).ensemble.Isolated v := by
    rw [hs]
    exact hstart.play (by rwa [hstarted])
  obtain ⟨c, hc, hphase⟩ := Option.map_eq_some_iff.mp (Session.hasCompleted_iff.mp hdone)
  refine ⟨c, ?_, hphase, hisolated.alone k c hc⟩
  rw [← h.scripts_after w hrs hplain, Ensemble.scripts, List.getElem?_map, hc] at hk
  exact Option.some.inj hk

theorem isolated_scripts_run_as_alone (w : Wiring H) {v : Store} {s₀ s₁ : Session H}
    (h₀ : s₀.IsAtStartWith v) (h₁ : s₁.IsAtStartWith v) {rs : List (Request H)}
    (hrs : ∀ r ∈ rs, r.isQuiet = true) (hplain : ∀ script ∈ Request.started rs, script.IsPlain)
    (hapart : (Request.started rs).Pairwise Script.Apart) {k : InstanceId} {script : Script}
    (hk : (Request.started rs)[k]? = some script) (hdone : (s₀.after w rs).HasCompleted k) :
    (∀ elapsed, ∃ n, (s₁.after w (.start script none true none ::
      List.replicate n (.tick elapsed))).HasCompleted 0) ∧
    ∀ rs', (∀ r ∈ rs', r.isQuiet = true) → Request.started rs' = [script] →
      (s₁.after w rs').HasCompleted 0 →
      (s₀.after w rs).store.AgreesOn script.names (s₁.after w rs').store := by
  have hscript : script.IsPlain := hplain script (List.mem_of_getElem? hk)
  refine ⟨fun elapsed => h₁.completes w elapsed hscript, ?_⟩
  intro rs' hrs' hstarted hdone'
  have hplain' : ∀ a ∈ Request.started rs', a.IsPlain := by simp [hstarted, hscript]
  have hapart' : (Request.started rs').Pairwise Script.Apart := by simp [hstarted]
  obtain ⟨c, hc, hcdone, halone⟩ := h₀.completed_isAsAlone w hrs hplain hapart hk hdone
  obtain ⟨d, hd, hddone, halone'⟩ :=
    h₁.completed_isAsAlone w hrs' hplain' hapart' (by rw [hstarted]; rfl) hdone'
  subst hc
  exact halone.agreesOn halone' hd hcdone hddone

/-- In the game of the command line, a script with an `If` and a line that could not be read
completes beside another one, which is canceled on its way. -/
theorem isolated_scripts_run_as_alone_cli :
    ∃ (s₀ s₁ : Session Cli.host) (a b : Script) (rs : List (Request Cli.host)),
      s₀.IsAtStartWith [("$x", 5)] ∧ s₁.IsAtStartWith [("$x", 5)] ∧
        Request.started rs = [b, a] ∧ b.Apart a ∧ "$x" ∈ a.names ∧
        (s₀.after Cli.wiring rs).HasCompleted 1 ∧ ¬ (s₀.after Cli.wiring rs).HasCompleted 0 ∧
        ∃ n, (s₀.after Cli.wiring rs).store.AgreesOn a.names (s₁.after Cli.wiring
          (.start a none true none :: List.replicate n (.tick none))).store := by
  let scene : Scene Cli.Game := { game := .mk {} 0 }
  let s₀ : Session Cli.host := { Session.sample 1 scene with store := [("$x", 5)] }
  let s₁ : Session Cli.host := { Session.sample 2 scene with store := [("$x", 5)] }
  let a : Script := { name := "a", commands := [
    { kind := .builtin .ifThen, name := "If", args := [.condition (.compare "$x" .gt 7)]
      target := some 2 },
    { kind := .builtin .assign, name := "Assign", args := [.var "$x", .int 0] },
    { kind := .invalid, name := "", error := some (.unparsable "?") },
    { kind := .builtin .add, name := "Add", args := [.var "$x", .int 3] }] }
  let b : Script := { name := "b", commands := [
    { kind := .builtin .assign, name := "Assign", args := [.var "$y", .int 1] },
    { kind := .builtin .add, name := "Add", args := [.var "$y", .int 1] }] }
  let rs : List (Request Cli.host) := [
    .start b none true none, .tick none, .start a none false none, .setPaused true, .tick none,
    .cancel 0, .setPaused false, .tick none, .tick none]
  have h₀ : s₀.IsAtStartWith [("$x", 5)] := ⟨.sample 1 scene, Session.sample_isAtStart, rfl⟩
  have h₁ : s₁.IsAtStartWith [("$x", 5)] := ⟨.sample 2 scene, Session.sample_isAtStart, rfl⟩
  have hplain : ∀ script ∈ Request.started rs, script.IsPlain := by
    simp [rs, a, b, Request.started, Request.script?, Script.IsPlain, Command.isPlain,
      Command.isValid, Verb.isPlain]
  have hapart : b.Apart a := by
    have hnames : b.names = ["$y", "$y"] ∧ a.names = ["$x", "$x", "$x"] := ⟨rfl, rfl⟩
    simp [Script.Apart, hnames]
  have hdone : (s₀.after Cli.wiring rs).HasCompleted 1 := by decide +kernel
  have hcanceled : ¬ (s₀.after Cli.wiring rs).HasCompleted 0 := by decide +kernel
  obtain ⟨hcompletes, hagrees⟩ := isolated_scripts_run_as_alone Cli.wiring h₀ h₁
    (by simp [rs, Request.isQuiet]) hplain (List.pairwise_pair.mpr hapart) (k := 1) rfl hdone
  obtain ⟨n, hn⟩ := hcompletes none
  refine ⟨s₀, s₁, a, b, rs, h₀, h₁, rfl, hapart, List.mem_cons_self, hdone, hcanceled, n, ?_⟩
  refine hagrees _ ?_ ?_ hn
  · simp [Request.isQuiet]
  · simp [Request.started, Request.script?]

end EventScript
