import EventScript.Cli.Run
import EventScript.Proofs.Ensemble.Schedule
import Mathlib

/-! Scripts that only add. However their instances take turns, the variables hold the sum of what
was added by the commands behind the cursors: nothing is lost and nothing is added twice. -/

namespace EventScript

variable {H : Host}

def Command.IsAdd (c : Command) : Prop :=
  c.isValid = true ∧ c.kind = .builtin .add ∧ ∃ x n, c.args = [.var x, .int n]

def Script.OnlyAdds (s : Script) : Prop := ∀ c ∈ s.commands, c.IsAdd

def Command.increment (x : String) (c : Command) : Int :=
  match c.instruction? with
  | some (.add y n) => if y = x then n else 0
  | _ => 0

def Instance.executed {π : Type} (i : Instance π) : List Command := i.script.commands.take i.cursor

def Session.executed (s : Session H) : List Command := s.roster.toList.flatMap Instance.executed

lemma Command.IsAdd.instruction? {c : Command} (h : c.IsAdd) :
    ∃ y n, c.instruction? = some (.add y n) := by
  obtain ⟨hvalid, hkind, y, n, hargs⟩ := h
  refine ⟨y, n, ?_⟩
  unfold Command.instruction?
  rw [hvalid, hkind, hargs]
  rfl

lemma Script.OnlyAdds.isPlain {s : Script} (h : s.OnlyAdds) : s.IsPlain := by
  intro c hc
  obtain ⟨-, hkind, -⟩ := h c hc
  simp [Command.isPlain, hkind, Verb.isPlain]

def Store.Sums (v : Store) (cs : List Command) (t : Store) : Prop :=
  ∀ x, t.value x = v.value x + (cs.map (·.increment x)).sum ∧
    (t.isDefined x = true ↔ v.isDefined x = true ∨ ∃ c ∈ cs, x ∈ c.names)

namespace Store.Sums

variable {v t : Store} {cs ds : List Command} {c : Command}

lemma nil (v : Store) : v.Sums [] v := by simp [Sums]

lemma perm (h : v.Sums cs t) (hp : cs.Perm ds) : v.Sums ds t := by
  intro x
  obtain ⟨hvalue, hdefined⟩ := h x
  refine ⟨hvalue.trans (congrArg (v.value x + ·) (hp.map _).sum_eq), ?_⟩
  simpa only [hp.mem_iff] using hdefined

lemma add (h : v.Sums cs t) {y : String} {n : Int} (hc : c.instruction? = some (.add y n)) :
    v.Sums (c :: cs) (t.add y n) := by
  intro x
  obtain ⟨hvalue, hdefined⟩ := h x
  have hnames : x ∈ c.names ↔ x = y := by simp [Command.names, hc, Instruction.names]
  have hincrement : c.increment x = if y = x then n else 0 := by simp [Command.increment, hc]
  by_cases hxy : y = x
  · subst hxy
    refine ⟨?_, ?_⟩
    · rw [value_add_self, hvalue, List.map_cons, List.sum_cons, hincrement, if_pos rfl]
      omega
    · simp [isDefined, Store.add, Ledger.has, Ledger.get?_put_self, hnames]
  · refine ⟨?_, ?_⟩
    · rw [value_add_of_ne t n hxy, hvalue, List.map_cons, List.sum_cons, hincrement, if_neg hxy]
      omega
    · have hx : x ∉ c.names := fun hx => hxy (hnames.mp hx).symm
      have hget : (t.add y n).isDefined x = t.isDefined x :=
        congrArg Option.isSome (Ledger.get?_put_of_ne t _ hxy)
      simpa [hx, hget] using hdefined

end Store.Sums

def Copy.executed (c : Copy) : List Command := c.script.commands.take c.cursor

namespace Ensemble

def executed (e : Ensemble) : List Command := e.copies.flatMap Copy.executed

variable {e : Ensemble} {k : Nat} {c d : Copy} {v : Store}

lemma executed_put (hc : e.copies[k]? = some c) {cs : List Command}
    (hd : d.executed = c.executed ++ cs) : (cs ++ e.executed).Perm (e.put k d).executed := by
  obtain ⟨hk, rfl⟩ := List.getElem?_eq_some_iff.mp hc
  have hold : e.executed = (e.copies.take k).flatMap Copy.executed ++ e.copies[k].executed ++
      (e.copies.drop (k + 1)).flatMap Copy.executed := by
    rw [executed, List.append_assoc, ← List.flatMap_cons, List.getElem_cons_drop,
      ← List.flatMap_append, List.take_append_drop]
  have hnew : (e.put k d).executed = (e.copies.take k).flatMap Copy.executed ++
      e.copies[k].executed ++ cs ++ (e.copies.drop (k + 1)).flatMap Copy.executed := by
    rw [executed, put, List.set_eq_take_cons_drop d hk]
    simp [hd, List.append_assoc]
  rw [hold, hnew, ← List.append_assoc]
  exact List.perm_append_comm.append_right _

/-- The variables are what they were at first, and what all copies have added since. -/
structure IsSum (v : Store) (e : Ensemble) : Prop where
  adds : ∀ script ∈ e.scripts, script.OnlyAdds
  sums : v.Sums e.executed e.store

lemma IsSum.apply (h : e.IsSum v) {cue : Cue}
    (hcue : ∀ script, cue.script? = some script → script.OnlyAdds) : (e.apply cue).IsSum v := by
  refine ⟨?_, ?_⟩
  · intro script hscript
    rw [scripts_apply] at hscript
    rcases List.mem_append.mp hscript with hscript | hscript
    · exact h.adds script hscript
    · exact hcue script (Option.mem_toList.mp hscript)
  refine apply_induction (P := fun e => v.Sums e.executed e.store) cue ?_ ?_ ?_ h.sums
  · intro script _
    have hnew : (e.start script).executed = e.executed := by
      simp [executed, start, Copy.executed]
    rw [hnew]
    exact h.sums
  · intro k c _ hc _
    have hadds : c.script.OnlyAdds :=
      h.adds _ (List.mem_map_of_mem (List.mem_of_getElem? hc))
    unfold Script.advance
    cases hcommand : c.script.commands[c.cursor]? with
    | none =>
      have hd : (c.moved ⟨c.cursor, e.store⟩).executed = c.executed ++ [] := by
        rw [List.append_nil]
        rfl
      exact h.sums.perm (executed_put hc hd)
    | some x =>
      obtain ⟨y, n, hx⟩ := (hadds x (List.mem_of_getElem? hcommand)).instruction?
      have hact : x.act c.script.size ⟨c.cursor + 1, e.store⟩ =
          ⟨c.cursor + 1, e.store.add y n⟩ := by
        simp only [Command.act, hx, Instruction.act]
      have hd : (c.moved ⟨c.cursor + 1, e.store.add y n⟩).executed = c.executed ++ [x] := by
        change c.script.commands.take (c.cursor + 1) = c.script.commands.take c.cursor ++ [x]
        rw [List.take_add_one, hcommand]
        rfl
      dsimp only
      rw [hact]
      exact (h.sums.add hx).perm (executed_put hc hd)
  · intro k c hc _
    have hd : Copy.executed { c with phase := .canceled } = c.executed ++ [] := by
      rw [List.append_nil]
      rfl
    exact h.sums.perm (executed_put hc hd)

lemma IsSum.play (h : e.IsSum v) {cues : List Cue}
    (hcues : ∀ script ∈ Cue.started cues, script.OnlyAdds) : (e.play cues).IsSum v := by
  induction cues generalizing e with
  | nil => exact h
  | cons cue cues ih =>
    rw [Cue.started_cons, List.forall_mem_append] at hcues
    exact ih (h.apply fun script hs => hcues.1 script (by simp [hs])) hcues.2

end Ensemble

lemma Session.executed_ensemble (s : Session H) : s.ensemble.executed = s.executed :=
  List.flatMap_map _ _ _

theorem store_sums_executed_adds (w : Wiring H) {v : Store} {s₀ : Session H}
    (h₀ : s₀.IsAtStartWith v) {rs : List (Request H)} (hrs : ∀ r ∈ rs, r.isQuiet = true)
    (hadds : ∀ script ∈ Request.started rs, script.OnlyAdds) :
    let s := s₀.after w rs
    s.roster.toList.map (·.script) = Request.started rs ∧
      ∀ x, s.store.value x = v.value x + (s.executed.map (·.increment x)).sum ∧
        (s.store.isDefined x = true ↔
          v.isDefined x = true ∨ ∃ c ∈ s.executed, x ∈ c.names) := by
  intro s
  have hplain : ∀ script ∈ Request.started rs, script.IsPlain := fun script h =>
    (hadds script h).isPlain
  obtain ⟨cues, hstarted, hs⟩ := h₀.after_ensemble w hrs hplain
  have hsum : s.ensemble.IsSum v := by
    rw [hs]
    exact Ensemble.IsSum.play ⟨by simp [Ensemble.scripts], .nil v⟩ (by rw [hstarted]; exact hadds)
  have hscripts := h₀.scripts_after w hrs hplain
  rw [Ensemble.scripts, Session.ensemble, List.map_map] at hscripts
  refine ⟨hscripts, ?_⟩
  rw [← s.executed_ensemble]
  exact hsum.sums

/-- Two scripts add to one variable in the game of the command line. One loses its owner after its
first command, the other runs on through a pause and is canceled before its last one. -/
theorem store_sums_executed_adds_cli : ∃ (s₀ : Session Cli.host) (rs : List (Request Cli.host)),
    s₀.IsAtStartWith [("$x", 5)] ∧ (∀ script ∈ Request.started rs, script.OnlyAdds) ∧
      let s := s₀.after Cli.wiring rs
      s.executed.length = 3 ∧ s.store.value "$x" = 15 ∧
        s.store.value "$x" = 5 + (s.executed.map (·.increment "$x")).sum ∧
        (s.store.isDefined "$y" = true ↔ ∃ c ∈ s.executed, "$y" ∈ c.names) := by
  let add (x : String) (n : Int) : Command :=
    { kind := .builtin .add, name := "Add", args := [.var x, .int n] }
  have hadd (x : String) (n : Int) : (add x n).IsAdd := ⟨rfl, rfl, x, n, rfl⟩
  let scene : Scene Cli.Game := { game := .mk {} 0, entities := #[{ kind := .obj, name := "box" }] }
  let removal (scene : Scene Cli.Game) : Scene Cli.Game :=
    { scene with entities := scene.entities.map ({ · with removed := true }) }
  let s₀ : Session Cli.host := { Session.sample 1 scene with store := [("$x", 5)] }
  let rs : List (Request Cli.host) := [
    .start { name := "a", commands := [add "$x" 1, add "$y" 2, add "$x" 3] } (some 0) true none,
    .tick none, .start { name := "b", commands := [add "$x" 10, add "$x" (-1), add "$x" 7] }
      none false none,
    .meanwhile removal, .tick none, .setPaused true, .tick none, .cancel 1, .setPaused false,
    .tick none]
  have h₀ : s₀.IsAtStartWith [("$x", 5)] := ⟨.sample 1 scene, Session.sample_isAtStart, rfl⟩
  have hadds : ∀ script ∈ Request.started rs, script.OnlyAdds := by
    simp [rs, Request.started, Request.script?, Script.OnlyAdds, hadd]
  have hquiet : ∀ r ∈ rs, r.isQuiet = true := by simp [rs, Request.isQuiet]
  obtain ⟨-, hsums⟩ := store_sums_executed_adds Cli.wiring h₀ hquiet hadds
  refine ⟨s₀, rs, h₀, hadds, by decide +kernel, by decide +kernel, (hsums "$x").1, ?_⟩
  rw [(hsums "$y").2]
  simp [Store.isDefined, Ledger.has, Ledger.get?]

end EventScript
