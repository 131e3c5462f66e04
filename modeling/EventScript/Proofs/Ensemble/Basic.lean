import EventScript.Proofs.Ensemble.Spot

/-! Copies of plain scripts side by side on one store. In its turn a copy carries out one command;
at the end of its script it is complete. -/

namespace EventScript

inductive Phase where
  | running | waiting | completed | canceled
  deriving DecidableEq

structure Copy where
  script : Script
  cursor : Nat := 0
  phase : Phase := .running

def Copy.moved (c : Copy) (p : Spot) : Copy :=
  { c with cursor := p.cursor, phase := if c.script.size ≤ p.cursor then .completed else c.phase }

lemma Copy.moved_of_le {c : Copy} {p : Spot} (h : c.script.size ≤ p.cursor) :
    c.moved p = { c with cursor := p.cursor, phase := .completed } := by
  rw [moved, if_pos h]

lemma Copy.moved_of_lt {c : Copy} {p : Spot} (h : p.cursor < c.script.size) :
    c.moved p = { c with cursor := p.cursor } := by
  rw [moved, if_neg (Nat.not_le.mpr h)]

lemma Copy.moved_phase {c : Copy} (h : c.phase = .running) (p : Spot) :
    (c.moved p).phase = if c.script.size ≤ p.cursor then .completed else .running := by
  rw [← h]
  rfl

/-- The variables, and all copies in the order in which they were started. -/
structure Ensemble where
  store : Store
  copies : List Copy := []

inductive Cue where
  | start (script : Script)
  | turn (k : Nat)
  | cancel (k : Nat)

namespace Cue

def script? : Cue → Option Script
  | start script => some script
  | _ => none

/-- The scripts that are started, in order. -/
def started (cues : List Cue) : List Script := cues.filterMap script?

lemma started_cons (cue : Cue) (cues : List Cue) :
    started (cue :: cues) = cue.script?.toList ++ started cues := by
  unfold started
  cases h : cue.script? <;> simp [h]

lemma started_append (xs ys : List Cue) : started (xs ++ ys) = started xs ++ started ys :=
  List.filterMap_append

end Cue

namespace Ensemble

def start (e : Ensemble) (script : Script) : Ensemble :=
  { e with copies := e.copies ++ [{ script }] }

/-- Puts another copy in the place of one. -/
def put (e : Ensemble) (k : Nat) (c : Copy) : Ensemble := { e with copies := e.copies.set k c }

def move (e : Ensemble) (k : Nat) (c : Copy) (p : Spot) : Ensemble :=
  { e.put k (c.moved p) with store := p.store }

def turn (e : Ensemble) (k : Nat) : Ensemble :=
  match e.copies[k]? with
  | some c => if c.phase = .running then e.move k c (c.script.advance ⟨c.cursor, e.store⟩) else e
  | none => e

def cancel (e : Ensemble) (k : Nat) : Ensemble :=
  match e.copies[k]? with
  | some c => if c.phase = .running then e.put k { c with phase := .canceled } else e
  | none => e

def apply (e : Ensemble) : Cue → Ensemble
  | .start script => e.start script
  | .turn k => e.turn k
  | .cancel k => e.cancel k

def play (e : Ensemble) (cues : List Cue) : Ensemble := cues.foldl apply e

/-- All scripts are plain, so that nobody ever waits. -/
def IsPlain (e : Ensemble) : Prop := ∀ c ∈ e.copies, c.script.IsPlain ∧ c.phase ≠ .waiting

variable {e : Ensemble} {k : Nat} {c : Copy}

lemma put_self (hc : e.copies[k]? = some c) : e.put k c = e := by
  obtain ⟨hk, rfl⟩ := List.getElem?_eq_some_iff.mp hc
  simp [put]

lemma turn_of_running (hc : e.copies[k]? = some c) (hr : c.phase = .running) :
    e.turn k = e.move k c (c.script.advance ⟨c.cursor, e.store⟩) := by
  simp only [turn, hc, hr, if_true]

lemma copies_turn_zero (hc : e.copies = [c]) (hr : c.phase = .running) :
    (e.turn 0).copies = [c.moved (c.script.advance ⟨c.cursor, e.store⟩)] := by
  have hfirst : e.copies[0]? = some c := by rw [hc]; rfl
  rw [turn_of_running hfirst hr, move, put, hc]
  rfl

lemma turn_of_not_running (h : ∀ c, e.copies[k]? = some c → c.phase ≠ .running) :
    e.turn k = e := by
  unfold turn
  split
  · next c hc => exact if_neg (h c hc)
  · rfl

lemma cancel_of_running (hc : e.copies[k]? = some c) (hr : c.phase = .running) :
    e.cancel k = e.put k { c with phase := .canceled } := by
  simp only [cancel, hc, hr, if_true]

lemma cancel_of_not_running (h : ∀ c, e.copies[k]? = some c → c.phase ≠ .running) :
    e.cancel k = e := by
  unfold cancel
  split
  · next c hc => exact if_neg (h c hc)
  · rfl

lemma running_or (e : Ensemble) (k : Nat) : (∃ c, e.copies[k]? = some c ∧ c.phase = .running) ∨
    ∀ c, e.copies[k]? = some c → c.phase ≠ .running := by
  by_cases h : ∃ c, e.copies[k]? = some c ∧ c.phase = .running
  · exact .inl h
  · exact .inr fun c hc hr => h ⟨c, hc, hr⟩

lemma apply_induction {P : Ensemble → Prop} (cue : Cue)
    (hstart : ∀ script, cue = .start script → P (e.start script))
    (hturn : ∀ k c, cue = .turn k → e.copies[k]? = some c → c.phase = .running →
      P (e.move k c (c.script.advance ⟨c.cursor, e.store⟩)))
    (hcancel : ∀ k c, e.copies[k]? = some c → c.phase = .running →
      P (e.put k { c with phase := .canceled }))
    (he : P e) : P (e.apply cue) := by
  cases cue with
  | start script => exact hstart script rfl
  | turn k =>
    rcases e.running_or k with ⟨c, hc, hr⟩ | h
    · rw [apply, turn_of_running hc hr]
      exact hturn k c rfl hc hr
    · rw [apply, turn_of_not_running h]
      exact he
  | cancel k =>
    rcases e.running_or k with ⟨c, hc, hr⟩ | h
    · rw [apply, cancel_of_running hc hr]
      exact hcancel k c hc hr
    · rw [apply, cancel_of_not_running h]
      exact he

lemma IsPlain.put (he : e.IsPlain) (hc : c.script.IsPlain ∧ c.phase ≠ .waiting) :
    (e.put k c).IsPlain := by
  intro d hd
  rcases List.mem_or_eq_of_mem_set hd with hd | rfl
  · exact he d hd
  · exact hc

lemma IsPlain.apply (he : e.IsPlain) {cue : Cue}
    (hcue : ∀ script, cue.script? = some script → script.IsPlain) : (e.apply cue).IsPlain := by
  refine apply_induction cue ?_ ?_ ?_ he
  · rintro script rfl c hc
    rcases List.mem_append.mp hc with hc | hc
    · exact he c hc
    · obtain rfl := List.mem_singleton.mp hc
      exact ⟨hcue script rfl, nofun⟩
  · intro k c _ hc hr
    refine IsPlain.put he ⟨(he c (List.mem_of_getElem? hc)).1, ?_⟩
    rw [Copy.moved_phase hr]
    split <;> decide
  · intro k c hc _
    exact he.put ⟨(he c (List.mem_of_getElem? hc)).1, nofun⟩

lemma IsPlain.play (he : e.IsPlain) {cues : List Cue}
    (hcues : ∀ script ∈ Cue.started cues, script.IsPlain) : (e.play cues).IsPlain := by
  induction cues generalizing e with
  | nil => exact he
  | cons cue cues ih =>
    rw [Cue.started_cons, List.forall_mem_append] at hcues
    exact ih (he.apply fun script h => hcues.1 script (by simp [h])) hcues.2

def scripts (e : Ensemble) : List Script := e.copies.map Copy.script

lemma scripts_put (hc : e.copies[k]? = some c) {d : Copy} (hd : d.script = c.script) :
    (e.put k d).scripts = e.scripts := by
  unfold scripts put
  rw [List.map_set, hd]
  refine List.ext_getElem? fun j => ?_
  by_cases hj : k = j
  · subst hj
    obtain ⟨hk, rfl⟩ := List.getElem?_eq_some_iff.mp hc
    simp [hk]
  · rw [List.getElem?_set_ne hj]

lemma scripts_apply (e : Ensemble) (cue : Cue) :
    (e.apply cue).scripts = e.scripts ++ cue.script?.toList := by
  cases cue with
  | start script => simp [apply, start, scripts, Cue.script?]
  | turn k | cancel k =>
    simp only [Cue.script?, Option.toList_none, List.append_nil]
    refine apply_induction (P := fun d => d.scripts = e.scripts) _ nofun ?_ ?_ rfl
    · intro k c _ hc _
      exact scripts_put hc rfl
    · intro k c hc _
      exact scripts_put hc rfl

lemma scripts_play (e : Ensemble) (cues : List Cue) :
    (e.play cues).scripts = e.scripts ++ Cue.started cues := by
  induction cues generalizing e with
  | nil => simp [play, Cue.started]
  | cons cue cues ih =>
    rw [play, List.foldl_cons, ← play, ih, scripts_apply, Cue.started_cons, List.append_assoc]

end Ensemble

end EventScript
