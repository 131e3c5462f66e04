import EventScript.Proofs.Forward.Step
import EventScript.Proofs.Schedule.Abiding
import EventScript.Proofs.Script.Brisk
import EventScript.Proofs.Services.Unattended
import Mathlib.Algebra.Order.BigOperators.Group.List
import Mathlib.Algebra.Order.Group.Nat
import Mathlib.Algebra.Ring.Nat

/-! How many turns are due until an instance has ended, in a game that goes on by itself. Each turn
carries out a command, gets a line read or a choice made, or looks at the video once more. -/

namespace EventScript

namespace Pace

variable {σ : Type}

def holdUp (V : Pace σ) : Instruction → Nat
  | .talk first last => (linesBetween V.text first last).length
  | .choose .. => 1
  | .waitMovieEnd => V.frames
  | _ => 0

/-- So many turns a command may keep its instance waiting; one that could not be read never does. -/
def delay (V : Pace σ) (c : Command) : Nat := (c.instruction?.map V.holdUp).getD 0

def turns (V : Pace σ) (script : Script) (m : Nat) : Nat :=
  ((script.commands.drop m).map fun c => 1 + V.delay c).sum

variable {V : Pace σ} {script : Script} {m n : Nat}

lemma turns_of_command {c : Command} (hc : script.commands[m]? = some c) :
    V.turns script m = 1 + V.delay c + V.turns script (m + 1) := by
  obtain ⟨hm, rfl⟩ := List.getElem?_eq_some_iff.mp hc
  unfold turns
  rw [List.drop_eq_getElem_cons hm, List.map_cons, List.sum_cons]

lemma turns_le (h : m ≤ n) : V.turns script n ≤ V.turns script m :=
  ((List.drop_sublist_drop_left script.commands h).map _).sum_le_sum fun _ _ => Nat.zero_le _

lemma turns_pos (h : m < script.size) : 0 < V.turns script m := by
  rw [turns_of_command (List.getElem?_eq_getElem h)]
  omega

end Pace

variable {H : Host} {w : Wiring H} {V : Pace H.Game} {id : InstanceId} {script : Script}
  {s t : Session H} {p : Script × Nat} {x : Wait H.Predicate} {y : Status H.Predicate}
  {j k m n : Nat}

namespace Session

def Stands (id : InstanceId) (p : Script × Nat) (y : Status H.Predicate) (s : Session H) : Prop :=
  s.place? id = some p ∧ s.status? id = some y

def Goes (id : InstanceId) (script : Script) (m : Nat) (s : Session H) : Prop :=
  ∃ j, m ≤ j ∧ s.Stands id (script, j) .running

def Awaits (V : Pace H.Game) (k : Nat) (s : Session H) : Wait H.Predicate → Prop
  | .dialogue => ∀ z, s.ui.talk = some z → (linesBetween V.text z.current z.last).length ≤ k
  | .selection _ => True
  | .movie => s.screen.Lasts V k
  | _ => False

/-- The wait of the instance and the commands that are left for it take at most so many turns. -/
inductive Due (V : Pace H.Game) (id : InstanceId) (script : Script) (n : Nat) (s : Session H) : Prop
  | running {m : Nat} : s.Stands id (script, m) .running → V.turns script m ≤ n →
      Due V id script n s
  | waiting {m k : Nat} {x : Wait H.Predicate} : s.Stands id (script, m) (.suspended x) →
      s.Awaits V k x → 1 + k + V.turns script m ≤ n → Due V id script n s

def EndsIn (V : Pace H.Game) (id : InstanceId) (script : Script) (n : Nat) (s : Session H) : Prop :=
  s.isActive id = true → 0 < n ∧ s.Due V id script n

lemma Stands.ignores {a : Aspect} (hcursor : a ≠ .cursor id) (hstatus : a ≠ .status id) :
    Ignores (Stands (H := H) id p y) a :=
  fun s t h hs => ⟨h.place? hcursor hs.1, status?_ignores_of_ne hstatus s t h hs.2⟩

lemma Stands.setStatus (h : s.Stands id p y) (z : Status H.Predicate) :
    (s.modifyInstance id ({ · with status := z })).Stands id p z := by
  refine ⟨(Change.status s id z).place? (by simp) h.1, ?_⟩
  rw [s.status?_setStatus, if_pos rfl, h.2]
  rfl

lemma Stands.setCursor (h : s.Stands id (script, m) y) (j : Nat) :
    (s.modifyInstance id ({ · with cursor := j })).Stands id (script, j) y :=
  ⟨Engine.place?_setCursor h.1 j,
    (s.status?_modifyInstance id id (f := ({ · with cursor := j })) fun _ => rfl).trans h.2⟩

lemma Awaits.same (h : s.Awaits V k x) (hscreen : t.screen = s.screen) : t.Awaits V k x := by
  cases x with
  | dialogue | movie =>
    simp only [Awaits, ui, hscreen] at h ⊢
    exact h
  | _ => exact h

lemma Goes.due (h : s.Goes id script m) (hn : V.turns script m ≤ n) : s.Due V id script n := by
  obtain ⟨j, hj, hs⟩ := h
  exact .running hs ((Pace.turns_le hj).trans hn)

lemma Due.weaken (h : s.Due V id script m) (hn : m ≤ n) : s.Due V id script n := by
  cases h with
  | running hs hm => exact .running hs (hm.trans hn)
  | waiting hs hk hm => exact .waiting hs hk (hm.trans hn)

lemma EndsIn.weaken (h : s.EndsIn V id script m) (hn : m ≤ n) : s.EndsIn V id script n :=
  fun hactive => ⟨(h hactive).1.trans_le hn, (h hactive).2.weaken hn⟩

lemma EndsIn.of_ended (h : s.isActive id = false) : s.EndsIn V id script n := by
  intro hactive
  rw [h] at hactive
  cases hactive

lemma HasGoneOn.endsIn (h : s.HasGoneOn id) (hs : s.place? id = some (script, m))
    (hn : V.turns script m ≤ n) : s.EndsIn V id script n := by
  obtain ⟨script', m', hplace, hstatus⟩ := h
  obtain ⟨rfl, rfl⟩ := Prod.mk.inj (Option.some.inj (hs.symm.trans hplace))
  split at hstatus
  · refine .of_ended ?_
    rw [s.isActive_eq, hstatus]
    rfl
  · next hm => exact fun _ => ⟨(Pace.turns_pos (Nat.lt_of_not_le hm)).trans_le hn,
      .running ⟨hs, hstatus⟩ hn⟩

end Session

namespace Engine

lemma stands {α : Type} {A : Set Aspect} {q : Engine H α} (hq : Within A q)
    (hA : .cursor id ∉ A ∧ .status id ∉ A) : Preserves (Session.Stands id p y) q :=
  hq.preserves fun _ ha => Session.Stands.ignores (fun h => hA.1 (h ▸ ha)) fun h => hA.2 (h ▸ ha)

lemma goes {α : Type} {A : Set Aspect} {q : Engine H α} (hq : Within A q)
    (hA : .cursor id ∉ A ∧ .status id ∉ A) : Preserves (Session.Goes id script m) q := by
  refine Leads.of_endState ?_
  rintro s ⟨j, hj, hs⟩
  exact ⟨j, hj, (stands hq hA).endState hs⟩

lemma finish_endsIn (hn : V.turns script m ≤ n) :
    Leads (Session.Stands id (script, m) .running) (finish id : Engine H StepResult)
      (Session.EndsIn V id script n) :=
  Leads.of_endState fun s hs => (finish_goesOn.endState hs.2).endsIn
    ((finish_within (ending_steady id) s).keepsPlaces id _ hs.1) hn

lemma settle_endsIn : Leads (Session.Due V id script n) (settle id : Engine H StepResult)
    (Session.EndsIn V id script n) := by
  intro s hs
  cases hs with
  | running hs hn =>
    have hgoes : Leads (Session.Stands id _ .running) (settle id : Engine H StepResult)
        (Session.EndsIn V id script n) :=
      Leads.of_endState fun s hs => (settle_goesOn.endState hs.2).endsIn
        ((settle_within (ending_steady id) s).keepsPlaces id _ hs.1) hn
    exact hgoes s hs
  | waiting hs hk hn =>
    refine .of_ok (settle_waits hs.2) fun _ => ⟨by omega, .waiting hs ?_ hn⟩
    exact hk.same rfl

lemma abort_ends (S : Services H.Game) : Triple (fun _ => True) (abort S id : Engine H Unit)
    (fun _ s => s.isActive id = false) fun _ _ => True := by
  intro s _
  by_cases hactive : s.isActive id = true
  · refine (abort_cancels S id s hactive).weaken (fun _ t ht => ?_) fun _ _ h => h
    rw [t.isActive_eq, ht]
    rfl
  · rw [Bool.not_eq_true] at hactive
    cases hi : s.instance? id with
    | none =>
      unfold abort
      rw [bind_of_error (theInstance_of_none hi)]
      exact .error trivial
    | some i =>
      rw [abort_of_ended hi (by simpa [Session.isActive, hi] using hactive)]
      exact .ok hactive

end Engine

end EventScript
