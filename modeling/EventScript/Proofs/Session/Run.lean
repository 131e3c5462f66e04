import EventScript.Proofs.Session.Upkeep

/-! Runs of a session, taken apart into the steps of its instances. What happens between the steps
leaves all instances where they are in their scripts. -/

namespace EventScript

variable {H : Host}

namespace Session

/-- The script of an instance and where it is in it. -/
def place? (s : Session H) (k : InstanceId) : Option (Script × Nat) :=
  (s.instance? k).map fun i => (i.script, i.cursor)

lemma place?_of_some {s : Session H} {k : InstanceId} {i : Instance H.Predicate}
    (hi : s.instance? k = some i) : s.place? k = some (i.script, i.cursor) := by
  rw [place?, hi]
  rfl

lemma eq_of_place? {s : Session H} {k : InstanceId} {i : Instance H.Predicate}
    (hi : s.instance? k = some i) {p : Script × Nat} (hp : s.place? k = some p) :
    (i.script, i.cursor) = p :=
  Option.some.inj ((place?_of_some hi).symm.trans hp)

def KeepsPlaces (s t : Session H) : Prop :=
  ∀ k p, s.place? k = some p → t.place? k = some p

end Session

lemma Change.place? {a : Aspect} {s t : Session H} (h : Change a s t) {k : InstanceId}
    (ha : a ≠ .cursor k) {p : Script × Nat} (hp : s.place? k = some p) : t.place? k = some p :=
  h.trait? (fun h => absurd h ha) (fun _ _ _ => rfl) (fun _ _ _ _ => rfl) hp

@[simp] def Aspect.steady : Set Aspect := {a | ∀ k, a ≠ .cursor k}

lemma Changes.keepsPlaces {s t : Session H} (h : Changes Aspect.steady s t) : s.KeepsPlaces t :=
  fun k p hp => h.ignored (I := fun u => u.place? k = some p)
    (fun _ ha _ _ hc hs => hc.place? (ha k) hs) hp

/-- The moment before an instance takes a step. -/
structure Turn (H : Host) where
  before : Session H
  id : InstanceId

/-- What is carried out in a turn: the index of a command and the command. An instance that waits
or has ended carries out nothing. -/
def Turn.command? (u : Turn H) : Option (Nat × Command) :=
  match u.before.instance? u.id with
  | some i =>
    match i.status with
    | .running => i.command?.map (i.cursor, ·)
    | _ => none
  | none => none

lemma Turn.command?_eq_some {s : Session H} {k : InstanceId} {m : Nat} {c : Command} :
    Turn.command? ⟨s, k⟩ = some (m, c) ↔
      ∃ i, s.instance? k = some i ∧ i.status = .running ∧ i.cursor = m ∧ i.command? = some c := by
  unfold Turn.command?
  dsimp only
  cases s.instance? k with
  | none => simp
  | some i => cases hs : i.status <;> simp [hs, and_comm]

/-- What an instance carries out in some turns. -/
def commandsOf (id : InstanceId) (us : List (Turn H)) : List (Nat × Command) :=
  (us.filter (·.id = id)).filterMap Turn.command?

/-- The instances of a session take turns, in any order and with anything between their steps that
moves none of them. -/
inductive Run (w : Wiring H) : Session H → List (Turn H) → Session H → Prop
  | done (s : Session H) : Run w s [] s
  | turn {s t : Session H} {us : List (Turn H)} (id : InstanceId) (elapsed : Option Float) :
      Run w (endState (Engine.step w id elapsed) s) us t → Run w s (⟨s, id⟩ :: us) t
  | aside {s s' t : Session H} {us : List (Turn H)} : s.KeepsPlaces s' → Run w s' us t →
      Run w s us t

namespace Run

variable {w : Wiring H}

lemma trans {s t u : Session H} {us vs : List (Turn H)} (h : Run w s us t) (h' : Run w t vs u) :
    Run w s (us ++ vs) u := by
  induction h with
  | done => exact h'
  | turn id elapsed _ ih => exact .turn id elapsed (ih h')
  | aside hk _ ih => exact .aside hk (ih h')

end Run

def IsRun {α : Type} (w : Wiring H) (p : Engine H α) : Prop := ∀ s, ∃ us, Run w s us (endState p s)

namespace IsRun

variable {w : Wiring H} {α β : Type}

lemma of_within {p : Engine H α} (hp : Within Aspect.steady p) : IsRun w p :=
  fun s => ⟨[], .aside (hp s).keepsPlaces (.done _)⟩

lemma bind {p : Engine H β} {f : β → Engine H α} (hp : IsRun w p) (hf : ∀ b, IsRun w (f b)) :
    IsRun w (p >>= f) := by
  intro s
  obtain ⟨us, hus⟩ := hp s
  unfold endState at hus ⊢
  cases h : p s with
  | ok b t =>
    rw [bind_of_ok h]
    rw [h] at hus
    obtain ⟨vs, hvs⟩ := hf b t
    exact ⟨us ++ vs, hus.trans hvs⟩
  | error e t =>
    rw [bind_of_error h]
    rw [h] at hus
    exact ⟨us, hus⟩

lemma of_keeps {p : Engine H α} (hp : ∀ I : Session H → Prop, w.Keeps I → Preserves I p) :
    IsRun w p := by
  intro s
  have haside {t u : Session H} (hk : t.KeepsPlaces u) :
      (∃ us, Run w s us t) → ∃ us, Run w s us u := by
    rintro ⟨us, h⟩
    exact ⟨us ++ [], h.trans (.aside hk (.done u))⟩
  have hkeeps : w.Keeps fun t => ∃ us, Run w s us t := by
    refine ⟨fun a ha t u hc => haside ?_, fun t id i _ _ => haside ?_, fun id elapsed => ?_⟩
    · have hsteady : a ∈ Aspect.steady := fun k => (ha.2.2 k).1
      exact (hc.changes hsteady).keepsPlaces
    · exact ((Change.status t id .canceled).changes (by simp)).keepsPlaces
    · refine Leads.of_endState ?_
      rintro t ⟨us, h⟩
      exact ⟨us ++ [⟨t, id⟩], h.trans (.turn id elapsed (.done _))⟩
  exact (hp _ hkeeps).endState ⟨[], .done s⟩

end IsRun

lemma Engine.canceling_steady (id : InstanceId) : Aspect.canceling id ⊆ Aspect.steady := by
  intro a ha k hk
  simp [hk] at ha

lemma Request.isRun (w : Wiring H) (r : Request H) : IsRun w (r.run w) := by
  have hbeside : Aspect.beside ⊆ Aspect.steady := by
    rintro a (rfl | rfl) <;> simp
  have hstarting : Aspect.starting ⊆ Aspect.steady := by
    rintro a (rfl | rfl | rfl) <;> simp
  by_cases hr : r.isQuiet = true
  · rcases r.starts_or_keeps w hr with ⟨script, owner, pausable, watcher, -, hrun⟩ | ⟨-, hkeeps⟩
    · intro s
      rw [hrun s]
      exact IsRun.of_within (Engine.start_within hstarting _ _ _ _) s
    · exact .of_keeps hkeeps
  cases r with
  | startFile file owner pausable watcher =>
    exact .of_within ((Engine.loadHere_within hbeside _ _).bind fun _ =>
      (Engine.start_within hstarting _ _ _ _).bind fun _ => .pure _)
  | newGame =>
    have hcancel : IsRun w (Engine.cancelAll w.services) :=
      .of_keeps fun I hw => Preserves.get.bind fun _ =>
        (Modular.preserves I).dropEach (hw.drop w.services) _
    have hreset := Engine.reset_within (H := H) (A := Aspect.steady) (by simp) (by simp) (by simp)
      (by simp) (by simp) (by simp) w.services
    refine (IsRun.of_within (Engine.log_within (by simp) _ _)).bind fun _ => hcancel.bind fun _ => ?_
    exact .of_within (hreset.bind fun _ => .modify fun s => (Change.store s []).changes (by simp))
  | load path => exact .of_within (Engine.load_within (by simp) path)
  | setVariable name value => exact .of_within (Engine.setVariable_within (by simp) _ _)
  | _ => exact absurd rfl hr

lemma Session.after_isRun (w : Wiring H) (s : Session H) (rs : List (Request H)) :
    ∃ us, Run w s us (s.after w rs) := by
  induction rs generalizing s with
  | nil => exact ⟨[], .done s⟩
  | cons r rs ih =>
    obtain ⟨us, hus⟩ := r.isRun w s
    obtain ⟨vs, hvs⟩ := ih (endState (r.run w) s)
    exact ⟨us ++ vs, hus.trans hvs⟩

end EventScript
