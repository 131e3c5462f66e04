import EventScript.Proofs.Fault.Services

/-! Operations that spare a session, and operations that fail only as long as they have spared it:
they look first and act then, and once they act they do not fail. -/

namespace EventScript

variable {H : Host} {world : H.Game → Headless} {α β : Type}

def Counters.errors (c : Counters) : List Nat := [
  c.parseErrors, c.unknownCommands, c.unresolvedTargets, c.resourceConflicts, c.scriptErrors,
  c.fatalAborts, c.unexpectedErrors]

namespace Session

/-- Nothing has happened but that something was noted in the log, numbers were drawn and commands
were counted. -/
def Spared (world : H.Game → Headless) (s t : Session H) : Prop :=
  ∃ x c, s.scene.SameWorld world x ∧ Counters.errors c = s.counters.errors ∧
    t = { s.withScene x with counters := c }

/-- All variables and the money of the world can be written out. -/
structure IsPrintable (world : H.Game → Headless) (s : Session H) : Prop where
  store : ∀ x, Text.exceedsDigitLimit (s.store.value x) = false
  money : Text.exceedsDigitLimit (world s.scene.game).money = false

/-- The instance runs in a session with the built-in settings, to which the host adds nothing, and
the game can be written out. -/
structure IsReady (world : H.Game → Headless) (id : InstanceId) (s : Session H) : Prop where
  running : s.status? id = some .running
  settings : s.setup.settings = Settings.ofTree Settings.builtin
  noCommands : s.hostCommands = []
  game : (world s.scene.game).IsPrintable

lemma Spared.refl (world : H.Game → Headless) (s : Session H) : s.Spared world s :=
  ⟨s.scene, s.counters, .refl world _, rfl, rfl⟩

lemma Spared.isReady {id : InstanceId} {b s : Session H} (h : b.Spared world s)
    (hb : b.IsReady world id) : s.IsReady world id := by
  obtain ⟨x, c, hx, -, rfl⟩ := h
  exact ⟨hb.running, hb.settings, hb.noCommands, hx.1.symm ▸ hb.game⟩

end Session

section Look

variable {b : Session H} {S : Services H.Game} (hS : S.FailsEarly world)

lemma Within.spares {p : Engine H α} (hp : Within ∅ p) : Preserves (b.Spared world) p :=
  hp.preserves (by simp)

namespace Engine

lemma play_spares {p : Play H.Game α} (hp : p.IsQuiet world) :
    Preserves (b.Spared world) (play p) := by
  rintro s ⟨x, c, hx, hc, rfl⟩
  have h := hp b.scene x hx
  let s : Session H := { b.withScene x with counters := c }
  change Ends _ _ (play p s)
  cases hr : p x with
  | ok a y =>
    rw [hr] at h
    cases h with
    | ok hy => exact .of_ok (play_of_ok (s := s) hr) ⟨y, c, hy, hc, rfl⟩
  | error f y =>
    rw [hr] at h
    rw [play_of_error (s := s) hr]
    cases h with
    | error hy => exact .error ⟨y, c, hy, hc, rfl⟩

lemma log_spares (level : LogLevel) (text : String) :
    Preserves (b.Spared world) (log level text : Engine H Unit) :=
  play_spares fun _ => Leads.modify fun _ h => h

include hS

lemma answer_spares {p : Play H.Game α} (hp : S.Answers p) : Preserves (b.Spared world) (play p) :=
  play_spares (hS.answers hp)

lemma spares_inquiring : Inquiring S fun p : Engine H _ => Preserves (b.Spared world) p where
  toModular := .preserves _
  attempt := attempt_leads
  log := log_spares
  answers := answer_spares hS

end Engine

end Look

/-- As long as the session is as it was at `b`, the operation fails only while it still is, apart
from numbers that have become too large to be written out. -/
def FailsEarly (world : H.Game → Headless) (b : Session H) (p : Engine H α) : Prop :=
  Triple (b.Spared world) p (fun _ _ => True) fun _ t => t.IsPrintable world → b.Spared world t

namespace FailsEarly

variable {b : Session H} {p : Engine H α}

lemma of_spares (hp : Preserves (b.Spared world) p) : FailsEarly world b p :=
  Triple.weaken hp (fun _ h => h) (fun _ _ _ => trivial) fun _ _ h _ => h

lemma throw (f : Fault) : FailsEarly world b (throw f : Engine H α) := of_spares (.throw f)

lemma of_returns (hp : Returns p) : FailsEarly world b p := Triple.of_returns hp

lemma bind {q : Engine H β} {f : β → Engine H α} (hq : Preserves (b.Spared world) q)
    (hf : ∀ a, FailsEarly world b (f a)) : FailsEarly world b (q >>= f) :=
  Triple.bind (Triple.weaken hq (fun _ h => h) (fun _ _ h => h) fun _ _ h _ => h) hf

lemma ite {c : Prop} [Decidable c] {q : Engine H α} (hp : FailsEarly world b p)
    (hq : FailsEarly world b q) : FailsEarly world b (if c then p else q) :=
  Triple.ite (fun _ => hp) fun _ => hq

lemma guard {c : Prop} [Decidable c] {f : Fault} (hp : FailsEarly world b p) : FailsEarly world b
    (if c then (MonadExcept.throw f : Engine H PUnit) >>= fun _ => p else p) :=
  .ite (.bind (.throw f) fun _ => hp) hp

lemma follow {J : Session H → Prop} {f : α → Engine H β} (hp : FailsEarly world b p)
    (hJ : Preserves J p) (hb : ∀ s, b.Spared world s → J s)
    (hf : ∀ a s, J s → ∃ c t, f a s = .ok c t) : FailsEarly world b (p >>= f) := by
  intro s hs
  have hr := hp s hs
  have hj := hJ s (hb s hs)
  cases h : p s with
  | ok a t =>
    rw [h] at hj
    rw [bind_of_ok h]
    cases hj with
    | ok hj =>
      obtain ⟨c, u, hu⟩ := hf a t hj
      exact .of_ok hu trivial
  | error e t =>
    rw [h] at hr
    rw [bind_of_error h]
    cases hr with
    | error he => exact .error he

lemma followReturns {f : α → Engine H β} (hp : FailsEarly world b p) (hf : ∀ a, Returns (f a)) :
    FailsEarly world b (p >>= f) :=
  hp.follow (J := fun _ => True) (Triple.of_true p) (fun _ _ => trivial) fun a s _ => hf a s

end FailsEarly

end EventScript
