import EventScript.Proofs.Modular
import EventScript.Session.Control
import Mathlib.Data.Set.Insert
import Mathlib.Logic.Relation

/-! What the operations on a session touch. Everything they do is made of changes to single aspects
of the session, so that whatever does not depend on an aspect survives all operations within it. -/

namespace EventScript

inductive Aspect where
  | scene | fade | talk | chooser | movie | asleep
  | store | cache | files | counters | watchers
  | active | pending | paused | ticks
  /-- A new instance is made. -/
  | roster
  | cursor (id : InstanceId)
  | status (id : InstanceId)
  /-- What an instance keeps of its beginning and of who watches it. -/
  | marks (id : InstanceId)
  deriving DecidableEq

namespace Aspect

@[simp] def beside : Set Aspect := {.scene, .cache}

@[simp] def apart : Set Aspect :=
  {a | a ≠ .store ∧ a ≠ .roster ∧ ∀ k, a ≠ .cursor k ∧ a ≠ .status k}

@[simp] def ending (id : InstanceId) : Set Aspect :=
  {.scene, .counters, .watchers, .marks id, .status id}

@[simp] def canceling (id : InstanceId) : Set Aspect := ending id ∪ {.talk, .chooser}

@[simp] def starting : Set Aspect := {.roster, .pending, .counters}

@[simp] def command (id : InstanceId) : Set Aspect :=
  beside ∪ starting ∪ {.store, .fade, .movie, .talk, .chooser, .status id}

end Aspect

variable {H : Host} {α β : Type}

namespace Session

def withScene (s : Session H) (x : Scene H.Game) : Session H :=
  { s with screen := { s.screen with scene := x } }

def withUi (s : Session H) (u : Ui InstanceId) : Session H :=
  { s with screen := { s.screen with ui := u } }

def modifyInstance (s : Session H) (id : InstanceId)
    (f : Instance H.Predicate → Instance H.Predicate) : Session H :=
  { s with roster := s.roster.modify id f }

lemma instance?_modifyInstance (s : Session H) (id k : InstanceId)
    (f : Instance H.Predicate → Instance H.Predicate) :
    (s.modifyInstance id f).instance? k =
      if id = k then (s.instance? k).map f else s.instance? k :=
  Array.getElem?_modify

end Session

inductive Change : Aspect → Session H → Session H → Prop
  | scene (s : Session H) (x : Scene H.Game) : Change .scene s (s.withScene x)
  | fade (s : Session H) (x : Fade) : Change .fade s (s.withUi { s.ui with fade := x })
  | talk (s : Session H) (x : Option (Talk InstanceId)) :
      Change .talk s (s.withUi { s.ui with talk := x })
  | chooser (s : Session H) (x : Option InstanceId) :
      Change .chooser s (s.withUi { s.ui with chooser := x })
  | movie (s : Session H) (x : Movie) : Change .movie s (s.withUi { s.ui with movie := x })
  | asleep (s : Session H) (x : Bool) : Change .asleep s (s.withUi { s.ui with asleep := x })
  | store (s : Session H) (x : Store) : Change .store s { s with store := x }
  | cache (s : Session H) (x : Ledger Path Script) : Change .cache s { s with cache := x }
  | files (s : Session H) (x : Files) : Change .files s { s with files := x }
  | counters (s : Session H) (x : Counters) : Change .counters s { s with counters := x }
  | watchers (s : Session H) (x : Ledger String Watcher) : Change .watchers s { s with watchers := x }
  | active (s : Session H) (x : List InstanceId) : Change .active s { s with active := x }
  | pending (s : Session H) (x : List InstanceId) : Change .pending s { s with pending := x }
  | paused (s : Session H) (x : Bool) : Change .paused s { s with paused := x }
  | ticks (s : Session H) (x : Nat) : Change .ticks s { s with ticks := x }
  | roster (s : Session H) (i : Instance H.Predicate) (hid : i.id = s.roster.size)
      (hc : i.cursor = 0) (hs : i.status = .running) :
      Change .roster s { s with roster := s.roster.push i }
  | cursor (s : Session H) (id : InstanceId) (n : Nat) :
      Change (.cursor id) s (s.modifyInstance id ({ · with cursor := n }))
  | status (s : Session H) (id : InstanceId) (x : Status H.Predicate) :
      Change (.status id) s (s.modifyInstance id ({ · with status := x }))
  | marks (s : Session H) (id : InstanceId) (f : Instance H.Predicate → Instance H.Predicate)
      (hf : ∀ i, ∃ b c ws, f i = { i with begun := b, counted := c, watchers := ws }) :
      Change (.marks id) s (s.modifyInstance id f)

/-- What an instance is stays as it is when something else changes. -/
lemma Change.trait? {a : Aspect} {s t : Session H} (h : Change a s t) {k : InstanceId}
    {f : Instance H.Predicate → α} (hcursor : a = .cursor k → ∀ i n, f { i with cursor := n } = f i)
    (hstatus : a = .status k → ∀ i x, f { i with status := x } = f i)
    (hmarks : ∀ i b c ws, f { i with begun := b, counted := c, watchers := ws } = f i) {x : α}
    (hx : (s.instance? k).map f = some x) : (t.instance? k).map f = some x := by
  have hmodify (id : InstanceId) {g : Instance H.Predicate → Instance H.Predicate}
      (hg : id = k → ∀ i, f (g i) = f i) : ((s.modifyInstance id g).instance? k).map f = some x := by
    rw [s.instance?_modifyInstance]
    split
    · next hid => simpa [Function.comp_def, hg hid] using hx
    · exact hx
  cases h with
  | roster _ i =>
    obtain ⟨j, hj, rfl⟩ := Option.map_eq_some_iff.mp hx
    obtain ⟨hk, hget⟩ := Array.getElem?_eq_some_iff.mp hj
    change ((s.roster.push i)[k]?).map f = _
    rw [Array.getElem?_push_lt hk, hget]
    rfl
  | cursor _ id n => exact hmodify id fun hid i => hcursor (hid ▸ rfl) i n
  | status _ id y => exact hmodify id fun hid i => hstatus (hid ▸ rfl) i y
  | marks _ id g hg =>
    refine hmodify id fun _ i => ?_
    obtain ⟨b, c, ws, hi⟩ := hg i
    rw [hi, hmarks]
  | _ => exact hx

def Changes (A : Set Aspect) : Session H → Session H → Prop :=
  Relation.ReflTransGen fun s t => ∃ a ∈ A, Change a s t

def Within (A : Set Aspect) (p : Engine H α) : Prop := ∀ s, Changes A s (endState p s)

def Ignores (I : Session H → Prop) (a : Aspect) : Prop := ∀ s t, Change a s t → I s → I t

variable {A : Set Aspect} {I : Session H → Prop}

lemma Changes.ignored {s t : Session H} (h : Changes A s t) (hI : ∀ a ∈ A, Ignores I a)
    (hs : I s) : I t := by
  induction h with
  | refl => exact hs
  | tail _ hc ih =>
    obtain ⟨a, ha, hc⟩ := hc
    exact hI a ha _ _ hc ih

lemma Change.changes {a : Aspect} {s t : Session H} (h : Change a s t) (ha : a ∈ A) :
    Changes A s t :=
  .single ⟨a, ha, h⟩

namespace Within

lemma mono {B : Set Aspect} {p : Engine H α} (hp : Within A p) (hAB : A ⊆ B) : Within B p :=
  fun s => Relation.ReflTransGen.mono (fun _ _ ⟨a, ha, hc⟩ => ⟨a, hAB ha, hc⟩) _ _ (hp s)

lemma preserves {p : Engine H α} (hp : Within A p) (hI : ∀ a ∈ A, Ignores I a) : Preserves I p :=
  Leads.of_endState fun s hs => (hp s).ignored hI hs

lemma pure (a : α) : Within A (pure a : Engine H α) := fun _ => .refl

lemma throw (f : Fault) : Within A (throw f : Engine H α) := fun _ => .refl

lemma get : Within A (get : Engine H (Session H)) := fun _ => .refl

lemma get_bind {f : Session H → Engine H α} (h : ∀ s, Changes A s (endState (f s) s)) :
    Within A (MonadState.get >>= f) := h

lemma bind {p : Engine H β} {f : β → Engine H α} (hp : Within A p) (hf : ∀ b, Within A (f b)) :
    Within A (p >>= f) := by
  intro s
  have hs := hp s
  change Changes A s (endState (EStateM.bind p f) s)
  unfold endState EStateM.bind
  unfold endState at hs
  cases h : p s with
  | ok b t => rw [h] at hs; exact hs.trans (hf b t)
  | error e t => rw [h] at hs; exact hs

lemma modify {f : Session H → Session H} (h : ∀ s, Changes A s (f s)) :
    Within A (modify f : Engine H PUnit) := h

lemma ite {c : Prop} [Decidable c] {p q : Engine H α} (hp : Within A p) (hq : Within A q) :
    Within A (if c then p else q) := by
  split
  · exact hp
  · exact hq

lemma attempt {p : Engine H α} (hp : Within A p) : Within A (Engine.attempt p) := by
  intro s
  have hs := hp s
  unfold endState Engine.attempt
  unfold endState at hs
  cases h : p s <;> rw [h] at hs <;> exact hs

lemma ofExcept (x : Except Fault α) : Within A (Engine.ofExcept x : Engine H α) := by
  cases x with
  | ok a => exact pure a
  | error f => exact throw f

lemma modular (A : Set Aspect) : Modular fun p : Engine H _ => Within A p where
  pure := pure
  get := get
  throw _ := throw _
  bind := bind

end Within

end EventScript
