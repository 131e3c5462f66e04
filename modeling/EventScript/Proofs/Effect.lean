import Mathlib.Tactic.Lemma

/-! Computations that change a state and may end in a fault. A fault leaves the state as it was
reached, so a statement about a computation speaks of both of its ends. -/

namespace EventScript

variable {ε σ α β : Type}

/-- The state in which a computation ends, with an answer or with a fault. -/
def endState (p : EStateM ε σ α) (s : σ) : σ :=
  match p s with
  | .ok _ t => t
  | .error _ t => t

/-- The end of a run: an answer with `Q` or a fault with `E`. -/
inductive Ends (Q : α → σ → Prop) (E : ε → σ → Prop) : EStateM.Result ε σ α → Prop
  | ok {a : α} {t : σ} (h : Q a t) : Ends Q E (.ok a t)
  | error {e : ε} {t : σ} (h : E e t) : Ends Q E (.error e t)

/-- From a state with `P` the computation gives an answer with `Q` or a fault with `E`. -/
def Triple (P : σ → Prop) (p : EStateM ε σ α) (Q : α → σ → Prop) (E : ε → σ → Prop) : Prop :=
  ∀ s, P s → Ends Q E (p s)

/-- From a state with `P` the computation ends in one with `Q`, by an answer or by a fault. -/
def Leads (P : σ → Prop) (p : EStateM ε σ α) (Q : σ → Prop) : Prop :=
  Triple P p (fun _ => Q) (fun _ => Q)

def Preserves (I : σ → Prop) (p : EStateM ε σ α) : Prop := Leads I p I

/-- The computation never ends in a fault. -/
def Returns (p : EStateM ε σ α) : Prop := ∀ s, ∃ a t, p s = .ok a t

lemma Leads.endState {P Q : σ → Prop} {p : EStateM ε σ α} (hp : Leads P p Q) {s : σ}
    (hs : P s) : Q (endState p s) := by
  have h := hp s hs
  unfold EventScript.endState
  cases hr : p s <;> rw [hr] at h <;> cases h <;> assumption

lemma Leads.of_endState {P Q : σ → Prop} {p : EStateM ε σ α}
    (h : ∀ s, P s → Q (EventScript.endState p s)) : Leads P p Q := by
  intro s hs
  have ht := h s hs
  unfold EventScript.endState at ht
  cases hr : p s <;> rw [hr] at ht
  · exact .ok ht
  · exact .error ht

lemma endState_congr {p : EStateM ε σ α} {q : EStateM ε σ α} {s t : σ} (h : p s = q t) :
    endState p s = endState q t := by
  unfold endState
  rw [h]

section Apply

variable {p : EStateM ε σ α} {f : α → EStateM ε σ β} {s t : σ}

@[simp] lemma pure_apply (a : α) (s : σ) : (pure a : EStateM ε σ α) s = .ok a s := rfl

@[simp] lemma get_apply (s : σ) : (get : EStateM ε σ σ) s = .ok s s := rfl

@[simp] lemma modify_apply (g : σ → σ) (s : σ) :
    (modify g : EStateM ε σ PUnit) s = .ok ⟨⟩ (g s) := rfl

lemma run_apply (p : EStateM ε σ α) (s : σ) : p.run s = p s := rfl

lemma bind_apply (p : EStateM ε σ α) (f : α → EStateM ε σ β) (s : σ) :
    (p >>= f) s = match p s with
      | .ok a t => f a t
      | .error e t => .error e t := rfl

lemma bind_of_ok {a : α} (h : p s = .ok a t) : (p >>= f) s = f a t := by
  rw [bind_apply, h]

lemma bind_of_error {e : ε} (h : p s = .error e t) : (p >>= f) s = .error e t := by
  rw [bind_apply, h]

lemma bind_eq_ok {b : β} (h : (p >>= f) s = .ok b t) : ∃ a u, p s = .ok a u ∧ f a u = .ok b t := by
  rw [bind_apply] at h
  cases hp : p s with
  | ok a u =>
    rw [hp] at h
    exact ⟨a, u, rfl, h⟩
  | error e u =>
    rw [hp] at h
    cases h

end Apply

lemma Ends.of_ok {Q : α → σ → Prop} {E : ε → σ → Prop} {r : EStateM.Result ε σ α} {a : α} {t : σ}
    (hr : r = .ok a t) (h : Q a t) : Ends Q E r :=
  hr ▸ .ok h

lemma Ends.weaken {Q Q' : α → σ → Prop} {E E' : ε → σ → Prop} {r : EStateM.Result ε σ α}
    (h : Ends Q E r) (hQ : ∀ a s, Q a s → Q' a s) (hE : ∀ e s, E e s → E' e s) : Ends Q' E' r := by
  cases h with
  | ok h => exact .ok (hQ _ _ h)
  | error h => exact .error (hE _ _ h)

namespace Triple

variable {P : σ → Prop} {Q : α → σ → Prop} {E : ε → σ → Prop} {p : EStateM ε σ α}

lemma weaken {P' : σ → Prop} {Q' : α → σ → Prop} {E' : ε → σ → Prop} (h : Triple P p Q E)
    (hP : ∀ s, P' s → P s) (hQ : ∀ a s, Q a s → Q' a s) (hE : ∀ e s, E e s → E' e s) :
    Triple P' p Q' E' :=
  fun s hs => (h s (hP s hs)).weaken hQ hE

lemma apply (h : Triple P p Q E) {s : σ} (hs : P s) : Ends Q E (p s) := h s hs

lemma answer (h : Triple P p Q E) {s t : σ} {a : α} (hs : P s) (hr : p s = .ok a t) : Q a t := by
  have hend := h s hs
  rw [hr] at hend
  cases hend with
  | ok hQ => exact hQ

lemma of_true (p : EStateM ε σ α) : Triple P p (fun _ _ => True) (fun _ _ => True) := by
  intro s _
  cases p s
  · exact .ok trivial
  · exact .error trivial

lemma pure {a : α} (h : ∀ s, P s → Q a s) : Triple P (pure a) Q E := fun s hs => .ok (h s hs)

lemma throw {e : ε} (h : ∀ s, P s → E e s) : Triple P (MonadExcept.throw e : EStateM ε σ α) Q E :=
  fun s hs => .error (h s hs)

lemma bind {R : β → σ → Prop} {q : EStateM ε σ β} {f : β → EStateM ε σ α}
    (hq : Triple P q R E) (hf : ∀ b, Triple (R b) (f b) Q E) : Triple P (q >>= f) Q E := by
  intro s hs
  have hr := hq s hs
  cases h : q s <;> rw [h] at hr <;> cases hr
  · next hb =>
    rw [bind_of_ok h]
    exact hf _ _ hb
  · next he =>
    rw [bind_of_error h]
    exact .error he

lemma after {q : EStateM ε σ β} {f : β → EStateM ε σ α} (hq : Preserves P q)
    (hE : ∀ e s, P s → E e s) (hf : ∀ b, Triple P (f b) Q E) : Triple P (q >>= f) Q E :=
  bind (weaken hq (fun _ h => h) (fun _ _ h => h) hE) hf

lemma and_preserves {I : σ → Prop} (h : Triple P p Q E) (hI : Preserves I p) :
    Triple (fun s => I s ∧ P s) p (fun a s => I s ∧ Q a s) fun e s => I s ∧ E e s := by
  rintro s ⟨hs, hp⟩
  have hQ := h s hp
  have ht := hI s hs
  cases hr : p s <;> rw [hr] at hQ ht <;> cases hQ <;> cases ht
  · exact .ok ⟨by assumption, by assumption⟩
  · exact .error ⟨by assumption, by assumption⟩

lemma ite {c : Prop} [Decidable c] {q : EStateM ε σ α} (hp : c → Triple P p Q E)
    (hq : ¬ c → Triple P q Q E) : Triple P (if c then p else q) Q E := by
  split
  · next hc => exact hp hc
  · next hc => exact hq hc

lemma get_bind {f : σ → EStateM ε σ α} (h : ∀ s, P s → Triple (· = s) (f s) Q E) :
    Triple P (get >>= f) Q E :=
  fun s hs => h s hs s rfl

lemma modify {Q : PUnit → σ → Prop} {f : σ → σ} (h : ∀ s, P s → Q ⟨⟩ (f s)) :
    Triple P (modify f : EStateM ε σ PUnit) Q E :=
  fun s hs => .ok (h s hs)

end Triple

namespace Leads

variable {P Q : σ → Prop} {p : EStateM ε σ α}

lemma pure {a : α} (h : ∀ s, P s → Q s) : Leads P (pure a : EStateM ε σ α) Q := Triple.pure h

lemma throw {e : ε} (h : ∀ s, P s → Q s) : Leads P (MonadExcept.throw e : EStateM ε σ α) Q :=
  Triple.throw h

lemma modify {f : σ → σ} (h : ∀ s, P s → Q (f s)) : Leads P (modify f : EStateM ε σ PUnit) Q :=
  Triple.modify h

lemma weaken {P' Q' : σ → Prop} (h : Leads P p Q) (hP : ∀ s, P' s → P s) (hQ : ∀ s, Q s → Q' s) :
    Leads P' p Q' :=
  Triple.weaken h hP (fun _ => hQ) (fun _ => hQ)

lemma ite {c : Prop} [Decidable c] {q : EStateM ε σ α} (hp : c → Leads P p Q)
    (hq : ¬ c → Leads P q Q) : Leads P (if c then p else q) Q :=
  Triple.ite hp hq

lemma guard {c : Prop} [Decidable c] {e : ε} (hP : ∀ s, P s → Q s) (hp : Leads P p Q) :
    Leads P (if c then (MonadExcept.throw e : EStateM ε σ PUnit) >>= fun _ => p else p) Q :=
  Leads.ite (fun _ s hs => .error (hP s hs)) fun _ => hp

lemma after {q : EStateM ε σ β} {f : β → EStateM ε σ α} (hq : Preserves P q)
    (hP : ∀ s, P s → Q s) (hf : ∀ b, Leads P (f b) Q) : Leads P (q >>= f) Q :=
  Triple.after hq (fun _ => hP) hf

lemma bind {q : EStateM ε σ β} {f : β → EStateM ε σ α} (hq : Leads P q Q)
    (hf : ∀ b, Preserves Q (f b)) : Leads P (q >>= f) Q :=
  Triple.bind hq hf

end Leads

namespace Preserves

variable {I : σ → Prop} {p : EStateM ε σ α}

lemma pure (a : α) : Preserves I (pure a : EStateM ε σ α) := Leads.pure fun _ h => h

lemma get : Preserves I (get : EStateM ε σ σ) := fun _ h => .ok h

lemma bind {q : EStateM ε σ β} {f : β → EStateM ε σ α} (hq : Preserves I q)
    (hf : ∀ b, Preserves I (f b)) : Preserves I (q >>= f) :=
  Leads.bind hq hf

lemma throw (e : ε) : Preserves I (MonadExcept.throw e : EStateM ε σ α) := Leads.throw fun _ h => h

lemma ite {c : Prop} [Decidable c] {q : EStateM ε σ α} (hp : Preserves I p) (hq : Preserves I q) :
    Preserves I (if c then p else q) :=
  Leads.ite (fun _ => hp) fun _ => hq

lemma and {J : σ → Prop} (hI : Preserves I p) (hJ : Preserves J p) :
    Preserves (fun s => I s ∧ J s) p :=
  Leads.of_endState fun _ hs => ⟨Leads.endState hI hs.1, Leads.endState hJ hs.2⟩

lemma or {J : σ → Prop} (hI : Preserves I p) (hJ : Preserves J p) :
    Preserves (fun s => I s ∨ J s) p :=
  Leads.of_endState fun _ hs => hs.imp hI.endState hJ.endState

end Preserves

end EventScript
