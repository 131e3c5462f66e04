import EventScript.Proofs.Session.Footprint.Step
import Mathlib.Logic.Function.Basic

/-! The prompt and those who wait for it. Whoever waits for a dialogue or a choice holds it, nobody
else does, and the two are never held at once. -/

namespace EventScript

variable {H : Host}

def Status.waitKind? {π : Type} (x : Status π) : Option WaitKind := x.wait?.map Wait.kind

namespace Session

def status? (s : Session H) (h : InstanceId) : Option (Status H.Predicate) :=
  (s.instance? h).map (·.status)

def waitKind? (s : Session H) (h : InstanceId) : Option WaitKind :=
  (s.status? h).bind Status.waitKind?

def talker? (s : Session H) : Option InstanceId := s.ui.talk.map (·.holder)

/-- An instance that the session lists and that has not ended. -/
def IsLive (s : Session H) (h : InstanceId) : Prop := h ∈ s.instances ∧ s.isActive h = true

lemma status?_setStatus (s : Session H) (id k : InstanceId) (x : Status H.Predicate) :
    (s.modifyInstance id ({ · with status := x })).status? k =
      if id = k then (s.status? k).map fun _ => x else s.status? k := by
  unfold status?
  rw [instance?_modifyInstance]
  split
  · cases s.instance? k <;> rfl
  · rfl

lemma status?_modifyInstance (s : Session H) (id k : InstanceId)
    {f : Instance H.Predicate → Instance H.Predicate} (hf : ∀ i, (f i).status = i.status) :
    (s.modifyInstance id f).status? k = s.status? k := by
  unfold status?
  rw [instance?_modifyInstance]
  split
  · cases s.instance? k <;> simp [hf]
  · rfl

lemma status?_push (s : Session H) (i : Instance H.Predicate) (k : InstanceId) :
    status? { s with roster := s.roster.push i } k =
      if k = s.roster.size then some i.status else s.status? k := by
  change ((s.roster.push i)[k]?).map _ = _
  rw [Array.getElem?_push]
  split <;> rfl

lemma status?_size (s : Session H) : s.status? s.roster.size = none := by
  simp [status?, instance?]

lemma waitKind?_setStatus {s : Session H} {id : InstanceId} {y : Status H.Predicate}
    (hy : s.status? id = some y) (x : Status H.Predicate) :
    (s.modifyInstance id ({ · with status := x })).waitKind? =
      Function.update s.waitKind? id x.waitKind? := by
  funext k
  unfold waitKind?
  rw [status?_setStatus]
  by_cases hk : id = k
  · subst hk
    simp [hy]
  · simp [hk, Function.update_of_ne (Ne.symm hk)]

lemma isActive_of_waitKind? {s : Session H} {h : InstanceId} {k : WaitKind}
    (hk : s.waitKind? h = some k) : s.isActive h = true := by
  unfold waitKind? status? at hk
  unfold isActive Instance.isActive
  cases hi : s.instance? h with
  | none => simp [hi] at hk
  | some i =>
    cases hx : i.status <;> simp [hi, hx, Status.waitKind?, Status.wait?, Status.isActive] at hk ⊢

end Session

/-- Holders and waits belong together, where `waits` says who waits for what and `l` who is listed
to run. Nobody waits for the host, which has no commands and no waits of its own. -/
structure PromptsAgree (l : List InstanceId) (s : Session H)
    (waits : InstanceId → Option WaitKind) : Prop where
  active : s.active = l
  talk : ∀ h, s.talker? = some h ↔ waits h = some .dialogue
  choice : ∀ h, s.ui.chooser = some h ↔ waits h = some .selection
  apart : s.talker? = none ∨ s.ui.chooser = none
  listed : ∀ h, waits h ≠ none → h ∈ l
  own : ∀ h, waits h ≠ some .host
  noCommands : s.hostCommands = []
  noWaits : s.hostWaits = []

def PromptInvariant (l : List InstanceId) (s : Session H) : Prop := PromptsAgree l s s.waitKind?

def PromptFreeOf (id : InstanceId) (l : List InstanceId) (s : Session H) : Prop :=
  PromptsAgree l s (Function.update s.waitKind? id none)

def WaitKind.isAside : WaitKind → Bool
  | .dialogue | .selection | .host => false
  | _ => true

namespace PromptsAgree

variable {l : List InstanceId} {s t : Session H} {f : InstanceId → Option WaitKind}
  {id : InstanceId}

/-- The prompt changes hands between `id` and nobody, and `id` waits accordingly. -/
lemma hand {x : Option WaitKind} (h : PromptsAgree l s f)
    (htalk : ∀ k, k ≠ id → (t.talker? = some k ↔ s.talker? = some k))
    (hchoice : ∀ k, k ≠ id → (t.ui.chooser = some k ↔ s.ui.chooser = some k))
    (htalk' : t.talker? = some id ↔ x = some .dialogue)
    (hchoice' : t.ui.chooser = some id ↔ x = some .selection)
    (hapart : t.talker? = none ∨ t.ui.chooser = none) (hlisted : x = none ∨ id ∈ l)
    (hown : x ≠ some .host) (ha : t.active = s.active) (hh : t.hostCommands = s.hostCommands)
    (hw : t.hostWaits = s.hostWaits) : PromptsAgree l t (Function.update f id x) := by
  refine ⟨ha.trans h.active, ?_, ?_, hapart, ?_, ?_, hh.trans h.noCommands,
    hw.trans h.noWaits⟩ <;> intro k <;>
    by_cases he : k = id
  · simpa [he] using htalk'
  · simpa [he] using (htalk k he).trans (h.talk k)
  · simpa [he] using hchoice'
  · simpa [he] using (hchoice k he).trans (h.choice k)
  · subst he
    exact fun hk => hlisted.resolve_left (by simpa using hk)
  · exact fun hk => h.listed k (by simpa [he] using hk)
  · simpa [he] using hown
  · simpa [he] using h.own k

lemma exchange {x : Option WaitKind} (h : PromptsAgree l s f)
    (hf : ∀ k, f id = some k → k.isAside = true) (hx : ∀ k, x = some k → k.isAside = true)
    (ha : x = none ∨ id ∈ l) : PromptsAgree l s (Function.update f id x) := by
  have hne : ∀ k, k.isAside = false → (f id = some k ↔ x = some k) := by
    intro k hk
    constructor <;> intro he
    · simp [hf k he] at hk
    · simp [hx k he] at hk
  refine h.hand (fun _ _ => .rfl) (fun _ _ => .rfl) ((h.talk id).trans (hne _ rfl))
    ((h.choice id).trans (hne _ rfl)) h.apart ha ?_ rfl rfl rfl
  exact fun he => h.own id ((hne _ rfl).mpr he)

lemma take_talk {x : Talk InstanceId} (h : PromptsAgree l s f) (ht : s.talker? = none)
    (hc : s.ui.chooser = none) (hid : id ∈ l) (hx : x.holder = id)
    (ht' : t = s.withUi { s.ui with talk := some x }) :
    PromptsAgree l t (Function.update f id (some .dialogue)) := by
  subst ht'
  have htalk : (s.withUi { s.ui with talk := some x }).talker? = some id := congrArg some hx
  refine h.hand ?_ (fun _ _ => .rfl) (by simp [htalk]) ?_ (.inr hc) (.inr hid) (by simp) rfl rfl rfl
  · intro k hk
    simp [htalk, ht, Ne.symm hk]
  · change s.ui.chooser = some id ↔ _
    simp [hc]

lemma take_choice (h : PromptsAgree l s f) (ht : s.talker? = none) (hc : s.ui.chooser = none)
    (hid : id ∈ l) (ht' : t = s.withUi { s.ui with chooser := some id }) :
    PromptsAgree l t (Function.update f id (some .selection)) := by
  subst ht'
  have hchoice : (s.withUi { s.ui with chooser := some id }).ui.chooser = some id := rfl
  refine h.hand (fun _ _ => .rfl) ?_ ?_ (by simp [hchoice]) (.inl ht) (.inr hid) (by simp) rfl rfl rfl
  · intro k hk
    simp [hchoice, hc, Ne.symm hk]
  · change s.talker? = some id ↔ _
    simp [ht]

lemma leave_talk (h : PromptsAgree l s f) (ht : s.talker? = some id)
    (ht' : t = s.withUi { s.ui with talk := none }) :
    PromptsAgree l t (Function.update f id none) := by
  subst ht'
  have hc : s.ui.chooser = none := h.apart.resolve_left (by simp [ht])
  have htalk : (s.withUi { s.ui with talk := none }).talker? = none := rfl
  refine h.hand ?_ (fun _ _ => .rfl) (by simp [htalk]) ?_ (.inl htalk) (.inl rfl) (by simp) rfl rfl rfl
  · intro k hk
    simp [htalk, ht, Ne.symm hk]
  · change s.ui.chooser = some id ↔ _
    simp [hc]

lemma leave_choice (h : PromptsAgree l s f) (hc : s.ui.chooser = some id)
    (ht' : t = s.withUi { s.ui with chooser := none }) :
    PromptsAgree l t (Function.update f id none) := by
  subst ht'
  have ht : s.talker? = none := h.apart.resolve_right (by simp [hc])
  have hchoice : (s.withUi { s.ui with chooser := none }).ui.chooser = none := rfl
  refine h.hand (fun _ _ => .rfl) ?_ ?_ (by simp [hchoice]) (.inr hchoice) (.inl rfl) (by simp)
    rfl rfl rfl
  · intro k hk
    simp [hchoice, hc, Ne.symm hk]
  · change s.talker? = some id ↔ _
    simp [ht]

end PromptsAgree

@[simp] def Aspect.isCalm : Aspect → Bool
  | .talk | .chooser | .active | .status _ => false
  | _ => true

@[simp] def Aspect.calm : Set Aspect := {a | a.isCalm = true}

structure SamePrompt (s t : Session H) : Prop where
  talk : t.talker? = s.talker?
  choice : t.ui.chooser = s.ui.chooser
  active : t.active = s.active
  commands : t.hostCommands = s.hostCommands
  hostWaits : t.hostWaits = s.hostWaits

lemma Change.status?_eq {a : Aspect} {s t : Session H} (h : Change a s t) {k : InstanceId}
    (hroster : a ≠ .roster) (hstatus : a ≠ .status k) : t.status? k = s.status? k := by
  cases h with
  | roster => exact absurd rfl hroster
  | status _ j x =>
    rw [s.status?_setStatus, if_neg]
    rintro rfl
    exact hstatus rfl
  | cursor _ j n => exact s.status?_modifyInstance j k (by intro i; rfl)
  | marks _ j f hf =>
    refine s.status?_modifyInstance j k fun i => ?_
    obtain ⟨b, c, ws, hi⟩ := hf i
    rw [hi]
  | _ => rfl

lemma Change.status?_or {a : Aspect} {s t : Session H} (h : Change a s t) {k : InstanceId}
    (ha : a ≠ .status k) :
    t.status? k = s.status? k ∨ s.status? k = none ∧ t.status? k = some .running := by
  by_cases hroster : a = .roster
  · subst hroster
    cases h with
    | roster _ i _ _ hi =>
      rw [s.status?_push]
      split
      · next hk => exact .inr ⟨hk ▸ s.status?_size, by rw [hi]⟩
      · exact .inl rfl
  · exact .inl (h.status?_eq hroster ha)

lemma Change.status_cases {a : Aspect} {s t : Session H} (h : Change a s t)
    (ha : a.isCalm = true) (k : InstanceId) :
    t.status? k = s.status? k ∨ s.status? k = none ∧ t.status? k = some .running :=
  h.status?_or (by rintro rfl; cases ha)

lemma Change.waitKind? {a : Aspect} {s t : Session H} (h : Change a s t)
    (ha : a.isCalm = true) : t.waitKind? = s.waitKind? := by
  funext k
  rcases h.status_cases ha k with hk | ⟨hk, hr⟩
  · simp [Session.waitKind?, hk]
  · simp [Session.waitKind?, hk, hr, Status.waitKind?, Status.wait?]

lemma Change.samePrompt {a : Aspect} {s t : Session H} (h : Change a s t)
    (ha : a.isCalm = true) : SamePrompt s t := by
  cases h with
  | talk | chooser | active | status => simp [Aspect.isCalm] at ha
  | _ => exact ⟨rfl, rfl, rfl, rfl, rfl⟩

lemma PromptsAgree.same {l : List InstanceId} {s t : Session H} {f : InstanceId → Option WaitKind}
    (h : PromptsAgree l s f) (hst : SamePrompt s t) : PromptsAgree l t f := by
  constructor
  · exact hst.active.trans h.active
  · simpa only [hst.talk] using h.talk
  · simpa only [hst.choice] using h.choice
  · simpa only [hst.talk, hst.choice] using h.apart
  · exact h.listed
  · exact h.own
  · exact hst.commands.trans h.noCommands
  · exact hst.hostWaits.trans h.noWaits

section Ignores

variable {a : Aspect} {l : List InstanceId} {id : InstanceId}

lemma PromptInvariant.ignores (ha : a.isCalm = true) : Ignores (H := H) (PromptInvariant l) a := by
  intro s t h hs
  unfold PromptInvariant
  rw [h.waitKind? ha]
  exact hs.same (h.samePrompt ha)

lemma status?_ignores (ha : a.isCalm = true) (x : Status H.Predicate) :
    Ignores (fun s : Session H => s.status? id = some x) a := by
  intro s t h hs
  rcases h.status_cases ha id with hk | ⟨hk, -⟩
  · exact hk.trans hs
  · simp [hk] at hs

end Ignores

end EventScript
