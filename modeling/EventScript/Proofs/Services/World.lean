import EventScript.Headless
import EventScript.Proofs.Effect
import EventScript.Proofs.Store.Files
import EventScript.Session.Instance
import Mathlib.Data.List.Nodup
import Mathlib.Logic.Function.Basic

/-! What becomes of those who leave the world of the headless game. One who is deleted, or left
behind with the old map, is marked removed. One whose name is given to another is not. -/

namespace EventScript

namespace Ledger

variable {κ α : Type} [DecidableEq κ] {l : Ledger κ α} {j k : κ} {v : α}

lemma keys_erase (l : Ledger κ α) (k : κ) : keys (erase l k) = (keys l).erase k := by
  induction l with
  | nil => rfl
  | cons p l ih =>
    by_cases h : p.1 = k
    · simp [erase, keys, h]
    · have htail : keys (p :: erase l k) = p.1 :: keys (erase l k) := rfl
      rw [erase, if_neg h, htail, ih]
      simp [keys, h]

lemma nodup_keys_put (hl : (keys l).Nodup) (k : κ) (v : α) : (keys (put l k v)).Nodup := by
  rw [keys_put]
  split
  · exact hl
  · next h =>
    rw [← List.concat_eq_append]
    exact hl.concat (mt has_iff_mem_keys.mpr h)

lemma get?_of_mem (hl : (keys l).Nodup) (h : (k, v) ∈ l) : get? l k = some v := by
  induction l with
  | nil => cases h
  | cons p l ih =>
    obtain ⟨hp, hl⟩ := List.nodup_cons.mp hl
    rcases List.mem_cons.mp h with rfl | h
    · simp [get?]
    · have hne : p.1 ≠ k := fun hpk => hp (hpk ▸ List.mem_map_of_mem h)
      rw [get?, if_neg hne, ih hl h]

lemma get?_erase (hl : (keys l).Nodup) (j k : κ) :
    get? (erase l j) k = if j = k then none else get? l k := by
  induction l with
  | nil => simp [erase]
  | cons p l ih =>
    obtain ⟨hp, hl⟩ := List.nodup_cons.mp hl
    by_cases hj : p.1 = j
    · rw [erase, if_pos hj]
      split
      · next hjk =>
        refine Option.eq_none_iff_forall_ne_some.mpr fun v hv => hp ?_
        rw [hj, hjk]
        exact List.mem_map_of_mem (mem_of_get? hv)
      · next hjk => rw [get?, if_neg (hj ▸ hjk)]
    · rw [erase, if_neg hj, get?, get?, ih hl]
      by_cases hk : p.1 = k
      · rw [if_pos hk, if_pos hk, if_neg fun hjk => hj (hk.trans hjk.symm)]
      · rw [if_neg hk, if_neg hk]

end Ledger

def Call.adds? : Call → Option (EntityKind × String)
  | .addNpc file .. => some (.character, Path.stem file)
  | .addObj file .. => some (.obj, Path.stem file)
  | _ => none

namespace Headless

variable {s t : Scene Headless} {c : Call} {kind k : EntityKind} {name m : String}
  {e e' : EntityId}

/-- The entity that a name stands for in the world. -/
def lookup? (s : Scene Headless) (kind : EntityKind) (name : String) : Option EntityId :=
  Ledger.get? (s.game.residents kind) name

def mark? (s : Scene Headless) (e : EntityId) : Option (EntityKind × String × Bool) :=
  s.entities[e]?.map fun x => (x.kind, x.name, x.removed)

def asRemoved (m : EntityKind × String × Bool) : EntityKind × String × Bool := (m.1, m.2.1, true)

/-- The scene after some calls, whether or not they failed. -/
def after (s : Scene Headless) (calls : List Call) : Scene Headless :=
  calls.foldl (fun s c => endState (perform c) s) s

def Displaces (s : Scene Headless) (c : Call) (e : EntityId) : Prop :=
  ∃ kind name, lookup? s kind name = some e ∧ c.adds? = some (kind, name) ∧
    lookup? (endState (perform c) s) kind name ≠ some e

/-- At some point of the history the name of this entity was given to another one. -/
def WasDisplaced (s : Scene Headless) (calls : List Call) (e : EntityId) : Prop :=
  ∃ before c rest, calls = before ++ c :: rest ∧ Displaces (after s before) c e

lemma after_concat (s : Scene Headless) (calls : List Call) (c : Call) :
    after s (calls ++ [c]) = endState (perform c) (after s calls) := by
  simp [after]

lemma wasDisplaced_concat {calls : List Call} : WasDisplaced s (calls ++ [c]) e ↔
    WasDisplaced s calls e ∨ Displaces (after s calls) c e := by
  constructor
  · rintro ⟨before, d, rest, hcalls, hd⟩
    rcases List.eq_nil_or_concat' rest with rfl | ⟨rest, d', rfl⟩
    · obtain ⟨rfl, hcd⟩ := List.append_inj' hcalls rfl
      obtain rfl := List.singleton_inj.mp hcd
      exact .inr hd
    · rw [← List.cons_append, ← List.append_assoc] at hcalls
      exact .inl ⟨before, d, rest, (List.append_inj' hcalls rfl).1, hd⟩
  · rintro (⟨before, d, rest, rfl, hd⟩ | hd)
    · exact ⟨before, d, rest ++ [c], by simp, hd⟩
    · exact ⟨calls, c, [], rfl, hd⟩

/-! ### What a call does -/

/-- Names stand for what they stand for in `l`, and of the entities those of `es` have been marked
removed. -/
structure Leaves (s : Scene Headless) (l : EntityKind → Ledger String EntityId)
    (es : List EntityId) (t : Scene Headless) : Prop where
  residents : ∀ kind, t.game.residents kind = l kind
  size : t.entities.size = s.entities.size
  mark : ∀ e, mark? t e = if e ∈ es then (mark? s e).map asRemoved else mark? s e

def Adds (s : Scene Headless) (x : Entity) : Scene Headless → Prop :=
  Leaves { s with entities := s.entities.push x } (Function.update s.game.residents x.kind
    (Ledger.put (s.game.residents x.kind) x.name s.entities.size)) []

def Deletes (s : Scene Headless) (kind : EntityKind) (name : String) (e : EntityId) :
    Scene Headless → Prop :=
  Leaves s (Function.update s.game.residents kind (Ledger.erase (s.game.residents kind) name)) [e]

def Empties (s : Scene Headless) : Scene Headless → Prop :=
  Leaves s (fun _ => []) ((s.game.npcs ++ s.game.objs).map Prod.snd).reverse

inductive Outcome (s : Scene Headless) (c : Call) (t : Scene Headless) : Prop
  | rests : Leaves s s.game.residents [] t → Outcome s c t
  | adds {x : Entity} : c.adds? = some (x.kind, x.name) → x.removed = false → Adds s x t →
      Outcome s c t
  | deletes {kind : EntityKind} {name : String} {e : EntityId} : c.adds? = none →
      lookup? s kind name = some e → Deletes s kind name e t → Outcome s c t
  | empties : c.adds? = none → Empties s t → Outcome s c t

section Operations

variable {l : EntityKind → Ledger String EntityId} {es : List EntityId}

lemma Leaves.refl (s : Scene Headless) : Leaves s s.game.residents [] s :=
  ⟨fun _ => rfl, rfl, fun _ => rfl⟩

lemma residents_setResidents (g : Headless) (r : Ledger String EntityId) (hkind : kind ≠ .good) :
    (g.setResidents r kind).residents = Function.update g.residents kind r := by
  funext k
  cases kind <;> cases k <;> first | rfl | exact absurd rfl hkind

def Carries {α : Type} (P : Scene Headless → Prop) (p : Play Headless α)
    (Q : Scene Headless → Prop) : Prop :=
  Triple P p (fun _ => Q) fun _ _ => False

lemma Carries.leads {α : Type} {P Q : Scene Headless → Prop} {p : Play Headless α}
    (h : Carries P p Q) : Leads P p Q :=
  Triple.weaken h (fun _ h => h) (fun _ _ h => h) fun _ _ h => h.elim

lemma Carries.bind {α β : Type} {P Q R : Scene Headless → Prop} {p : Play Headless α}
    {f : α → Play Headless β} (hp : Carries P p Q) (hf : ∀ a, Carries Q (f a) R) :
    Carries P (p >>= f) R :=
  Triple.bind hp hf

lemma Carries.imp {α : Type} {P Q R : Scene Headless → Prop} {p : Play Headless α}
    (h : Carries P p Q) (hQR : ∀ s, Q s → R s) : Carries P p R :=
  Triple.weaken h (fun _ h => h) (fun _ => hQR) fun _ _ h => h

lemma Carries.pure (P : Scene Headless → Prop) : Carries P (pure ()) P := Triple.pure fun _ h => h

lemma Carries.ite {α : Type} {b : Prop} [Decidable b] {P Q : Scene Headless → Prop}
    {p q : Play Headless α} (hp : Carries P p Q) (hq : Carries P q Q) :
    Carries P (if b then p else q) Q :=
  Triple.ite (fun _ => hp) fun _ => hq

lemma Carries.game {α : Type} {P Q : Scene Headless → Prop} {f : Headless → Play Headless α}
    (h : ∀ s, P s → Carries (· = s) (f s.game) Q) : Carries P (Play.game >>= f) Q :=
  fun s hs => h s hs s rfl

lemma Carries.from {α : Type} {P Q : Scene Headless → Prop} {p : Play Headless α}
    (h : Carries P p Q) (ht : P t) : Carries (· = t) p Q := by
  rintro _ rfl
  exact h _ ht

lemma info_leaves (text : String) : Carries (Leaves s l es) (Play.info text) (Leaves s l es) :=
  Triple.modify fun _ h => ⟨h.residents, h.size, h.mark⟩

lemma updateGame_leaves {f : Headless → Headless} (hf : ∀ g, (f g).residents = g.residents) :
    Carries (Leaves s l es) (Play.updateGame f) (Leaves s l es) :=
  Triple.modify fun t h =>
    ⟨fun kind => (congrFun (hf t.game) kind).trans (h.residents kind), h.size, h.mark⟩

lemma mark?_updateEntity (t : Scene Headless) (e e' : EntityId) (f : Entity → Entity) :
    mark? (t.updateEntity e f) e' = if e = e' then
      t.entities[e']?.map fun x => ((f x).kind, (f x).name, (f x).removed) else mark? t e' := by
  rw [mark?, Scene.updateEntity, Array.getElem?_modify]
  split
  · simp [Function.comp_def]
  · rfl

lemma size_updateEntity (t : Scene Headless) (e : EntityId) (f : Entity → Entity) :
    (t.updateEntity e f).entities.size = t.entities.size :=
  Array.size_modify

lemma updateEntity_leaves (e : EntityId) {f : Entity → Entity}
    (hf : ∀ x, (f x).kind = x.kind ∧ (f x).name = x.name ∧ (f x).removed = x.removed) :
    Carries (Leaves s l es) (Play.updateEntity e f) (Leaves s l es) := by
  refine Triple.modify fun t h =>
    ⟨h.residents, (size_updateEntity t e f).trans h.size, fun e' => ?_⟩
  rw [← h.mark, mark?_updateEntity]
  split
  · simp only [hf, mark?]
  · rfl

lemma release_leaves (e : EntityId) : Carries (Leaves s l es) (release e) (Leaves s l es) :=
  .game fun _ ht =>
    (Carries.ite (updateEntity_leaves e (f := ({ · with gone := true })) fun _ => ⟨rfl, rfl, rfl⟩)
      (.pure _)).from ht

lemma dismiss_leaves (e : EntityId) :
    Carries (Leaves s l es) (dismiss e) (Leaves s l (e :: es)) := by
  refine Carries.bind (Triple.modify fun t h => ?_) fun _ => release_leaves e
  refine ⟨h.residents, (size_updateEntity t e _).trans h.size, fun e' => ?_⟩
  rw [mark?_updateEntity]
  by_cases he : e = e'
  · obtain rfl := he
    have hremoved : (t.entities[e]?.map fun x => (x.kind, x.name, true)) =
        (mark? t e).map asRemoved := by
      simp [mark?, asRemoved, Function.comp_def]
    have htwice : asRemoved ∘ asRemoved = asRemoved := rfl
    rw [if_pos rfl, if_pos List.mem_cons_self, hremoved, h.mark]
    split
    · rw [Option.map_map, htwice]
    · rfl
  · rw [if_neg he, h.mark]
    simp [Ne.symm he]

lemma dismissAll_leaves (ds : List EntityId) :
    Carries (Leaves s l es) (dismissAll ds) (Leaves s l (ds.reverse ++ es)) := by
  induction ds generalizing es with
  | nil => exact Triple.pure fun _ h => h
  | cons d ds ih =>
    rw [List.reverse_cons, List.append_assoc]
    exact (dismiss_leaves d).bind fun _ => ih

lemma introduce_leaves (x : Entity) : Triple (· = s) (Play.introduce x : Play Headless EntityId)
    (fun e t => e = s.entities.size ∧ t = { s with entities := s.entities.push x })
    fun _ _ => False := by
  rintro _ rfl
  exact .ok ⟨rfl, rfl⟩

lemma setResidents_leaves (hkind : kind ≠ .good) (f : Headless → Ledger String EntityId) :
    Carries (· = s) (Play.updateGame fun g => g.setResidents (f g) kind)
      (Leaves s (Function.update s.game.residents kind (f s.game)) []) := by
  refine Triple.modify ?_
  rintro _ rfl
  exact ⟨congrFun (residents_setResidents _ _ hkind), rfl, fun _ => rfl⟩

lemma addEntity_leaves (file : String) {x y : Datum} {position : Point} (hkind : kind ≠ .good)
    (hposition : Point.ofData x y = .ok position) : Carries (· = s) (addEntity kind file x y)
      (Adds s { kind, name := Path.stem file, position := some position }) := by
  rw [addEntity, hposition]
  refine Carries.game ?_
  rintro _ rfl
  refine Triple.bind (introduce_leaves _) fun e => ?_
  rintro _ ⟨rfl, rfl⟩
  refine Carries.bind (setResidents_leaves hkind fun g =>
    Ledger.put (g.residents kind) (Path.stem file) _) (fun _ => ?_) _ rfl
  split
  · exact (release_leaves _).bind fun _ => info_leaves _
  · exact info_leaves _

lemma addEntity_outcome {file : String} {x y : Datum} (hkind : kind ≠ .good)
    (hc : c.adds? = some (kind, Path.stem file)) :
    Leads (· = s) (addEntity kind file x y) (Outcome s c) := by
  cases hposition : Point.ofData x y with
  | error f =>
    rw [addEntity, hposition]
    refine .throw ?_
    rintro _ rfl
    exact .rests (.refl _)
  | ok position =>
    exact ((addEntity_leaves file hkind hposition).imp fun _ h => .adds hc rfl h).leads

lemma deleteEntity_outcome (hkind : kind ≠ .good) (hc : c.adds? = none) :
    Leads (· = s) (deleteEntity kind name) (Outcome s c) := by
  refine Carries.leads (Carries.game ?_)
  rintro _ rfl
  split
  · next e he =>
    refine Carries.imp (Carries.bind (setResidents_leaves hkind fun g =>
      Ledger.erase (g.residents kind) name) fun _ => (dismiss_leaves e).bind fun _ =>
        info_leaves _) fun _ h => ?_
    exact .deletes hc he h
  · exact ((info_leaves _).from (.refl _)).imp fun _ h => .rests h

lemma loadMap_outcome (file : String) (hc : c.adds? = none) :
    Leads (· = s) (loadMap file) (Outcome s c) := by
  refine Carries.leads (Carries.game ?_)
  rintro s rfl
  have hforget : Carries (· = s) (Play.updateGame
      ({ · with map := .text (Path.stem file), npcs := [], objs := [] }))
      (Leaves s (fun _ => []) []) := by
    refine Triple.modify ?_
    rintro _ rfl
    exact ⟨fun kind => by cases kind <;> rfl, rfl, fun _ => rfl⟩
  refine (hforget.bind fun _ => (dismissAll_leaves _).bind fun _ => info_leaves _).imp fun _ h => ?_
  rw [List.append_nil] at h
  exact .empties hc h

lemma movePlayer_leaves (x y : Datum) : Preserves (Leaves s l es) (movePlayer x y) := by
  refine Preserves.bind (Preserves.get.bind fun _ => .pure _) fun g => ?_
  split
  · split
    · exact .throw _
    · next position _ =>
      exact (updateEntity_leaves _ (f := ({ · with position := some position }))
        fun _ => ⟨rfl, rfl, rfl⟩).leads
  · exact .pure _

lemma checkDigits_leaves (ns : List Int) : Preserves (Leaves s l es) (checkDigits ns) :=
  .ite (.throw _) (.pure _)

lemma addMoney_leaves (amount : Int) : Preserves (Leaves s l es) (addMoney amount) := by
  rw [addMoney]
  refine Preserves.bind (updateGame_leaves fun g => ?_).leads fun _ =>
    (Preserves.get.bind fun _ => .pure _).bind fun g => ?_
  · funext kind
    cases kind <;> rfl
  · exact (checkDigits_leaves _).bind fun _ => (info_leaves _).leads

lemma perform_outcome (s : Scene Headless) (c : Call) : Outcome s c (endState (perform c) s) := by
  -- Only adding, deleting and loading a map have to do with names.
  have hrests (h : Preserves (Leaves s s.game.residents []) (perform c)) :
      Outcome s c (endState (perform c) s) := .rests (h.endState (.refl s))
  have hgame {f : Headless → Headless} (hf : ∀ g, (f g).npcs = g.npcs ∧ (f g).objs = g.objs) :
      Preserves (Leaves s s.game.residents []) (Play.updateGame f) := by
    refine (updateGame_leaves fun g => ?_).leads
    funext kind
    cases kind <;> simp [residents, hf]
  cases c with
  | addNpc file x y => exact (addEntity_outcome (by decide) rfl).endState rfl
  | addObj file x y => exact (addEntity_outcome (by decide) rfl).endState rfl
  | deleteNpc name => exact (deleteEntity_outcome (by decide) rfl).endState rfl
  | deleteObj name => exact (deleteEntity_outcome (by decide) rfl).endState rfl
  | loadMap file => exact (loadMap_outcome file rfl).endState rfl
  | setPlayerTilePosition x y => exact hrests (movePlayer_leaves _ _)
  | addPlayerMoney amount => exact hrests (addMoney_leaves amount)
  | setMapTrap index file map =>
    refine hrests (Preserves.bind (Preserves.get.bind fun _ => .pure _) fun g => ?_)
    split
    · exact .throw _
    · exact hgame fun _ => ⟨rfl, rfl⟩
  | beginRain | stopRain | showSnow =>
    refine hrests ?_
    rw [perform]
    exact hgame fun _ => ⟨rfl, rfl⟩
  | setMagicLevel file level =>
    refine hrests ?_
    rw [perform, setMagicLevel]
    refine hgame fun g => ?_
    split <;> exact ⟨rfl, rfl⟩
  | selection a b question =>
    exact hrests ((Preserves.get.bind fun _ => .pure _).bind fun _ =>
      Leads.guard (fun _ h => h) (info_leaves _).leads)
  | showDialog text portrait =>
    exact hrests ((checkDigits_leaves _).bind fun _ => (info_leaves _).leads)
  | showMessage | addMemo | deleteGood | playMusic | stopMusic | playSound =>
    exact hrests (info_leaves _).leads
  | _ => exact hrests (.pure _)

end Operations

/-! ### What calls keep -/

/-- How names, marks and the entities that were displaced hang together. Entities from the place `n`
on came into the world by calls. -/
structure IsOrderly (n : Nat) (D : EntityId → Prop) (s : Scene Headless) : Prop where
  size : n ≤ s.entities.size
  nodup : ∀ kind, (Ledger.keys (s.game.residents kind)).Nodup
  /-- A name stands for an entity of this name that is not marked. -/
  named : ∀ kind name e, lookup? s kind name = some e → n ≤ e ∧ mark? s e = some (kind, name, false)
  /-- An entity without name is marked unless it was displaced. -/
  nameless : ∀ e m, n ≤ e → mark? s e = some m → (∀ kind name, lookup? s kind name ≠ some e) →
    (m.2.2 = true ↔ ¬ D e)
  displaced : ∀ e, D e → e < s.entities.size ∧ ∀ kind name, lookup? s kind name ≠ some e

section Keeping

variable {n : Nat} {D D' : EntityId → Prop}

lemma lt_of_mark? {m : EntityKind × String × Bool} (h : mark? s e = some m) :
    e < s.entities.size := by
  obtain ⟨x, hx, -⟩ := Option.map_eq_some_iff.mp h
  exact (Array.getElem?_eq_some_iff.mp hx).1

lemma IsOrderly.congr (hs : IsOrderly n D s) (h : ∀ e, D' e ↔ D e) : IsOrderly n D' s := by
  obtain rfl : D' = D := funext fun e => propext (h e)
  exact hs

lemma IsOrderly.lookup?_unique (hs : IsOrderly n D s) (h : lookup? s kind name = some e)
    (h' : lookup? s k m = some e) : k = kind ∧ m = name := by
  have hmark := (hs.named k m e h').2.symm.trans (hs.named kind name e h).2
  simpa using hmark

lemma IsOrderly.removed_iff (hs : IsOrderly n D s) (h : lookup? s kind name = some e)
    {m : EntityKind × String × Bool} (hm : (mark? s e).map asRemoved = some m) :
    m.2.2 = true ↔ ¬ D e := by
  rw [(hs.named kind name e h).2] at hm
  obtain rfl := Option.some.inj hm
  exact iff_of_true rfl fun hD => (hs.displaced e hD).2 kind name h

lemma IsOrderly.rests (hs : IsOrderly n D s) (ht : Leaves s s.game.residents [] t) :
    IsOrderly n D t := by
  have hlookup : lookup? t = lookup? s := by
    funext kind name
    rw [lookup?, ht.residents, lookup?]
  have hmark : mark? t = mark? s := funext ht.mark
  refine ⟨ht.size ▸ hs.size, fun kind => ?_, ?_, ?_, ?_⟩
  · rw [ht.residents]
    exact hs.nodup kind
  · rw [hlookup, hmark]
    exact hs.named
  · rw [hlookup, hmark]
    exact hs.nameless
  · rw [hlookup, ht.size]
    exact hs.displaced

lemma lookup?_of_update {r : Ledger String EntityId}
    (ht : ∀ k, t.game.residents k = Function.update s.game.residents kind r k) (k : EntityKind)
    (m : String) : lookup? t k m = if k = kind then Ledger.get? r m else lookup? s k m := by
  rw [lookup?, ht]
  split
  · next hk => rw [hk, Function.update_self]
  · next hk => rw [Function.update_of_ne hk, lookup?]

lemma nodup_of_update {r : Ledger String EntityId}
    (ht : ∀ k, t.game.residents k = Function.update s.game.residents kind r k)
    (hs : ∀ k, (Ledger.keys (s.game.residents k)).Nodup) (hr : (Ledger.keys r).Nodup)
    (k : EntityKind) : (Ledger.keys (t.game.residents k)).Nodup := by
  rw [ht]
  by_cases hk : k = kind
  · rwa [hk, Function.update_self]
  · rw [Function.update_of_ne hk]
    exact hs k

lemma IsOrderly.lookup?_of_deletes (hs : IsOrderly n D s) (ht : Deletes s kind name e t)
    (k : EntityKind) (m : String) :
    lookup? t k m = if k = kind ∧ m = name then none else lookup? s k m := by
  rw [lookup?_of_update ht.residents, Ledger.get?_erase (hs.nodup kind)]
  by_cases hk : k = kind
  · simp [hk, lookup?, eq_comm]
  · simp [hk]

lemma IsOrderly.deletes (hs : IsOrderly n D s) (he : lookup? s kind name = some e)
    (ht : Deletes s kind name e t) : IsOrderly n D t := by
  have hlookup := hs.lookup?_of_deletes ht
  have hmark {e' : EntityId} (h : e' ≠ e) : mark? t e' = mark? s e' := by
    rw [ht.mark, if_neg (by simpa using h)]
  refine ⟨ht.size ▸ hs.size, nodup_of_update ht.residents hs.nodup ?_, fun k m e' h => ?_,
    fun e' m hn hm hnot => ?_, fun e' hD => ⟨ht.size ▸ (hs.displaced e' hD).1, fun k m => ?_⟩⟩
  · rw [Ledger.keys_erase]
    exact (hs.nodup kind).erase name
  · rw [hlookup] at h
    split at h
    · cases h
    · next hne =>
      have hother : e' ≠ e := fun heq => hne (hs.lookup?_unique he (heq ▸ h))
      rw [hmark hother]
      exact hs.named k m e' h
  · by_cases heq : e' = e
    · subst heq
      rw [ht.mark, if_pos List.mem_cons_self] at hm
      exact hs.removed_iff he hm
    · rw [hmark heq] at hm
      refine hs.nameless e' m hn hm fun k m' h => ?_
      have hnone := hnot k m'
      rw [hlookup] at hnone
      split at hnone
      · next hkm =>
        rw [hkm.1, hkm.2, he] at h
        exact heq (Option.some.inj h).symm
      · exact hnone h
  · rw [hlookup]
    split
    · exact nofun
    · exact (hs.displaced e' hD).2 k m

lemma IsOrderly.mem_residents_iff (hs : IsOrderly n D s) (e : EntityId) :
    e ∈ ((s.game.npcs ++ s.game.objs).map Prod.snd).reverse ↔
      ∃ kind name, lookup? s kind name = some e := by
  rw [List.mem_reverse, List.map_append, List.mem_append]
  constructor
  · rintro (h | h) <;> obtain ⟨⟨name, e⟩, hmem, rfl⟩ := List.mem_map.mp h
    · exact ⟨.character, name, Ledger.get?_of_mem (hs.nodup .character) hmem⟩
    · exact ⟨.obj, name, Ledger.get?_of_mem (hs.nodup .obj) hmem⟩
  · rintro ⟨kind, name, h⟩
    cases kind with
    | character => exact .inl (List.mem_map_of_mem (Ledger.mem_of_get? h))
    | obj => exact .inr (List.mem_map_of_mem (Ledger.mem_of_get? h))
    | good => cases h

lemma IsOrderly.empties (hs : IsOrderly n D s) (ht : Empties s t) : IsOrderly n D t := by
  have hlookup (k : EntityKind) (m : String) : lookup? t k m = none := by
    rw [lookup?, ht.residents, Ledger.get?_nil]
  have hmem (e : EntityId) := hs.mem_residents_iff e
  refine ⟨ht.size ▸ hs.size, fun k => ?_, fun k m e' h => ?_, fun e' m hn hm _ => ?_,
    fun e' hD => ⟨ht.size ▸ (hs.displaced e' hD).1, fun k m => ?_⟩⟩
  · rw [ht.residents]
    exact List.nodup_nil
  · rw [hlookup] at h
    cases h
  · rw [ht.mark] at hm
    split at hm
    · next hnamed =>
      obtain ⟨kind, name, h⟩ := (hmem e').mp hnamed
      exact hs.removed_iff h hm
    · next hnameless =>
      exact hs.nameless e' m hn hm fun k m h => hnameless ((hmem e').mpr ⟨k, m, h⟩)
  · rw [hlookup]
    exact nofun

lemma lookup?_of_adds {x : Entity} (ht : Adds s x t) (k : EntityKind) (m : String) :
    lookup? t k m =
      if k = x.kind ∧ m = x.name then some s.entities.size else lookup? s k m := by
  rw [lookup?_of_update ht.residents, Ledger.get?_put]
  by_cases hk : k = x.kind
  · simp [hk, lookup?, eq_comm]
  · simp [hk]

lemma lookup?_added {x : Entity} (ht : Adds s x t) :
    lookup? t x.kind x.name = some s.entities.size := by
  rw [lookup?_of_adds ht, if_pos ⟨rfl, rfl⟩]

lemma mark?_of_adds {x : Entity} (hx : x.removed = false) (ht : Adds s x t) (e : EntityId) :
    mark? t e = if e = s.entities.size then some (x.kind, x.name, false) else mark? s e := by
  rw [ht.mark, if_neg List.not_mem_nil, mark?, Array.getElem?_push]
  split
  · rw [Option.map_some, hx]
  · rfl

lemma IsOrderly.adds (hs : IsOrderly n D s) {x : Entity} (hx : x.removed = false)
    (ht : Adds s x t) : IsOrderly n (fun e => D e ∨ lookup? s x.kind x.name = some e) t := by
  have hlookup := lookup?_of_adds ht
  have hmark := mark?_of_adds hx ht
  have hsize : t.entities.size = s.entities.size + 1 := ht.size.trans (Array.size_push x)
  have hold {k : EntityKind} {m : String} {e' : EntityId} (h : lookup? s k m = some e') :
      e' < s.entities.size := lt_of_mark? (hs.named k m e' h).2
  refine ⟨?_, nodup_of_update ht.residents hs.nodup (Ledger.nodup_keys_put (hs.nodup _) _ _),
    fun k m e' h => ?_, fun e' m hn hm hnot => ?_, fun e' hD => ?_⟩
  · rw [hsize]
    exact hs.size.trans (Nat.le_succ _)
  · rw [hlookup] at h
    rw [hmark]
    split at h
    · next hkm =>
      obtain rfl := Option.some.inj h
      rw [if_pos rfl, hkm.1, hkm.2]
      exact ⟨hs.size, rfl⟩
    · rw [if_neg (hold h).ne]
      exact hs.named k m e' h
  -- One who has no name any more was displaced right now, or had none before.
  · have hne : e' ≠ s.entities.size := by
      rintro rfl
      exact hnot x.kind x.name (lookup?_added ht)
    rw [hmark, if_neg hne] at hm
    by_cases hdisplaced : lookup? s x.kind x.name = some e'
    · rw [(hs.named _ _ e' hdisplaced).2] at hm
      obtain rfl := Option.some.inj hm
      simp [hdisplaced]
    · rw [hs.nameless e' m hn hm]
      · simp [hdisplaced]
      · intro k m' h
        have hother := hnot k m'
        rw [hlookup] at hother
        split at hother
        · next hkm => exact hdisplaced (hkm.1 ▸ hkm.2 ▸ h)
        · exact hother h
  · have hnameless (h : e' < s.entities.size) (hs' : ∀ k m, lookup? s k m = some e' →
        k = x.kind ∧ m = x.name) : ∀ k m, lookup? t k m ≠ some e' := by
      intro k m h'
      rw [hlookup] at h'
      split at h'
      · exact h.ne (Option.some.inj h').symm
      · next hne => exact hne (hs' k m h')
    rw [hsize]
    rcases hD with hD | hD
    · obtain ⟨hlt, hnone⟩ := hs.displaced e' hD
      exact ⟨Nat.lt_succ_of_lt hlt, hnameless hlt fun k m h => absurd h (hnone k m)⟩
    · have hlt := hold hD
      exact ⟨Nat.lt_succ_of_lt hlt, hnameless hlt fun k m h => hs.lookup?_unique hD h⟩

lemma IsOrderly.perform (hs : IsOrderly n D s) (c : Call) :
    IsOrderly n (fun e => D e ∨ Displaces s c e) (endState (perform c) s) := by
  have hnone (hc : c.adds? = none) (e : EntityId) : D e ∨ Displaces s c e ↔ D e := by
    refine or_iff_left ?_
    rintro ⟨kind, name, -, hadds, -⟩
    cases hc.symm.trans hadds
  cases perform_outcome s c with
  | rests ht =>
    refine (hs.rests ht).congr fun e => or_iff_left ?_
    rintro ⟨kind, name, he, -, hne⟩
    rw [lookup?, ht.residents] at hne
    exact hne he
  | adds hc hx ht =>
    refine (hs.adds hx ht).congr fun e => or_congr_right ⟨?_, fun he => ⟨_, _, he, hc, ?_⟩⟩
    · rintro ⟨kind, name, he, hadds, -⟩
      obtain ⟨rfl, rfl⟩ := Prod.mk.inj (Option.some.inj (hc.symm.trans hadds))
      exact he
    · rw [lookup?_added ht]
      exact fun h => (lt_of_mark? (hs.named _ _ e he).2).ne (Option.some.inj h).symm
  | deletes hc he ht => exact (hs.deletes he ht).congr (hnone hc)
  | empties hc ht => exact (hs.empties ht).congr (hnone hc)

lemma isOrderly_after (hnpcs : s.game.npcs = []) (hobjs : s.game.objs = []) (calls : List Call) :
    IsOrderly s.entities.size (WasDisplaced s calls) (after s calls) := by
  induction calls using List.reverseRecOn with
  | nil =>
    have hempty (kind : EntityKind) : s.game.residents kind = [] := by
      cases kind with
      | character => exact hnpcs
      | obj => exact hobjs
      | good => rfl
    have hlookup (kind : EntityKind) (name : String) : lookup? s kind name = none := by
      rw [lookup?, hempty, Ledger.get?_nil]
    refine ⟨le_rfl, fun kind => ?_, fun kind name e h => ?_, fun e m he hm => ?_, fun e h => ?_⟩
    · rw [after, List.foldl_nil, hempty]
      exact List.nodup_nil
    · cases (hlookup kind name).symm.trans h
    · exact absurd (lt_of_mark? hm) (Nat.not_lt.mpr he)
    · obtain ⟨before, c, rest, h, -⟩ := h
      simp at h
  | append_singleton calls c ih =>
    rw [after_concat]
    exact (ih.perform c).congr fun e => wasDisplaced_concat

end Keeping

lemma isOrphaned_of_removed {π : Type} {i : Instance π} {x : Entity} (hi : i.owner = some e)
    (hx : s.entities[e]? = some x) (hremoved : x.removed = true) : i.isOrphaned s = true := by
  simp only [Instance.isOrphaned, hi, Scene.entity?, hx]
  by_cases hgone : x.gone = true
  · rw [if_pos hgone]
  · rw [if_neg hgone]
    exact hremoved

/-- Who came into the world by a call is the one that the own name stands for, and then not marked
removed; or no name stands for it, and then it is marked removed, and the scripts it owns are
orphans, unless its name was given to another one while it stood for it. -/
theorem nameless_are_removed_unless_displaced (hnpcs : s.game.npcs = []) (hobjs : s.game.objs = [])
    (calls : List Call) {x : Entity} (he : s.entities.size ≤ e)
    (hx : (after s calls).entities[e]? = some x) :
    (lookup? (after s calls) x.kind x.name = some e ∧ x.removed = false) ∨
    ((∀ kind name, lookup? (after s calls) kind name ≠ some e) ∧
      (x.removed = true ↔ ¬ WasDisplaced s calls e) ∧
      ∀ {π : Type} (i : Instance π), i.owner = some e → x.removed = true →
        i.isOrphaned (after s calls) = true) := by
  have hs := isOrderly_after hnpcs hobjs calls
  have hmark : mark? (after s calls) e = some (x.kind, x.name, x.removed) := by
    rw [mark?, hx, Option.map_some]
  by_cases hnamed : ∃ kind name, lookup? (after s calls) kind name = some e
  · obtain ⟨kind, name, h⟩ := hnamed
    have hmark' := hmark.symm.trans (hs.named kind name e h).2
    simp only [Option.some.injEq, Prod.mk.injEq] at hmark'
    obtain ⟨rfl, rfl, hremoved⟩ := hmark'
    exact .inl ⟨h, hremoved⟩
  · have hnameless (kind : EntityKind) (name : String) :
        lookup? (after s calls) kind name ≠ some e := fun h => hnamed ⟨kind, name, h⟩
    exact .inr ⟨hnameless, hs.nameless e _ he hmark hnameless, fun i hi hremoved =>
      isOrphaned_of_removed hi hx hremoved⟩

lemma exists_point {x y : Int} (hx : (Decimal.ofInt? x).isSome = true)
    (hy : (Decimal.ofInt? y).isSome = true) : ∃ p, Point.ofData (.int x) (.int y) = .ok p := by
  obtain ⟨a, ha⟩ := Option.isSome_iff_exists.mp hx
  obtain ⟨b, hb⟩ := Option.isSome_iff_exists.mp hy
  refine ⟨⟨a, b⟩, ?_⟩
  simp only [Point.ofData, Datum.toReal, ha, hb]
  rfl

theorem nameless_are_removed_unless_displaced_guard :
    ∃ x, (after { game := {} }
        [.addNpc "guard.ini" 1 2 0, .addNpc "guard.ini" 3 4 0]).entities[0]? = some x ∧
      (∀ kind name, lookup? (after { game := {} }
        [.addNpc "guard.ini" 1 2 0, .addNpc "guard.ini" 3 4 0]) kind name ≠ some 0) ∧
      x.removed = false ∧
      WasDisplaced { game := {} } [.addNpc "guard.ini" 1 2 0, .addNpc "guard.ini" 3 4 0] 0 := by
  let s : Scene Headless := { game := {} }
  let s₁ := after s [.addNpc "guard.ini" 1 2 0]
  let s₂ := after s [.addNpc "guard.ini" 1 2 0, .addNpc "guard.ini" 3 4 0]
  have hcharacter : EntityKind.character ≠ .good := by decide
  obtain ⟨p, hp⟩ := exists_point (x := 1) (y := 2) (by decide) (by decide)
  obtain ⟨q, hq⟩ := exists_point (x := 3) (y := 4) (by decide) (by decide)
  have h₁ := (addEntity_leaves (s := s) "guard.ini" hcharacter hp).leads.endState rfl
  have h₂ := (addEntity_leaves (s := s₁) "guard.ini" hcharacter hq).leads.endState rfl
  have hsize : s₁.entities.size = 1 := h₁.size
  have hfirst : lookup? s₁ .character (Path.stem "guard.ini") = some 0 :=
    lookup?_added h₁
  have hsecond : lookup? s₂ .character (Path.stem "guard.ini") = some 1 :=
    hsize ▸ lookup?_added h₂
  have hdisplaced : WasDisplaced s [.addNpc "guard.ini" 1 2 0, .addNpc "guard.ini" 3 4 0] 0 :=
    ⟨[.addNpc "guard.ini" 1 2 0], .addNpc "guard.ini" 3 4 0, [], rfl, .character, _, hfirst, rfl,
      fun h => absurd (hsecond.symm.trans h) (by decide)⟩
  have hlt : 0 < s₂.entities.size :=
    ((isOrderly_after (s := s) rfl rfl _).displaced 0 hdisplaced).1
  refine ⟨s₂.entities[0], Array.getElem?_eq_getElem hlt, ?_⟩
  rcases nameless_are_removed_unless_displaced (s := s) rfl rfl _ (Nat.zero_le 0)
    (Array.getElem?_eq_getElem hlt) with ⟨hnamed, -⟩ | ⟨hnameless, hremoved, -⟩
  · exact absurd hnamed (((isOrderly_after (s := s) rfl rfl _).displaced 0 hdisplaced).2 _ _)
  · exact ⟨hnameless, by simpa [hdisplaced] using hremoved, hdisplaced⟩

end Headless

end EventScript
