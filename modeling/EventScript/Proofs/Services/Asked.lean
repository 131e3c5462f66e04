import EventScript.Session.Control
import Mathlib.Tactic.Lemma

/-! What a game is asked for. -/

namespace EventScript

inductive Services.Offers {σ : Type} (S : Services σ) : {α : Type} → Play σ α → Prop
  | perform (c : Call) : Offers S (S.perform c)
  | dialogEnded : Offers S S.dialogEnded
  | selectionEnded : Offers S S.selectionEnded
  | choice : Offers S S.choice
  | talkLine (i : Int) : Offers S (S.talkLine i)
  | player : Offers S S.player
  | mapName : Offers S S.mapName
  | npc (name : String) : Offers S (S.npc name)
  | obj (name : String) : Offers S (S.obj name)
  | levelList (path : String) : Offers S (S.levelList path)
  | addGood (file : String) : Offers S (S.addGood file)
  | addMagic (file : String) : Offers S (S.addMagic file)
  | random (lo hi : Int) : Offers S (S.random lo hi)

/-- What a game is asked without being told to do anything. -/
inductive Services.Answers {σ : Type} (S : Services σ) : {α : Type} → Play σ α → Prop
  | talkLine (i : Int) : Answers S (S.talkLine i)
  | player : Answers S S.player
  | mapName : Answers S S.mapName
  | npc (name : String) : Answers S (S.npc name)
  | obj (name : String) : Answers S (S.obj name)
  | levelList (path : String) : Answers S (S.levelList path)
  | random (lo hi : Int) : Answers S (S.random lo hi)

lemma Services.Answers.offers {σ α : Type} {S : Services σ} {p : Play σ α} (hp : S.Answers p) :
    S.Offers p := by
  cases hp <;> constructor

def Entity.isLost (x : Entity) : Bool := x.gone || x.removed

/-- Operations on a scene that are made of such services, of notes in the log and of changes to
entities that bring none back. -/
inductive Services.Asks {σ : Type} (S : Services σ) : {α : Type} → Play σ α → Prop
  | pure {α : Type} (a : α) : Asks S (pure a)
  | throw {α : Type} (f : Fault) : Asks S (throw f : Play σ α)
  | get : Asks S get
  | bind {α β : Type} {p : Play σ β} {f : β → Play σ α} :
      Asks S p → (∀ b, Asks S (f b)) → Asks S (p >>= f)
  | log (level : LogLevel) (text : String) : Asks S (Play.log level text)
  | updateEntity (e : EntityId) {f : Entity → Entity}
      (hf : ∀ x, x.isLost = true → (f x).isLost = true) : Asks S (Play.updateEntity e f)
  | offered {α : Type} {p : Play σ α} : S.Offers p → Asks S p

end EventScript
