import EventScript.Scene
import EventScript.Services.Call
import EventScript.TalkText

/-!
What a game offers to scripts: it carries out calls and answers questions. A game may be part of a
larger one, which then offers the same.
-/

namespace EventScript

abbrev VideoId := Nat

structure Services (σ : Type) where
  perform : Call → Play σ Unit
  /-- Whether the line on screen has been read. -/
  dialogEnded : Play σ Bool
  selectionEnded : Play σ Bool
  /-- What was chosen. A game may answer anything; only an integer can be kept. -/
  choice : Play σ Datum
  talkLine : Int → Play σ (Option TalkLine)
  player : Play σ (Option EntityId)
  /-- The name of the current map, if there is one. A game may answer anything; only a text names
  a map. -/
  mapName : Play σ Datum
  npc : String → Play σ (Option EntityId)
  obj : String → Play σ (Option EntityId)
  levelList : String → Play σ Datum
  /-- Whether a good was added, and its name if its file is known. -/
  addGood : String → Play σ (Bool × Option String)
  /-- Whether a magic was learned now, and its name if its file is known. -/
  addMagic : String → Play σ (Bool × Option String)
  /-- Starts a video, if it can be loaded. -/
  playVideo : String → Color → Play σ (Option VideoId)
  videoStopped : VideoId → Play σ Bool
  stopVideo : VideoId → Play σ Unit
  /-- A number from the first bound up to the second, which is left out. -/
  random : Int → Int → Play σ Int

namespace Services

variable {σ : Type}

def silent (random : Int → Int → Play σ Int) : Services σ where
  perform _ := pure ()
  dialogEnded := return true
  selectionEnded := return true
  choice := return .int 0
  talkLine _ := return none
  player := return none
  mapName := return .null
  npc _ := return none
  obj _ := return none
  levelList _ := return .null
  addGood _ := return (false, none)
  addMagic _ := return (false, none)
  playVideo _ _ := return none
  videoStopped _ := return true
  stopVideo _ := pure ()
  random := random

def listener (S : Services σ) : Play σ Point := do
  match ← S.player with
  | none => return {}
  | some p =>
    match (← get).entity? p with
    | none => return {}
    | some x =>
      match x.position with
      | some position => return position
      | none => throw .unfit

end Services

section Within

variable {σ τ : Type} {α : Type}

def Play.within (part : τ → σ) (put : τ → σ → τ) (p : Play σ α) : Play τ α := fun s =>
  match p { game := part s.game, entities := s.entities, log := s.log } with
  | .ok a t => .ok a { game := put s.game t.game, entities := t.entities, log := t.log }
  | .error f t => .error f { game := put s.game t.game, entities := t.entities, log := t.log }

def Services.within (part : τ → σ) (put : τ → σ → τ) (S : Services σ) : Services τ where
  perform c := (S.perform c).within part put
  dialogEnded := S.dialogEnded.within part put
  selectionEnded := S.selectionEnded.within part put
  choice := S.choice.within part put
  talkLine i := (S.talkLine i).within part put
  player := S.player.within part put
  mapName := S.mapName.within part put
  npc name := (S.npc name).within part put
  obj name := (S.obj name).within part put
  levelList path := (S.levelList path).within part put
  addGood file := (S.addGood file).within part put
  addMagic file := (S.addMagic file).within part put
  playVideo file color := (S.playVideo file color).within part put
  videoStopped v := (S.videoStopped v).within part put
  stopVideo v := (S.stopVideo v).within part put
  random lo hi := (S.random lo hi).within part put

end Within

end EventScript
