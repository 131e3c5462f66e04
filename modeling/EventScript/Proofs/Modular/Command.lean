import EventScript.Proofs.Fault.Missing
import EventScript.Proofs.Modular.Screen
import EventScript.Proofs.Services.Asked
import EventScript.Session.Step

/-! What is made of built-in commands and of waits: what only asks the game, what acts on it, what
reads scripts, and what takes the prompt. -/

namespace EventScript

def Instruction.isExternal : Instruction → Bool
  | .assign .. | .add .. | .talk .. | .choose .. | .sleep .. | .fadeOut | .fadeIn
  | .playMovie .. | .stopMovie | .waitMovieEnd | .runScript .. => false
  | _ => true

variable {H : Host} {S : Services H.Game} {P : ∀ {α : Type}, Engine H α → Prop}

/-- What asks the game and makes notes in the log has the property, faults or not. -/
structure Inquiring (S : Services H.Game) (P : ∀ {α : Type}, Engine H α → Prop) : Prop extends
    Modular P where
  attempt : ∀ {α : Type} {p : Engine H α}, P p → P (Engine.attempt p)
  log : ∀ level text, P (Engine.log level text)
  answers : ∀ {α : Type} {p : Play H.Game α}, S.Answers p → P (Engine.play p)

/-- What tells the game to do something has the property, and so has what changes entities but
brings none back. -/
structure Acting (S : Services H.Game) (P : ∀ {α : Type}, Engine H α → Prop) : Prop extends
    Inquiring S P where
  offers : ∀ {α : Type} {p : Play H.Game α}, S.Offers p → P (Engine.play p)
  update : ∀ e {f : Entity → Entity}, (∀ x, x.isLost = true → (f x).isLost = true) →
    P (Engine.play (Play.updateEntity e f))

structure Directing (S : Services H.Game) (P : ∀ {α : Type}, Engine H α → Prop) : Prop extends
    Acting S P where
  keep : ∀ path script, P (modify fun s => { s with cache := s.cache.put path script })

namespace Modular

variable (hP : Modular P)

include hP

lemma ofExcept {α : Type} {x : Except Fault α} (hx : x ≠ .error .missingArgument) :
    P (Engine.ofExcept x : Engine H α) := by
  cases x with
  | ok a => exact hP.pure a
  | error f => exact hP.throw fun h => hx (congrArg _ h)

lemma theInstance (id : InstanceId) :
    P (Engine.theInstance id : Engine H (Instance H.Predicate)) := by
  refine hP.bind hP.get fun s => ?_
  split
  · exact hP.pure _
  · exact hP.throw nofun

lemma owner? (id : InstanceId) : P (Engine.owner? id : Engine H (Option (EntityId × Entity))) :=
  hP.bind (hP.theInstance id) fun _ => hP.bind hP.get fun _ => hP.pure _

lemma entityOfKind (kind : EntityKind) (id : InstanceId) :
    P (Engine.entityOfKind kind id : Engine H (Option EntityId)) := by
  refine hP.bind (hP.owner? id) fun r => ?_
  split <;> exact hP.pure _

lemma checkDigits (ns : List Int) : P (Engine.checkDigits ns : Engine H Unit) := by
  unfold Engine.checkDigits
  exact hP.ite (hP.throw nofun) (hP.pure _)

section Variables

variable (hstore : ∀ f : Store → Store, P (modify fun s => { s with store := f s.store }))

include hstore

lemma assign (x : String) (n : Int) : P (Engine.assign x n : Engine H Unit) := by
  unfold Engine.assign
  exact hP.guard nofun (hstore (·.assign x n))

lemma add (x : String) (n : Int) : P (Engine.add x n : Engine H Unit) :=
  hP.bind (hstore (·.add x n)) fun _ => hP.bind hP.get fun _ =>
    hP.ite (hP.throw nofun) (hP.pure _)

lemma keepChoice (out : Option String) (d : Datum) :
    P (Engine.keepChoice out d : Engine H Unit) := by
  unfold Engine.keepChoice
  split
  · unfold Engine.assignDatum
    split
    · exact hP.assign hstore _ _
    · exact hP.throw nofun
  · exact hP.ite (hP.pure _) (hP.throw nofun)

end Variables

lemma sleep {id : InstanceId} (hsuspend : ∀ x, P (Engine.suspend id (.sleep x) : Engine H Unit))
    (n : Int) : P (Engine.sleep id n : Engine H Unit) := by
  unfold Engine.sleep
  split
  · exact hsuspend _
  · exact hP.throw nofun

end Modular

namespace Inquiring

variable (hP : Inquiring S P)

include hP

lemma requirePlayer : P (Engine.requirePlayer S : Engine H Unit) :=
  hP.bind (hP.answers .player) fun _ => hP.ite (hP.throw nofun) (hP.pure _)

lemma character? (id : InstanceId) (name : String) :
    P (Engine.character? S id name : Engine H (Option EntityId)) := by
  refine hP.ite (hP.entityOfKind _ id) (hP.bind (hP.answers .player) fun player => ?_)
  refine hP.bind hP.get fun s => hP.ite (hP.pure _) (hP.bind (hP.answers (.npc name)) fun e => ?_)
  split
  · exact hP.pure _
  · exact hP.throw nofun

lemma obj? (id : InstanceId) (name : String) :
    P (Engine.obj? S id name : Engine H (Option EntityId)) := by
  refine hP.ite (hP.entityOfKind _ id) (hP.bind (hP.answers (.obj name)) fun e => ?_)
  split
  · exact hP.pure _
  · exact hP.throw nofun

lemma talkText? (index : Int) : P (Engine.talkText? S index : Engine H (Option String)) := by
  refine hP.bind (hP.answers (.talkLine index)) fun line => ?_
  split
  · exact hP.pure _
  · exact hP.bind (hP.checkDigits _) fun _ => hP.pure _

lemma listener : P (Engine.play S.listener : Engine H Point) :=
  hP.stage.play.listener (hP.answers .player)

lemma pick (path : Path) : P (Engine.pick S path : Engine H String) := by
  refine hP.bind hP.get fun s => ?_
  refine hP.bind (hP.ofExcept (bind_ne_missing (Files.readText_ne_missing _ _ _)
    BuyList.parse_ne_missing)) fun list => ?_
  refine hP.bind (hP.ofExcept (list.get?_ne_missing _ _)) fun written => ?_
  split
  · exact hP.throw nofun
  · exact hP.bind (hP.answers (.random _ _)) fun _ => hP.ofExcept (list.get?_ne_missing _ _)

lemma randomItem (path : Path) : P (Engine.randomItem S path : Engine H String) := by
  refine hP.bind (hP.attempt (hP.pick path)) fun r => ?_
  split
  · exact hP.pure _
  · exact hP.throw nofun
  · exact hP.bind (hP.log _ _) fun _ => hP.pure _

end Inquiring

namespace Acting

variable (hP : Acting S P)

include hP

lemma perform (c : Call) : P (Engine.perform S c : Engine H Unit) := hP.offers (.perform c)

lemma showNamed (template name : String) :
    P (Engine.showNamed S template name : Engine H Unit) := by
  unfold Engine.showNamed
  split
  · exact hP.perform _
  · exact hP.throw nofun

lemma addGood (file : String) : P (Engine.addGood S file : Engine H Unit) := by
  refine hP.bind hP.get fun s => hP.bind (hP.offers (.addGood file)) fun r => ?_
  dsimp only
  split
  · exact hP.bind (hP.showNamed _ _) fun _ => hP.perform _
  · exact hP.bind (hP.perform _) fun _ => hP.perform _

lemma addMagic (file : String) : P (Engine.addMagic S file : Engine H Unit) := by
  refine hP.bind hP.get fun s => hP.bind (hP.offers (.addMagic file)) fun r => ?_
  split
  · exact hP.bind (hP.showNamed _ _) fun _ => hP.perform _
  · exact hP.showNamed _ _
  · exact hP.perform _

lemma updateEntity (e : Option EntityId) {f : Entity → Entity}
    (hf : ∀ x, x.isLost = true → (f x).isLost = true) :
    P (Engine.updateEntity e f : Engine H Unit) := by
  cases e with
  | none => exact hP.pure _
  | some e => exact hP.update e hf

lemma updateOfKind (kind : EntityKind) (e : Option EntityId) {f : Entity → Entity}
    (hf : ∀ x, x.isLost = true → (f x).isLost = true) :
    P (Engine.updateOfKind kind e f : Engine H Unit) := by
  refine hP.bind hP.get fun s => ?_
  dsimp only
  split
  · exact hP.pure _
  · exact hP.ite (hP.updateEntity e hf) (hP.throw nofun)

lemma playSound (id : InstanceId) (file : String) :
    P (Engine.playSound S id file : Engine H Unit) :=
  hP.bind hP.listener fun _ => hP.bind (hP.owner? id) fun _ => hP.perform _

lemma addRandMoney (least most : Int) :
    P (Engine.addRandMoney S least most : Engine H Unit) := by
  have hrefuse : P (Engine.refuseRange least most : Engine H Unit) :=
    hP.bind (hP.checkDigits _) fun _ => hP.throw nofun
  have hadd : P (do
      let n ← Engine.play (S.random least (most + 1))
      Engine.perform S (.addPlayerMoney n) : Engine H Unit) :=
    hP.bind (hP.answers (.random _ _)) fun _ => hP.perform _
  exact hP.bind hP.requirePlayer fun _ => hP.ite (hP.bind hrefuse fun _ => hadd) hadd

lemma addRandGoods (file : String) : P (Engine.addRandGoods S file : Engine H Unit) :=
  hP.bind hP.get fun _ => hP.bind (hP.randomItem _) fun _ => hP.ite (hP.addGood _) (hP.pure _)

lemma setLevelFile (id : InstanceId) (file : String) :
    P (Engine.setLevelFile S id file : Engine H Unit) := by
  refine hP.bind (hP.entityOfKind .character id) fun e => ?_
  split
  · exact hP.pure _
  · exact hP.bind hP.get fun _ => hP.bind (hP.answers (.levelList _)) fun _ =>
      hP.updateEntity _ fun _ h => h

section Talk

variable (htalk : ∀ t, P (Engine.stage (Stage.setTalk t)))

include htalk

lemma advanceTalk : P (Engine.stage (Stage.advanceTalk S)) :=
  hP.stage.advanceTalk (fun i => hP.answers (.talkLine i)) htalk

lemma beginTalk (holders : Holders InstanceId) (id : InstanceId) (first last : Int) :
    P (Engine.stage (Stage.beginTalk S holders id first last)) :=
  hP.stage.beginTalk (fun i => hP.answers (.talkLine i)) htalk holders id first last

end Talk

lemma talk {id : InstanceId} {first last : Int}
    (hbegin : ∀ holders, P (Engine.stage (Stage.beginTalk S holders id first last)))
    (hsuspend : P (Engine.suspend id .dialogue : Engine H Unit)) :
    P (Engine.talk S id first last : Engine H Unit) := by
  refine hP.bind hP.get fun s => hP.bind (hbegin _) fun line => ?_
  split
  · exact hP.checkDigits _
  · exact hP.bind (hP.perform _) fun _ => hsuspend

lemma waitDialogue (hadvance : P (Engine.stage (Stage.advanceTalk S))) (id : InstanceId) :
    P (Engine.waitDialogue S id : Engine H Bool) := by
  refine hP.bind hP.get fun s => hP.ite (hP.pure _) ?_
  refine hP.bind (hP.offers .dialogEnded) fun gone => hP.ite (hP.pure _) ?_
  refine hP.bind hadvance fun line => ?_
  split
  · exact hP.bind (hP.perform _) fun _ => hP.pure _
  · exact hP.pure _

lemma choose {id : InstanceId} {out : Option String}
    (hbegin : ∀ holders, P (Engine.stage (Stage.beginSelection holders id)))
    (hsuspend : P (Engine.suspend id (.selection out) : Engine H Unit)) (a b question : String) :
    P (Engine.choose S id a b question out : Engine H Unit) :=
  hP.bind hP.get fun _ => hP.bind (hbegin _) fun _ => hP.bind (hP.perform _) fun _ => hsuspend

lemma waitSelection (hchooser : P (Engine.stage (Stage.setChooser none))) {out : Option String}
    (hkeep : ∀ d, P (Engine.keepChoice out d : Engine H Unit)) (id : InstanceId) :
    P (Engine.waitSelection S id out : Engine H Bool) := by
  refine hP.bind hP.get fun s => hP.ite (hP.pure _) ?_
  refine hP.bind (hP.offers .selectionEnded) fun gone => hP.ite (hP.pure _) ?_
  refine hP.bind (hP.offers .choice) fun choice => hP.bind (hkeep choice) fun _ => ?_
  exact hP.bind (hP.stage.endSelection hchooser id) fun _ => hP.pure _

end Acting

namespace Directing

variable (hP : Directing S P)

include hP

lemma readScript (path : Path) : P (Engine.readScript path : Engine H Script) := by
  refine hP.bind hP.get fun s => ?_
  split
  · exact hP.pure _
  · refine hP.bind (hP.ofExcept (Files.readText_ne_missing _ _ _)) fun text => ?_
    refine hP.bind (hP.ofExcept (Script.parse_ne_missing _ _ _)) fun script => ?_
    have hkeep : P (do
        modify fun s => { s with cache := s.cache.put path script }
        return script : Engine H Script) :=
      hP.bind (hP.keep path script) fun _ => hP.pure _
    exact hP.ite (hP.bind (hP.log _ _) fun _ => hkeep) hkeep

lemma loadHere (file : String) : P (Engine.loadHere S file : Engine H Script) := by
  refine hP.bind (hP.answers .mapName) fun map => hP.bind hP.get fun s => ?_
  refine hP.bind (hP.ofExcept (s.resolve_ne_missing file map)) fun path => ?_
  split
  · exact hP.readScript _
  · exact hP.throw nofun

lemma loadOptional (file : String) :
    P (Engine.loadOptional S file : Engine H (Option Script)) :=
  hP.ite (hP.pure _) (hP.bind (hP.loadHere file) fun _ => hP.pure _)

lemma runScript
    (hstart : ∀ script owner, P (Engine.start script owner true none : Engine H InstanceId))
    (id : InstanceId) (file : String) : P (Engine.runScript S id file : Engine H Unit) :=
  hP.bind hP.get fun _ => hP.guard nofun <| hP.bind (hP.loadHere file) fun _ =>
    hP.bind (hP.owner? id) fun _ => hP.bind (hstart _ _) fun _ => hP.pure _

lemma carryOut (id : InstanceId) {i : Instruction} (hi : i.isExternal = true) :
    P (Engine.carryOut S id i : Engine H Unit) := by
  cases i with
  | assign | add | talk | choose | sleep | fadeOut | fadeIn | playMovie | stopMovie | waitMovieEnd
  | runScript => simp [Instruction.isExternal] at hi
  | jumpUnless | jumpIf | jump | pass | leave => exact hP.pure _
  | memoLine index | messageLine index =>
    refine hP.bind (hP.talkText? index) fun text => ?_
    split
    · exact hP.perform _
    · exact hP.pure _
  | playSound file => exact hP.playSound id file
  | setNpcScript name file | setNpcDeathScript name file =>
    exact hP.bind (hP.character? id name) fun _ => hP.bind (hP.loadOptional file) fun _ =>
      hP.updateEntity _ fun _ h => h
  | setObjScript name file =>
    exact hP.bind (hP.obj? id name) fun _ => hP.bind (hP.loadOptional file) fun _ =>
      hP.updateEntity _ fun _ h => h
  | addRandMoney least most => exact hP.addRandMoney least most
  | setNpcLevel name level =>
    exact hP.bind (hP.character? id name) fun _ => hP.updateOfKind _ _ fun _ h => h
  | setLevelFile file => exact hP.setLevelFile id file
  | addGoods file => exact hP.addGood file
  | addRandGoods file => exact hP.addRandGoods file
  | deleteOwnGood =>
    refine hP.bind (hP.owner? id) fun r => ?_
    split
    · exact hP.ite (hP.perform _) (hP.pure _)
    · exact hP.pure _
  | addMagic file => exact hP.addMagic file
  | setMagicLevel file level => exact hP.bind (hP.perform _) fun _ => hP.perform _
  | loadMap file =>
    exact hP.bind (hP.perform _) fun _ => hP.bind (hP.log _ _) fun _ => hP.perform _
  | deleteOwnObj =>
    exact hP.bind (hP.entityOfKind _ id) fun _ =>
      hP.updateEntity _ fun x _ => Bool.or_true x.gone
  | openBox name => exact hP.bind (hP.obj? id name) fun _ => hP.updateOfKind _ _ fun _ h => h
  | saveTraps => exact hP.bind hP.get fun _ => hP.perform _
  | call c => exact hP.perform c
  | callForPlayer c => exact hP.bind hP.requirePlayer fun _ => hP.perform c
  | callIfPlayer c =>
    exact hP.bind (hP.answers .player) fun _ => hP.ite (hP.perform c) (hP.pure _)

end Directing

end EventScript
