import EventScript.Cli.Run
import EventScript.Proofs.Session.Turn

/-! What a property of the scene has to survive in the headless game, and in a game of which another
one is a part. -/

namespace EventScript

namespace Headless

/-- What only videos change: what is said and chosen, how long videos last, and the videos. -/
def fixtures (h : Headless) : TalkText × Datum × Int × Array Video :=
  (h.talk, h.choice, h.videoFrames, h.videos)

/-- The property survives all that the headless game does, its videos apart. -/
structure Keeps (I : Scene Headless → Prop) : Prop where
  updateGame : ∀ {f : Headless → Headless}, (∀ h, (f h).fixtures = h.fixtures) →
    Preserves I (Play.updateGame f)
  info : ∀ text, Preserves I (Play.info text)
  updateEntity : ∀ e {f : Entity → Entity}, (∀ x, x.isLost = true → (f x).isLost = true) →
    Preserves I (Play.updateEntity e f)
  introduce : ∀ x, Preserves I (Play.introduce x)

lemma setResidents_fixtures (h : Headless) (l : Ledger String EntityId) (kind : EntityKind) :
    (h.setResidents l kind).fixtures = h.fixtures := by
  cases kind <;> rfl

variable {I : Scene Headless → Prop}

lemma game_keeps : Preserves I (Play.game : Play Headless Headless) :=
  Preserves.get.bind fun _ => .pure _

lemma checkDigits_keeps (ns : List Int) : Preserves I (Headless.checkDigits ns) :=
  .ite (.throw _) (.pure _)

namespace Keeps

variable (hI : Keeps I)

include hI

lemma release (e : EntityId) : Preserves I (Headless.release e) :=
  game_keeps.bind fun _ => .ite (hI.updateEntity e fun x _ => Bool.true_or x.removed) (.pure _)

lemma dismiss (e : EntityId) : Preserves I (Headless.dismiss e) :=
  (hI.updateEntity e (f := ({ · with removed := true })) fun x _ => Bool.or_true x.gone).bind
    fun _ => hI.release e

lemma addEntity (kind : EntityKind) (file : String) (x y : Datum) :
    Preserves I (Headless.addEntity kind file x y) := by
  unfold Headless.addEntity
  dsimp only
  split
  · exact .throw _
  · refine game_keeps.bind fun g => (hI.introduce _).bind fun e => ?_
    refine (hI.updateGame fun h => setResidents_fixtures h _ kind).bind fun _ => ?_
    split
    · exact (hI.release _).bind fun _ => hI.info _
    · exact hI.info _

lemma deleteEntity (kind : EntityKind) (name : String) :
    Preserves I (Headless.deleteEntity kind name) := by
  refine game_keeps.bind fun g => ?_
  split
  · exact (hI.updateGame fun h => setResidents_fixtures h _ kind).bind fun _ =>
      (hI.dismiss _).bind fun _ => hI.info _
  · exact hI.info _

lemma loadMap (file : String) : Preserves I (Headless.loadMap file) := by
  have hall (es : List EntityId) : Preserves I (dismissAll es) := by
    induction es with
    | nil => exact .pure _
    | cons e es ih => exact (hI.dismiss e).bind fun _ => ih
  exact game_keeps.bind fun _ => (hI.updateGame (by intro h; rfl)).bind fun _ =>
    (hall _).bind fun _ => hI.info _

lemma movePlayer (x y : Datum) : Preserves I (Headless.movePlayer x y) := by
  refine game_keeps.bind fun g => ?_
  split
  · split
    · exact .throw _
    · exact hI.updateEntity _ fun _ h => h
  · exact .pure _

lemma addMoney (amount : Int) : Preserves I (Headless.addMoney amount) := by
  unfold Headless.addMoney
  refine Preserves.bind (hI.updateGame (by intro h; rfl)) fun _ => game_keeps.bind fun g => ?_
  exact (checkDigits_keeps _).bind fun _ => hI.info _

lemma setMagicLevel (file : String) (level : Int) :
    Preserves I (Headless.setMagicLevel file level) :=
  hI.updateGame fun h => by split <;> rfl

lemma perform (c : Call) : Preserves I (Headless.perform c) := by
  cases c with
  | selection a b question =>
    exact game_keeps.bind fun _ => Leads.guard (fun _ h => h) (hI.info _)
  | showDialog text portrait => exact (checkDigits_keeps _).bind fun _ => hI.info _
  | addNpc file x y | addObj file x y => exact hI.addEntity _ _ _ _
  | deleteNpc name | deleteObj name => exact hI.deleteEntity _ _
  | setPlayerTilePosition x y => exact hI.movePlayer _ _
  | addPlayerMoney amount => exact hI.addMoney amount
  | loadMap file => exact hI.loadMap file
  | setMapTrap index file map =>
    refine game_keeps.bind fun g => ?_
    split
    · exact .throw _
    · exact hI.updateGame (by intro h; rfl)
  | beginRain | stopRain | showSnow =>
    rw [Headless.perform]
    exact hI.updateGame (by intro h; rfl)
  | setMagicLevel file level => exact hI.setMagicLevel file level
  | showMessage | addMemo | deleteGood | playMusic | stopMusic | playSound =>
    exact hI.info _
  | _ => exact .pure _

lemma addGood (file : String) : Preserves I (Headless.addGood file) := by
  refine game_keeps.bind fun g => ?_
  split
  · exact .pure _
  · exact (hI.updateGame (by intro h; rfl)).bind fun _ => .pure _

lemma addMagic (file : String) : Preserves I (Headless.addMagic file) := by
  refine game_keeps.bind fun g => ?_
  split
  · exact .pure _
  · exact (hI.updateGame (by intro h; rfl)).bind fun _ => .pure _

lemma offers {random : Int → Int → Play Headless Int} (hr : ∀ lo hi, Preserves I (random lo hi))
    {α : Type} {p : Play Headless α} (hp : (services random).Offers p) : Preserves I p := by
  cases hp with
  | perform c => exact hI.perform c
  | addGood file => exact hI.addGood file
  | addMagic file => exact hI.addMagic file
  | random lo hi => exact hr lo hi
  | dialogEnded | selectionEnded | levelList => exact .pure _
  | choice | talkLine | player | mapName | npc | obj => exact game_keeps.bind fun _ => .pure _

end Keeps

end Headless

lemma Services.Offers.of_within {σ τ α : Type} {part : τ → σ} {put : τ → σ → τ}
    {S : Services σ} {p : Play τ α}
    (h : (S.within part put).Offers p) : ∃ q, S.Offers q ∧ p = q.within part put := by
  cases h with
  | perform c => exact ⟨_, .perform c, rfl⟩
  | dialogEnded => exact ⟨_, .dialogEnded, rfl⟩
  | selectionEnded => exact ⟨_, .selectionEnded, rfl⟩
  | choice => exact ⟨_, .choice, rfl⟩
  | talkLine i => exact ⟨_, .talkLine i, rfl⟩
  | player => exact ⟨_, .player, rfl⟩
  | mapName => exact ⟨_, .mapName, rfl⟩
  | npc name => exact ⟨_, .npc name, rfl⟩
  | obj name => exact ⟨_, .obj name, rfl⟩
  | levelList path => exact ⟨_, .levelList path, rfl⟩
  | addGood file => exact ⟨_, .addGood file, rfl⟩
  | addMagic file => exact ⟨_, .addMagic file, rfl⟩
  | random lo hi => exact ⟨_, .random lo hi, rfl⟩

lemma Services.Offers.withRandom {σ : Type} {S : Services σ} {random : Int → Int → Play σ Int}
    {P : ∀ {α : Type}, Play σ α → Prop} (hS : ∀ {α : Type} {p : Play σ α}, S.Offers p → P p)
    (hr : ∀ lo hi, P (random lo hi)) {α : Type} {p : Play σ α}
    (hp : Services.Offers { S with random := random } p) : P p := by
  cases hp with
  | perform c => exact hS (.perform c)
  | dialogEnded => exact hS .dialogEnded
  | selectionEnded => exact hS .selectionEnded
  | choice => exact hS .choice
  | talkLine i => exact hS (.talkLine i)
  | player => exact hS .player
  | mapName => exact hS .mapName
  | npc name => exact hS (.npc name)
  | obj name => exact hS (.obj name)
  | levelList path => exact hS (.levelList path)
  | addGood file => exact hS (.addGood file)
  | addMagic file => exact hS (.addMagic file)
  | random lo hi => exact hr lo hi

end EventScript
