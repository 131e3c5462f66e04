import EventScript.Proofs.Renewal.Session

/-! The built-in commands in a session that has gone on, beside the same commands in a session that
was set up anew. -/

namespace EventScript

variable {H : Host}

namespace Engine

variable {o : Session H} {S : Services H.Game} (hS : S.Oblivious)

lemma checkDigits_inStep (ns : List Int) :
    InStep o.Mirrors Eq (checkDigits ns : Engine H Unit) (checkDigits ns) := by
  unfold checkDigits
  exact .ite Iff.rfl (.fail _) (.same ())

lemma assign_inStep (x : String) (n : Int) :
    InStep o.Mirrors Eq (assign x n : Engine H Unit) (assign x n) := by
  unfold assign
  refine InStep.guard Iff.rfl (.refl _) ?_
  exact .modify fun _ _ h => { h with store := congrArg (·.assign x n) h.store }

lemma add_inStep (x : String) (n : Int) :
    InStep o.Mirrors Eq (add x n : Engine H Unit) (add x n) := by
  refine (InStep.modify fun _ _ h => { h with store := congrArg (·.add x n) h.store }).andThen
    fun _ => InStep.get.bind fun s t h => ?_
  rw [h.store]
  exact .ite Iff.rfl (.fail _) (.same ())

lemma assignDatum_inStep (x : String) (d : Datum) :
    InStep o.Mirrors Eq (assignDatum x d : Engine H Unit) (assignDatum x d) := by
  cases d with
  | int n => exact assign_inStep x n
  | _ => exact .fail _

lemma keepChoice_inStep (out : Option String) (d : Datum) :
    InStep o.Mirrors Eq (keepChoice out d : Engine H Unit) (keepChoice out d) := by
  cases out with
  | some x => exact assignDatum_inStep x d
  | none =>
    unfold keepChoice
    exact .ite Iff.rfl (.same ()) (.fail _)

lemma readScript_inStep (path : Path) :
    InStep o.Mirrors Eq (readScript path : Engine H Script) (readScript path) := by
  refine InStep.get.bind fun s t h => ?_
  dsimp only
  rw [h.cache, h.files, h.setup]
  split
  · exact .same _
  · refine (ofExcept_inStep _).andThen fun text => (ofExcept_inStep _).andThen fun script => ?_
    have hkeep : InStep o.Mirrors Eq (do
        modify fun s => { s with cache := s.cache.put path script }
        return script : Engine H Script) (do
        modify fun s => { s with cache := s.cache.put path script }
        return script) :=
      (InStep.modify fun _ _ h => { h with cache := congrArg (·.put path script) h.cache }).andThen
        fun _ => .same script
    exact .ite Iff.rfl ((log_inStep _ _ _).andThen fun _ => hkeep) hkeep

lemma loadScript_inStep (file : String) (map : Datum) :
    InStep o.Mirrors Eq (loadScript file map : Engine H Script) (loadScript file map) := by
  refine InStep.get.bind fun s t h => ?_
  have hresolve : s.resolve file map = t.resolve file map := by
    simp only [Session.resolve, Session.candidates, h.files, h.setup]
  rw [hresolve]
  refine (ofExcept_inStep _).andThen fun path => ?_
  split
  · exact readScript_inStep _
  · exact .fail _

include hS

lemma pick_inStep (path : Path) :
    InStep o.Mirrors Eq (pick S path : Engine H String) (pick S path) := by
  refine InStep.get.bind fun s t h => ?_
  rw [h.files, h.setup]
  refine (ofExcept_inStep _).andThen fun list => (ofExcept_inStep _).andThen fun written => ?_
  split
  · exact .fail _
  · exact (play_inStep (hS.offers (.random _ _))).andThen fun _ => ofExcept_inStep _

lemma randomItem_inStep (path : Path) :
    InStep o.Mirrors Eq (randomItem S path : Engine H String) (randomItem S path) := by
  refine attempt_inStep (pick_inStep hS path) (fun a b hab => .pure hab) fun e e' he => ?_
  cases he with
  | conflict => exact (log_inStep _ _ _).andThen fun _ => .same _
  | refl =>
    split
    · next h => cases h
    · exact .fail _
    · exact (log_inStep _ _ _).andThen fun _ => .same _

lemma showNamed_inStep (template name : String) :
    InStep o.Mirrors Eq (showNamed S template name : Engine H Unit)
      (showNamed S template name) := by
  unfold showNamed
  split
  · exact perform_inStep hS _
  · exact .fail _

lemma addGood_inStep (file : String) :
    InStep o.Mirrors Eq (addGood S file : Engine H Unit) (addGood S file) := by
  refine InStep.get.bind fun s t h => ?_
  dsimp only
  rw [h.setup]
  refine (play_inStep (hS.offers (.addGood file))).andThen fun r => ?_
  split
  · exact (showNamed_inStep hS _ _).andThen fun _ => perform_inStep hS _
  · exact (perform_inStep hS _).andThen fun _ => perform_inStep hS _

lemma addMagic_inStep (file : String) :
    InStep o.Mirrors Eq (addMagic S file : Engine H Unit) (addMagic S file) := by
  refine InStep.get.bind fun s t h => ?_
  dsimp only
  rw [h.setup]
  refine (play_inStep (hS.offers (.addMagic file))).andThen fun r => ?_
  split
  · exact (showNamed_inStep hS _ _).andThen fun _ => perform_inStep hS _
  · exact showNamed_inStep hS _ _
  · exact perform_inStep hS _

lemma requirePlayer_inStep :
    InStep o.Mirrors Eq (requirePlayer S : Engine H Unit) (requirePlayer S) :=
  (play_inStep (hS.offers .player)).andThen fun _ => .ite Iff.rfl (.fail _) (.same ())

omit hS in
lemma entityOfKind_inStep (kind : EntityKind) (k : InstanceId) :
    InStep o.Mirrors Eq (entityOfKind kind (o.later k) : Engine H (Option EntityId))
      (entityOfKind kind k) :=
  (owner?_inStep k).andThen fun r => by
    split
    · exact .same _
    · exact .same _

lemma character?_inStep (k : InstanceId) (name : String) :
    InStep o.Mirrors Eq (character? S (o.later k) name : Engine H (Option EntityId))
      (character? S k name) := by
  refine .ite Iff.rfl (entityOfKind_inStep _ k) ?_
  refine (play_inStep (hS.offers .player)).andThen fun player => InStep.get.bind fun s t h => ?_
  have hentity : s.scene.entity? = t.scene.entity? := funext h.entity?
  dsimp only
  rw [hentity]
  refine .ite Iff.rfl (.same _) ((play_inStep (hS.offers (.npc name))).andThen fun e => ?_)
  split
  · exact .same _
  · exact .fail _

lemma obj?_inStep (k : InstanceId) (name : String) :
    InStep o.Mirrors Eq (obj? S (o.later k) name : Engine H (Option EntityId)) (obj? S k name) := by
  refine .ite Iff.rfl (entityOfKind_inStep _ k) ((play_inStep (hS.offers (.obj name))).andThen
    fun e => ?_)
  split
  · exact .same _
  · exact .fail _

lemma loadHere_inStep (file : String) :
    InStep o.Mirrors Eq (loadHere S file : Engine H Script) (loadHere S file) :=
  (play_inStep (hS.offers .mapName)).andThen fun map => loadScript_inStep file map

lemma loadOptional_inStep (file : String) :
    InStep o.Mirrors Eq (loadOptional S file : Engine H (Option Script)) (loadOptional S file) :=
  .ite Iff.rfl (.same _) ((loadHere_inStep hS file).andThen fun _ => .same _)

lemma talkText?_inStep (index : Int) :
    InStep o.Mirrors Eq (talkText? S index : Engine H (Option String)) (talkText? S index) :=
  (play_inStep (hS.offers (.talkLine index))).andThen fun line => by
    cases line with
    | some line => exact .same _
    | none => exact (checkDigits_inStep _).andThen fun _ => .same _

omit hS in
lemma updateEntity_inStep (e : Option EntityId) (f : Entity → Entity) :
    InStep o.Mirrors Eq (updateEntity e f : Engine H Unit) (updateEntity e f) := by
  cases e with
  | none => exact .same ()
  | some e => exact play_inStep (Play.updateEntity_oblivious e f)

omit hS in
lemma updateOfKind_inStep (kind : EntityKind) (e : Option EntityId) (f : Entity → Entity) :
    InStep o.Mirrors Eq (updateOfKind kind e f : Engine H Unit) (updateOfKind kind e f) := by
  refine InStep.get.bind fun s t h => ?_
  have hentity : s.scene.entity? = t.scene.entity? := funext h.entity?
  dsimp only
  rw [hentity]
  split
  · exact .same ()
  · exact .ite Iff.rfl (updateEntity_inStep e f) (.fail _)

lemma talk_inStep (k : InstanceId) (first last : Int) :
    InStep o.Mirrors Eq (talk S (o.later k) first last : Engine H Unit) (talk S k first last) := by
  refine InStep.get.bind fun s t h => ?_
  refine (stage_inStep (Stage.beginTalk_inStep o.later_injective hS h.holders k first last)).andThen
    fun line => ?_
  cases line with
  | none => exact checkDigits_inStep _
  | some line => exact (perform_inStep hS _).andThen fun _ => suspend_inStep k _

lemma choose_inStep (k : InstanceId) (first second question : String) (out : Option String) :
    InStep o.Mirrors Eq (choose S (o.later k) first second question out : Engine H Unit)
      (choose S k first second question out) := by
  refine InStep.get.bind fun s t h => ?_
  refine (stage_inStep (Stage.beginSelection_inStep o.later_injective h.holders k)).andThen
    fun _ => ?_
  exact (perform_inStep hS _).andThen fun _ => suspend_inStep k _

omit hS in
lemma sleep_inStep (k : InstanceId) (milliseconds : Int) :
    InStep o.Mirrors Eq (sleep (o.later k) milliseconds : Engine H Unit)
      (sleep k milliseconds) := by
  unfold sleep
  split
  · exact suspend_inStep k _
  · exact .fail _

lemma playSound_inStep (k : InstanceId) (file : String) :
    InStep o.Mirrors Eq (playSound S (o.later k) file : Engine H Unit) (playSound S k file) :=
  (play_inStep hS.listener).andThen fun _ => (owner?_inStep k).andThen fun _ => perform_inStep hS _

omit hS in
lemma start_inStep (script : Script) (owner : Option EntityId) (pausable : Bool)
    (watcher : Option String) : InStep o.Mirrors (fun j k => j = o.later k)
      (start script owner pausable watcher : Engine H InstanceId)
      (start script owner pausable watcher) := by
  refine (create_inStep script owner pausable watcher).bind ?_
  rintro _ k rfl
  refine (updateInstance_inStep k (f := ({ · with counted := true })) fun _ => rfl).andThen
    fun _ => ?_
  have hlist : InStep o.Mirrors Eq
      (modify fun s => { s with pending := s.pending ++ [o.later k] } : Engine H Unit)
      (modify fun s => { s with pending := s.pending ++ [k] }) :=
    .modify fun s t h => { h with pending := by simp [h.pending] }
  exact hlist.andThen fun _ => (count_inStep Counters.countStart_isCount).andThen fun _ => .pure rfl

lemma runScript_inStep (k : InstanceId) (file : String) :
    InStep o.Mirrors Eq (runScript S (o.later k) file : Engine H Unit) (runScript S k file) := by
  refine InStep.get.bind fun s t h => ?_
  rw [h.canSpawn]
  refine .guard Iff.rfl (.refl _) ((loadHere_inStep hS file).andThen fun script => ?_)
  exact (owner?_inStep k).andThen fun _ => (start_inStep _ _ _ _).bind fun _ _ _ => .same ()

lemma addRandMoney_inStep (least most : Int) :
    InStep o.Mirrors Eq (addRandMoney S least most : Engine H Unit) (addRandMoney S least most) :=
  have hrefuse : InStep o.Mirrors Eq (refuseRange least most : Engine H PUnit)
      (refuseRange least most) := (checkDigits_inStep _).andThen fun _ => .fail _
  have hdraw : InStep o.Mirrors Eq (do
      let n ← play (S.random least (most + 1))
      perform S (.addPlayerMoney n) : Engine H Unit) (do
      let n ← play (S.random least (most + 1))
      perform S (.addPlayerMoney n)) :=
    (play_inStep (hS.offers (.random _ _))).andThen fun _ => perform_inStep hS _
  (requirePlayer_inStep hS).andThen fun _ => .ite Iff.rfl (hrefuse.andThen fun _ => hdraw) hdraw

lemma setLevelFile_inStep (k : InstanceId) (file : String) :
    InStep o.Mirrors Eq (setLevelFile S (o.later k) file : Engine H Unit)
      (setLevelFile S k file) := by
  refine (entityOfKind_inStep _ k).andThen fun e => ?_
  cases e with
  | none => exact .same ()
  | some e =>
    refine InStep.get.bind fun s t h => ?_
    dsimp only
    rw [h.setup]
    exact (play_inStep (hS.offers (.levelList _))).andThen fun _ => updateEntity_inStep _ _

lemma addRandGoods_inStep (file : String) :
    InStep o.Mirrors Eq (addRandGoods S file : Engine H Unit) (addRandGoods S file) := by
  refine InStep.get.bind fun s t h => ?_
  dsimp only
  rw [h.setup]
  exact (randomItem_inStep hS _).andThen fun _ => .ite Iff.rfl (addGood_inStep hS _) (.same ())

lemma carryOut_inStep (k : InstanceId) (x : Instruction) :
    InStep o.Mirrors Eq (carryOut S (o.later k) x : Engine H Unit) (carryOut S k x) := by
  cases x with
  | jumpUnless | jumpIf | jump | pass | leave => exact .same ()
  | assign x n => exact assign_inStep x n
  | add x n => exact add_inStep x n
  | talk first last => exact talk_inStep hS k first last
  | choose a b question out => exact choose_inStep hS k a b question out
  | memoLine index | messageLine index =>
    refine (talkText?_inStep hS index).andThen fun text => ?_
    cases text with
    | none => exact .same ()
    | some text => exact perform_inStep hS _
  | sleep n => exact sleep_inStep k n
  | fadeOut | fadeIn =>
    exact (stage_inStep (Stage.updateFade_inStep _)).andThen fun _ => suspend_inStep k _
  | playSound file => exact playSound_inStep hS k file
  | playMovie file color =>
    exact (stage_inStep (Stage.playMovie_inStep hS file color)).andThen fun _ => .same ()
  | stopMovie => exact stage_inStep (Stage.stopMovie_inStep hS)
  | waitMovieEnd =>
    exact (stage_inStep (Stage.movieEnded_inStep hS)).andThen fun _ =>
      .ite Iff.rfl (suspend_inStep k _) (.same ())
  | runScript file => exact runScript_inStep hS k file
  | setNpcScript name file | setNpcDeathScript name file =>
    exact (character?_inStep hS k name).andThen fun _ => (loadOptional_inStep hS file).andThen
      fun _ => updateEntity_inStep _ _
  | setObjScript name file =>
    exact (obj?_inStep hS k name).andThen fun _ => (loadOptional_inStep hS file).andThen
      fun _ => updateEntity_inStep _ _
  | addRandMoney least most => exact addRandMoney_inStep hS least most
  | setNpcLevel name level =>
    exact (character?_inStep hS k name).andThen fun _ => updateOfKind_inStep _ _ _
  | setLevelFile file => exact setLevelFile_inStep hS k file
  | addGoods file => exact addGood_inStep hS file
  | addRandGoods file => exact addRandGoods_inStep hS file
  | deleteOwnGood =>
    refine (owner?_inStep k).andThen fun r => ?_
    split
    · exact .ite Iff.rfl (perform_inStep hS _) (.same ())
    · exact .same ()
  | addMagic file => exact addMagic_inStep hS file
  | setMagicLevel file level =>
    exact (perform_inStep hS _).andThen fun _ => perform_inStep hS _
  | loadMap file =>
    exact (perform_inStep hS _).andThen fun _ => (log_inStep _ _ _).andThen fun _ =>
      perform_inStep hS _
  | deleteOwnObj => exact (entityOfKind_inStep _ k).andThen fun _ => updateEntity_inStep _ _
  | openBox name => exact (obj?_inStep hS k name).andThen fun _ => updateOfKind_inStep _ _ _
  | saveTraps =>
    refine InStep.get.bind fun s t h => ?_
    rw [h.setup]
    exact perform_inStep hS _
  | call c => exact perform_inStep hS c
  | callForPlayer c => exact (requirePlayer_inStep hS).andThen fun _ => perform_inStep hS c
  | callIfPlayer c =>
    exact (play_inStep (hS.offers .player)).andThen fun _ =>
      .ite Iff.rfl (perform_inStep hS c) (.same ())

end Engine

end EventScript
