import EventScript.Proofs.Session.Footprint.Life

/-! The footprints of the parts of which built-in commands are made. -/

namespace EventScript.Engine

variable {H : Host} {A : Set Aspect}

lemma within_acting (hs : .scene ∈ A) (S : Services H.Game) :
    Acting S fun p : Engine H _ => Within A p where
  toModular := Within.modular A
  attempt := Within.attempt
  log := log_within hs
  answers _ := play_within hs _
  offers _ := play_within hs _
  update _ _ _ := play_within hs _

lemma within_directing (hA : Aspect.beside ⊆ A) (S : Services H.Game) :
    Directing S fun p : Engine H _ => Within A p where
  toActing := within_acting (hA (by simp)) S
  keep _ _ := .modify fun s => (Change.cache s _).changes (hA (by simp))

lemma loadHere_within (hA : Aspect.beside ⊆ A) (S : Services H.Game) (file : String) :
    Within A (loadHere S file : Engine H Script) :=
  (within_directing hA S).loadHere file

lemma entityOfKind_within (kind : EntityKind) (id : InstanceId) :
    Within A (entityOfKind kind id : Engine H (Option EntityId)) :=
  (Within.modular A).entityOfKind kind id

lemma store_within (hA : .store ∈ A) (f : Store → Store) :
    Within A (modify fun s => { s with store := f s.store } : Engine H PUnit) :=
  .modify fun s => (Change.store s _).changes hA

lemma assign_within (hA : .store ∈ A) (x : String) (n : Int) :
    Within A (assign x n : Engine H Unit) :=
  (Within.modular A).assign (store_within hA) x n

lemma add_within (hA : .store ∈ A) (x : String) (n : Int) :
    Within A (add x n : Engine H Unit) :=
  (Within.modular A).add (store_within hA) x n

lemma keepChoice_within (hA : .store ∈ A) (out : Option String) (choice : Datum) :
    Within A (keepChoice out choice : Engine H Unit) :=
  (Within.modular A).keepChoice (store_within hA) out choice

lemma runScript_within (hb : Aspect.beside ⊆ A) (hs : Aspect.starting ⊆ A) (S : Services H.Game)
    (id : InstanceId) (file : String) : Within A (runScript S id file : Engine H Unit) :=
  (within_directing hb S).runScript (fun _ _ => start_within hs _ _ _ _) id file

lemma talk_within {id : InstanceId} (hs : .scene ∈ A) (ht : .talk ∈ A) (hi : .status id ∈ A)
    (S : Services H.Game) (first last : Int) :
    Within A (talk S id first last : Engine H Unit) :=
  (within_acting hs S).talk (fun _ => beginTalk_within hs ht S _ id first last) (suspend_within hi _)

lemma choose_within {id : InstanceId} (hs : .scene ∈ A) (hc : .chooser ∈ A) (hi : .status id ∈ A)
    (S : Services H.Game) (a b question : String) (out : Option String) :
    Within A (choose S id a b question out : Engine H Unit) :=
  (within_acting hs S).choose (fun _ => beginSelection_within hc _ id) (suspend_within hi _) a b
    question

lemma sleep_within {id : InstanceId} (hi : .status id ∈ A) (n : Int) :
    Within A (sleep id n : Engine H Unit) :=
  (Within.modular A).sleep (fun _ => suspend_within hi _) n

end EventScript.Engine
