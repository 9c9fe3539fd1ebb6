import Mathlib.Data.List.Forall2
import Whereabouts.Proofs.Lockstep
import Whereabouts.Proofs.Names

/-!
# Spellings of paths

Slashes in front of the paths that remote storage gives make no difference to a check.
Two storages that agree on everything else give the same indices, and every step of a
pass over them ends in the same way and leaves the same bench.
-/

namespace Whereabouts

variable {σ τ α β γ δ : Type}

/-!
## Operations on two worlds
-/

/-- Operations on two worlds that keep the worlds related and give related values. -/
def Paired (R : σ -> τ -> Prop) (V : α -> β -> Prop) (x : StateM σ α) (y : StateM τ β) : Prop :=
  forall s t, R s t -> V (x.run s).1 (y.run t).1 ∧ R (x.run s).2 (y.run t).2

namespace Paired

variable {R : σ -> τ -> Prop} {V : α -> β -> Prop} {W : γ -> δ -> Prop}

theorem pure {a : α} {b : β} (h : V a b) :
    Paired R V (Pure.pure a : StateM σ α) (Pure.pure b) :=
  fun _ _ hworlds => ⟨h, hworlds⟩

theorem bind {x : StateM σ α} {y : StateM τ β} {f : α -> StateM σ γ} {g : β -> StateM τ δ}
    (hx : Paired R V x y) (hf : forall a b, V a b -> Paired R W (f a) (g b)) :
    Paired R W (x >>= f) (y >>= g) := by
  intro s t hworlds
  rcases hx s t hworlds with ⟨hvalue, hafter⟩
  exact hf _ _ hvalue _ _ hafter

end Paired

def Lockstep.paired (R : σ -> τ -> Prop) : Lockstep (StateM σ) (StateM τ) where
  Rel := Paired R Eq
  rel_pure _ := Paired.pure rfl
  rel_bind hx hf := hx.bind fun a _ heq => heq ▸ hf a

theorem Paired.foldlM {R : σ -> τ -> Prop} {V : α -> β -> Prop} {f : γ -> α -> StateM σ γ}
    {g : γ -> β -> StateM τ γ}
    (h : forall c a b, V a b -> Paired R Eq (f c a) (g c b)) {items : List α} {others : List β}
    (hitems : List.Forall₂ V items others) (start : γ) :
    Paired R Eq (items.foldlM f start) (others.foldlM g start) := by
  induction hitems generalizing start with
  | nil => exact Paired.pure rfl
  | cons hitem hrest ih =>
      rw [List.foldlM_cons, List.foldlM_cons]
      exact (h start _ _ hitem).bind fun c _ heq => heq ▸ ih c

/-!
## Slashes in front
-/

namespace RemotePath

theorem fileName?_relative (path : String) : fileName? (relative path) = fileName? path := by
  have hlast : forall s, (Text.pieces '/' ('/' :: s)).getLast? = (Text.pieces '/' s).getLast? := by
    intro s
    rcases List.exists_cons_of_ne_nil (Text.pieces_ne_nil '/' s) with ⟨piece, others, hpieces⟩
    rw [Text.pieces, if_pos rfl, hpieces, List.getLast?_cons_cons]
  have hsegments := apply_dropStart (fun s => (Text.pieces '/' s).getLast?) hlast path.toList
  rw [fileName?, fileName?, segments, segments, relative, String.toList_ofList, hsegments]

end RemotePath

namespace EngineSettings

/-- Whether no name of trash starts with a slash. -/
def HasPlainTrash (engine : EngineSettings) : Prop :=
  forall name, name ∈ engine.trashNames -> name.toList.head? ≠ some '/'

theorem dropEnd_slash (s : List Char) :
    Text.dropEnd RemotePath.isSlash ('/' :: s) = Text.dropEnd RemotePath.isSlash s ∨
      Text.dropEnd RemotePath.isSlash ('/' :: s) = '/' :: Text.dropEnd RemotePath.isSlash s := by
  unfold Text.dropEnd
  rw [List.reverse_cons, List.dropWhile_append]
  split
  · rename_i hempty
    refine Or.inl ?_
    rw [List.isEmpty_iff.mp hempty]
    rfl
  · exact Or.inr List.reverse_concat

theorem isSuffixOf_slash {name : List Char} (h : name.head? ≠ some '/') (s : List Char) :
    name.isSuffixOf ('/' :: s) = name.isSuffixOf s := by
  rw [Bool.eq_iff_iff, List.isSuffixOf_iff_suffix, List.isSuffixOf_iff_suffix,
    List.suffix_cons_iff]
  refine or_iff_right fun heq => h ?_
  rw [heq]
  rfl

/-- Slashes in front of a path make no difference to whether it is trash. -/
theorem isTrash_relative {engine : EngineSettings} (h : engine.HasPlainTrash) (path : String) :
    engine.isTrash (RemotePath.relative path) = engine.isTrash path := by
  let trashed (s : List Char) : Bool := engine.trashNames.any fun name =>
    name.toList.isSuffixOf (Text.dropEnd RemotePath.isSlash s)
  have hslash : forall s, trashed ('/' :: s) = trashed s := by
    intro s
    rw [Bool.eq_iff_iff, List.any_eq_true, List.any_eq_true]
    refine exists_congr fun name => and_congr_right fun hname => ?_
    rcases dropEnd_slash s with heq | heq
    · rw [heq]
    · rw [heq, isSuffixOf_slash (h name hname)]
  rw [isTrash, RemotePath.relative, String.toList_ofList]
  exact RemotePath.apply_dropStart trashed hslash path.toList

end EngineSettings

/-!
## Storages that are alike
-/

/-- Whether two entries differ in no more than the slashes in front of their paths. -/
structure Entry.Alike (entry other : Entry) : Prop where
  name : entry.name = other.name
  path : RemotePath.relative entry.path = RemotePath.relative other.path
  kind : entry.kind = other.kind
  size : entry.size = other.size

/-- Whether two answers are both failures, and the same one where the same was asked, or
give values that are related. -/
def AnswersAlike (same : Prop) (V : α -> β -> Prop) :
    Except StorageError α -> Except StorageError β -> Prop
  | .ok a, .ok b => V a b
  | .error failure, .error other => same -> failure = other
  | _, _ => False

theorem AnswersAlike.cases {same : Prop} {V : α -> β -> Prop} {answer : Except StorageError α}
    {other : Except StorageError β} (h : AnswersAlike same V answer other) :
    (exists a b, answer = .ok a ∧ other = .ok b ∧ V a b) ∨
      exists failure failure', answer = .error failure ∧ other = .error failure' ∧
        (same -> failure = failure') := by
  cases answer with
  | ok a =>
      cases other with
      | ok b => exact Or.inl ⟨a, b, rfl, rfl, h⟩
      | error failure => cases h
  | error failure =>
      cases other with
      | ok b => cases h
      | error failure' => exact Or.inr ⟨failure, failure', rfl, rfl, h⟩

/-- Two storages that succeed and fail on the same calls, with alike entries, also where
the asked paths differ in the slashes in front. -/
structure Storage.Alike (R : σ -> τ -> Prop) (storage : Storage (StateM σ))
    (other : Storage (StateM τ)) : Prop where
  list : forall system path spelling,
    RemotePath.relative path = RemotePath.relative spelling ->
    Paired R (AnswersAlike (path = spelling) (List.Forall₂ Entry.Alike))
      (storage.list system path).run (other.list system spelling).run
  stat : forall system path spelling,
    RemotePath.relative path = RemotePath.relative spelling ->
    Paired R (AnswersAlike (path = spelling) Entry.Alike)
      (storage.stat system path).run (other.stat system spelling).run
  externalId : forall system,
    Paired R Eq (storage.externalId system).run (other.externalId system).run

section Alike

variable {R : σ -> τ -> Prop} {surveyor : Surveyor (StateM σ)} {storage : Storage (StateM τ)}
  {entry other : Entry}

theorem Entry.Alike.isDirectory (h : entry.Alike other) :
    entry.isDirectory = other.isDirectory := by
  rw [Entry.isDirectory, Entry.isDirectory, h.kind]

theorem Entry.Alike.isTrash {engine : EngineSettings} (htrash : engine.HasPlainTrash)
    (h : entry.Alike other) : engine.isTrash entry.path = engine.isTrash other.path := by
  rw [<- EngineSettings.isTrash_relative htrash, h.path, EngineSettings.isTrash_relative htrash]

theorem Entry.Alike.insertFile (h : entry.Alike other) (index : FileIndex) :
    index.insertFile entry = index.insertFile other := by
  have hname : RemotePath.fileName? entry.path = RemotePath.fileName? other.path := by
    rw [<- RemotePath.fileName?_relative, h.path, RemotePath.fileName?_relative]
  unfold FileIndex.insertFile FileIndex.insert
  rw [hname, h.name, h.path]

theorem paired_visit (halike : surveyor.storage.Alike R storage)
    (htrash : surveyor.engine.HasPlainTrash) (system : String)
    {explore : Option (List Entry -> StateM σ FileIndex)}
    {explore' : Option (List Entry -> StateM τ FileIndex)}
    (hexplore : Option.Rel (fun e e' => forall entries others,
      List.Forall₂ Entry.Alike entries others -> Paired R Eq (e entries) (e' others))
      explore explore')
    (index : FileIndex) (h : entry.Alike other) :
    Paired R Eq (surveyor.visit system explore index entry)
      ((surveyor.over storage).visit system explore' index other) := by
  unfold Surveyor.visit
  rw [Surveyor.over_engine, h.isDirectory, h.insertFile, h.isTrash htrash]
  split
  · exact Paired.pure rfl
  · split
    · exact Paired.pure rfl
    · cases hexplore with
      | none => exact Paired.pure rfl
      | some hinner =>
          refine (halike.list system _ _ h.path).bind fun answer answer' hanswer => ?_
          rcases hanswer.cases with ⟨entries, others, rfl, rfl, hentries⟩ | ⟨_, _, rfl, rfl, _⟩
          · exact (hinner entries others hentries).bind fun _ _ heq => heq ▸ Paired.pure rfl
          · exact Paired.pure rfl

theorem paired_indexListing (halike : surveyor.storage.Alike R storage)
    (htrash : surveyor.engine.HasPlainTrash) (system : String) (depth : Nat)
    {entries others : List Entry} (h : List.Forall₂ Entry.Alike entries others) :
    Paired R Eq (surveyor.indexListing system depth entries)
      ((surveyor.over storage).indexListing system depth others) := by
  induction depth generalizing entries others with
  | zero =>
      refine Paired.foldlM ?_ h _
      exact fun index _ _ hentry => paired_visit halike htrash system .none index hentry
  | succ depth ih =>
      refine Paired.foldlM ?_ h _
      exact fun index _ _ hentry =>
        paired_visit halike htrash system (.some fun _ _ => ih) index hentry

theorem paired_index (halike : surveyor.storage.Alike R storage)
    (htrash : surveyor.engine.HasPlainTrash) (system root : String) :
    Paired R Eq (surveyor.index system root) ((surveyor.over storage).index system root) := by
  refine (halike.list system root root rfl).bind fun answer answer' hanswer => ?_
  rcases hanswer.cases with ⟨entries, others, rfl, rfl, hentries⟩ | ⟨_, _, rfl, rfl, _⟩
  · exact paired_indexListing halike htrash system surveyor.depth hentries
  · exact Paired.pure rfl

theorem paired_build (halike : surveyor.storage.Alike R storage)
    (htrash : surveyor.engine.HasPlainTrash) (target : IndexTarget) :
    Paired R Eq (surveyor.build target) ((surveyor.over storage).build target) := by
  cases target <;> exact paired_index halike htrash _ _

/-!
## Passes
-/

theorem steps_attempt_bind {V : α -> β -> Prop} {remote : Remote (StateM σ) α}
    {remote' : Remote (StateM τ) β} {same : Prop}
    {f : Except StorageError α -> Step (StateM σ) γ}
    {g : Except StorageError β -> Step (StateM τ) γ}
    (h : Paired R (AnswersAlike same V) remote.run remote'.run)
    (hf : forall answer other, AnswersAlike same V answer other ->
      (Lockstep.paired R).Steps (f answer) (g other)) :
    (Lockstep.paired R).Steps (Step.attempt remote >>= f) (Step.attempt remote' >>= g) := by
  intro bench s t hworlds
  rcases h s t hworlds with ⟨hanswers, hafter⟩
  exact hf _ _ hanswers bench _ _ hafter

theorem steps_confirmSource (halike : surveyor.storage.Alike R storage) (loc : Location)
    (owner found : String) :
    (Lockstep.paired R).Steps (surveyor.confirmSource loc owner found)
      ((surveyor.over storage).confirmSource loc owner found) := by
  refine steps_attempt_bind (halike.stat owner _ _ rfl) fun answer other hanswers => ?_
  rcases hanswers.cases with ⟨_, _, rfl, rfl, _⟩ | ⟨failure, _, rfl, rfl, hfailure⟩
  · exact Lockstep.steps_bind (Lockstep.steps_setLocation _) fun _ => Lockstep.steps_pure true
  · -- The same path is asked for, so that the failures are the same.
    cases hfailure rfl
    cases failure with
    | notListable system path => exact Lockstep.steps_pure false
    | _ => exact Lockstep.steps_throw _

theorem steps_recoverSystem (halike : surveyor.storage.Alike R storage)
    (provenance : Provenance) :
    (Lockstep.paired R).Steps (surveyor.recoverSystem provenance)
      ((surveyor.over storage).recoverSystem provenance) := by
  apply Lockstep.steps_bind Lockstep.steps_location
  intro loc
  cases loc.originSystem with
  | some system => exact Lockstep.steps_pure false
  | none =>
      cases loc.originPath with
      | none => exact Lockstep.steps_pure false
      | some path =>
          cases provenance.project.owningSystem? with
          | none => exact Lockstep.steps_pure false
          | some owner =>
              refine steps_attempt_bind (halike.list owner path path rfl)
                fun answer other hanswers => ?_
              rcases hanswers.cases with ⟨entries, others, rfl, rfl, hentries⟩ |
                ⟨failure, _, rfl, rfl, hfailure⟩
              · cases hentries with
                | nil => exact Lockstep.steps_pure false
                | cons hentry hrest =>
                    exact Lockstep.steps_bind (Lockstep.steps_setLocation _) fun _ =>
                      Lockstep.steps_pure true
              · cases hfailure rfl
                cases failure with
                | notListable system path => exact Lockstep.steps_pure false
                | _ => exact Lockstep.steps_throw _

/-- Work over two storages with the same results, the same location of the item at hand and
the same caches, from every bench. -/
structure SameWork (R : σ -> τ -> Prop) (surveyor : Surveyor (StateM σ))
    (storage : Storage (StateM τ)) : Prop where
  index : forall system root,
    Paired R Eq (surveyor.index system root) ((surveyor.over storage).index system root)
  repair : forall provenance asset bench,
    Paired R Eq ((surveyor.repair provenance asset).run.run bench)
      (((surveyor.over storage).repair provenance asset).run.run bench)
  judge : forall bench,
    Paired R Eq (surveyor.judge.run.run bench) ((surveyor.over storage).judge.run.run bench)
  assignProject : forall bench,
    Paired R Eq (surveyor.assignProject.run.run bench)
      ((surveyor.over storage).assignProject.run.run bench)

/-- Slashes in front of the paths that remote storage gives make no difference. -/
theorem same_work_of_alike (halike : surveyor.storage.Alike R storage)
    (htrash : surveyor.engine.HasPlainTrash) : SameWork R surveyor storage := by
  have hsurveyors : (Lockstep.paired R).Surveyors surveyor storage := {
    builds := paired_build halike htrash
    externalId := halike.externalId
    confirmSource := steps_confirmSource halike
    recoverSystem := steps_recoverSystem halike }
  exact {
    index := paired_index halike htrash
    repair := hsurveyors.repair
    judge := hsurveyors.judge
    assignProject := hsurveyors.assignProject }

end Alike

namespace Sample

/-- A storage with one file in a directory, whose paths start with some slashes. -/
def spelled (slashes : String) : Storage (StateM Unit) where
  list system path :=
    if RemotePath.relative path = "" then
      pure [{ name := "a", path := slashes ++ "a", kind := .directory, size := none }]
    else if RemotePath.relative path = "a" then
      pure [{ name := "x", path := slashes ++ "a/x", kind := .file, size := some 1 }]
    else
      throw (.notListable system path)
  stat system path := throw (.notListable system path)
  externalId _ := pure none

theorem spelled_alike :
    (spelled "//").Alike (fun _ _ => True) (spelled "") where
  list := by
    intro system path spelling h _ _ _
    refine ⟨?_, trivial⟩
    unfold spelled
    dsimp only
    rw [h]
    split
    · exact .cons ⟨rfl, by decide +kernel, rfl, rfl⟩ .nil
    · split
      · exact .cons ⟨rfl, by decide +kernel, rfl, rfl⟩ .nil
      · exact fun heq => heq ▸ rfl
  stat := by
    intro system path spelling h _ _ _
    exact ⟨fun heq => heq ▸ rfl, trivial⟩
  externalId _ _ _ _ := ⟨rfl, trivial⟩

def spelledSurveyor : Surveyor (StateM Unit) where
  storage := spelled "//"
  engine := .standard
  depth := 1

end Sample

theorem same_work_of_alike_spelled :
    SameWork (fun _ _ => True) Sample.spelledSurveyor (Sample.spelled "") ∧
      ((Sample.spelledSurveyor.index "s" "/").run ()).1.toList = [("x", ["a/x"])] :=
  ⟨same_work_of_alike Sample.spelled_alike (by unfold EngineSettings.HasPlainTrash; decide +kernel),
    by decide +kernel⟩

end Whereabouts
