import Whereabouts.Proofs.Lockstep

/-!
# Worlds in memory

A world in memory: a database, the databases that were saved, and the state of
remote storage.  It shows that what is assumed of the surroundings of a check can be
had, and it is where checks of given databases are run.
-/

namespace Whereabouts

/-- A world in memory. -/
structure MemoryWorld (ω : Type) where
  database : Database
  saved : List Database
  outside : ω

namespace MemoryWorld

variable {ω : Type}

def view : View (MemoryWorld ω) ω where
  database := MemoryWorld.database
  saved := MemoryWorld.saved
  outside := MemoryWorld.outside

/-- The vault that keeps its database in memory. -/
def vault : Vault (StateM (MemoryWorld ω)) where
  load := fun memory => (.ok memory.database, memory)
  save := fun db memory => (.ok (), { memory with database := db, saved := db :: memory.saved })

/-- A checker of that vault, for which time stands still. -/
def checker (engine : EngineSettings) (depth : Nat) (time : Instant) :
    Checker (StateM (MemoryWorld ω)) where
  vault := vault
  clock := { now := pure time, newProcessId := pure "process" }
  trail := { append := fun _ => pure () }
  engine := engine
  depth := depth

def lift {α : Type} (x : StateM ω α) : StateM (MemoryWorld ω) α := fun memory =>
  ((x.run memory.outside).1, { memory with outside := (x.run memory.outside).2 })

/-- A remote storage whose state is part of the world. -/
def storage (remote : Storage (StateM ω)) : Storage (StateM (MemoryWorld ω)) where
  list := fun system path => lift (remote.list system path).run
  stat := fun system path => lift (remote.stat system path).run
  externalId := fun system => lift (remote.externalId system).run

theorem vault_holds : (vault : Vault (StateM (MemoryWorld ω))).Holds view where
  load_still := fun memory => View.Same.refl memory
  load_eq := by
    intro memory db h
    cases h
    rfl
  save_ok := fun _ _ _ => ⟨rfl, rfl, rfl⟩
  save_error := (fun _ _ _ h => nomatch h)

theorem vault_readable : (vault : Vault (StateM (MemoryWorld ω))).Readable := by
  intro fault h
  rcases h with ⟨memory, hmemory⟩
  cases hmemory

theorem vault_writable (db : Database) (memory : MemoryWorld ω) (fault : Fault) :
    ((vault.save db).on memory).1 ≠ .error fault :=
  (fun h => nomatch h)

theorem checker_alone (engine : EngineSettings) (depth : Nat) (time : Instant) :
    (checker engine depth time : Checker (StateM (MemoryWorld ω))).Alone view where
  vault := vault_holds
  now := View.still_pure time
  newProcessId := View.still_pure "process"
  trail := fun _ => View.still_pure _

theorem storage_acts (remote : Storage (StateM ω)) : (storage remote).Acts view remote where
  list := fun _ _ _ => ⟨rfl, rfl, rfl⟩
  stat := fun _ _ _ => ⟨rfl, rfl, rfl⟩
  externalId := fun _ _ => ⟨rfl, rfl, rfl⟩

theorem storage_follows {remote : Storage (StateM ω)} {answers : Storage Id}
    (h : remote.Follows answers) : (storage remote).Follows answers where
  list := fun system path memory => h.list system path memory.outside
  stat := fun system path memory => h.stat system path memory.outside
  externalId := fun system memory => h.externalId system memory.outside

end MemoryWorld

/-- A remote storage that gives fixed answers and keeps its state. -/
def Storage.answering {ω : Type} (answers : Storage Id) : Storage (StateM ω) where
  list := fun system path => ExceptT.mk (pure (answers.list system path).run.run)
  stat := fun system path => ExceptT.mk (pure (answers.stat system path).run.run)
  externalId := fun system => ExceptT.mk (pure (answers.externalId system).run.run)

theorem Storage.answering_follows {ω : Type} (answers : Storage Id) :
    (Storage.answering answers : Storage (StateM ω)).Follows answers where
  list := fun _ _ _ => rfl
  stat := fun _ _ _ => rfl
  externalId := fun _ _ => rfl

/-!
## A sample

A project with a public file, a file that has a published copy, and a file of a
system that remote storage refuses to name a project for.
-/

namespace Sample

/-- Every batch has one item. -/
def engine : EngineSettings :=
  { EngineSettings.standard with batchSize := 1 }

def placed (system path : String) : Location :=
  { Location.unknown with
    originSystem := some system, originPath := some path,
    currentSystem := some system, currentPath := some path }

def image (id : Int64) (loc : Location) : Asset where
  id := id
  featureId := 1
  projectId := 1
  assetType := .image
  pointCloudId := none
  location := loc

def time : Instant := default

def database : Database :=
  { Database.fresh with
    projects := .ofList [(1, { id := 1, name := "p", systemId := some "project-a" })]
    users := .ofList [(1, { id := 1, username := "u", token := some "t" })]
    assets := .ofList
      [(1, image 1 (placed "designsafe.storage.community" "/a.jpg")),
        (2, image 2 (placed "project-a" "/b.jpg")),
        (3, image 3 (placed "project-b" "/c.jpg"))]
    runs := .ofList [(1, { Database.startedRun 1 1 time with id := 1, taskId := none })] }

def answers : Storage Id where
  list := fun system path =>
    if system = "designsafe.storage.published" then
      .ok [{ name := "b.jpg", path := "published-data/PRJ-1/b.jpg", kind := .file, size := none }]
    else .error (.notListable system path)
  stat := fun system path => .error (.notListable system path)
  externalId := fun system =>
    if system = "project-a" then .ok (some "PRJ-1")
    else .error (.projectLookup system "refused")

def memory : MemoryWorld Unit where
  database := database
  saved := []
  outside := ()

def checker : Checker (StateM (MemoryWorld Unit)) :=
  MemoryWorld.checker engine 4 time

def connect (_token : String) :
    Attempt (StateM (MemoryWorld Unit)) (Storage (StateM (MemoryWorld Unit))) :=
  pure (MemoryWorld.storage (Storage.answering answers))

theorem checker_alone : checker.Alone MemoryWorld.view :=
  MemoryWorld.checker_alone engine 4 time

theorem connects : Connects connect MemoryWorld.view (Storage.answering answers) where
  still := fun _ => View.still_pure _
  acts := by
    intro token memory storage h
    cases h
    exact MemoryWorld.storage_acts _

def surveyor : Surveyor (StateM (MemoryWorld Unit)) :=
  checker.surveyor (MemoryWorld.storage (Storage.answering answers))

theorem follows : surveyor.storage.Follows answers :=
  MemoryWorld.storage_follows (Storage.answering_follows answers)

def provenance : Provenance where
  project := { id := 1, name := "p", systemId := some "project-a" }
  pointClouds := .empty

def items : List (Tracked × Instant) :=
  database.assets.values.map fun asset => (.asset asset, time)

def check (memory : MemoryWorld Unit) :
    (Except Fault CheckOutcome × OrderedMap String (Option String)) × MemoryWorld Unit :=
  (checker.conduct 1 1 .empty connect).run memory

/-- The world of a check that ended when it had saved all but five of its databases. -/
def interrupted : MemoryWorld Unit :=
  { memory with database := (check memory).2.saved.getD 5 .fresh }

def restart : Except Fault StartedCheck × MemoryWorld Unit :=
  (Check.start checker.vault checker.clock 1 true).on interrupted

end Sample
end Whereabouts
