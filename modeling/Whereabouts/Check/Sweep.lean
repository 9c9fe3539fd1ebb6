import Whereabouts.Check.Audit
import Whereabouts.Check.Lifecycle
import Whereabouts.Reconcile.Pass
import Whereabouts.Store.Session
import Whereabouts.Text.Shortened

/-!
# Running a check

One pass over the tracked items of a project.  An item that fails is recorded
and skipped.  After every batch what was found is committed and the counters are
brought up to date.  Any other fault before the run is finished fails the check.
-/

namespace Whereabouts

structure ItemFailure where
  key : ItemKey
  path : String
  error : String
  deriving DecidableEq, Inhabited

structure CheckOutcome where
  projectId : Int64
  runId : Option Int64
  status : TaskStatus
  totalItems : UInt64
  itemsChecked : UInt64
  failures : List ItemFailure
  message : String
  deriving DecidableEq, Inhabited

/-- What a check needs to know before it starts. -/
structure Setup where
  project : Project
  token : String
  run : Run
  pointClouds : Table PointCloud
  work : List ItemKey

def Setup.provenance (setup : Setup) : Provenance where
  project := setup.project
  pointClouds := setup.pointClouds

namespace Database

/-- Whether an asset has an origin, recorded or perhaps recoverable. -/
def isTrackable (asset : Asset) : Bool :=
  asset.location.originPath.isSome || asset.assetType == .pointCloud

/-- The items that a check goes through: assets, then internal tile servers. -/
def work (db : Database) (projectId : Int64) : List ItemKey :=
  ((db.assetsOf projectId).filter isTrackable).map Asset.key
    ++ ((db.tileServersOf projectId).filter TileServer.internal).map TileServer.key

/-- What a check of a project by a user needs; the first missing part is the
fault. -/
def setup (db : Database) (projectId userId : Int64) : Except Fault Setup := do
  let project <- match db.projects.get? projectId with
    | some project => .ok project
    | none => .error (.missingProject projectId)
  let user <- match db.users.get? userId with
    | some user => .ok user
    | none => .error (.missingUser userId)
  let token <- match user.credentials? with
    | some token => .ok token
    | none => .error (.missingCredentials userId)
  let run <- match db.runOf? projectId with
    | some run => .ok run
    | none => .error (.missingRun projectId)
  let clouds := db.pointClouds.values.filter fun cloud => cloud.projectId == projectId
  return { project, token, run, work := db.work projectId,
           pointClouds := .ofList (clouds.map fun cloud => (cloud.id, cloud)) }

end Database

/-- What a check works with besides remote storage. -/
structure Checker (m : Type -> Type) where
  vault : Vault m
  clock : Clock m
  trail : Trail m
  engine : EngineSettings
  /-- How many levels an index may go down. -/
  depth : Nat

@[deprecated Checker (since := "2026-11-20")]
abbrev Office := Checker

def Checker.surveyor {m n : Type -> Type} (checker : Checker m) (storage : Storage n) :
    Surveyor n where
  storage := storage
  engine := checker.engine
  depth := checker.depth

structure Sweep where
  session : Session
  caches : Caches
  failures : List ItemFailure
  processed : UInt64

def Sweep.start (externalIds : OrderedMap String (Option String)) : Sweep where
  session := .start
  caches := { Caches.empty with externalIds }
  failures := []
  processed := 0

namespace Checker

variable {m : Type -> Type} [Monad m]

def countText (n : UInt64) : String :=
  Text.natText n.toNat

def fetch (checker : Checker m) (session : Session) (key : ItemKey) :
    m (Except Fault Tracked × Session) := do
  match key.kind with
  | .asset =>
      match <- (session.asset? checker.vault key.id).run with
      | .ok (some asset, next) => return (.ok (.asset asset), next)
      | .ok (none, next) => return (.error (.itemGone .asset key.id), next)
      | .error fault => return (.error fault, session)
  | .tileServer =>
      match <- (session.tileServer? checker.vault key.id).run with
      | .ok (some server, next) => return (.ok (.tileServer server), next)
      | .ok (none, next) => return (.error (.itemGone .tileServer key.id), next)
      | .error fault => return (.error fault, session)

/-- Checks one item and lets its location wait for the next commit. -/
def process (checker : Checker m) (surveyor : Surveyor m) (provenance : Provenance)
    (session : Session) (caches : Caches) (key : ItemKey)
    (build : IndexTarget -> m FileIndex := surveyor.build) :
    m (Except Fault Unit × Session × Caches) := do
  let time <- checker.clock.now
  let (fetched, session) <- checker.fetch session key
  match fetched with
  | .error fault => return (.error fault, session, caches)
  | .ok item =>
      let (result, bench) <- surveyor.treat provenance item time caches build
      match result with
      | .error failure => return (.error (.storage failure), session, bench.caches)
      | .ok _ => return (.ok (), session.stage item.key bench.location, bench.caches)

def failurePath (checker : Checker m) (session : Session) (key : ItemKey) :
    m (String × Session) := do
  match <- (session.database checker.vault).run with
  | .ok (db, next) =>
      let path := (db.location? key).bind Location.originPath
      return (path.getD "unknown", next)
  | .error _ => return ("unknown", session)

def sweepItem (checker : Checker m) (surveyor : Surveyor m) (provenance : Provenance)
    (sweep : Sweep) (key : ItemKey) (build : IndexTarget -> m FileIndex := surveyor.build) :
    m Sweep := do
  let (result, session, caches) <-
    checker.process surveyor provenance sweep.session sweep.caches key build
  let processed := sweep.processed + 1
  match result with
  | .ok () => return { sweep with session, caches, processed }
  | .error fault =>
      let (path, session) <- checker.failurePath session key
      let error := Text.shortened checker.engine.itemErrorLimit fault.message
      let failure : ItemFailure := { key, path, error }
      return { session, caches, processed, failures := sweep.failures ++ [failure] }

def failedCount (sweep : Sweep) : UInt64 :=
  UInt64.ofNat sweep.failures.length

def publish (checker : Checker m) (setup : Setup) (sweep : Sweep) : Attempt m Unit := do
  let failed := failedCount sweep
  let _ <- Check.updateRun checker.vault setup.project.id fun run =>
    { run with itemsChecked := sweep.processed - failed, itemsFailed := failed }
  match setup.run.taskId with
  | some taskId =>
      Check.updateTask checker.vault checker.clock taskId .running
        ("Processed " ++ countText sweep.processed ++ "/" ++ Text.natText setup.work.length
          ++ " files (" ++ countText failed ++ " errors)")
  | none => return ()

/-- Commits a batch and publishes what was counted. -/
def closeBatch (checker : Checker m) (setup : Setup) (sweep : Sweep) :
    m (Except Fault Unit × Sweep) := do
  let (committed, session) <- sweep.session.commit checker.vault
  match committed with
  | .error fault => return (.error fault, { sweep with session })
  | .ok _ =>
      let next := { sweep with session := session.expire }
      return (<- (checker.publish setup next).run, next)

/-- Goes through the items, with a checkpoint after every batch. -/
def sweepAll (checker : Checker m) (surveyor : Surveyor m) (setup : Setup) (work : List ItemKey)
    (sweep : Sweep) (build : IndexTarget -> m FileIndex := surveyor.build) :
    m (Except Fault Unit × Sweep) :=
  match work with
  | [] => return (.ok (), sweep)
  | key :: rest => do
      let next <- checker.sweepItem surveyor setup.provenance sweep key build
      if next.processed.toNat % max checker.engine.batchSize 1 = 0 then
        match <- checker.closeBatch setup next with
        | (.ok (), after) => checker.sweepAll surveyor setup rest after build
        | (.error fault, after) => return (.error fault, after)
      else
        checker.sweepAll surveyor setup rest next build

def finalMessage (total : UInt64) (failed : UInt64) : String :=
  if failed = 0 then
    "Successfully checked all " ++ countText total ++ " files"
  else
    "Checked " ++ countText total ++ " files: " ++ countText (total - failed)
      ++ " successful, " ++ countText failed ++ " failed"

/-- Tells task and trail that a check is finished.  Neither can fail it any more. -/
def proclaim (checker : Checker m) (projectId : Int64) (run : Run) (failed : UInt64)
    (message : String) : Attempt m Unit := do
  match run.taskId with
  | some taskId =>
      let _ <- Attempt.outcome
        (Check.updateTask checker.vault checker.clock taskId .completed message)
  | none => pure ()
  let status := if failed = 0 then "completed" else "completed_with_errors"
  let _ <- Attempt.outcome
    (checker.trail.append { phase := "check", status, projectId := some projectId, message })

def finish (checker : Checker m) (setup : Setup) (sweep : Sweep) : Attempt m CheckOutcome := do
  let projectId := setup.project.id
  let total := UInt64.ofNat setup.work.length
  let failed := failedCount sweep
  let _ <- ExceptT.mk do return (<- sweep.session.commit checker.vault).1
  let time <- Attempt.effect checker.clock.now
  let run <- Check.updateRun checker.vault projectId fun run =>
    { run with
      completedAt := some time, itemsChecked := total - failed, itemsFailed := failed }
  let message := finalMessage total failed
  checker.proclaim projectId run failed message
  return { projectId, runId := some run.id, status := .completed, totalItems := total,
           itemsChecked := run.itemsChecked, failures := sweep.failures, message }

/-- Announces a check: the counters start at zero, and task and trail say so. -/
def announce (checker : Checker m) (setup : Setup) : Attempt m Unit := do
  let projectId := setup.project.id
  let total := UInt64.ofNat setup.work.length
  let _ <- Check.updateRun checker.vault projectId fun run =>
    { run with totalItems := total, itemsChecked := 0, itemsFailed := 0 }
  match setup.run.taskId with
  | some taskId =>
      Check.updateTask checker.vault checker.clock taskId .running
        ("Checking " ++ countText total ++ " files for public availability")
  | none => pure ()
  checker.trail.append
    { phase := "check", status := "started", projectId := some projectId,
      message := countText total ++ " items" }

def prepare (checker : Checker m) (setup : Setup)
    (connect : (token : String) -> Attempt m (Storage m)) : Attempt m (Storage m) := do
  checker.announce setup
  connect setup.token

/-- A check after its setup.  The external ids that were looked up stay known,
whatever becomes of the check. -/
def carryOut (checker : Checker m) (setup : Setup)
    (externalIds : OrderedMap String (Option String))
    (connect : (token : String) -> Attempt m (Storage m))
    (build : Storage m -> IndexTarget -> m FileIndex :=
      fun storage => (checker.surveyor storage).build) :
    m (Except Fault CheckOutcome × OrderedMap String (Option String)) := do
  match <- (checker.prepare setup connect).run with
  | .error fault => return (.error fault, externalIds)
  | .ok storage =>
      let (swept, sweep) <-
        checker.sweepAll (checker.surveyor storage) setup setup.work (.start externalIds)
          (build storage)
      match swept with
      | .error fault => return (.error fault, sweep.caches.externalIds)
      | .ok () => return (<- (checker.finish setup sweep).run, sweep.caches.externalIds)

def persistFailure (checker : Checker m) (projectId : Int64) (run : Option Run)
    (message : String) : Attempt m (Option Run) :=
  match run with
  | none => return none
  | some run =>
      Attempt.within
        ("check for project " ++ Fault.idText projectId
          ++ " failed and could not be marked failed") do
        let updated <- Check.complete checker.vault checker.clock projectId
        match run.taskId with
        | some taskId =>
            Check.updateTask checker.vault checker.clock taskId .failed message
            return some updated
        | none => return some updated

/-- Marks a check as failed.  The counters that were reached stay. -/
def fail (checker : Checker m) (projectId : Int64) (run : Option Run) (fault : Fault) :
    Attempt m CheckOutcome := do
  let message := "Check failed: " ++ Text.shortened checker.engine.runErrorLimit fault.message
  let persisted <- checker.persistFailure projectId run message
  let _ <- Attempt.outcome
    (checker.trail.append
      { phase := "check", status := "failed", projectId := some projectId, message })
  return { projectId, runId := persisted.map Run.id, status := .failed,
           totalItems := (persisted.map Run.totalItems).getD 0,
           itemsChecked := (persisted.map Run.itemsChecked).getD 0, failures := [], message }

def readSetup (checker : Checker m) (projectId userId : Int64) : Attempt m Setup := do
  let db <- checker.vault.snapshot
  ExceptT.mk (pure (db.setup projectId userId))

/-- Runs the check of a project with a user's credentials.  A fault before the end
fails the check; only a failed check that cannot be marked as such is a fault of
the whole.  The external ids known afterwards come with the outcome. -/
def conduct (checker : Checker m) (projectId userId : Int64)
    (externalIds : OrderedMap String (Option String))
    (connect : (token : String) -> Attempt m (Storage m))
    (build : Storage m -> IndexTarget -> m FileIndex :=
      fun storage => (checker.surveyor storage).build) :
    m (Except Fault CheckOutcome × OrderedMap String (Option String)) := do
  match <- (Check.run? checker.vault projectId).run with
  | .error fault => return (.error fault, externalIds)
  | .ok existing =>
      match <- (checker.readSetup projectId userId).run with
      | .error fault => return (<- (checker.fail projectId existing fault).run, externalIds)
      | .ok setup =>
          let (result, known) <- checker.carryOut setup externalIds connect build
          match result with
          | .ok outcome => return (.ok outcome, known)
          | .error fault => return (<- (checker.fail projectId existing fault).run, known)

end Checker
end Whereabouts
