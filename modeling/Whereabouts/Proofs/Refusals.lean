import Mathlib.Data.List.Forall2
import Whereabouts.Command.Program
import Whereabouts.Proofs.StoreFiles

/-!
# Stores that cannot be read

Every operation loads the store before it saves anything.  So a transaction that is
given up leaves the file alone, and a file with a text that is no database stays as
it is: whatever the program is asked to do, it fails and says why.
-/

namespace Whereabouts

variable {σ γ α β : Type}

/-!
## Failing at once
-/

namespace Attempt

/-- An attempt that comes through, from every state of a kind to one of that kind. -/
def Passes (stuck : σ -> Prop) (x : Attempt (StateM σ) α) : Prop :=
  forall s, stuck s -> exists a after, x.on s = (.ok a, after) ∧ stuck after

/-- An attempt that fails in one way, from every state of a kind to one of that
kind. -/
def Fails (stuck : σ -> Prop) (fault : Fault) (x : Attempt (StateM σ) α) : Prop :=
  forall s, stuck s -> exists after, x.on s = (.error fault, after) ∧ stuck after

variable {stuck : σ -> Prop} {fault : Fault}

theorem Fails.bind {x : Attempt (StateM σ) α} (hx : x.Fails stuck fault)
    (f : α -> Attempt (StateM σ) β) : (x >>= f).Fails stuck fault := by
  intro s hs
  rcases hx s hs with ⟨after, hon, hafter⟩
  exact ⟨after, on_bind_of_error hon, hafter⟩

theorem Passes.bind_fails {x : Attempt (StateM σ) α} {f : α -> Attempt (StateM σ) β}
    (hx : x.Passes stuck) (hf : forall a, (f a).Fails stuck fault) :
    (x >>= f).Fails stuck fault := by
  intro s hs
  rcases hx s hs with ⟨a, between, hon, hbetween⟩
  rcases hf a between hbetween with ⟨after, hfails, hafter⟩
  exact ⟨after, (on_bind_of_ok hon).trans hfails, hafter⟩

theorem passes_effect {action : StateM σ α}
    (h : forall s, stuck s -> stuck (action.run s).2) : (effect action).Passes stuck :=
  fun s hs => ⟨_, _, on_effect action s, h s hs⟩

theorem Fails.outcome {x : Attempt (StateM σ) α} (hx : x.Fails stuck fault) {s : σ}
    (hs : stuck s) : exists after, x.outcome.on s = (.ok (.error fault), after) ∧
      stuck after := by
  rcases hx s hs with ⟨after, hon, hafter⟩
  refine ⟨after, ?_, hafter⟩
  rw [on_outcome, hon]

end Attempt

/-!
## Transactions
-/

namespace Vault

variable {vault : Vault (StateM σ)} {stuck : σ -> Prop} {fault : Fault}

theorem transaction_of_load_error {s after : σ} (h : vault.load.on s = (.error fault, after))
    (change : Database -> Except Fault (α × Database)) :
    (vault.transaction change).on s = (.error fault, after) :=
  Attempt.on_bind_of_error h

theorem transaction_of_change_error {db : Database} {s after : σ}
    (h : vault.load.on s = (.ok db, after))
    {change : Database -> Except Fault (α × Database)} (hchange : change db = .error fault) :
    (vault.transaction change).on s = (.error fault, after) := by
  unfold transaction
  rw [Attempt.on_bind_of_ok h]
  simp only [hchange]
  rfl

theorem fails_transaction (h : vault.load.Fails stuck fault)
    (change : Database -> Except Fault (α × Database)) :
    (vault.transaction change).Fails stuck fault :=
  h.bind _

end Vault

/-!
## Operations on checks
-/

section Operations

variable {vault : Vault (StateM σ)} {clock : Clock (StateM σ)} {stuck : σ -> Prop}
  {fault : Fault}

structure Clock.Keeps (clock : Clock (StateM σ)) (stuck : σ -> Prop) : Prop where
  now : forall s, stuck s -> stuck (clock.now.run s).2
  newProcessId : forall s, stuck s -> stuck (clock.newProcessId.run s).2

namespace Check

theorem fails_start (hload : vault.load.Fails stuck fault) (hclock : clock.Keeps stuck)
    (projectId : Int64) (force : Bool) :
    (start vault clock projectId force).Fails stuck fault := by
  apply (Attempt.passes_effect hclock.newProcessId).bind_fails
  intro processId
  apply (Attempt.passes_effect hclock.now).bind_fails
  intro time
  exact Vault.fails_transaction hload _

theorem fails_updateRun (hload : vault.load.Fails stuck fault) (projectId : Int64)
    (update : Run -> Run) : (updateRun vault projectId update).Fails stuck fault :=
  Vault.fails_transaction hload _

theorem fails_complete (hload : vault.load.Fails stuck fault) (hclock : clock.Keeps stuck)
    (projectId : Int64) : (complete vault clock projectId).Fails stuck fault := by
  apply (Attempt.passes_effect hclock.now).bind_fails
  intro time
  exact fails_updateRun hload projectId _

theorem fails_updateTask (hload : vault.load.Fails stuck fault) (hclock : clock.Keeps stuck)
    (taskId : Int64) (status : TaskStatus) (message : String) :
    (updateTask vault clock taskId status message).Fails stuck fault := by
  apply (Attempt.passes_effect hclock.now).bind_fails
  intro time
  exact Vault.fails_transaction hload _

theorem fails_run? (hload : vault.load.Fails stuck fault) (projectId : Int64) :
    (run? vault projectId).Fails stuck fault :=
  hload.bind _

theorem fails_isRunning (hload : vault.load.Fails stuck fault) (projectId : Int64) :
    (isRunning vault projectId).Fails stuck fault :=
  (fails_run? hload projectId).bind _

theorem fails_summary? (hload : vault.load.Fails stuck fault) (projectId : Int64) :
    (summary? vault projectId).Fails stuck fault :=
  hload.bind _

end Check

theorem Session.fails_commit (hload : vault.load.Fails stuck fault) {session : Session}
    (staged : session.pending.isEmpty = false) :
    Attempt.Fails stuck fault
      (ExceptT.mk do return (<- session.commit vault).1 : Attempt (StateM σ) Nat) := by
  intro s hs
  rcases Vault.fails_transaction hload (fun db =>
    .ok (session.pending.present db, session.pending.apply db)) s hs with
    ⟨after, hon, hafter⟩
  refine ⟨after, ?_, hafter⟩
  have hcommit : (session.commit vault).run s =
      ((.error fault, { session with pending := .empty }), after) := by
    unfold commit
    rw [staged, if_neg Bool.false_ne_true]
    exact View.run_bind_of_eq hon
  exact View.run_bind_of_eq hcommit

theorem Checker.fails_conduct {checker : Checker (StateM σ)}
    (hload : checker.vault.load.Fails stuck fault) (projectId userId : Int64)
    (externalIds : OrderedMap String (Option String))
    (connect : String -> Attempt (StateM σ) (Storage (StateM σ))) :
    Attempt.Fails stuck fault
      (ExceptT.mk do return (<- checker.conduct projectId userId externalIds connect).1 :
        Attempt (StateM σ) CheckOutcome) := by
  intro s hs
  rcases Check.fails_run? hload projectId s hs with ⟨after, hon, hafter⟩
  refine ⟨after, ?_, hafter⟩
  have hconduct : (checker.conduct projectId userId externalIds connect).run s =
      ((.error fault, externalIds), after) := View.run_bind_of_eq hon
  exact View.run_bind_of_eq hconduct

end Operations

/-!
## Commands
-/

namespace Command

variable {host : Host (StateM σ)} {places : Places} {stuck : σ -> Prop} {fault : Fault}

theorem locate_bind (hplaces : host.places = .ok places) (f : Places -> Attempt (StateM σ) α) :
    (host.locate >>= f) = f places := by
  unfold Host.locate
  rw [hplaces]
  rfl

theorem fails_located (hplaces : host.places = .ok places)
    {command : Places -> Attempt (StateM σ) Report} (h : (command places).Fails stuck fault) :
    (host.locate >>= command).Fails stuck fault := by
  rw [locate_bind hplaces]
  exact h

/-- A command that works with the program's files does nothing when neither a variable nor
the account names a home directory for them. -/
theorem perform_homeless (hhome : Places.home? host.vars host.accountHome = none)
    (instruction : Instruction)
    (hstored : forall system path userId, instruction ≠ .index system path userId) (s : σ) :
    (Program.perform host instruction).on s = (.error .noHome, s) := by
  have hlocate : host.locate.on s = (.error .noHome, s) := by
    unfold Host.locate Host.places
    rw [hhome]
    rfl
  cases instruction with
  | index system path userId => exact absurd rfl (hstored system path userId)
  | startCheck projectId force => exact Attempt.on_bind_of_error hlocate
  | run projectId userId => exact Attempt.on_bind_of_error hlocate
  | check projectId userId => exact Attempt.on_bind_of_error hlocate
  | status projectId files => exact Attempt.on_bind_of_error hlocate
  | verify => exact Attempt.on_bind_of_error hlocate

theorem fails_startCheck (hload : (host.vault places).load.Fails stuck fault)
    (hclock : host.clock.Keeps stuck) (projectId : Int64) (force : Bool) :
    (startCheck (host.commandContext places) projectId force).Fails stuck fault :=
  (Check.fails_start hload hclock projectId force).bind _

theorem fails_run (hload : (host.vault places).load.Fails stuck fault)
    (hsettings : host.settings.Passes stuck) (projectId userId : Int64) :
    (run (host.commandContext places) projectId userId).Fails stuck fault := by
  apply hsettings.bind_fails
  intro settings
  exact (Check.fails_isRunning hload projectId).bind _

theorem fails_check (hload : (host.vault places).load.Fails stuck fault)
    (hclock : host.clock.Keeps stuck) (hsettings : host.settings.Passes stuck)
    (projectId userId : Int64) :
    (check (host.commandContext places) projectId userId).Fails stuck fault := by
  apply hsettings.bind_fails
  intro settings
  exact (Check.fails_start hload hclock projectId false).bind _

theorem fails_status (hload : (host.vault places).load.Fails stuck fault) (projectId : Int64)
    (files : Bool) : (status host places projectId files).Fails stuck fault :=
  (Check.fails_summary? hload projectId).bind _

theorem mem_issues_foldl (issue : String) (report : Report) (names : List String)
    (h : issue ∈ report.issues) :
    issue ∈ (names.foldl (fun report name =>
      report.withIssue ("unrecognized environment variable " ++ name)) report).issues := by
  induction names generalizing report with
  | nil => exact h
  | cons name names ih =>
      apply ih
      exact List.mem_append_left _ h

/-- Verifying comes through, and what is wrong with the store is an issue. -/
theorem verify_reports (hload : (host.vault places).load.Fails stuck fault)
    (hsettings : host.settings.Passes stuck) {s : σ} (hs : stuck s) :
    exists report after, (verify host places).on s = (.ok report, after) ∧ stuck after ∧
      "store unreadable: " ++ fault.message ∈ report.issues := by
  rcases hsettings s hs with ⟨settings, between, hon, hbetween⟩
  have hknown : (Attempt.outcome host.settings).on s = (.ok (.ok settings), between) := by
    rw [Attempt.on_outcome, hon]
  rcases hload.outcome hbetween with ⟨after, hsnapshot, hafter⟩
  change (Attempt.outcome (host.vault places).snapshot).on between = _ at hsnapshot
  rcases hon : (verify host places).on s with ⟨result, last⟩
  unfold verify at hon
  rw [Attempt.on_bind_of_ok hknown, Attempt.on_bind_of_ok hsnapshot] at hon
  cases hon
  refine ⟨_, after, rfl, hafter, ?_⟩
  apply mem_issues_foldl
  exact List.mem_append_right _ (List.mem_singleton_self _)

end Command

/-!
## Everything that can be asked for

The operations on the store and the commands, one after the other in any order.
-/

inductive Demand (σ : Type) where
  | start (projectId : Int64) (force : Bool)
  | updateRun (projectId : Int64) (update : Run -> Run)
  | complete (projectId : Int64)
  | updateTask (taskId : Int64) (status : TaskStatus) (message : String)
  | commit (session : Session) (staged : session.pending.isEmpty = false)
  | conduct (settings : Settings) (projectId userId : Int64)
      (externalIds : OrderedMap String (Option String))
      (connect : String -> Attempt (StateM σ) (Storage (StateM σ)))
  | perform (instruction : Instruction)
      (stored : forall system path userId, instruction ≠ .index system path userId)

namespace Demand

def silent (x : Attempt (StateM σ) α) : Attempt (StateM σ) (Option Report) := do
  let _ <- x
  return none

def reported (x : Attempt (StateM σ) Report) : Attempt (StateM σ) (Option Report) := do
  let report <- x
  return some report

/-- Does what is asked for; a command has a report. -/
def serve (host : Host (StateM σ)) (places : Places) :
    Demand σ -> Attempt (StateM σ) (Option Report)
  | start projectId force => silent (Check.start (host.vault places) host.clock projectId force)
  | updateRun projectId update => silent (Check.updateRun (host.vault places) projectId update)
  | complete projectId => silent (Check.complete (host.vault places) host.clock projectId)
  | updateTask taskId status message =>
      silent (Check.updateTask (host.vault places) host.clock taskId status message)
  | commit session _ =>
      silent (ExceptT.mk do return (<- session.commit (host.vault places)).1)
  | conduct settings projectId userId externalIds connect =>
      silent (ExceptT.mk do
        return (<- ((host.commandContext places).checker settings).conduct projectId userId
          externalIds connect).1)
  | perform instruction _ => reported (Program.perform host instruction)

def serveAll (host : Host (StateM σ)) (places : Places) :
    List (Demand σ) -> StateM σ (List (Except Fault (Option Report)))
  | [] => return []
  | demand :: rest => do
      let result <- (demand.serve host places).run
      return result :: (<- serveAll host places rest)

/-- A demand was refused because of the store: it failed with the fault, or it was
to verify the store and the fault is an issue of the report. -/
def Refused (fault : Fault) : Demand σ -> Except Fault (Option Report) -> Prop
  | perform .verify _, result => exists report, result = .ok (some report) ∧
      "store unreadable: " ++ fault.message ∈ report.issues
  | _, result => result = .error fault

variable {host : Host (StateM σ)} {places : Places} {stuck : σ -> Prop} {fault : Fault}

theorem refused_of_fails {demand : Demand σ} (h : (demand.serve host places).Fails stuck fault)
    (hrefused : demand.Refused fault (.error fault)) {s : σ} (hs : stuck s) :
    exists result after, (demand.serve host places).on s = (result, after) ∧
      demand.Refused fault result ∧ stuck after := by
  rcases h s hs with ⟨after, hon, hafter⟩
  exact ⟨_, after, hon, hrefused, hafter⟩

theorem fails_silent {x : Attempt (StateM σ) α} (h : x.Fails stuck fault) :
    (silent x).Fails stuck fault :=
  h.bind _

theorem fails_reported {x : Attempt (StateM σ) Report} (h : x.Fails stuck fault) :
    (reported x).Fails stuck fault :=
  h.bind _

theorem serve_refused (hplaces : host.places = .ok places)
    (hload : (host.vault places).load.Fails stuck fault)
    (hclock : host.clock.Keeps stuck) (hsettings : host.settings.Passes stuck)
    (demand : Demand σ) {s : σ} (hs : stuck s) :
    exists result after, (demand.serve host places).on s = (result, after) ∧
      demand.Refused fault result ∧ stuck after := by
  cases demand with
  | start projectId force =>
      refine refused_of_fails ?_ (by rfl) hs
      exact fails_silent (Check.fails_start hload hclock projectId force)
  | updateRun projectId update =>
      refine refused_of_fails ?_ (by rfl) hs
      exact fails_silent (Check.fails_updateRun hload projectId update)
  | complete projectId =>
      refine refused_of_fails ?_ (by rfl) hs
      exact fails_silent (Check.fails_complete hload hclock projectId)
  | updateTask taskId status message =>
      refine refused_of_fails ?_ (by rfl) hs
      exact fails_silent (Check.fails_updateTask hload hclock taskId status message)
  | commit session staged =>
      refine refused_of_fails ?_ (by rfl) hs
      exact fails_silent (Session.fails_commit hload staged)
  | conduct settings projectId userId externalIds connect =>
      have hchecker :
          ((host.commandContext places).checker settings).vault.load.Fails stuck fault := hload
      refine refused_of_fails ?_ (by rfl) hs
      exact fails_silent (Checker.fails_conduct hchecker projectId userId externalIds connect)
  | perform instruction stored =>
      cases instruction with
      | startCheck projectId force =>
          refine refused_of_fails ?_ (by rfl) hs
          exact fails_reported (Command.fails_located hplaces
            (Command.fails_startCheck hload hclock projectId force))
      | run projectId userId =>
          refine refused_of_fails ?_ (by rfl) hs
          exact fails_reported (Command.fails_located hplaces
            (Command.fails_run hload hsettings projectId userId))
      | check projectId userId =>
          refine refused_of_fails ?_ (by rfl) hs
          exact fails_reported (Command.fails_located hplaces
            (Command.fails_check hload hclock hsettings projectId userId))
      | status projectId files =>
          refine refused_of_fails ?_ (by rfl) hs
          exact fails_reported (Command.fails_located hplaces
            (Command.fails_status hload projectId files))
      | index system path userId => exact absurd rfl (stored system path userId)
      | verify =>
          rcases Command.verify_reports hload hsettings hs with
            ⟨report, after, hon, hafter, hissue⟩
          have hperform : (Program.perform host .verify).on s = (.ok report, after) := by
            rw [show Program.perform host .verify = Command.verify host places from
              Command.locate_bind hplaces _]
            exact hon
          have hserve : (serve host places (perform .verify stored)).on s =
              (.ok (some report), after) := Attempt.on_bind_of_ok hperform
          exact ⟨_, after, hserve, ⟨report, rfl, hissue⟩, hafter⟩

/-- However many demands come, every one is refused. -/
theorem serveAll_refused (hplaces : host.places = .ok places)
    (hload : (host.vault places).load.Fails stuck fault)
    (hclock : host.clock.Keeps stuck) (hsettings : host.settings.Passes stuck)
    (demands : List (Demand σ)) {s : σ} (hs : stuck s) :
    exists results after, (serveAll host places demands).run s = (results, after) ∧
      List.Forall₂ (Refused fault) demands results ∧ stuck after := by
  induction demands generalizing s with
  | nil => exact ⟨[], s, rfl, .nil, hs⟩
  | cons demand rest ih =>
      rcases serve_refused hplaces hload hclock hsettings demand hs with
        ⟨result, between, hon, hrefused, hbetween⟩
      rcases ih hbetween with ⟨results, after, hrest, hall, hafter⟩
      refine ⟨result :: results, after, ?_, .cons hrefused hall, hafter⟩
      unfold serveAll
      rw [View.run_bind_of_eq hon, View.run_bind_of_eq hrest]
      rfl

end Demand
/-!
## Store files
-/

def Places.store (places : Places) : StoreFile :=
  .ofPath places.storeFile

def StoreFile.corrupt (file : StoreFile) : Fault :=
  .corruptStore file.path "it is no database document"

namespace StoreFile

variable {file : StoreFile} {disk : Disk (StateM σ)} {content : σ -> Option ByteArray}

theorem Spared.settings {told : σ -> γ} (h : file.Spared disk told) (vars : Variables)
    (accountHome : Option String) : Spares told (Settings.load disk vars accountHome).run := by
  apply Spares.except_bind
  · unfold Settings.loadFile
    split
    · exact Spares.pure _
    apply Spares.except_bind (Spares.lift (h.pathExists _))
    intro there
    cases there with
    | false => exact Spares.pure _
    | true =>
        apply Spares.except_bind (h.read _).ofFiling
        intro text
        split
        · exact Spares.pure _
        · exact Spares.pure _
  · intro base
    exact Spares.pure _

theorem Kept.fails_load (h : file.Kept disk content) {told : σ -> γ}
    (hspared : file.Spared disk told) {known : γ} {text : String}
    (hdocument : Database.ofDocument? text = none)
    (hcontent : forall s, told s = known -> content s = some text.toUTF8)
    (hlock : forall s, told s = known ->
      exists opened, (file.openLock disk).on s = (.ok (), opened)) :
    (file.vault disk).load.Fails (fun s => told s = known) file.corrupt := by
  intro s hs
  rcases hlock s hs with ⟨opened, hopen⟩
  have hresult := h.load_text hopen (hcontent s hs)
  rw [hdocument] at hresult
  rcases hon : (file.load disk).on s with ⟨result, loaded⟩
  rw [hon] at hresult
  cases hresult
  exact ⟨loaded, hon, (hspared.load.of_on hon).trans hs⟩

/-- A transaction that could not read the file, or whose change was given up, leaves the
file alone. -/
theorem Kept.transaction_error (h : file.Kept disk content)
    (change : Database -> Except Fault (α × Database)) {s loaded : σ} {fault : Fault}
    (hfault : (file.vault disk).load.on s = (.error fault, loaded) ∨
      exists db, (file.vault disk).load.on s = (.ok db, loaded) ∧ change db = .error fault) :
    ((file.vault disk).transaction change).on s = (.error fault, loaded) ∧
      content loaded = content s := by
  rcases hfault with hload | ⟨db, hload, hchange⟩
  · exact ⟨Vault.transaction_of_load_error hload change, h.load.of_on hload⟩
  · exact ⟨Vault.transaction_of_change_error hload hchange, h.load.of_on hload⟩

end StoreFile

/-!
## A host in memory
-/

namespace Folder

/-- A host with its files in one directory and nobody to talk to. -/
def host : Host (StateM Folder) where
  disk := disk
  clock := { now := pure default, newProcessId := pure "process" }
  peer := { send := fun _ => pure .dropped, pause := fun _ => pure () }
  vars := .ofList
    [("LOCSYNC_CONFIG_PATH", "locsync.toml"), ("LOCSYNC_STORE_FILE", "store.json")]
  depth := 4
  accountHome := some "home"

def places : Places :=
  .ofVariables host.vars "home/.locsync"

theorem pathExists_of_missing {path : String} {folder : Folder}
    (h : folder.get? path = none) : (disk.pathExists path).run folder = (false, folder) := by
  have hinspect : (disk.inspect path).run.run folder = (.error .missing, folder) := by
    show ((folder.read path).map _, folder) = _
    rw [read, h]
    rfl
  unfold Disk.pathExists
  exact View.run_bind_of_eq hinspect

theorem settings_of_missing {folder : Folder} (h : folder.get? "locsync.toml" = none) :
    host.settings.on folder = (.ok (Settings.standard.override host.vars), folder) := by
  have hexists : (Attempt.effect (disk.pathExists "locsync.toml")).on folder =
      (.ok false, folder) := by
    rw [Attempt.on_effect, pathExists_of_missing h]
  have hfile : (Settings.loadFile disk (some "locsync.toml")).on folder =
      (.ok .standard, folder) := by
    unfold Settings.loadFile
    rw [Attempt.on_bind_of_ok hexists]
    rfl
  unfold Host.settings Settings.load
  exact Attempt.on_bind_of_ok hfile

/-- A directory with a store file that somebody spoiled. -/
def broken : Folder :=
  .ofList [("store.json", "\x7bnot json")]

def demands : List (Demand Folder) :=
  [.perform (.startCheck 1 true) (fun _ _ _ => Instruction.noConfusion), .complete 1,
    .perform .verify (fun _ _ _ => Instruction.noConfusion)]

end Folder

/-!
## Nothing is written over
-/

/-- No request writes over a store that is not understood.  A transaction that fails
before it saves leaves the file byte for byte as it was.  While the file holds a text
that is no database and the configuration is valid, every operation and every command is
refused, in whatever order they come, and the file stays the same. -/
theorem unread_store_kept {host : Host (StateM σ)} {places : Places}
    {content : σ -> Option ByteArray} {config : σ -> γ} (hplaces : host.places = .ok places)
    (hkept : places.store.Kept host.disk content)
    (hconfig : places.store.Spared host.disk config)
    (hnow : Spares (fun s => (content s, config s)) host.clock.now)
    (hprocessId : Spares (fun s => (content s, config s)) host.clock.newProcessId) :
    (forall {α : Type} (change : Database -> Except Fault (α × Database)) s loaded fault,
      ((host.vault places).load.on s = (.error fault, loaded) ∨
        exists db, (host.vault places).load.on s = (.ok db, loaded) ∧ change db = .error fault) ->
      ((host.vault places).transaction change).on s = (.error fault, loaded) ∧
        content loaded = content s) ∧
    forall text valid, Text.isBlankText text = false ->
      (Json.parse? text.toList).bind Database.ofJson? = none ->
      (forall s, content s = some text.toUTF8 -> config s = valid ->
        (exists opened, (places.store.openLock host.disk).on s = (.ok (), opened)) ∧
          exists settings after, host.settings.on s = (.ok settings, after)) ->
      forall (demands : List (Demand σ)) s, content s = some text.toUTF8 ->
        config s = valid ->
        exists results after, (Demand.serveAll host places demands).run s = (results, after) ∧
          List.Forall₂ (Demand.Refused places.store.corrupt) demands results ∧
          content after = content s := by
  have hspared := hkept.toSpared.pair hconfig
  refine ⟨fun change s loaded fault hfault => hkept.transaction_error change hfault, ?_⟩
  intro text valid hblank hparse hready demands s hcontent hvalid
  have hdocument : Database.ofDocument? text = none := by
    unfold Database.ofDocument?
    rw [hblank, if_neg Bool.false_ne_true]
    exact hparse
  have hknown : forall s, (content s, config s) = (some text.toUTF8, valid) ->
      content s = some text.toUTF8 ∧ config s = valid := fun s hs => Prod.mk.inj hs
  have hload := hkept.fails_load hspared hdocument (fun s hs => (hknown s hs).1)
    fun s hs => (hready s (hknown s hs).1 (hknown s hs).2).1
  have hsettings : host.settings.Passes
      fun s => (content s, config s) = (some text.toUTF8, valid) := by
    intro s hs
    rcases (hready s (hknown s hs).1 (hknown s hs).2).2 with ⟨settings, after, hon⟩
    exact ⟨settings, after, hon, ((hspared.settings host.vars host.accountHome).of_on hon).trans hs⟩
  have hclock : host.clock.Keeps
      fun s => (content s, config s) = (some text.toUTF8, valid) :=
    ⟨fun s hs => (hnow s).trans hs, fun s hs => (hprocessId s).trans hs⟩
  rcases Demand.serveAll_refused hplaces hload hclock hsettings demands
      (Prod.ext hcontent hvalid : (content s, config s) = (some text.toUTF8, valid)) with
    ⟨results, after, hserve, hrefused, hafter⟩
  exact ⟨results, after, hserve, hrefused, (hknown after hafter).1.trans hcontent.symm⟩

theorem unread_store_kept_broken :
    exists results after,
      (Demand.serveAll Folder.host Folder.places Folder.demands).run Folder.broken =
          (results, after) ∧
        List.Forall₂ (Demand.Refused Folder.store.corrupt) Folder.demands results ∧
        Folder.bytes "store.json" after = Folder.bytes "store.json" Folder.broken := by
  have hkept : Folder.places.store.Kept Folder.host.disk (Folder.bytes "store.json") :=
    Folder.store_kept
  have hconfig : Folder.places.store.Spared Folder.host.disk
      (Folder.bytes "locsync.toml") := Folder.spared (by decide)
  have hplaces : Folder.host.places = .ok Folder.places := rfl
  refine (unread_store_kept hplaces hkept hconfig (fun _ => rfl) (fun _ => rfl)).2
    "\x7bnot json" none rfl rfl ?_ Folder.demands Folder.broken rfl rfl
  intro folder _ hmissing
  have hsettings := Folder.settings_of_missing (Option.map_eq_none_iff.mp hmissing)
  exact ⟨⟨_, rfl⟩, _, _, hsettings⟩

end Whereabouts
