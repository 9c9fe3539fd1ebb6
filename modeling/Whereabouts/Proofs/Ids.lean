import Whereabouts.Proofs.Documents
import Whereabouts.Proofs.Starts

/-!
# Ids

Tasks and runs get their ids from the database.  Whatever is done to it between two of
them (rows are deleted, put under any key, saved and read back), as long as there is room
for more, the later one is above every id that was handed out before and above every row
that is there.
-/

namespace Whereabouts

/-!
## Registers
-/

/-- The tables that hand out ids. -/
inductive Register where
  | tasks
  | runs
  deriving DecidableEq

def Register.name : Register -> String
  | tasks => "tasks"
  | runs => "runs"

inductive Row where
  | task (row : Task)
  | run (row : Run)
  deriving DecidableEq

namespace Row

def register : Row -> Register
  | .task _ => .tasks
  | .run _ => .runs

def withId (id : Int64) : Row -> Row
  | .task row => .task { row with id }
  | .run row => .run { row with id }

end Row

namespace Database

def row? (db : Database) (register : Register) (key : Int64) : Option Row :=
  match register with
  | .tasks => (db.tasks.get? key).map .task
  | .runs => (db.runs.get? key).map .run

/-- The database with a new row, and the id that it got. -/
def enter (db : Database) : Row -> Int64 × Database
  | .task row => db.insertTask row
  | .run row => db.insertRun row

def put (db : Database) (key : Int64) : Row -> Database
  | .task row => { db with tasks := db.tasks.insert key row }
  | .run row => { db with runs := db.runs.insert key row }

def remove (db : Database) (key : Int64) : Register -> Database
  | .tasks => { db with tasks := db.tasks.erase key }
  | .runs => { db with runs := db.runs.erase key }

/-!
## Histories
-/

/-- A change of a database, and the id that it handed out, if it did. -/
inductive Edited (db : Database) : Option (Register × Int64) -> Database -> Prop
  | entered (row : Row) : Edited db (some (row.register, (db.enter row).1)) (db.enter row).2
  | put (key : Int64) (row : Row) : Edited db none (db.put key row)
  | removed (key : Int64) (register : Register) : Edited db none (db.remove key register)
  /-- Whatever happens to the tables that do not hand out ids. -/
  | elsewhere {after : Database} (htasks : after.tasks = db.tasks) (hruns : after.runs = db.runs)
      (hsequences : after.sequences = db.sequences) : Edited db none after
  | reloaded {after : Database} (h : ofDocument? db.document = some after) : Edited db none after

/-- Changes from a first database to a last one, with room for more before each of them,
and the ids that they handed out, the latest first. -/
inductive Edits (origin : Database) : List (Register × Int64) -> Database -> Prop
  | nil : Edits origin [] origin
  | snoc {issued : List (Register × Int64)} {issue : Option (Register × Int64)}
      {db after : Database} (earlier : Edits origin issued db) (hremain : db.IdsRemain)
      (edit : db.Edited issue after) : Edits origin (issue.toList ++ issued) after

/-!
## New rows
-/

theorem Register.name_injective {register other : Register} (h : register.name = other.name) :
    register = other := by
  cases register <;> cases other <;> first | rfl | exact absurd h (by decide)

theorem sequences_enter (db : Database) (row : Row) :
    (db.enter row).2.sequences = db.sequences.insert row.register.name (db.enter row).1 := by
  cases row <;> rfl

variable {db : Database}

theorem IdsRemain.lt_enter (h : db.IdsRemain) {row : Row} {key : Int64} {other : Row}
    (hother : db.row? row.register key = some other) : key < (db.enter row).1 := by
  cases row with
  | task row =>
      rcases Option.map_eq_some_iff.mp hother with ⟨old, hold, _⟩
      exact lt_nextId h.tasks hold
  | run row =>
      rcases Option.map_eq_some_iff.mp hother with ⟨old, hold, _⟩
      exact lt_nextId h.runs hold

theorem IdsRemain.last_lt_enter (h : db.IdsRemain) {row : Row} {last : Int64}
    (hlast : db.sequences.get? row.register.name = some last) : last < (db.enter row).1 := by
  cases row with
  | task row => exact last_lt_nextId h.tasks hlast
  | run row => exact last_lt_nextId h.runs hlast

theorem row?_enter_self (db : Database) (row : Row) :
    (db.enter row).2.row? row.register (db.enter row).1 =
      some (row.withId (db.enter row).1) := by
  cases row with
  | task row => exact congrArg (Option.map Row.task) (OrderedMap.get?_insert_self _ _ _)
  | run row => exact congrArg (Option.map Row.run) (OrderedMap.get?_insert_self _ _ _)

theorem row?_enter_of_ne {row : Row} {register : Register} {key : Int64}
    (h : register = row.register -> key ≠ (db.enter row).1) :
    (db.enter row).2.row? register key = db.row? register key := by
  cases row with
  | task row =>
      cases register with
      | tasks => exact congrArg (Option.map Row.task) (OrderedMap.get?_insert_of_ne _ _ (h rfl))
      | runs => rfl
  | run row =>
      cases register with
      | tasks => rfl
      | runs => exact congrArg (Option.map Row.run) (OrderedMap.get?_insert_of_ne _ _ (h rfl))

theorem Edited.sequences_eq {after : Database} (h : db.Edited none after) :
    after.sequences = db.sequences := by
  cases h with
  | put key row => cases row <;> rfl
  | removed key register => cases register <;> rfl
  | elsewhere _ _ hsequences => exact hsequences
  | reloaded h =>
      rw [ofDocument?_document] at h
      cases h
      rfl

theorem Edits.le_last {origin : Database} {issued : List (Register × Int64)}
    (h : Edits origin issued db) {register : Register} {id : Int64}
    (hid : (register, id) ∈ issued) :
    exists last, db.sequences.get? register.name = some last ∧ id ≤ last := by
  -- Only a new id changes what is remembered, and it is above what was remembered before.
  induction h with
  | nil => cases hid
  | @snoc issued issue db after earlier hremain edit ih =>
      cases issue with
      | none =>
          rw [edit.sequences_eq]
          exact ih hid
      | some issue =>
          cases edit with
          | entered row =>
              rw [sequences_enter]
              by_cases hregister : register = row.register
              · subst hregister
                rw [OrderedMap.get?_insert_self]
                refine ⟨_, rfl, ?_⟩
                rcases List.mem_cons.mp hid with hnew | hold
                · cases hnew
                  exact Int64.le_refl _
                · rcases ih hold with ⟨last, hlast, hle⟩
                  exact Int64.le_of_lt (Int64.lt_of_le_of_lt hle (hremain.last_lt_enter hlast))
              · have hname : register.name ≠ row.register.name :=
                  fun h => hregister (Register.name_injective h)
                rw [OrderedMap.get?_insert_of_ne _ _ hname]
                rcases List.mem_cons.mp hid with hnew | hold
                · cases hnew
                  exact absurd rfl hregister
                · exact ih hold

/-- A row that gets a new id in a database which has handed out others. -/
structure Issues (db : Database) (issued : List (Register × Int64)) (row : Row) (id : Int64)
    (after : Database) : Prop where
  later : forall earlier, (row.register, earlier) ∈ issued -> earlier < id
  above : forall key other, db.row? row.register key = some other -> key < id
  vacant : db.row? row.register id = none
  stored : after.row? row.register id = some (row.withId id)
  kept : forall register key, (register = row.register -> key ≠ id) ->
    after.row? register key = db.row? register key
  sequence : forall name, name ≠ row.register.name ->
    after.sequences.get? name = db.sequences.get? name
  rest : after = { db with
    tasks := after.tasks, runs := after.runs, sequences := after.sequences }

/-- An id that is handed out is above all that were handed out before and above all rows
that are there, whatever was done to the database in between. -/
theorem Edits.issues {origin : Database} {issued : List (Register × Int64)}
    (h : Edits origin issued db) (hremain : db.IdsRemain) (row : Row) :
    db.Issues issued row (db.enter row).1 (db.enter row).2 where
  later := by
    intro earlier hearlier
    rcases h.le_last hearlier with ⟨last, hlast, hle⟩
    exact Int64.lt_of_le_of_lt hle (hremain.last_lt_enter hlast)
  above := fun _ _ hother => hremain.lt_enter hother
  vacant := by
    refine Option.eq_none_iff_forall_ne_some.mpr fun other hother => ?_
    exact Int64.lt_irrefl (hremain.lt_enter hother)
  stored := db.row?_enter_self row
  kept := fun _ _ hne => row?_enter_of_ne hne
  sequence := by
    intro name hname
    rw [sequences_enter, OrderedMap.get?_insert_of_ne _ _ hname]
  rest := by cases row <;> rfl

end Database

/-!
## A sample

A database that was written by hand: there is a negative key, and no id is remembered for
tasks.
-/

namespace Sample

def taskRow : Row :=
  .task (Database.queuedTask 1 "process" time)

def handwritten : Database :=
  { Database.fresh with
    tasks := .ofList
      [(-5, Database.queuedTask 1 "process" time), (3, Database.queuedTask 1 "process" time)]
    runs := .ofList [(2, Database.startedRun 1 3 time)]
    sequences := .ofList [("runs", 10)] }

/-- After a task was entered and removed, another one was put under a greater key, and
all was saved and read back. -/
def revised : Database :=
  ((handwritten.enter taskRow).2.remove 4 .tasks).put 7 taskRow

theorem revised_edits : Database.Edits handwritten [(.tasks, 4)] revised :=
  .snoc (.snoc (.snoc (.snoc .nil (by decide) (.entered taskRow)) (by decide) (.removed 4 .tasks))
    (by decide) (.put 7 taskRow)) (by decide) (.reloaded (Database.ofDocument?_document revised))

end Sample

theorem edits_issue_sample :
    Sample.revised.Issues [(.tasks, 4)] Sample.taskRow 8
      (Sample.revised.enter Sample.taskRow).2 := by
  have hremain : Sample.revised.IdsRemain := by decide
  exact Sample.revised_edits.issues hremain Sample.taskRow

end Whereabouts
