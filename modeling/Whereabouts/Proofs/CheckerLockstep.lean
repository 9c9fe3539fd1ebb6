import Whereabouts.Proofs.Lockstep

/-!
# Checkers in lockstep

What a check does besides its passes it does with the vault, the clock and the trail.
Checkers whose parts are related are related in all of it.
-/

namespace Whereabouts
namespace Lockstep

variable {m n : Type -> Type} [Monad m] [Monad n] {L : Lockstep m n} {α β ε : Type}

/-!
## Attempts
-/

theorem rel_except_bind {x : ExceptT ε m α} {y : ExceptT ε n α} {f : α -> ExceptT ε m β}
    {g : α -> ExceptT ε n β} (hx : L.Rel x.run y.run)
    (hf : forall a, L.Rel (f a).run (g a).run) : L.Rel (x >>= f).run (y >>= g).run := by
  apply L.rel_bind hx
  intro result
  cases result with
  | error e => exact L.rel_pure _
  | ok a => exact hf a

theorem rel_within {x : Attempt m α} {y : Attempt n α} (context : String)
    (h : L.Rel x.run y.run) : L.Rel (x.within context).run (y.within context).run := by
  apply L.rel_bind h
  intro result
  cases result <;> exact L.rel_pure _

/-!
## Checkers
-/

/-- Checkers whose parts are related and whose rules are the same. -/
structure Checkers (L : Lockstep m n) (checker : Checker m) (other : Checker n) : Prop where
  load : L.Rel checker.vault.load.run other.vault.load.run
  save : forall db, L.Rel (checker.vault.save db).run (other.vault.save db).run
  now : L.Rel checker.clock.now other.clock.now
  append : forall event, L.Rel (checker.trail.append event).run (other.trail.append event).run
  engine : other.engine = checker.engine
  depth : other.depth = checker.depth

namespace Checkers

variable {checker : Checker m} {other : Checker n}

theorem transaction (h : L.Checkers checker other)
    (change : Database -> Except Fault (α × Database)) :
    L.Rel (checker.vault.transaction change).run (other.vault.transaction change).run := by
  apply rel_except_bind h.load
  intro db
  cases change db with
  | error fault => exact L.rel_pure _
  | ok changed => exact rel_except_bind (h.save changed.2) fun _ => L.rel_pure _

theorem run? (h : L.Checkers checker other) (projectId : Int64) :
    L.Rel (Check.run? checker.vault projectId).run (Check.run? other.vault projectId).run :=
  rel_except_bind h.load fun _ => L.rel_pure _

theorem readSetup (h : L.Checkers checker other) (projectId userId : Int64) :
    L.Rel (checker.readSetup projectId userId).run (other.readSetup projectId userId).run :=
  rel_except_bind h.load fun _ => L.rel_pure _

theorem database (h : L.Checkers checker other) (session : Session) :
    L.Rel (session.database checker.vault).run (session.database other.vault).run := by
  unfold Session.database
  cases session.loaded with
  | some db => exact L.rel_pure _
  | none => exact rel_except_bind h.load fun _ => L.rel_pure _

theorem fetch (h : L.Checkers checker other) (session : Session) (key : ItemKey) :
    L.Rel (checker.fetch session key) (other.fetch session key) := by
  unfold Checker.fetch
  cases key.kind with
  | asset | tileServer =>
      apply L.rel_bind (rel_except_bind (h.database session) fun _ => L.rel_pure _)
      intro result
      rcases result with fault | ⟨found, next⟩
      · exact L.rel_pure _
      · cases found <;> exact L.rel_pure _

theorem failurePath (h : L.Checkers checker other) (session : Session) (key : ItemKey) :
    L.Rel (checker.failurePath session key) (other.failurePath session key) := by
  apply L.rel_bind (h.database session)
  intro result
  cases result <;> exact L.rel_pure _

theorem commit (h : L.Checkers checker other) (session : Session) :
    L.Rel (session.commit checker.vault) (session.commit other.vault) := by
  unfold Session.commit
  split
  · exact L.rel_pure _
  · apply L.rel_bind (h.transaction _)
    intro written
    cases written <;> exact L.rel_pure _

end Checkers

/-!
Operations that cannot fail are lifted to attempts that may.
-/

variable [LawfulMonad m] [LawfulMonad n]

theorem rel_map {x : m α} {y : n α} (f : α -> β) (h : L.Rel x y) :
    L.Rel (f <$> x) (f <$> y) := by
  rw [map_eq_pure_bind, map_eq_pure_bind]
  exact L.rel_bind h fun _ => L.rel_pure _

theorem rel_effect {x : m α} {y : n α} (h : L.Rel x y) :
    L.Rel (Attempt.effect x).run (Attempt.effect y).run :=
  rel_map _ h

theorem rel_outcome {x : Attempt m α} {y : Attempt n α} (h : L.Rel x.run y.run) :
    L.Rel x.outcome.run y.outcome.run :=
  rel_map _ h

namespace Checkers

variable {checker : Checker m} {other : Checker n}

theorem updateTask (h : L.Checkers checker other) (taskId : Int64) (status : TaskStatus)
    (message : String) :
    L.Rel (Check.updateTask checker.vault checker.clock taskId status message).run
      (Check.updateTask other.vault other.clock taskId status message).run :=
  rel_except_bind (rel_effect h.now) fun _ => h.transaction _

theorem complete (h : L.Checkers checker other) (projectId : Int64) :
    L.Rel (Check.complete checker.vault checker.clock projectId).run
      (Check.complete other.vault other.clock projectId).run :=
  rel_except_bind (rel_effect h.now) fun _ => h.transaction _

theorem publish (h : L.Checkers checker other) (setup : Setup) (sweep : Sweep) :
    L.Rel (checker.publish setup sweep).run (other.publish setup sweep).run := by
  apply rel_except_bind (h.transaction _)
  intro _
  cases setup.run.taskId with
  | none => exact L.rel_pure _
  | some taskId => exact h.updateTask taskId _ _

theorem closeBatch (h : L.Checkers checker other) (setup : Setup) (sweep : Sweep) :
    L.Rel (checker.closeBatch setup sweep) (other.closeBatch setup sweep) := by
  apply L.rel_bind (h.commit sweep.session)
  intro out
  rcases out with ⟨committed, session⟩
  cases committed with
  | error fault => exact L.rel_pure _
  | ok count => exact L.rel_bind (h.publish setup _) fun _ => L.rel_pure _

theorem announce (h : L.Checkers checker other) (setup : Setup) :
    L.Rel (checker.announce setup).run (other.announce setup).run := by
  apply rel_except_bind (h.transaction _)
  intro _
  cases setup.run.taskId with
  | none => exact h.append _
  | some taskId => exact rel_except_bind (h.updateTask taskId _ _) fun _ => h.append _

theorem proclaim (h : L.Checkers checker other) (projectId : Int64) (run : Run) (failed : UInt64)
    (message : String) :
    L.Rel (checker.proclaim projectId run failed message).run
      (other.proclaim projectId run failed message).run := by
  have hlast : forall event : AuditEvent,
      L.Rel (do
        let _ <- Attempt.outcome (checker.trail.append event)
        return () : Attempt m Unit).run (do
        let _ <- Attempt.outcome (other.trail.append event)
        return () : Attempt n Unit).run :=
    fun event => rel_except_bind (rel_outcome (h.append event)) fun _ => L.rel_pure _
  unfold Checker.proclaim
  cases run.taskId with
  | none => exact hlast _
  | some taskId =>
      exact rel_except_bind (rel_outcome (h.updateTask taskId _ message)) fun _ => hlast _

theorem finish (h : L.Checkers checker other) (setup : Setup) (sweep : Sweep) :
    L.Rel (checker.finish setup sweep).run (other.finish setup sweep).run := by
  apply rel_except_bind (L.rel_bind (h.commit sweep.session) fun _ => L.rel_pure _)
  intro _
  apply rel_except_bind (rel_effect h.now)
  intro time
  apply rel_except_bind (h.transaction _)
  intro run
  exact rel_except_bind (h.proclaim _ run _ _) fun _ => L.rel_pure _

theorem persistFailure (h : L.Checkers checker other) (projectId : Int64) (run : Option Run)
    (message : String) :
    L.Rel (checker.persistFailure projectId run message).run
      (other.persistFailure projectId run message).run := by
  cases run with
  | none => exact L.rel_pure _
  | some run =>
      apply rel_within
      apply rel_except_bind (h.complete projectId)
      intro updated
      cases run.taskId with
      | none => exact L.rel_pure _
      | some taskId =>
          exact rel_except_bind (h.updateTask taskId _ message) fun _ => L.rel_pure _

theorem fail (h : L.Checkers checker other) (projectId : Int64) (run : Option Run)
    (fault : Fault) :
    L.Rel (checker.fail projectId run fault).run (other.fail projectId run fault).run := by
  unfold Checker.fail
  rw [h.engine]
  apply rel_except_bind (h.persistFailure projectId run _)
  intro persisted
  exact rel_except_bind (rel_outcome (h.append _)) fun _ => L.rel_pure _

end Checkers
end Lockstep
end Whereabouts
