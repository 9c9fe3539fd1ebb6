import Whereabouts.Settings.Basic

/-!
# Valid settings

The conditions that settings must meet, in the order in which they are checked.
-/

namespace Whereabouts
namespace Settings

inductive Problem where
  | batchSize
  | publicSystems
  | publishedSystem
  | publishedRootTemplate
  | projectSystemStart
  | errorLimit
  | timeout
  | pageSize
  | localRoot
  deriving DecidableEq, Inhabited

def Problem.message : Problem -> String
  | batchSize => "invalid batch size: must be >= 1"
  | publicSystems => "invalid public systems: at least one is required"
  | publishedSystem => "invalid published system: cannot be empty"
  | publishedRootTemplate =>
      "invalid published root template: must contain `\x7bproject_id\x7d`"
  | projectSystemStart => "invalid project system prefix: cannot be empty"
  | errorLimit => "invalid error truncation: must be >= 1 char"
  | timeout => "invalid request timeout: must be >= 1 second"
  | pageSize => "invalid listing page size: must be >= 1"
  | localRoot =>
      "local storage backend requires `local_root` (or LOCSYNC_LOCAL_ROOT)"

/-- Every condition with the problem that its failure is. -/
def conditions (settings : Settings) : List (Bool × Problem) :=
  let engine := settings.engine
  let storage := settings.storage
  [(engine.batchSize != 0, .batchSize),
    (!engine.publicSystems.isEmpty, .publicSystems),
    (!Text.isBlankText engine.publishedSystem, .publishedSystem),
    (Text.occursIn EngineSettings.projectMark engine.publishedRootTemplate.toList,
      .publishedRootTemplate),
    (!Text.isBlankText engine.projectSystemStart, .projectSystemStart),
    (engine.itemErrorLimit != 0 && engine.runErrorLimit != 0, .errorLimit),
    (storage.timeoutSeconds != 0, .timeout),
    (storage.pageSize != 0, .pageSize),
    (storage.backend != .local || storage.localRoot.isSome, .localRoot)]

/-- The first condition that fails. -/
def problem? (settings : Settings) : Option Problem :=
  (settings.conditions.find? fun condition => !condition.1).map Prod.snd

end Settings
end Whereabouts
