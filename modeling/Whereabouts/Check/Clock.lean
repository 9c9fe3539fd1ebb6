import Whereabouts.Instant.Basic

/-!
# Clocks
-/

namespace Whereabouts

/-- What a process is told by its surroundings: the time, and names for itself
that are never repeated. -/
structure Clock (m : Type -> Type) where
  now : m Instant
  newProcessId : m String

end Whereabouts
