import Vcompany.Foundation.Text

/-! # Supervised children

The lifecycle states that a child reports, and the specification by which a supervisor
starts and restarts it.
-/

namespace Vcompany.Supervisor

open Foundation

/-- The state of a child's lifecycle. -/
inductive ContainerState where
  | creating
  | running
  | sleeping
  | blocked
  | stopping
  | errored
  | stopped
  | destroyed
  deriving DecidableEq, Repr

inductive RestartPolicy where
  | permanent
  | temporary
  | transient
  deriving DecidableEq, Repr

inductive RestartStrategy where
  | oneForOne
  | allForOne
  | restForOne
  deriving DecidableEq, Repr

structure ChildSpec where
  childId : Text
  restartPolicy : RestartPolicy := .permanent
  deriving DecidableEq

end Vcompany.Supervisor
