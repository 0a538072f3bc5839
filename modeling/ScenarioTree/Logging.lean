/-!
# Logging

Which events of a process are shown. One receiver of events can be installed for the whole process,
and it stays.
-/

namespace ScenarioTree

/-- What receives the events of a process: nothing yet, or what passes a filter. -/
inductive EventReceiver where
  | absent
  | installed (filter : String)

namespace EventReceiver

/-- The filter for processes that ask for no other one: conflicts show, details do not. -/
def defaultFilter : String := "info"

/-- Installs a receiver. This fails where there is one already. -/
def install? (receiver : EventReceiver) (filter : Option String) : Option EventReceiver :=
  match receiver with
  | absent => some (installed (filter.getD defaultFilter))
  | installed _ => none

end EventReceiver

end ScenarioTree
