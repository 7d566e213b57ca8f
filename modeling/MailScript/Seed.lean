import MailScript.Event
import MailScript.Variables

/-! # Variables with a report of their assignments -/

namespace MailScript

/-- Variables, and the events of the assignments that led to them. -/
structure Seed where
  store : Variables
  events : List Event

namespace Seed

def empty : Seed := ⟨.empty, []⟩

def set (seed : Seed) (binding : Binding) : Seed :=
  ⟨seed.store.set binding.1 binding.2, seed.events ++ [Event.variableSet binding.1 binding.2]⟩

/-- Assign several names one after another. -/
def setAll (seed : Seed) (bindings : List Binding) : Seed :=
  bindings.foldl set seed

/-- Variables that a mapping gives. -/
def ofVariables (store : Variables) : Seed :=
  empty.setAll store.toList

end Seed

end MailScript
