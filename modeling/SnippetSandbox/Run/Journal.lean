import SnippetSandbox.Run.Event

/-!
# The operator's journal

An operator can have everything a run tells written to a journal, where each
entry is a line with a level.
-/

namespace SnippetSandbox.Run

/-- How much attention an entry of the journal asks for. -/
inductive Level
  | info
  | error
  deriving DecidableEq, Repr

def Level.name : Level → String
  | .info => "INFO"
  | .error => "ERROR"

/-- An entry of the journal. -/
structure Entry where
  level : Level
  line : String
  deriving DecidableEq, Repr

def Notice.entry : Notice → Entry
  | .progress line => ⟨.info, line⟩
  | .trouble text => ⟨.error, text⟩
  | .navigation (some member) => ⟨.info, "Navigate to " ++ member.signature⟩
  | .navigation none => ⟨.info, "Nothing to navigate to"⟩

end SnippetSandbox.Run
