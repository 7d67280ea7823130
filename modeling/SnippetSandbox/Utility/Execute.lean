import SnippetSandbox.Kernel.Program
import SnippetSandbox.Utility.Image

/-!
# Becoming another program

A process that becomes another program keeps its number, its open files and its
directory, and gets an environment.
-/

namespace SnippetSandbox.Utility

/-- Carries on a process as another program with an environment. -/
abbrev Execute :=
  Invocation → List (String × String) → Kernel.Program Supervision.Ending

end SnippetSandbox.Utility
