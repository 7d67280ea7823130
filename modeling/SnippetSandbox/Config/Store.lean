import SnippetSandbox.Config.Printer
import SnippetSandbox.Config.Reader
import SnippetSandbox.Task

/-!
# The stored configuration

A configuration is kept in one file.  A missing file stands for the defaults.
Saving makes the directories around the file first and then writes it whole.
-/

namespace SnippetSandbox.Config

open FileSystem

/-- The configuration a read file holds; nothing to read means the defaults. -/
def ofFile (path : String) : Except Cause String → Except Failure Config
  | .ok text =>
      match parse text with
      | .ok config => .ok config
      | .error (problem, position) => .error (.config (.malformed problem position))
  | .error .notFound => .ok standard
  | .error cause => .error (.fileSystem path cause)

/-- Read the stored configuration. -/
def load (path : String) : Task Config := fun disk =>
  let (outcome, rest) := readText path disk
  (ofFile path outcome, rest)

/-- Store a configuration, in place of an older one. -/
def save (path : String) (config : Config) : Task Unit := do
  match Path.parent? path with
  | some around => (makeDirectories around).reportedFor around
  | none => pure ()
  (writeText path config.render).reportedFor path

end SnippetSandbox.Config
