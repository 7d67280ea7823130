import SnippetSandbox.Workspace.Layout
import SnippetSandbox.Workspace.Sample

/-!
# Seeding a fresh source directory

A source directory that has just been made starts empty, with the bundled
samples, or with a copy of everything in another directory.
-/

namespace SnippetSandbox

open FileSystem

/-- Where the first sources come from. -/
inductive Seed
  | none
  | bundled
  | directory (path : String)
  deriving DecidableEq, Repr

namespace Workspace

def writeSamples (destination : String) : Task Unit :=
  Sample.bundled.forM fun sample =>
    let path := Path.join destination sample.fileName
    (writeText path sample.text).reportedFor path

/-- Copy everything in one directory into another, links followed.  A path has
fewer levels than bytes, so directories nested deeper than the limit for paths
have names that are too long. -/
def copyTree : Nat → String → String → Task Unit
  | 0, source, _ => throw (.fileSystem source .nameTooLong)
  | levels + 1, source, destination => do
      let names ← (readDirectory source).reportedFor source
      names.forM fun name => do
        let inner := Path.join source name
        let copy := Path.join destination name
        if ← Task.ask (·.isDirectory inner) then
          (makeDirectories copy).reportedFor copy
          copyTree levels inner copy
        else
          (copyFile inner copy).reportedFor inner

def sow (workspace : Workspace) : Seed → Task Unit
  | .none => pure ()
  | .bundled => writeSamples workspace.sourceDir
  | .directory path => copyTree pathLimit path workspace.sourceDir

end Workspace

end SnippetSandbox
