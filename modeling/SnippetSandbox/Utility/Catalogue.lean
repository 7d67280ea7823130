import SnippetSandbox.Shell.Start
import SnippetSandbox.Utility.Dates
import SnippetSandbox.Utility.Directories
import SnippetSandbox.Utility.Exchange
import SnippetSandbox.Utility.Finding
import SnippetSandbox.Utility.Formatting
import SnippetSandbox.Utility.Links
import SnippetSandbox.Utility.Listing
import SnippetSandbox.Utility.Moving
import SnippetSandbox.Utility.Permissions
import SnippetSandbox.Utility.Sequence
import SnippetSandbox.Utility.Sorting
import SnippetSandbox.Utility.Streams
import SnippetSandbox.Utility.Surroundings
import SnippetSandbox.Utility.Truth
import SnippetSandbox.Utility.Words

/-!
# The known programs

Every known program is carried out by one function, which gets the way to become
another program.
-/

namespace SnippetSandbox.Utility

open Kernel Supervision

/-- Carry out a program; `execute` is the way to become another one. -/
def carryOut (execute : Execute) : Execute := fun invocation environment =>
  let name := invocation.name
  let arguments := invocation.arguments
  let withStatus (body : Program Nat) : Program Ending := do
    return .exited ((← body) % 256)
  match invocation.tool with
  | .shell => Shell.shell execute invocation environment
  | .echo => withStatus (echoWords name arguments)
  | .printf => withStatus (printWords name arguments)
  | .cat => withStatus (writeFiles name arguments)
  | .sleep => withStatus (waitLong name arguments)
  | .succeed => return .exited 0
  | .fail => return .exited 1
  | .test => withStatus (testWords name (lastName name = "[") arguments)
  | .pwd => withStatus (writeDirectory name environment arguments)
  | .printVariables => withStatus (writeVariables name environment arguments)
  | .firstPart => withStatus (writeFirst name arguments)
  | .lastPart => withStatus (writeLast name arguments)
  | .count => withStatus (writeCounts name arguments)
  | .sequence => withStatus (writeSequence name arguments)
  | .lastName => withStatus (writeLastNames name arguments)
  | .directoryName => withStatus (writeDirectoryNames name arguments)
  | .copyInput => withStatus (copyInput name arguments)
  | .which => withStatus (writePrograms name environment arguments)
  | .systemName => withStatus (writeSystemName name arguments)
  | .makeDirectory => withStatus (makeDirectories name arguments)
  | .removeDirectory => withStatus (removeDirectories name arguments)
  | .remove => withStatus (removeFiles name arguments)
  | .touch => withStatus (touchFiles name arguments)
  | .copy => withStatus (copyFiles name arguments)
  | .move => withStatus (moveFiles name arguments)
  | .makeLink => withStatus (makeLinks name arguments)
  | .readLink => withStatus (readLinks name arguments)
  | .changeMode => withStatus (changePermissions name arguments)
  | .list => withStatus (listFiles name arguments)
  | .exchange => withStatus (exchangeCharacters name arguments)
  | .sort => withStatus (sortLines name arguments)
  | .search => withStatus (findLines name arguments)
  | .environment => withStatus (startWith execute name environment arguments)
  | .immune => withStatus (startImmune execute name environment arguments)
  | .newSession => withStatus (startApart execute name environment arguments)

def manyLives : Nat := 2 ^ 60

def performWithin : Nat → Execute
  | 0 => fun _ _ => return .exited 126
  | lives + 1 => carryOut (performWithin lives)

def perform : Execute := performWithin manyLives

end SnippetSandbox.Utility
