import SnippetSandbox.Config.Basic
import SnippetSandbox.Workspace.Layout

/-!
# Registering a workspace in a configuration

A configuration lists where sources and classes are found.  Registration appends
what the workspace needs and the lists lack, and says whether that was anything.
-/

namespace SnippetSandbox.Run

/-- The locations of sources that a workspace needs: its own, then the archive. -/
def neededSources (workspace : Workspace) (archive : Option String) : List String :=
  workspace.sourceDir :: archive.toList

def neededClasses (workspace : Workspace) : List String :=
  [workspace.classDir]

/-- The list with the needed locations at its end that it lacks, each once. -/
def addMissing (locations : List String) : List String → List String
  | [] => locations
  | location :: others =>
      if location ∈ locations then addMissing locations others
      else addMissing (locations ++ [location]) others

def lacksAny (locations needed : List String) : Bool :=
  needed.any fun location => location ∉ locations

/-- The configuration with everything registered, and whether anything was missing. -/
def register (workspace : Workspace) (archive : Option String) (config : Config) :
    Config × Bool :=
  let sources := neededSources workspace archive
  let classes := neededClasses workspace
  ({ config with
      sourceLocations := addMissing config.sourceLocations sources
      classLocations := addMissing config.classLocations classes },
    lacksAny config.sourceLocations sources || lacksAny config.classLocations classes)

end SnippetSandbox.Run
