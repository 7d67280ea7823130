import SnippetSandbox.FileSystem.Disk

/-!
# Rearranging files

Empty directories are removed, entries get other names, and files get several.  A
name that stands for the directory itself, or for the one around it, cannot be
taken away.
-/

namespace SnippetSandbox.FileSystem

def notPermitted : Cause := .system 1

/-- An entry cannot be changed because it is used. -/
def inUse : Cause := .system 16

def invalidRequest : Cause := .system 22

def notEmpty : Cause := .system 39

/-- The last name that a path spells, even if it stands for a directory on the way. -/
def lastSegment (path : String) : String :=
  ((Path.segments path).filter (· ≠ "")).getLastD ""

def endsOnWay (path : String) : Bool :=
  path ≠ "" && (["", ".", ".."].contains (lastSegment path))

def removeDirectory (path : String) : Operation Unit :=
  attempt fun disk =>
    match disk.findName path with
    | .error cause => .error cause
    | .ok (.absent _ _) => .error .notFound
    | .ok (.present place .directory) =>
        match path, lastSegment path with
        | "", _ => .error .notFound
        | _, "" => .error inUse
        | _, "." => .error invalidRequest
        | _, ".." => .error notEmpty
        | _, _ =>
            if disk.tree.names place = [] then
              .ok ((), { disk with tree := disk.tree.clear place })
            else .error notEmpty
    | .ok (.present _ _) => .error .notDirectory

def replacementProblem? (tree : Tree) (place : Place) (moved found : Entry) : Option Cause :=
  match moved, found with
  | .directory, .directory => if tree.names place = [] then none else some notEmpty
  | .directory, _ => some .notDirectory
  | _, .directory => some .isDirectory
  | _, _ => none

def isSameFile : Entry → Entry → Bool
  | .file first _ _, .file second _ _ => first = second
  | _, _ => false

/-- Give an entry another path, with everything in it.  What was there is replaced. -/
def moveEntry (source target : String) : Operation Unit :=
  attempt fun disk =>
    if endsOnWay source || endsOnWay target then .error inUse
    else
      match disk.findName source, disk.findName target with
      | .error cause, _ => .error cause
      | .ok (.absent _ _), _ => .error .notFound
      | _, .error cause => .error cause
      | .ok (.present origin moved), .ok destination =>
          let needsDirectory := Path.endsInSlash source || Path.endsInSlash target
          if moved ≠ .directory && needsDirectory then .error .notDirectory
          else
            let (place, problem) := match destination with
              | .absent place _ => (place, none)
              | .present place found =>
                  (place,
                    if origin = place || isSameFile moved found then none
                    else replacementProblem? disk.tree place moved found)
            let isSame := match destination with
              | .present place found => origin = place || isSameFile moved found
              | .absent _ _ => false
            if isSame then .ok ((), disk)
            else if origin.isSuffixOf place then .error invalidRequest
            else if place.isSuffixOf origin then .error notEmpty
            else
              match problem with
              | some cause => .error cause
              | none =>
                  let tree := (disk.tree.clear origin).replace place (disk.tree.node? origin)
                  .ok ((), { disk with tree })

/-- Give a file one more path.  A link itself gets it, unless links are followed. -/
def shareFile (source target : String) (follows : Bool) : Operation Unit :=
  attempt fun disk =>
    match (if follows then disk.find source else disk.findLink source), disk.findName target with
    | .error cause, _ => .error cause
    | .ok (.absent _ _), _ => .error .notFound
    | _, .error cause => .error cause
    | _, .ok (.present _ _) => .error .alreadyExists
    | .ok (.present _ .directory), _ => .error notPermitted
    | _, .ok (.absent _ true) => .error .notFound
    | .ok (.present _ entry), .ok (.absent place false) =>
        .ok ((), { disk with tree := disk.tree.put place entry })

end SnippetSandbox.FileSystem
