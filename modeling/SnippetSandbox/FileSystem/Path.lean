import SnippetSandbox.Text.Lines
import SnippetSandbox.FileSystem.Cause

/-!
# Paths as texts

A path is kept as it was written, because messages show it so.  Its segments
are what stands between the slashes; an empty segment and a lone dot name
nothing, except that a relative path may begin with a dot.  Two dots always
stay: where they lead is decided by the files.
-/

namespace SnippetSandbox.Path

open Text

def isAbsolute (path : String) : Bool :=
  path.toList.head? == some '/'

def endsInSlash (path : String) : Bool :=
  path.toList.getLast? == some '/'

/-- What stands between the slashes, in order. -/
def segments (path : String) : List String :=
  (splitOn '/' path.toList).map String.ofList

/-- A path with the given name behind it.  An absolute name stands alone. -/
def join (base name : String) : String :=
  if isAbsolute name || base = "" then name
  else if endsInSlash base then base ++ name
  else base ++ "/" ++ name

def joinAll (base : String) (names : List String) : String :=
  names.foldl join base

/-- A segment that names nothing. -/
def isVoid (segment : String) : Bool :=
  segment = "" || segment = "."

/-- The segments that name something. -/
def names (path : String) : List String :=
  (segments path).filter fun segment => !isVoid segment

/-- Drop the segments at the end that name nothing. -/
def dropVoidEnd (written : List String) : List String :=
  (written.reverse.dropWhile isVoid).reverse

/-- The path without its last name; none when it has no name to lose. -/
def parent? (path : String) : Option String :=
  if isAbsolute path then
    match dropVoidEnd ((segments path).drop 1) with
    | [] => none
    | written => some ("/" ++ "/".intercalate (dropVoidEnd written.dropLast))
  else
    match segments path with
    | [] => none
    | first :: others =>
        if others.all isVoid then
          if first = "" then none else some ""
        else
          some ("/".intercalate (first :: dropVoidEnd (dropVoidEnd others).dropLast))

/-- The path seen from the root directory.  Repeated slashes and dots are gone,
but exactly two leading slashes stay two, and a slash at the end stays. -/
def absolute (current path : String) : Except FileSystem.Cause String :=
  if path = "" then .error .emptyPath
  else
    let start :=
      if isAbsolute path then
        match path.toList with
        | '/' :: '/' :: '/' :: _ => "/"
        | '/' :: '/' :: _ => "//"
        | _ => "/"
      else current
    let full := joinAll start (names path)
    .ok (if endsInSlash path then join full "" else full)

end SnippetSandbox.Path
