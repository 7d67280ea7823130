/-!
# Names in paths

A path ends in a name, behind the path of the directory around it.  Slashes at the end
do not count.
-/

namespace SnippetSandbox.Utility

def dropSlashes (path : List Char) : List Char :=
  (path.reverse.dropWhile (· = '/')).reverse

/-- The last name of a path; that of the root is a slash. -/
def lastName (path : String) : String :=
  match dropSlashes path.toList with
  | [] => if path = "" then "" else "/"
  | trimmed => String.ofList (trimmed.reverse.takeWhile (· ≠ '/')).reverse

def withoutEnding (ending name : String) : String :=
  if name ≠ ending && ending ≠ "" && name.endsWith ending && name ≠ "/" then
    String.ofList (name.toList.take (name.length - ending.length))
  else name

def directoryName (path : String) : String :=
  match dropSlashes path.toList with
  | [] => if path = "" then "." else "/"
  | trimmed =>
      let around := (trimmed.reverse.dropWhile (· ≠ '/')).reverse
      if around = [] then "."
      else
        match dropSlashes around with
        | [] => "/"
        | directory => String.ofList directory

end SnippetSandbox.Utility
