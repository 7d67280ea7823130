import SnippetSandbox.Failure

/-!
# The classpath

The places where the runtime looks for classes are handed over as one text with
colons in between, so none of them may contain a colon.
-/

namespace SnippetSandbox.Run.Classpath

/-- The places to look in: the class directory, then the configured ones that
are not that directory. -/
def entries (classDir : String) (locations : List String) : List String :=
  classDir :: locations.filter (· ≠ classDir)

/-- The places as one text. -/
def join (places : List String) : Except ToolProblem String :=
  if places.any fun place => ':' ∈ place.toList then .error .separatorInClasspath
  else .ok (":".intercalate places)

end SnippetSandbox.Run.Classpath
