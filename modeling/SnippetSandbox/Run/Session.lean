import SnippetSandbox.Source.Snippet

/-!
# What a run has written

A session remembers the snippets of one run in the order in which they were
written.  The first one names the class to look at afterwards, the last one with
an entry point names the program to execute.
-/

namespace SnippetSandbox.Run

/-- The snippets written so far, and the two names taken from them. -/
structure Session where
  snippets : List Snippet := []
  first : Option String := none
  entry : Option String := none
  deriving DecidableEq, Repr

namespace Session

def record (session : Session) (snippet : Snippet) : Session :=
  { snippets := session.snippets ++ [snippet]
    first := session.first.or (some snippet.name)
    entry := if snippet.isEntry then some snippet.name else session.entry }

def files (session : Session) : List String :=
  session.snippets.map Snippet.path

end Session

end SnippetSandbox.Run
