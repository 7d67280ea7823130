import SnippetSandbox.Text.Lines

/-!
# Texts that can be run

A source text is taken to hold the program's entry point when it contains the
signature of the main method, spelled with exactly this spacing.  Comments and
literals are not told apart from code.
-/

namespace SnippetSandbox.Source

open Text

/-- The two spellings of the main method's signature that count. -/
def mainSignatures : List String :=
  ["public static void main(", "public static void main ("]

def hasMainSignature (text : String) : Bool :=
  mainSignatures.any fun signature => hasPattern signature.toList text.toList

end SnippetSandbox.Source
