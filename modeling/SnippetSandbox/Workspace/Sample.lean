/-!
# The bundled samples

Two small programs that a fresh workspace is seeded with.  Both have a main
method, so either can be run as it stands.
-/

namespace SnippetSandbox

/-- A program that comes with the library: its file's name and its text. -/
structure Sample where
  fileName : String
  text : String

namespace Sample

def addition : Sample :=
  ⟨"SandboxTest.java", "\n".intercalate [
    "public class SandboxTest",
    "\x7b",
    "    private int add(int a, int b)",
    "    \x7b",
    "        return a + b;",
    "    \x7d",
    "",
    "    public void run()",
    "    \x7b",
    "        int sum = 0;",
    "",
    "        for (int i = 0; i < 100_000; i++)",
    "        \x7b",
    "            sum = add(sum, i);",
    "        \x7d",
    "",
    "        System.out.println(\"Sum: \" + sum);",
    "    \x7d",
    "",
    "    public static void main(String[] args)",
    "    \x7b",
    "        new SandboxTest().run();",
    "    \x7d",
    "\x7d",
    ""]⟩

def inlining : Sample :=
  ⟨"InlineExample.java", "\n".intercalate [
    "public class InlineExample",
    "\x7b",
    "    private long square(long x)",
    "    \x7b",
    "        return x * x;",
    "    \x7d",
    "",
    "    public InlineExample(int iterations)",
    "    \x7b",
    "        long total = 0;",
    "",
    "        for (int i = 0; i < iterations; i++)",
    "        \x7b",
    "            total += square(i);",
    "        \x7d",
    "",
    "        System.out.println(\"Total: \" + total);",
    "    \x7d",
    "",
    "    public static void main(String[] args)",
    "    \x7b",
    "        new InlineExample(1_000_000);",
    "    \x7d",
    "\x7d",
    ""]⟩

def bundled : List Sample :=
  [addition, inlining]

end Sample

end SnippetSandbox
