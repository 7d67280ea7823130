import SnippetSandbox.FileSystem.Tree
import SnippetSandbox.Utility.Image

/-!
# A machine's own files

A machine comes with the known programs, the two devices, a directory for
temporary files, and a file that is no program.
-/

namespace SnippetSandbox.Shell

open FileSystem Utility

def withDirectories (tree : Tree) (places : List Place) : Tree :=
  places.foldl (fun tree place => tree.put place .directory) tree

def programPlace (name : String) : Place := [name, "bin", "usr"]

def withPrograms (tree : Tree) : Tree :=
  Tool.named.foldl
    (fun tree (name, _) => tree.create (programPlace name) (Tool.image name) true) tree

def installedTree : Tree :=
  let directories :=
    withDirectories .bare [["usr"], ["bin", "usr"], ["dev"], ["etc"], ["tmp"]]
  let programs := (withPrograms directories).put ["bin"] (.link "usr/bin")
  let devices := (programs.put ["null", "dev"] (.device .null)).put ["full", "dev"] (.device .full)
  devices.create ["passwd", "etc"] "root:x:0:0:root:/root:/bin/sh\n".toUTF8 false

end SnippetSandbox.Shell
