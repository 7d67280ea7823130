import SnippetSandbox.Instances

/-!
# The tree of files

A directory holds nodes by name, and the root of a tree is a directory.  A place
in the tree lists names from the entry's own name outward, so the tail of a place
is the directory around it and the empty list is the root.  What is at a place is
its entry: a directory is an entry whatever it holds.
-/

namespace SnippetSandbox.FileSystem

/-- Where an entry is: its own name first, the outermost directory last. -/
abbrev Place := List String

/-- A file without contents of its own. -/
inductive Device
  /-- Swallows what is written and has nothing to read. -/
  | null
  /-- Has no room for anything that is written. -/
  | full
  deriving DecidableEq, Repr

/-- What can be at a place.  A file keeps its identity as long as it exists. -/
inductive Entry
  | directory
  | file (identity : Nat) (content : ByteArray) (executable : Bool)
  | link (target : String)
  | device (kind : Device)
  deriving DecidableEq

/-- An entry together with everything in it. -/
inductive Node
  | directory (inside : List (String × Node))
  | file (identity : Nat) (content : ByteArray) (executable : Bool)
  | link (target : String)
  | device (kind : Device)

/-- What a directory holds, by name. -/
abbrev Folder := List (String × Node)

def Node.entry : Node → Entry
  | .directory _ => .directory
  | .file identity content executable => .file identity content executable
  | .link target => .link target
  | .device kind => .device kind

/-- An entry as a node; a directory is empty. -/
def Entry.node : Entry → Node
  | .directory => .directory []
  | .file identity content executable => .file identity content executable
  | .link target => .link target
  | .device kind => .device kind

@[simp] theorem Entry.entry_node (entry : Entry) : entry.node.entry = entry := by
  cases entry <;> rfl

/-- The node under a name; only a directory has nodes under names. -/
def Node.child? (node : Node) (name : String) : Option Node :=
  match node with
  | .directory inside => inside.lookup name
  | _ => none

def Folder.set (inside : Folder) (name : String) (node : Option Node) : Folder :=
  (node.map fun node => (name, node)).toList ++ inside.filter fun item => item.1 != name

/-- The folder with this node, or none, at the end of a way.  Nothing changes
unless the way leads through directories. -/
def Folder.replace (node : Option Node) : List String → Folder → Folder
  | [], inside => inside
  | [name], inside => Folder.set inside name node
  | name :: next :: others, inside =>
      match inside.lookup name with
      | some (.directory deeper) =>
          Folder.set inside name
            (some (.directory (Folder.replace node (next :: others) deeper)))
      | _ => inside

mutual

/-- Everything in a node, with its place, where the node itself is at a place. -/
def Node.entriesInside (place : Place) : Node → List (Place × Entry)
  | .directory inside => folderEntries place inside
  | _ => []

def folderEntries (place : Place) : List (String × Node) → List (Place × Entry)
  | [] => []
  | item :: others => itemEntries place item ++ folderEntries place others

def itemEntries (place : Place) : String × Node → List (Place × Entry)
  | (name, node) => (name :: place, node.entry) :: node.entriesInside (name :: place)

end

/-- The root directory's folder, and the identity the next new file gets. -/
structure Tree where
  root : Folder
  nextIdentity : Nat

def Tree.bare : Tree := ⟨[], 0⟩

/-- The place as the text of an absolute path. -/
def Place.path (place : Place) : String :=
  if place = [] then "/" else place.foldr (fun name path => path ++ "/" ++ name) ""

namespace Tree

def node? (tree : Tree) : Place → Option Node
  | [] => some (.directory tree.root)
  | name :: around =>
      match tree.node? around with
      | some node => node.child? name
      | none => none

def lookup (tree : Tree) (place : Place) : Option Entry :=
  (tree.node? place).map Node.entry

def replace (tree : Tree) (place : Place) (node : Option Node) : Tree :=
  { tree with root := Folder.replace node place.reverse tree.root }

/-- The tree without what is at or below a place. -/
def clear (tree : Tree) (place : Place) : Tree :=
  tree.replace place none

/-- The tree with this entry at a place, and nothing below it. -/
def put (tree : Tree) (place : Place) (entry : Entry) : Tree :=
  tree.replace place (some entry.node)

def create (tree : Tree) (place : Place) (content : ByteArray) (executable : Bool) : Tree :=
  { tree.put place (.file tree.nextIdentity content executable) with
    nextIdentity := tree.nextIdentity + 1 }

/-- The names inside a directory, in increasing order. -/
def names (tree : Tree) (place : Place) : List String :=
  match tree.node? place with
  | some (.directory inside) =>
      (inside.map Prod.fst).mergeSort fun first second => decide (first ≤ second)
  | _ => []

def entriesBelow (tree : Tree) (place : Place) : List (Place × Entry) :=
  ((tree.node? place).map (Node.entriesInside place)).getD []

@[simp] theorem node?_root (tree : Tree) : tree.node? [] = some (.directory tree.root) := rfl

@[simp] theorem lookup_root (tree : Tree) : tree.lookup [] = some .directory := rfl

/-- A node is found inside the one around it. -/
theorem node?_cons (tree : Tree) (name : String) (around : Place) :
    tree.node? (name :: around) = (tree.node? around).bind fun node => node.child? name := by
  rw [node?]
  cases tree.node? around <;> rfl

/-- A place is found only inside a directory. -/
theorem lookup_around {tree : Tree} {name : String} {around : Place} {entry : Entry}
    (found : tree.lookup (name :: around) = some entry) :
    tree.lookup around = some .directory := by
  rw [lookup, node?_cons] at found
  cases holder : tree.node? around with
  | none => simp [holder] at found
  | some node =>
      cases node with
      | directory inside => simp [lookup, holder, Node.entry]
      | _ => simp [holder, Node.child?] at found

end Tree

end SnippetSandbox.FileSystem
