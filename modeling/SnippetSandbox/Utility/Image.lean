import SnippetSandbox.FileSystem.Disk
import SnippetSandbox.Text.Raw

/-!
# Program files

A file can be started when it may be executed and holds either the image of a
known program or a script that names its interpreter in the first line.  The
interpreter is started in the script's place, with the script as an argument.
-/

namespace SnippetSandbox.Utility

open FileSystem

/-- The programs whose images are known. -/
inductive Tool
  | shell
  | echo
  | printf
  | cat
  | sleep
  | succeed
  | fail
  | test
  | pwd
  | makeDirectory
  | remove
  | touch
  | copy
  | list
  | environment
  | printVariables
  | removeDirectory
  | move
  | makeLink
  | readLink
  | changeMode
  | firstPart
  | lastPart
  | count
  | sequence
  | lastName
  | directoryName
  | copyInput
  | exchange
  | sort
  | search
  | which
  | systemName
  | newSession
  | immune
  deriving DecidableEq, Repr

namespace Tool

def named : List (String × Tool) :=
  [("sh", shell), ("dash", shell), ("echo", echo), ("printf", printf), ("cat", cat),
    ("sleep", sleep), ("true", succeed), ("false", fail), ("test", test), ("[", test),
    ("pwd", pwd), ("mkdir", makeDirectory), ("rm", remove), ("touch", touch), ("cp", copy),
    ("ls", list), ("env", environment), ("printenv", printVariables), ("rmdir", removeDirectory),
    ("mv", move), ("ln", makeLink), ("readlink", readLink), ("chmod", changeMode),
    ("head", firstPart), ("tail", lastPart), ("wc", count), ("seq", sequence),
    ("basename", lastName), ("dirname", directoryName), ("tee", copyInput), ("tr", exchange),
    ("sort", sort), ("grep", search), ("which", which), ("uname", systemName),
    ("setsid", newSession), ("nohup", immune)]

def imageStart : String := "\x7fELF "

def image (name : String) : ByteArray :=
  (imageStart ++ name).toUTF8

def ofImage? (content : ByteArray) : Option Tool :=
  (named.find? fun (name, _) => image name = content).map Prod.snd

end Tool

/-- A program that is about to run: what it is, the name it was started under, and
its arguments, as texts of bytes. -/
structure Invocation where
  tool : Tool
  name : String
  arguments : List String
  deriving DecidableEq, Repr

def isLineBlank (byte : UInt8) : Bool :=
  byte = 32 || byte = 9

def isNameEnd (byte : UInt8) : Bool :=
  isLineBlank byte || byte = 0

/-- How many bytes of a file are looked at to find out what it is. -/
def examinedBytes : Nat := 256

/-- The first line behind its mark, as far as it is looked at.  There is none if it
goes on with a name that may not be complete. -/
def firstLine? (examined : List UInt8) : Option (List UInt8) :=
  if 10 ∈ examined then some (examined.takeWhile (· ≠ 10))
  else if (examined.dropWhile isLineBlank).any isNameEnd then some examined.dropLast
  else none

def interpreter? (content : ByteArray) : Option (String × List String) :=
  let known := (content.extract 0 examinedBytes).toList
  match known ++ List.replicate (examinedBytes - known.length) 0 with
  | 35 :: 33 :: examined =>
      match firstLine? examined with
      | none => none
      | some line =>
          match ((line.reverse.dropWhile isLineBlank).reverse).dropWhile isLineBlank with
          | [] => none
          | named =>
              let path := named.takeWhile fun byte => !isNameEnd byte
              let argument :=
                ((named.drop path.length).dropWhile isLineBlank).takeWhile (· ≠ 0)
              let text (bytes : List UInt8) : String := .ofList (Raw.ofBytes bytes)
              some (text path, if argument = [] then [] else [text argument])
  | _ => none

/-- How many bytes an argument may have, with the one that ends it. -/
def argumentLimit : Nat := 131072

/-- How many files the start of a program may go through: the program itself, the
interpreter it names, the interpreter of that one, and so on. -/
def interpreterLimit : Nat := 6

def invocationOf (disk : Disk) : Nat → String → String → List String → Except Cause Invocation
  | 0, _, _, _ => .error .linkLoop
  | levels + 1, path, name, arguments =>
      match disk.entryAt? (Raw.toText path) with
      | .error cause => .error cause
      | .ok (.file _ content true) =>
          if arguments.any fun argument => argumentLimit ≤ argument.length then
            .error .argumentsTooLong
          else
            match Tool.ofImage? content with
            | some tool => .ok ⟨tool, name, arguments⟩
            | none =>
                match interpreter? content with
                | some ("", _) => .error .permissionDenied
                | some (interpreter, given) =>
                    invocationOf disk levels interpreter interpreter (given ++ path :: arguments)
                | none => .error .notExecutableFormat
      | .ok _ => .error .permissionDenied

def startFile (disk : Disk) (path name : String) (arguments : List String) :
    Except Cause Invocation :=
  invocationOf disk interpreterLimit path name arguments

def programPaths (searchPath name : String) : List String :=
  if '/' ∈ name.toList || name = "" then [name]
  else (Text.splitOn ':' searchPath.toList).map fun entry => Path.join (String.ofList entry) name

def bareSearchPath : String := "/bin:/usr/bin"

/-- What starting a program by its name amounts to: the first path counts at which
there is anything, except that a file that may not be executed is passed over. -/
def locate (disk : Disk) (name : String) (arguments : List String) :
    List String → Except Cause Invocation
  | [] => .error .notFound
  | path :: others =>
      match startFile disk path (if '/' ∈ name.toList then path else name) arguments with
      | .ok invocation => .ok invocation
      | .error cause =>
          if others = [] then .error cause
          else
            match cause with
            | .notFound | .notDirectory => locate disk name arguments others
            | .permissionDenied =>
                match locate disk name arguments others with
                | .error .notFound => .error .permissionDenied
                | found => found
            | _ => .error cause

end SnippetSandbox.Utility
