import SnippetSandbox.Config.Basic
import SnippetSandbox.Json.Skip

/-!
# Reading a stored configuration

A configuration is stored as an object with one member per setting or as a list
of the settings' values in order.  Settings that are left out keep their
defaults, members under other keys are checked for their syntax and ignored, and
no setting may be given twice.
-/

namespace SnippetSandbox.Config

open Json

/-- The problem with a value that is not of the expected type.  The value is read
first, so that the message can show it; of a list or an object, nothing is. -/
def wrongType (expected : String) (text : List Char) : Halt :=
  let named (found : Found) (rest : List Char) : Halt := .behind (.wrongType found expected) rest
  let word (letters : List Char) (found : Found) (rest : List Char) : Halt :=
    match readLetters letters rest with
    | .error halt => halt
    | .ok remaining => named found remaining
  let number (negative : Bool) (rest : List Char) : Halt :=
    match readNumber negative rest with
    | .error halt => halt
    | .ok (value, remaining) => named value.found remaining
  match text with
  | 'n' :: rest => word ['u', 'l', 'l'] .null rest
  | 't' :: rest => word ['r', 'u', 'e'] (.boolean true) rest
  | 'f' :: rest => word ['a', 'l', 's', 'e'] (.boolean false) rest
  | '-' :: rest => number true rest
  | '"' :: rest =>
      match readText rest with
      | .error halt => halt
      | .ok (characters, remaining) => named (.text (String.ofList characters)) remaining
  | '[' :: _ => named .sequence text
  | '\x7b' :: _ => named .map text
  | character :: _ =>
      if character.isDigit then number false text else .facing .expectedValue text
  | [] => .facing .endInValue []

def readString (text : List Char) : Except Halt (String × List Char) :=
  match skipGap text with
  | '"' :: rest =>
      match readText rest with
      | .error halt => .error halt
      | .ok (characters, remaining) => .ok (String.ofList characters, remaining)
  | other => .error (wrongType "a string" other)

def readBool (text : List Char) : Except Halt (Bool × List Char) :=
  match skipGap text with
  | 't' :: rest => (readLetters ['r', 'u', 'e'] rest).map fun remaining => (true, remaining)
  | 'f' :: rest => (readLetters ['a', 'l', 's', 'e'] rest).map fun remaining => (false, remaining)
  | other => .error (wrongType "a boolean" other)

/-- A number that was read, as a value below a bound. -/
def boundedNumber (expected : String) (bound : Nat) (number : Number) (rest : List Char) :
    Except Halt (Nat × List Char) :=
  match number with
  | .natural value =>
      if value < bound then .ok (value, rest)
      else .error (.behind (.wrongInteger value expected) rest)
  | .negative magnitude => .error (.behind (.wrongInteger (-magnitude) expected) rest)
  | .floating value => .error (.behind (.wrongType (.floatingPoint value) expected) rest)

/-- Read a number below a bound and the gap in front of it. -/
def readBounded (expected : String) (bound : Nat) (text : List Char) :
    Except Halt (Nat × List Char) :=
  match skipGap text with
  | [] => .error (.facing .endInValue [])
  | '-' :: rest =>
      match readNumber true rest with
      | .error halt => .error halt
      | .ok (number, remaining) => boundedNumber expected bound number remaining
  | character :: rest =>
      if character.isDigit then
        match readNumber false (character :: rest) with
        | .error halt => .error halt
        | .ok (number, remaining) => boundedNumber expected bound number remaining
      else .error (wrongType expected (character :: rest))

/-- The position of a switch that a word stands for, read up to the rest. -/
def modeOfText (characters rest : List Char) : Except Halt (Mode × List Char) :=
  match Mode.ofName? (String.ofList characters) with
  | some mode => .ok (mode, rest)
  | none =>
      .error (.behind
        (.unknownVariant (String.ofList characters) (Mode.all.map Mode.name)) rest)

/-- Read the value of the only member of a switch given as an object, behind the
colon, up to and with the closing brace. -/
def readModeEnd (mode : Mode) (text : List Char) : Except Halt (Mode × List Char) :=
  match skipGap text with
  | [] => .error (.facing .endInValue [])
  | 'n' :: rest =>
      match readLetters ['u', 'l', 'l'] rest with
      | .error halt => .error halt
      | .ok remaining =>
          match skipGap remaining with
          | '\x7d' :: behind => .ok (mode, behind)
          | [] => .error (.behind .endInObject [])
          | other => .error (.behind .expectedValue other)
  | other => .error (wrongType "unit" other)

/-- Read the only member of a switch given as an object, behind the opening brace. -/
def readModeObject (text : List Char) : Except Halt (Mode × List Char) :=
  match skipGap text with
  | [] => .error (.facing .endInObject [])
  | '"' :: rest =>
      match readText rest with
      | .error halt => .error halt
      | .ok (characters, remaining) =>
          match modeOfText characters remaining with
          | .error halt => .error halt
          | .ok (mode, behind) =>
              match skipGap behind with
              | [] => .error (.facing .endInObject [])
              | ':' :: value => readModeEnd mode value
              | other => .error (.facing .expectedColon other)
  | '\x7d' :: rest => .error (.facing .expectedValue ('\x7d' :: rest))
  | other => .error (.facing .keyNotString other)

/-- Read the position of a switch and the gap in front of it: its word, or an
object that has the word as its only key and null as the value. -/
def readMode (text : List Char) : Except Halt (Mode × List Char) :=
  match skipGap text with
  | [] => .error (.facing .endInValue [])
  | '"' :: rest =>
      match readText rest with
      | .error halt => .error halt
      | .ok (characters, remaining) => modeOfText characters remaining
  | '\x7b' :: rest => readModeObject rest
  | other => .error (.facing .expectedValue other)

/-- What comes next in a list that is being read. -/
inductive NextElement
  | element (text : List Char)
  | closed (rest : List Char)

def nextElement (first : Bool) (text : List Char) : Except Halt NextElement :=
  match skipGap text with
  | [] => .error (.facing .endInList [])
  | ']' :: rest => .ok (.closed rest)
  | character :: rest =>
      if first then .ok (.element (character :: rest))
      else if character = ',' then
        match skipGap rest with
        | [] => .error (.facing .endInValue [])
        | ']' :: behind => .error (.facing .trailingComma (']' :: behind))
        | other => .ok (.element other)
      else .error (.facing .expectedCommaOrBracket (character :: rest))

theorem length_of_readString {text rest : List Char} {value : String}
    (read : readString text = .ok (value, rest)) : rest.length < text.length := by
  unfold readString at read
  split at read
  next remaining opened =>
    split at read
    · cases read
    next characters behind textRead =>
      simp only [Except.ok.injEq, Prod.mk.injEq] at read
      obtain ⟨_, rfl⟩ := read
      have := length_of_readText textRead
      have := length_of_skipGap opened
      omega
  next => cases read

theorem length_of_nextElement {first : Bool} {text element : List Char}
    (next : nextElement first text = .ok (.element element)) :
    element.length ≤ text.length := by
  unfold nextElement at next
  split at next
  · cases next
  · simp at next
  next character rest _ opened =>
    have shorter := length_of_skipGap opened
    split at next
    · simp only [Except.ok.injEq, NextElement.element.injEq] at next
      subst next
      simp only [List.length_cons]
      omega
    · split at next
      · have gap := length_skipGap_le rest
        split at next
        · cases next
        · cases next
        next =>
          simp only [Except.ok.injEq, NextElement.element.injEq] at next
          subst next
          omega
      · cases next

/-- Read the elements of a list of texts, up to and with its closing bracket. -/
def readStrings (first : Bool) (text : List Char) : Except Halt (List String × List Char) :=
  match _next : nextElement first text with
  | .error halt => .error halt
  | .ok (.closed rest) => .ok ([], rest)
  | .ok (.element element) =>
      match _read : readString element with
      | .error halt => .error halt
      | .ok (value, rest) =>
          match readStrings false rest with
          | .error halt => .error halt
          | .ok (values, remaining) => .ok (value :: values, remaining)
termination_by text.length
decreasing_by
  have := length_of_nextElement _next
  have := length_of_readString _read
  omega

def readStringList (text : List Char) : Except Halt (List String × List Char) :=
  match skipGap text with
  | '[' :: rest => readStrings true rest
  | other => .error (wrongType "a sequence" other)

def readField (field : Field) (config : Config) (text : List Char) :
    Except Halt (Config × List Char) :=
  match field with
  | .sourceLocations =>
      (readStringList text).map fun (value, rest) =>
        ({ config with sourceLocations := value }, rest)
  | .classLocations =>
      (readStringList text).map fun (value, rest) =>
        ({ config with classLocations := value }, rest)
  | .printAssembly =>
      (readBool text).map fun (value, rest) =>
        ({ config with printAssembly := value }, rest)
  | .intelSyntax =>
      (readBool text).map fun (value, rest) =>
        ({ config with intelSyntax := value }, rest)
  | .tieredCompilation =>
      (readMode text).map fun (value, rest) =>
        ({ config with tieredCompilation := value }, rest)
  | .compressedOops =>
      (readMode text).map fun (value, rest) =>
        ({ config with compressedOops := value }, rest)
  | .freqInlineSize =>
      (readBounded "u32" UInt32.size text).map fun (value, rest) =>
        ({ config with freqInlineSize := .ofNat value }, rest)
  | .maxInlineSize =>
      (readBounded "u32" UInt32.size text).map fun (value, rest) =>
        ({ config with maxInlineSize := .ofNat value }, rest)
  | .compilerThreshold =>
      (readBounded "u32" UInt32.size text).map fun (value, rest) =>
        ({ config with compilerThreshold := .ofNat value }, rest)
  | .compileTimeoutSecs =>
      (readBounded "u64" UInt64.size text).map fun (value, rest) =>
        ({ config with compileTimeoutSecs := .ofNat value }, rest)
  | .executeTimeoutSecs =>
      (readBounded "u64" UInt64.size text).map fun (value, rest) =>
        ({ config with executeTimeoutSecs := .ofNat value }, rest)

/-- The end of a list behind its last value; the list may not go on. -/
def readListEnd (text : List Char) : Except Halt (List Char) :=
  match skipGap text with
  | ']' :: rest => .ok rest
  | [] => .error (.facing .endInList [])
  | ',' :: rest =>
      match skipGap rest with
      | ']' :: behind => .error (.facing .trailingComma (']' :: behind))
      | other => .error (.facing .trailingCharacters other)
  | other => .error (.facing .trailingCharacters other)

/-- Read the values of the given settings from a list, up to and with its closing
bracket.  The list may end early, but not go on. -/
def readValues (first : Bool) (config : Config) (text : List Char) :
    List Field → Except Halt (Config × List Char)
  | [] => (readListEnd text).map fun rest => (config, rest)
  | field :: others =>
      match nextElement first text with
      | .error halt => .error halt
      | .ok (.closed rest) => .ok (config, rest)
      | .ok (.element element) =>
          match readField field config element with
          | .error halt => .error halt
          | .ok (changed, rest) => readValues false changed rest others

/-- What comes next in an object that is being read. -/
inductive NextMember
  | key (characters : List Char) (rest : List Char)
  | closed (rest : List Char)

/-- Read a key behind its opening quote. -/
def keyBehindQuote (rest : List Char) : Except Halt NextMember :=
  (readText rest).map fun (characters, remaining) => .key characters remaining

def nextMember (first : Bool) (text : List Char) : Except Halt NextMember :=
  match skipGap text with
  | [] => .error (.facing .endInObject [])
  | '\x7d' :: rest => .ok (.closed rest)
  | character :: rest =>
      if first then
        if character = '"' then keyBehindQuote rest
        else .error (.facing .keyNotString (character :: rest))
      else if character = ',' then
        match skipGap rest with
        | [] => .error (.facing .endInValue [])
        | '"' :: behind => keyBehindQuote behind
        | '\x7d' :: behind => .error (.facing .trailingComma ('\x7d' :: behind))
        | other => .error (.facing .keyNotString other)
      else .error (.facing .expectedCommaOrBrace (character :: rest))

def readColon (text : List Char) : Except Halt (List Char) :=
  match skipGap text with
  | [] => .error (.facing .endInObject [])
  | ':' :: rest => .ok rest
  | other => .error (.facing .expectedColon other)

/-- The problem with a setting that was given before.  It is noticed behind the
gap after the second key, and behind a closing brace that follows. -/
def duplicate (field : Field) (text : List Char) : Halt :=
  match skipGap text with
  | '\x7d' :: rest => .behind (.duplicateField field.key) rest
  | other => .behind (.duplicateField field.key) other

/-- Read the members of an object, up to and with its closing brace.  `given` are
the settings read so far.  There are at most as many members as `fuel`. -/
def readMembers (fuel : Nat) (first : Bool) (given : List Field) (config : Config)
    (text : List Char) : Except Halt (Config × List Char) :=
  match fuel, nextMember first text with
  | _, .error halt => .error halt
  | _, .ok (.closed rest) => .ok (config, rest)
  | 0, _ => .error (.facing .endInObject text)
  | fuel + 1, .ok (.key characters rest) =>
      match Field.ofKey? (String.ofList characters) with
      | some field =>
          if field ∈ given then .error (duplicate field rest)
          else
            match readColon rest with
            | .error halt => .error halt
            | .ok value =>
                match readField field config value with
                | .error halt => .error halt
                | .ok (changed, remaining) =>
                    readMembers fuel false (field :: given) changed remaining
      | none =>
          match readColon rest with
          | .error halt => .error halt
          | .ok value =>
              match skipValue value with
              | .error halt => .error halt
              | .ok remaining => readMembers fuel false given config remaining

def readConfig (text : List Char) : Except Halt (Config × List Char) :=
  match skipGap text with
  | '\x7b' :: rest => readMembers rest.length true [] standard rest
  | '[' :: rest => readValues true standard rest Field.all
  | other => .error (wrongType "struct SandboxConfig" other)

def readDocument (document : List Char) : Except Halt Config :=
  match readConfig document with
  | .error halt => .error halt
  | .ok (config, rest) =>
      match skipGap rest with
      | [] => .ok config
      | other => .error (.facing .trailingCharacters other)

/-- The configuration that a text holds, or the first problem with its position. -/
def parse (text : String) : Except (Problem × Position) Config :=
  match readDocument text.toList with
  | .ok config => .ok config
  | .error halt => .error (halt.problem, halt.position text.toList)

end SnippetSandbox.Config
