import SnippetSandbox.Config.Basic
import SnippetSandbox.Json.Text

/-!
# Writing a configuration

A stored configuration is an object with one member per line, indented by two
spaces, in the order of the settings.  A list that is not empty has one element
per line, indented by two more.
-/

namespace SnippetSandbox.Config

open Text (digits)

def locationLines (locations : List String) : List Char :=
  ",\n".toList.intercalate
    (locations.map fun location => "    ".toList ++ Json.encode location.toList)

def writtenLocations : List String → List Char
  | [] => "[]".toList
  | locations => "[\n".toList ++ locationLines locations ++ "\n  ]".toList

def writtenFlag : Bool → List Char
  | true => "true".toList
  | false => "false".toList

def written (config : Config) : Field → List Char
  | .sourceLocations => writtenLocations config.sourceLocations
  | .classLocations => writtenLocations config.classLocations
  | .printAssembly => writtenFlag config.printAssembly
  | .intelSyntax => writtenFlag config.intelSyntax
  | .tieredCompilation => Json.encode config.tieredCompilation.name.toList
  | .compressedOops => Json.encode config.compressedOops.name.toList
  | .freqInlineSize => digits config.freqInlineSize.toNat
  | .maxInlineSize => digits config.maxInlineSize.toNat
  | .compilerThreshold => digits config.compilerThreshold.toNat
  | .compileTimeoutSecs => digits config.compileTimeoutSecs.toNat
  | .executeTimeoutSecs => digits config.executeTimeoutSecs.toNat

def member (config : Config) (field : Field) : List Char :=
  "  ".toList ++ Json.encode field.key.toList ++ ": ".toList ++ written config field

/-- The stored text of a configuration. -/
def render (config : Config) : String :=
  String.ofList
    ("\x7b\n".toList ++ ",\n".toList.intercalate (Field.all.map (member config)) ++
      "\n\x7d".toList)

end SnippetSandbox.Config
