import SnippetSandbox.Config.Basic
import SnippetSandbox.Text.Digits

/-!
# The diagnostic flags of a run

The executed program is started with flags that make it log what is compiled
while it runs.  Three of them and the log file are always there.  A setting adds
its flag only where it departs from the default, and the flags keep a fixed
order.
-/

namespace SnippetSandbox.Flags

open Text

def always : List String :=
  ["-XX:+UnlockDiagnosticVMOptions", "-XX:+TraceClassLoading", "-XX:+LogCompilation"]

def logFile (path : String) : String :=
  "-XX:LogFile=" ++ path

/-- A switch of this name; nothing where the choice is left to the runtime. -/
def modeSwitch (name : String) : Mode → List String
  | .auto => []
  | .forceOn => ["-XX:+" ++ name]
  | .forceOff => ["-XX:-" ++ name]

/-- A numeric setting of this name; nothing where it has its default. -/
def number (name : String) (standard value : UInt32) : List String :=
  if value = standard then [] else ["-XX:" ++ name ++ "=" ++ decimal value.toNat]

def assembly (config : Config) : List String :=
  if config.printAssembly then
    "-XX:+PrintAssembly" ::
      if config.intelSyntax then ["-XX:PrintAssemblyOptions=intel"] else []
  else []

/-- The flags that the settings add, in their order. -/
def conditional (config : Config) : List String :=
  assembly config ++
  modeSwitch "TieredCompilation" config.tieredCompilation ++
  modeSwitch "UseCompressedOops" config.compressedOops ++
  number "FreqInlineSize" Config.standard.freqInlineSize config.freqInlineSize ++
  number "MaxInlineSize" Config.standard.maxInlineSize config.maxInlineSize ++
  number "CompilerThreshold" Config.standard.compilerThreshold config.compilerThreshold

/-- The flags for a configuration and the file that is to hold the log. -/
def build (config : Config) (log : String) : List String :=
  always ++ logFile log :: conditional config

def line (flags : List String) : String :=
  " ".intercalate flags

end SnippetSandbox.Flags
