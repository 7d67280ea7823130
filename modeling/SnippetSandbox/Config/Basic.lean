import SnippetSandbox.Time.Span

/-!
# The configuration of a run

Eleven settings shape a run: where sources and classes are kept, which
diagnostics the runtime is asked for, and how long the two tools may take.
-/

namespace SnippetSandbox

/-- A switch that may also be left to the runtime. -/
inductive Mode
  | auto
  | forceOn
  | forceOff
  deriving DecidableEq, Repr, Inhabited

namespace Mode

def all : List Mode := [auto, forceOn, forceOff]

def name : Mode → String
  | auto => "auto"
  | forceOn => "force_on"
  | forceOff => "force_off"

def ofName? (word : String) : Option Mode :=
  all.find? fun mode => mode.name = word

theorem ofName?_name (mode : Mode) : ofName? mode.name = some mode := by
  cases mode <;> decide

end Mode

/-- The settings of a run.  A new configuration has the runtime's own thresholds
and a minute for each tool. -/
structure Config where
  sourceLocations : List String := []
  classLocations : List String := []
  printAssembly : Bool := false
  intelSyntax : Bool := false
  tieredCompilation : Mode := .auto
  compressedOops : Mode := .auto
  freqInlineSize : UInt32 := 325
  maxInlineSize : UInt32 := 35
  compilerThreshold : UInt32 := 10000
  compileTimeoutSecs : UInt64 := 60
  executeTimeoutSecs : UInt64 := 60
  deriving DecidableEq, Repr

namespace Config

/-- The configuration in which every setting has its default. -/
def standard : Config := {}

/-- How long the compiler may take. -/
def compileTimeout (config : Config) : Time.Span :=
  .ofSeconds config.compileTimeoutSecs.toNat

/-- How long the executed program may take. -/
def executeTimeout (config : Config) : Time.Span :=
  .ofSeconds config.executeTimeoutSecs.toNat

/-- One of the settings. -/
inductive Field
  | sourceLocations
  | classLocations
  | printAssembly
  | intelSyntax
  | tieredCompilation
  | compressedOops
  | freqInlineSize
  | maxInlineSize
  | compilerThreshold
  | compileTimeoutSecs
  | executeTimeoutSecs
  deriving DecidableEq, Repr

namespace Field

def all : List Field :=
  [sourceLocations, classLocations, printAssembly, intelSyntax, tieredCompilation,
    compressedOops, freqInlineSize, maxInlineSize, compilerThreshold, compileTimeoutSecs,
    executeTimeoutSecs]

def key : Field → String
  | sourceLocations => "source_locations"
  | classLocations => "class_locations"
  | printAssembly => "print_assembly"
  | intelSyntax => "intel_syntax"
  | tieredCompilation => "tiered_compilation"
  | compressedOops => "compressed_oops"
  | freqInlineSize => "freq_inline_size"
  | maxInlineSize => "max_inline_size"
  | compilerThreshold => "compiler_threshold"
  | compileTimeoutSecs => "compile_timeout_secs"
  | executeTimeoutSecs => "execute_timeout_secs"

def ofKey? (key : String) : Option Field :=
  all.find? fun field => field.key = key

theorem ofKey?_key (field : Field) : ofKey? field.key = some field := by
  cases field <;> decide

end Field

end Config

end SnippetSandbox
