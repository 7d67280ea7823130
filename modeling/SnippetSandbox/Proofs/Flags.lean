import Mathlib.Data.List.Forall2
import Mathlib.Data.List.Nodup
import SnippetSandbox.Flags
import SnippetSandbox.Text.Lines

/-!
# What a list of flags tells about a configuration

Each flag sets one option, and the options that the flags of a configuration set are among
those of a fixed list, in its order and no one twice.  So the flags of one setting cannot be
taken for those of another, and two configurations have the same flags just when they agree
on every setting that has any.
-/

namespace SnippetSandbox.Flags

open Text

/-- The name of an option without the sign of a switch. -/
def unsigned : List Char → List Char
  | '+' :: name | '-' :: name => name
  | name => name

/-- The option that a flag sets: what stands behind the mark of such flags and a sign, up to
the first equals sign. -/
def optionName? (flag : String) : Option String :=
  (after? "-XX:".toList flag.toList).map fun written =>
    String.ofList ((unsigned written).takeWhile fun letter => letter ≠ '=')

/-- The flags set some of these options, each no more than once and in their order. -/
def Sets (names flags : List String) : Prop :=
  (flags.map optionName?).Sublist (names.map some)

section OptionName

/-- A name that can stand for an option: nothing in it is a sign. -/
def isOptionName (name : String) : Bool :=
  name.toList ≠ [] && name.toList.all fun letter => letter ≠ '+' && letter ≠ '-' && letter ≠ '='

variable {name flag : String}

theorem optionName?_of_toList (written : List Char)
    (spelled : flag.toList = "-XX:".toList ++ written) : optionName? flag =
      some (String.ofList ((unsigned written).takeWhile fun letter => letter ≠ '=')) := by
  simp [optionName?, after?, spelled]

theorem unsigned_append (named : isOptionName name = true) (rest : List Char) :
    unsigned (name.toList ++ rest) = name.toList ++ rest := by
  rw [isOptionName, Bool.and_eq_true, List.all_eq_true] at named
  obtain ⟨some, noSign⟩ := named
  obtain ⟨first, others, spelled⟩ := List.exists_cons_of_ne_nil (of_decide_eq_true some)
  have noSigns := noSign first (by simp [spelled])
  rw [spelled, List.cons_append, unsigned]
  all_goals
    intro rest same
    cases same
    simp at noSigns

theorem takeWhile_name (named : isOptionName name = true) (rest : List Char) :
    (name.toList ++ rest).takeWhile (fun letter => letter ≠ '=') =
      name.toList ++ rest.takeWhile fun letter => letter ≠ '=' := by
  rw [isOptionName, Bool.and_eq_true, List.all_eq_true] at named
  refine List.takeWhile_append_of_pos fun letter isMember => ?_
  have noSigns := named.2 letter isMember
  rw [Bool.and_eq_true] at noSigns
  exact noSigns.2

theorem optionName?_switch (named : isOptionName name = true) :
    optionName? ("-XX:+" ++ name) = some name ∧ optionName? ("-XX:-" ++ name) = some name := by
  have whole := takeWhile_name named []
  rw [List.append_nil, List.takeWhile_nil, List.append_nil] at whole
  constructor
  · rw [optionName?_of_toList ('+' :: name.toList) (by simp), unsigned, whole,
      String.ofList_toList]
  · rw [optionName?_of_toList ('-' :: name.toList) (by simp), unsigned, whole,
      String.ofList_toList]

theorem optionName?_value (named : isOptionName name = true) (value : String) :
    optionName? ("-XX:" ++ name ++ "=" ++ value) = some name := by
  rw [optionName?_of_toList (name.toList ++ '=' :: value.toList) (by simp),
    unsigned_append named, takeWhile_name named]
  simp

end OptionName

namespace Sets

variable {names others first second third fourth : List String}

theorem append (one : Sets names first) (two : Sets others second) :
    Sets (names ++ others) (first ++ second) := by
  rw [Sets, List.map_append, List.map_append]
  exact List.Sublist.append one two

theorem append_inj (apart : names.Disjoint others) (one : Sets names first)
    (same : Sets names second) (two : Sets others third) (sameOther : Sets others fourth) :
    first ++ third = second ++ fourth ↔ first = second ∧ third = fourth := by
  -- Of a whole list, the flags in front are those that set one of the options in front.
  have inFront {front back : List String} (here : Sets names front) (there : Sets others back) :
      (front ++ back).filter (fun flag => optionName? flag ∈ names.map some) = front := by
    have all : ∀ flag ∈ front, optionName? flag ∈ names.map some := fun flag isMember =>
      here.subset (List.mem_map_of_mem isMember)
    have none : ∀ flag ∈ back, optionName? flag ∉ names.map some := by
      intro flag isMember isName
      obtain ⟨name, isHere, named⟩ := List.mem_map.mp isName
      obtain ⟨other, isThere, same⟩ := List.mem_map.mp (there.subset (List.mem_map_of_mem isMember))
      have equal : other = name := Option.some.inj (same.trans named.symm)
      exact apart isHere (equal ▸ isThere)
    rw [List.filter_append, List.filter_eq_self.mpr (by simpa using all),
      List.filter_eq_nil_iff.mpr (by simpa using none), List.append_nil]
  constructor
  · intro equal
    have sameFront : first = second := by
      rw [← inFront one two, equal, inFront same sameOther]
    subst sameFront
    exact ⟨rfl, List.append_cancel_left equal⟩
  · rintro ⟨rfl, rfl⟩
    rfl

theorem flatten {groups parts : List (List String)} (sets : List.Forall₂ Sets groups parts) :
    Sets groups.flatten parts.flatten := by
  induction sets with
  | nil => exact List.nil_sublist _
  | cons one _ ih => exact one.append ih

/-- Flags in one list tell the parts it was made of, if no two of these set the same option. -/
theorem flatten_inj {groups parts others : List (List String)} (apart : groups.flatten.Nodup)
    (sets : List.Forall₂ Sets groups parts) (setsOther : List.Forall₂ Sets groups others) :
    parts.flatten = others.flatten ↔ parts = others := by
  induction sets generalizing others with
  | nil =>
      cases setsOther
      simp
  | cons one rest ih =>
      obtain - | ⟨other, restOther⟩ := setsOther
      obtain ⟨-, apartRest, apartOne⟩ := List.nodup_append'.mp apart
      rw [List.flatten_cons, List.flatten_cons, one.append_inj apartOne other (flatten rest)
        (flatten restOther), ih apartRest restOther, List.cons.injEq]

end Sets

section Parts

variable {name : String}

theorem sets_modeSwitch (named : isOptionName name = true) (mode : Mode) :
    Sets [name] (modeSwitch name mode) := by
  obtain ⟨on, off⟩ := optionName?_switch named
  cases mode with
  | auto => exact List.nil_sublist _
  | forceOn => simp [Sets, modeSwitch, on]
  | forceOff => simp [Sets, modeSwitch, off]

theorem modeSwitch_inj {mode other : Mode} :
    modeSwitch name mode = modeSwitch name other ↔ mode = other := by
  have signs : "-XX:+" ++ name ≠ "-XX:-" ++ name := by
    intro same
    simpa using congrArg String.toList same
  cases mode <;> cases other <;> simp [modeSwitch, signs, signs.symm]

theorem sets_number (named : isOptionName name = true) (standard value : UInt32) :
    Sets [name] (number name standard value) := by
  rw [number]
  split
  next => exact List.nil_sublist _
  next => simp [Sets, optionName?_value named]

/-- A number is told by its digits, and by their absence when it is the default. -/
theorem number_inj {standard value other : UInt32} :
    number name standard value = number name standard other ↔ value = other := by
  have digits : decimal value.toNat = decimal other.toNat → value = other := by
    intro same
    have written := congrArg (fun text : String => Text.number text.toList) same
    simp only [decimal, String.toList_ofList, number_digits] at written
    exact UInt32.toNat_inj.mp written
  constructor
  · intro same
    rw [number, number] at same
    by_cases isDefault : value = standard <;> by_cases isOther : other = standard
    · rw [isDefault, isOther]
    · simp [isDefault, isOther] at same
    · simp [isDefault, isOther] at same
    · rw [if_neg isDefault, if_neg isOther, List.singleton_inj, String.append_right_inj] at same
      exact digits same
  · rintro rfl
    rfl

theorem sets_assembly (config : Config) :
    Sets ["PrintAssembly", "PrintAssemblyOptions"] (assembly config) := by
  rw [assembly, Sets]
  cases config.printAssembly <;> cases config.intelSyntax <;> decide

theorem assembly_inj {config other : Config} : assembly config = assembly other ↔
    config.printAssembly = other.printAssembly ∧
      (config.printAssembly = true → config.intelSyntax = other.intelSyntax) := by
  rw [assembly, assembly]
  cases config.printAssembly <;> cases other.printAssembly <;> cases config.intelSyntax <;>
    cases other.intelSyntax <;> simp

end Parts

/-- Two configurations agree on every setting that flags depend on. -/
structure Agree (config other : Config) : Prop where
  printAssembly : config.printAssembly = other.printAssembly
  /-- The syntax of printed code matters only where code is printed. -/
  intelSyntax : config.printAssembly = true → config.intelSyntax = other.intelSyntax
  tieredCompilation : config.tieredCompilation = other.tieredCompilation
  compressedOops : config.compressedOops = other.compressedOops
  freqInlineSize : config.freqInlineSize = other.freqInlineSize
  maxInlineSize : config.maxInlineSize = other.maxInlineSize
  compilerThreshold : config.compilerThreshold = other.compilerThreshold

section Build

/-- The options that flags can set, in their order, and the parts of a list of flags that set
them. -/
def options : List (List String) :=
  [["UnlockDiagnosticVMOptions", "TraceClassLoading", "LogCompilation"], ["LogFile"],
    ["PrintAssembly", "PrintAssemblyOptions"], ["TieredCompilation"], ["UseCompressedOops"],
    ["FreqInlineSize"], ["MaxInlineSize"], ["CompilerThreshold"]]

/-- The flags for a configuration and the file that is to hold the log, part by part. -/
def parts (config : Config) (log : String) : List (List String) :=
  [always, [logFile log], assembly config,
    modeSwitch "TieredCompilation" config.tieredCompilation,
    modeSwitch "UseCompressedOops" config.compressedOops,
    number "FreqInlineSize" Config.standard.freqInlineSize config.freqInlineSize,
    number "MaxInlineSize" Config.standard.maxInlineSize config.maxInlineSize,
    number "CompilerThreshold" Config.standard.compilerThreshold config.compilerThreshold]

theorem flatten_parts (config : Config) (log : String) :
    (parts config log).flatten = build config log := by
  simp [parts, build, conditional]

theorem sets_parts (config : Config) (log : String) :
    List.Forall₂ Sets options (parts config log) := by
  have log : Sets ["LogFile"] [logFile log] := by
    have named : optionName? (logFile log) = some "LogFile" :=
      optionName?_value (by decide : isOptionName "LogFile" = true) log
    simp [Sets, named]
  have always : Sets ["UnlockDiagnosticVMOptions", "TraceClassLoading", "LogCompilation"]
      always := by
    rw [Sets]
    decide
  exact .cons always (.cons log (.cons (sets_assembly config)
    (.cons (sets_modeSwitch (by decide) _) (.cons (sets_modeSwitch (by decide) _)
      (.cons (sets_number (by decide) _ _) (.cons (sets_number (by decide) _ _)
        (.cons (sets_number (by decide) _ _) .nil)))))))

theorem parts_inj {config other : Config} {log otherLog : String} :
    parts config log = parts other otherLog ↔ log = otherLog ∧ Agree config other := by
  simp only [parts, List.cons.injEq, true_and, and_true, logFile, String.append_right_inj,
    assembly_inj, modeSwitch_inj, number_inj]
  constructor
  · rintro ⟨log, ⟨printing, syntaxes⟩, tiered, pointers, size, maximum, threshold⟩
    exact ⟨log, printing, syntaxes, tiered, pointers, size, maximum, threshold⟩
  · rintro ⟨log, printing, syntaxes, tiered, pointers, size, maximum, threshold⟩
    exact ⟨log, ⟨printing, syntaxes⟩, tiered, pointers, size, maximum, threshold⟩

/-- Two lists of flags are the same just when they name the same log file and the
configurations agree on every setting that has a flag.  Each list begins with the flags of
every run and the log file, and the options that its flags set are among those of the fixed
order, in this order and no one twice. -/
theorem build_tells :
    (∀ config other log otherLog,
      build config log = build other otherLog ↔ log = otherLog ∧ Agree config other) ∧
    ∀ config log,
      ["-XX:+UnlockDiagnosticVMOptions", "-XX:+TraceClassLoading", "-XX:+LogCompilation",
        "-XX:LogFile=" ++ log] <+: build config log ∧
      ((build config log).map optionName?).Nodup ∧
      ((build config log).map optionName?).Sublist (options.flatten.map some) := by
  have apart : options.flatten.Nodup := by decide
  refine ⟨fun config other log otherLog => ?_, fun config log => ⟨?_, ?_, ?_⟩⟩
  · rw [← flatten_parts, ← flatten_parts,
      Sets.flatten_inj apart (sets_parts config log) (sets_parts other otherLog), parts_inj]
  · exact ⟨conditional config, rfl⟩
  · have sets := Sets.flatten (sets_parts config log)
    rw [flatten_parts] at sets
    exact (apart.map fun _ _ => Option.some.inj).sublist sets
  · rw [← flatten_parts]
    exact Sets.flatten (sets_parts config log)

end Build

end SnippetSandbox.Flags
