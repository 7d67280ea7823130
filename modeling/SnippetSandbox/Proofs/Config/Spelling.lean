import SnippetSandbox.Proofs.Config.Settings

/-!
# Ways to write a setting

Every text can be written between quotes and every number in digits, so there is a value for
every setting that a configuration can have.  It is not the only one: a switch can also be
written as an object, and a text with other escapes.
-/

namespace SnippetSandbox.Config

open Json Text

theorem isQuoted_encodeChar (character : Char) {written : List Char} (others : IsQuoted written) :
    IsQuoted (encodeChar character ++ written) := by
  unfold encodeChar
  split
  case h_8 other noQuote noBackslash _ _ _ _ _ =>
    split
    next control =>
      refine .unit ?_ others
      have zero : hexValue? '0' = some 0 := by decide
      have high : hexValue? (hexDigit (character.toNat / 16)) = some (character.toNat / 16) :=
        hexValue?_hexDigit (by omega)
      have low : hexValue? (hexDigit (character.toNat % 16)) = some (character.toNat % 16) :=
        hexValue?_hexDigit (by omega)
      simp [zero, high, low]
    next printed => exact .plain (Nat.not_lt.mp printed) noQuote noBackslash others
  all_goals exact .letter (by decide) others

theorem isQuoted_flatMap (text : List Char) : IsQuoted (text.flatMap encodeChar) := by
  induction text with
  | nil => exact .nil
  | cons character text ih =>
      rw [List.flatMap_cons]
      exact isQuoted_encodeChar character ih

/-- A text, written like those that are stored. -/
def quoted (text : String) : Quoted :=
  ⟨text.toList.flatMap encodeChar, isQuoted_flatMap text.toList⟩

theorem decoded?_quoted (text : String) : decoded? (quoted text).written = some text.toList := by
  have read := readText_encoded text.toList []
  rw [decoded?, quoted, read]
  rfl

theorem text?_quoted (text : String) : text? (quoted text) = some text := by
  rw [text?, decoded?_quoted]
  simp

theorem strings?_quoted (texts : List String) :
    strings? (texts.map fun text => .text (quoted text)) = some texts := by
  induction texts with
  | nil => rfl
  | cons text texts ih => simp [strings?, string?, text?_quoted, ih]

/-- A number, written with as many digits as it needs. -/
def numeral (value : Nat) : Numeral where
  isNegative := false
  whole := ⟨digits value, all_isDigit_digits value, digits_ne_nil value⟩
  noZero front := by
    by_cases zero : value = 0
    · subst zero
      simp [digits, digitChar]
    · exact absurd front (head_digits zero)
  fraction := none
  exponent := none

theorem bounded?_numeral {bound value : Nat} (fits : value ≤ largestNatural)
    (small : value < bound) : bounded? bound (.number (numeral value)) = some value := by
  have read := @readNumber_digits value [] fits nofun
  have written : (numeral value).unsigned = digits value ++ [] := rfl
  rw [bounded?, written, numeral, read]
  simp [Except.toOption, boundedNumber, small]

/-- A way to write each setting. -/
def valueOf (config : Config) : Field → Value
  | .sourceLocations => .list (config.sourceLocations.map fun text => .text (quoted text))
  | .classLocations => .list (config.classLocations.map fun text => .text (quoted text))
  | .printAssembly => .word (if config.printAssembly then .yes else .no)
  | .intelSyntax => .word (if config.intelSyntax then .yes else .no)
  | .tieredCompilation => .text (quoted config.tieredCompilation.name)
  | .compressedOops => .text (quoted config.compressedOops.name)
  | .freqInlineSize => .number (numeral config.freqInlineSize.toNat)
  | .maxInlineSize => .number (numeral config.maxInlineSize.toNat)
  | .compilerThreshold => .number (numeral config.compilerThreshold.toNat)
  | .compileTimeoutSecs => .number (numeral config.compileTimeoutSecs.toNat)
  | .executeTimeoutSecs => .number (numeral config.executeTimeoutSecs.toNat)

theorem bounded?_uint32 (value : UInt32) :
    bounded? UInt32.size (.number (numeral value.toNat)) = some value.toNat :=
  bounded?_numeral (uint32_le_largestNatural value) value.toNat_lt_size

theorem bounded?_uint64 (value : UInt64) :
    bounded? UInt64.size (.number (numeral value.toNat)) = some value.toNat :=
  bounded?_numeral (uint64_le_largestNatural value) value.toNat_lt_size

/-- The value is a way to write this setting of the configuration. -/
def States (config : Config) (field : Field) (value : Value) : Prop :=
  said? field value = some (config.filled standard field)

theorem states_valueOf (config : Config) (field : Field) :
    States config field (config.valueOf field) := by
  have flag (value : Bool) : flag? (.word (if value then .yes else .no)) = some value := by
    cases value <;> rfl
  have mode (value : Mode) : mode? (.text (quoted value.name)) = some value := by
    rw [mode?, text?_quoted, Option.bind_some, Mode.ofName?_name]
  cases field with
  | sourceLocations | classLocations =>
      simp [States, said?, valueOf, stringList?, strings?_quoted, filled, standard]
  | printAssembly | intelSyntax =>
      simp [States, said?, valueOf, flag, filled, standard]
  | tieredCompilation | compressedOops =>
      simp [States, said?, valueOf, mode, filled, standard]
  | freqInlineSize | maxInlineSize | compilerThreshold =>
      simp [States, said?, valueOf, bounded?_uint32, filled, standard]
  | compileTimeoutSecs | executeTimeoutSecs =>
      simp [States, said?, valueOf, bounded?_uint64, filled, standard]

end SnippetSandbox.Config
