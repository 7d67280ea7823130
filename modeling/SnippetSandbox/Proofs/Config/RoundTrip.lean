import Mathlib
import SnippetSandbox.Config.Store
import SnippetSandbox.Proofs.Config.Values
import SnippetSandbox.Proofs.FileSystem.Disk

/-!
# A stored configuration is loaded again

The members of a stored configuration are read one after another, and each one
fills in the setting that it was written for.  After the last of them every
setting has the value that was saved, whatever the defaults were.
-/

namespace SnippetSandbox.Config

open FileSystem Json Text

/-- A configuration that has one setting from another one. -/
def filled (source config : Config) : Field → Config
  | .sourceLocations => { config with sourceLocations := source.sourceLocations }
  | .classLocations => { config with classLocations := source.classLocations }
  | .printAssembly => { config with printAssembly := source.printAssembly }
  | .intelSyntax => { config with intelSyntax := source.intelSyntax }
  | .tieredCompilation => { config with tieredCompilation := source.tieredCompilation }
  | .compressedOops => { config with compressedOops := source.compressedOops }
  | .freqInlineSize => { config with freqInlineSize := source.freqInlineSize }
  | .maxInlineSize => { config with maxInlineSize := source.maxInlineSize }
  | .compilerThreshold => { config with compilerThreshold := source.compilerThreshold }
  | .compileTimeoutSecs => { config with compileTimeoutSecs := source.compileTimeoutSecs }
  | .executeTimeoutSecs => { config with executeTimeoutSecs := source.executeTimeoutSecs }

theorem foldl_filled (source config : Config) :
    Field.all.foldl source.filled config = source := by
  simp only [Field.all, List.foldl_cons, List.foldl_nil, filled]

theorem uint32_le_largestNatural (value : UInt32) : value.toNat ≤ largestNatural := by
  have small := value.toNat_lt_size
  simp only [UInt32.size, largestNatural] at *
  omega

theorem uint64_le_largestNatural (value : UInt64) : value.toNat ≤ largestNatural := by
  have small := value.toNat_lt_size
  simp only [UInt64.size, largestNatural] at *
  omega

theorem readBounded_uint32 {text rest : List Char} {value : UInt32}
    (faced : skipGap text = digits value.toNat ++ rest) (ends : EndsNumber rest) :
    readBounded "u32" UInt32.size text = .ok (value.toNat, rest) :=
  readBounded_written faced ends (uint32_le_largestNatural value) value.toNat_lt_size

theorem readBounded_uint64 {text rest : List Char} {value : UInt64}
    (faced : skipGap text = digits value.toNat ++ rest) (ends : EndsNumber rest) :
    readBounded "u64" UInt64.size text = .ok (value.toNat, rest) :=
  readBounded_written faced ends (uint64_le_largestNatural value) value.toNat_lt_size

theorem readField_written {text rest : List Char} (source config : Config) (field : Field)
    (faced : skipGap text = source.written field ++ rest) (ends : EndsNumber rest) :
    readField field config text = .ok (source.filled config field, rest) := by
  cases field with
  | sourceLocations | classLocations =>
      rw [readField, readStringList_written faced]
      rfl
  | printAssembly | intelSyntax =>
      rw [readField, readBool_written faced]
      rfl
  | tieredCompilation | compressedOops =>
      rw [readField, readMode_written faced]
      rfl
  | freqInlineSize | maxInlineSize | compilerThreshold =>
      rw [readField, readBounded_uint32 faced ends]
      simp only [Except.map, UInt32.ofNat_toNat, filled]
  | compileTimeoutSecs | executeTimeoutSecs =>
      rw [readField, readBounded_uint64 faced ends]
      simp only [Except.map, UInt64.ofNat_toNat, filled]

/-- A key that has not been given yet leads to the value behind its colon. -/
theorem readMembers_key {fuel : Nat} {first : Bool} {given : List Field} {field : Field}
    {config changed : Config} {text rest remaining : List Char}
    (next : nextMember first text = .ok (.key field.key.toList (':' :: rest)))
    (new : field ∉ given) (read : readField field config rest = .ok (changed, remaining)) :
    readMembers (fuel + 1) first given config text =
      readMembers fuel false (field :: given) changed remaining := by
  have colon : readColon (':' :: rest) = .ok rest := rfl
  rw [readMembers.eq_def, next]
  simp only [String.ofList_toList, Field.ofKey?_key, if_neg new, colon, read]

theorem member_append (config : Config) (field : Field) (rest : List Char) :
    config.member field ++ rest =
      ' ' :: ' ' :: '"' :: (field.key.toList.flatMap encodeChar ++
        '"' :: ':' :: ' ' :: config.written field ++ rest) := by
  simp [member, encode]

theorem keyBehindQuote_member (config : Config) (field : Field) (rest : List Char) :
    keyBehindQuote (field.key.toList.flatMap encodeChar ++
        '"' :: ':' :: ' ' :: config.written field ++ rest) =
      .ok (.key field.key.toList (':' :: ' ' :: config.written field ++ rest)) := by
  rw [List.append_assoc, List.cons_append, keyBehindQuote, readText_encoded]
  rfl

theorem nextMember_first (config : Config) (field : Field) (rest : List Char) :
    nextMember true ('\n' :: (config.member field ++ rest)) =
      .ok (.key field.key.toList (':' :: ' ' :: config.written field ++ rest)) := by
  rw [← keyBehindQuote_member, member_append]
  rfl

theorem nextMember_further (config : Config) (field : Field) (rest : List Char) :
    nextMember false (',' :: '\n' :: (config.member field ++ rest)) =
      .ok (.key field.key.toList (':' :: ' ' :: config.written field ++ rest)) := by
  rw [← keyBehindQuote_member, member_append]
  rfl

/-- The other members of an object, each behind the line of the one before. -/
def furtherMembers (config : Config) (fields : List Field) : List Char :=
  fields.flatMap fun field => ',' :: '\n' :: config.member field

theorem isGap_of_isDigit {character : Char} (isDigit : character.isDigit = true) :
    isGap character = false := by
  cases gap : isGap character with
  | false => rfl
  | true =>
      simp only [isGap, Bool.or_eq_true, decide_eq_true_eq] at gap
      rcases gap with ((rfl | rfl) | rfl) | rfl <;> cases isDigit

/-- A value has something to it and does not begin with a gap. -/
theorem written_front (config : Config) (field : Field) :
    ∃ first others, config.written field = first :: others ∧ isGap first = false := by
  have number (value : Nat) :
      ∃ first others, digits value = first :: others ∧ isGap first = false := by
    have areDigits := all_isDigit_digits value
    cases written : digits value with
    | nil => exact absurd written (digits_ne_nil value)
    | cons first others =>
        rw [written, List.all_cons, Bool.and_eq_true] at areDigits
        exact ⟨first, others, rfl, isGap_of_isDigit areDigits.1⟩
  have locations (values : List String) :
      ∃ first others, writtenLocations values = first :: others ∧ isGap first = false := by
    cases values with
    | nil => exact ⟨_, _, rfl, rfl⟩
    | cons => exact ⟨_, _, rfl, rfl⟩
  have flag (value : Bool) :
      ∃ first others, writtenFlag value = first :: others ∧ isGap first = false := by
    cases value with
    | false => exact ⟨_, _, rfl, rfl⟩
    | true => exact ⟨_, _, rfl, rfl⟩
  cases field with
  | sourceLocations | classLocations => exact locations _
  | printAssembly | intelSyntax => exact flag _
  | tieredCompilation | compressedOops => exact ⟨_, _, rfl, rfl⟩
  | freqInlineSize | maxInlineSize | compilerThreshold => exact number _
  | compileTimeoutSecs | executeTimeoutSecs => exact number _

theorem skipGap_written (config : Config) (field : Field) (rest : List Char) :
    skipGap (' ' :: config.written field ++ rest) = config.written field ++ rest := by
  obtain ⟨first, others, shape, noGap⟩ := written_front config field
  rw [shape, List.cons_append, List.cons_append, skipGap, List.dropWhile_cons_of_pos rfl,
    List.dropWhile_cons_of_neg (by simp [noGap])]

theorem endsNumber_furtherMembers (config : Config) (fields : List Field) :
    EndsNumber (config.furtherMembers fields ++ "\n\x7d".toList) := by
  cases fields with
  | nil =>
      rintro character ⟨⟩
      decide
  | cons field fields =>
      rintro character ⟨⟩
      decide

theorem readMembers_furtherMembers {fuel : Nat} {given fields : List Field}
    (source config : Config) (enough : fields.length ≤ fuel) (distinct : fields.Nodup)
    (new : ∀ field ∈ fields, field ∉ given) :
    readMembers fuel false given config (source.furtherMembers fields ++ "\n\x7d".toList) =
      .ok (fields.foldl source.filled config, []) := by
  induction fields generalizing fuel given config with
  | nil => cases fuel <;> rfl
  | cons field fields ih =>
      cases fuel with
      | zero => simp at enough
      | succ fuel =>
          have line : source.furtherMembers (field :: fields) ++ "\n\x7d".toList =
              ',' :: '\n' :: (source.member field ++
                (source.furtherMembers fields ++ "\n\x7d".toList)) := by
            simp [furtherMembers]
          obtain ⟨once, distinct⟩ := List.nodup_cons.mp distinct
          rw [line, readMembers_key (source.nextMember_further field _) (new field (by simp))
            (readField_written source config field (source.skipGap_written field _)
              (source.endsNumber_furtherMembers fields)), List.foldl_cons]
          refine ih _ (by simpa using enough) distinct ?_
          intro other isLater given
          rcases List.mem_cons.mp given with rfl | before
          · exact once isLater
          · exact new other (List.mem_cons_of_mem _ isLater) before

/-- There are as many lines for the other members, and more characters than that. -/
theorem length_le_furtherMembers (config : Config) (fields : List Field) :
    fields.length ≤ (config.furtherMembers fields).length := by
  induction fields with
  | nil => exact Nat.zero_le _
  | cons field fields ih =>
      simp only [furtherMembers, List.flatMap_cons, List.length_cons, List.length_append] at ih ⊢
      omega

theorem readConfig_render (config : Config) :
    readConfig config.render.toList = .ok (config, []) := by
  obtain ⟨others, all⟩ : ∃ others, Field.all = .sourceLocations :: others := ⟨_, rfl⟩
  have distinct : (Field.sourceLocations :: others).Nodup := by
    rw [← all]
    decide
  obtain ⟨once, distinct⟩ := List.nodup_cons.mp distinct
  have document : config.render.toList = '\x7b' :: '\n' :: (config.member .sourceLocations ++
      (config.furtherMembers others ++ "\n\x7d".toList)) := by
    rw [render, all, List.map_cons, intercalate_cons, String.toList_ofList]
    simp [furtherMembers, List.flatMap_map]
  have enough := config.length_le_furtherMembers others
  rw [document]
  change readMembers (_ + 1) true [] standard _ = _
  rw [readMembers_key (config.nextMember_first .sourceLocations _) (by simp)
      (readField_written config standard _ (config.skipGap_written _ _)
        (config.endsNumber_furtherMembers others)),
    readMembers_furtherMembers _ _ _ distinct, ← List.foldl_cons, ← all, foldl_filled]
  · rintro other isLater given
    rw [List.mem_singleton.mp given] at isLater
    exact once isLater
  · simp only [List.length_append]
    omega

/-- A written configuration is read back whole. -/
theorem parse_render (config : Config) : parse config.render = .ok config := by
  rw [parse, readDocument, readConfig_render]
  rfl

theorem save_ok {path : String} {config : Config} {before after : Disk}
    (saved : config.save path before = (.ok (), after)) :
    ∃ between, before.Grows between ∧
      writeText path config.render between = (.ok (), after) := by
  rw [save] at saved
  cases around : Path.parent? path with
  | none =>
      rw [around] at saved
      exact ⟨before, .refl before, reportedFor_ok saved⟩
  | some parent =>
      rw [around] at saved
      obtain ⟨⟨⟩, between, made, written⟩ := Effect.bind_ok saved
      refine ⟨between, ?_, reportedFor_ok written⟩
      have grows := Disk.Grows.makeDirectoriesUp (Path.segments parent).length parent before
      rw [← makeDirectories, reportedFor_ok made] at grows
      exact grows

/-- Settings that need escapes, and numbers as large as they can be. -/
def extreme : Config :=
  { sourceLocations := ["", "\"\\\x00\x1f\n", "😀"]
    classLocations := ["\t\x7f\ud7ff"]
    intelSyntax := true
    compressedOops := .forceOff
    compilerThreshold := 0xffffffff
    executeTimeoutSecs := 0xffffffffffffffff }

end SnippetSandbox.Config
