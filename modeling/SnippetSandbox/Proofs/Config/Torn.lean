import SnippetSandbox.Proofs.Config.RoundTrip
import SnippetSandbox.Proofs.Json.Delimited

/-!
# A torn configuration is not taken for one

A stored configuration is one object or one list, and what has been read of a
document does not change when the document goes on.  So a text from which a
configuration is read has its closing bracket in it, and nothing that is cut off
in front of that bracket is read as a configuration, whatever it was cut from.
-/

namespace SnippetSandbox.Config

open FileSystem Json

/-- What is made of a value that was read is made of some value. -/
theorem map_ok {Read Made : Type} {read : Except Halt Read} {make : Read → Made} {made : Made}
    (done : read.map make = .ok made) : ∃ value, read = .ok value ∧ make value = made := by
  cases read with
  | error halt => cases done
  | ok value => exact ⟨value, rfl, Except.ok.inj done⟩

theorem readString_append {text rest : List Char} {value : String}
    (read : readString text = .ok (value, rest)) (more : List Char) :
    readString (text ++ more) = .ok (value, rest ++ more) := by
  unfold readString at read
  split at read
  next behind opened =>
    split at read
    next => cases read
    next characters remaining textRead =>
      cases read
      simp only [readString, skipGap_append opened, readText_append textRead]
  next => cases read

theorem readBool_append {text rest : List Char} {value : Bool}
    (read : readBool text = .ok (value, rest)) (more : List Char) :
    readBool (text ++ more) = .ok (value, rest ++ more) := by
  unfold readBool at read
  split at read
  next behind faced =>
    obtain ⟨remaining, word, same⟩ := map_ok read
    cases same
    rw [readBool, skipGap_append faced]
    simp only [readLetters_append word, Except.map]
  next behind faced =>
    obtain ⟨remaining, word, same⟩ := map_ok read
    cases same
    rw [readBool, skipGap_append faced]
    simp only [readLetters_append word, Except.map]
  next => cases read

theorem boundedNumber_append {expected : String} {bound value : Nat} {number : Number}
    {text rest : List Char} (read : boundedNumber expected bound number text = .ok (value, rest)) :
    rest = text ∧ ∀ more, boundedNumber expected bound number more = .ok (value, more) := by
  unfold boundedNumber at read
  split at read
  next =>
    split at read
    next small =>
      cases read
      exact ⟨rfl, fun more => if_pos small⟩
    next => cases read
  next => cases read
  next => cases read

theorem readBounded_append {expected : String} {bound value : Nat} {text rest : List Char}
    (read : readBounded expected bound text = .ok (value, rest)) (ended : rest ≠ [])
    (more : List Char) :
    readBounded expected bound (text ++ more) = .ok (value, rest ++ more) := by
  unfold readBounded at read
  split at read
  next => cases read
  next behind faced =>
    split at read
    next => cases read
    next number remaining numberRead =>
      obtain ⟨rfl, anyRest⟩ := boundedNumber_append read
      simp only [readBounded, skipGap_append faced, readNumber_append numberRead ended, anyRest]
  next character behind noSign faced =>
    split at read
    next isDigit =>
      split at read
      next => cases read
      next number remaining numberRead =>
        obtain ⟨rfl, anyRest⟩ := boundedNumber_append read
        have numberRead := readNumber_append numberRead ended more
        rw [List.cons_append] at numberRead
        rw [readBounded, skipGap_append faced]
        simp only [if_pos isDigit, numberRead, anyRest]
    next => cases read

theorem modeOfText_append {characters text rest : List Char} {mode : Mode}
    (read : modeOfText characters text = .ok (mode, rest)) :
    rest = text ∧ ∀ more, modeOfText characters more = .ok (mode, more) := by
  unfold modeOfText at read
  split at read
  next known =>
    cases read
    refine ⟨rfl, fun more => ?_⟩
    simp only [modeOfText, known]
  next => cases read

theorem readModeEnd_append {mode read : Mode} {text rest : List Char}
    (ends : readModeEnd mode text = .ok (read, rest)) (more : List Char) :
    readModeEnd mode (text ++ more) = .ok (read, rest ++ more) := by
  unfold readModeEnd at ends
  split at ends
  next => cases ends
  next behind faced =>
    split at ends
    next => cases ends
    next remaining word =>
      split at ends
      next closed =>
        cases ends
        simp only [readModeEnd, skipGap_append faced, readLetters_append word,
          skipGap_append closed]
      next => cases ends
      next => cases ends
  next => cases ends

theorem readModeObject_append {mode : Mode} {text rest : List Char}
    (read : readModeObject text = .ok (mode, rest)) (more : List Char) :
    readModeObject (text ++ more) = .ok (mode, rest ++ more) := by
  unfold readModeObject at read
  split at read
  next => cases read
  next behind faced =>
    split at read
    next => cases read
    next characters remaining textRead =>
      split at read
      next => cases read
      next named after chosen =>
        obtain ⟨rfl, anyRest⟩ := modeOfText_append chosen
        split at read
        next => cases read
        next value colon =>
          simp only [readModeObject, skipGap_append faced, readText_append textRead, anyRest,
            skipGap_append colon, readModeEnd_append read]
        next => cases read
  next => cases read
  next => cases read

theorem readMode_append {mode : Mode} {text rest : List Char}
    (read : readMode text = .ok (mode, rest)) (more : List Char) :
    readMode (text ++ more) = .ok (mode, rest ++ more) := by
  unfold readMode at read
  split at read
  next => cases read
  next behind faced =>
    split at read
    next => cases read
    next characters remaining textRead =>
      obtain ⟨rfl, anyRest⟩ := modeOfText_append read
      simp only [readMode, skipGap_append faced, readText_append textRead, anyRest]
  next behind faced =>
    rw [readMode, skipGap_append faced]
    exact readModeObject_append read more
  next => cases read

def NextElement.append : NextElement → List Char → NextElement
  | .element text, more => .element (text ++ more)
  | .closed rest, more => .closed (rest ++ more)

theorem nextElement_append {first : Bool} {text : List Char} {next : NextElement}
    (found : nextElement first text = .ok next) (more : List Char) :
    nextElement first (text ++ more) = .ok (next.append more) := by
  unfold nextElement at found
  split at found
  next => cases found
  next rest faced =>
    cases found
    rw [nextElement, skipGap_append faced]
    rfl
  next character rest noEnd faced =>
    rw [nextElement, skipGap_append faced]
    split
    next empty => cases empty
    next same => exact absurd (List.cons.inj same).1 noEnd
    next same =>
      cases same
      split at found
      next isFirst =>
        cases found
        rw [if_pos isFirst]
        rfl
      next further =>
        rw [if_neg further]
        split at found
        next comma =>
          rw [if_pos comma]
          cases behind : skipGap rest with
          | nil =>
              rw [behind] at found
              cases found
          | cons following others =>
              rw [behind] at found
              rw [skipGap_append behind]
              split at found
              next empty => cases empty
              next => cases found
              next noBracket =>
                cases found
                split
                next empty => cases empty
                next same => exact absurd (by rw [(List.cons.inj same).1]) (noBracket others)
                next => rfl
        next => cases found

theorem readStrings_append {first : Bool} {text rest : List Char} {values : List String}
    (read : readStrings first text = .ok (values, rest)) (more : List Char) :
    readStrings first (text ++ more) = .ok (values, rest ++ more) := by
  fun_induction readStrings first text generalizing values with
  | case2 first text remaining closed =>
      cases read
      exact readStrings_closed (nextElement_append closed more)
  | case5 first text element next value remaining valueRead others last othersRead ih =>
      cases read
      exact readStrings_element (nextElement_append next more) (readString_append valueRead more)
        (ih othersRead)
  | _ => cases read

theorem readStringList_append {text rest : List Char} {values : List String}
    (read : readStringList text = .ok (values, rest)) (more : List Char) :
    readStringList (text ++ more) = .ok (values, rest ++ more) := by
  unfold readStringList at read
  split at read
  next behind faced =>
    rw [readStringList, skipGap_append faced]
    exact readStrings_append read more
  next => cases read

theorem readField_append {field : Field} {config changed : Config} {text rest : List Char}
    (read : readField field config text = .ok (changed, rest)) (ended : rest ≠ [])
    (more : List Char) :
    readField field config (text ++ more) = .ok (changed, rest ++ more) := by
  cases field with
  | sourceLocations | classLocations =>
      obtain ⟨⟨value, remaining⟩, done, same⟩ := map_ok read
      cases same
      rw [readField, readStringList_append done]
      rfl
  | printAssembly | intelSyntax =>
      obtain ⟨⟨value, remaining⟩, done, same⟩ := map_ok read
      cases same
      rw [readField, readBool_append done]
      rfl
  | tieredCompilation | compressedOops =>
      obtain ⟨⟨value, remaining⟩, done, same⟩ := map_ok read
      cases same
      rw [readField, readMode_append done]
      rfl
  | freqInlineSize | maxInlineSize | compilerThreshold | compileTimeoutSecs
  | executeTimeoutSecs =>
      obtain ⟨⟨value, remaining⟩, done, same⟩ := map_ok read
      cases same
      rw [readField, readBounded_append done ended]
      rfl

theorem readListEnd_append {text rest : List Char} (read : readListEnd text = .ok rest)
    (more : List Char) : readListEnd (text ++ more) = .ok (rest ++ more) := by
  unfold readListEnd at read
  split at read
  next closed =>
    cases read
    rw [readListEnd, skipGap_append closed]
    rfl
  next => cases read
  next => split at read <;> cases read
  next => cases read

theorem readValues_append {first : Bool} {config changed : Config} {text rest : List Char}
    {fields : List Field} (read : readValues first config text fields = .ok (changed, rest))
    (more : List Char) :
    readValues first config (text ++ more) fields = .ok (changed, rest ++ more) := by
  induction fields generalizing first config text with
  | nil =>
      obtain ⟨remaining, closed, same⟩ := map_ok read
      cases same
      rw [readValues, readListEnd_append closed]
      rfl
  | cons field fields ih =>
      rw [readValues] at read
      split at read
      next => cases read
      next remaining closed =>
        cases read
        rw [readValues, nextElement_append closed]
        rfl
      next element next =>
        split at read
        next => cases read
        next filled behind valueRead =>
          have ended : behind ≠ [] := by
            rintro rfl
            cases fields <;> cases read
          rw [readValues, nextElement_append next]
          simp only [NextElement.append, readField_append valueRead ended]
          exact ih read

def NextMember.append : NextMember → List Char → NextMember
  | .key characters rest, more => .key characters (rest ++ more)
  | .closed rest, more => .closed (rest ++ more)

theorem keyBehindQuote_append {text : List Char} {next : NextMember}
    (found : keyBehindQuote text = .ok next) (more : List Char) :
    keyBehindQuote (text ++ more) = .ok (next.append more) := by
  obtain ⟨⟨characters, rest⟩, read, same⟩ := map_ok found
  cases same
  rw [keyBehindQuote, readText_append read]
  rfl

theorem nextMember_append {first : Bool} {text : List Char} {next : NextMember}
    (found : nextMember first text = .ok next) (more : List Char) :
    nextMember first (text ++ more) = .ok (next.append more) := by
  unfold nextMember at found
  split at found
  next => cases found
  next rest faced =>
    cases found
    rw [nextMember, skipGap_append faced]
    rfl
  next character rest noEnd faced =>
    rw [nextMember, skipGap_append faced]
    split
    next empty => cases empty
    next same => exact absurd (List.cons.inj same).1 noEnd
    next same =>
      cases same
      split at found
      next isFirst =>
        rw [if_pos isFirst]
        split at found
        next quote =>
          rw [if_pos quote]
          exact keyBehindQuote_append found more
        next => cases found
      next further =>
        rw [if_neg further]
        split at found
        next comma =>
          rw [if_pos comma]
          split at found
          next => cases found
          next behind quote =>
            rw [skipGap_append quote]
            exact keyBehindQuote_append found more
          next => cases found
          next => cases found
        next => cases found

theorem readColon_append {text rest : List Char} (read : readColon text = .ok rest)
    (more : List Char) : readColon (text ++ more) = .ok (rest ++ more) := by
  unfold readColon at read
  split at read
  next => cases read
  next colon =>
    cases read
    rw [readColon, skipGap_append colon]
    rfl
  next => cases read

/-- At the end of a text no member follows and nothing closes the object. -/
theorem ne_nil_of_readMembers {fuel : Nat} {first : Bool} {given : List Field}
    {config changed : Config} {text rest : List Char}
    (read : readMembers fuel first given config text = .ok (changed, rest)) : text ≠ [] := by
  rintro rfl
  cases fuel <;> cases read

/-- Members stay read when more text follows and more of them would be allowed. -/
theorem readMembers_append {fuel larger : Nat} {first : Bool} {given : List Field}
    {config changed : Config} {text rest : List Char}
    (read : readMembers fuel first given config text = .ok (changed, rest))
    (enough : fuel ≤ larger) (more : List Char) :
    readMembers larger first given config (text ++ more) = .ok (changed, rest ++ more) := by
  fun_induction readMembers fuel first given config text generalizing larger with
  | case2 fuel first given config text remaining closed =>
      cases read
      rw [readMembers.eq_def, nextMember_append closed]
      rfl
  | case7 first given config text fuel characters rest next field known new value colon changed
      remaining valueRead ih =>
      obtain ⟨larger, rfl⟩ := Nat.exists_eq_add_of_le' enough
      rw [readMembers.eq_def, nextMember_append next]
      simp only [NextMember.append, known, if_neg new, readColon_append colon,
        readField_append valueRead (ne_nil_of_readMembers read)]
      exact ih read (Nat.le_add_left _ _)
  | case10 first given config text fuel characters rest next unknown value colon remaining
      skipped ih =>
      obtain ⟨larger, rfl⟩ := Nat.exists_eq_add_of_le' enough
      rw [readMembers.eq_def, nextMember_append next]
      simp only [NextMember.append, unknown, readColon_append colon,
        skipValue_append skipped (ne_nil_of_readMembers read)]
      exact ih read (Nat.le_add_left _ _)
  | _ => cases read

/-- A configuration that was read from a text is read from every longer one, up to
the same place. -/
theorem readConfig_append {config : Config} {text rest : List Char}
    (read : readConfig text = .ok (config, rest)) (more : List Char) :
    readConfig (text ++ more) = .ok (config, rest ++ more) := by
  unfold readConfig at read
  split at read
  next behind faced =>
    rw [readConfig, skipGap_append faced]
    exact readMembers_append read (by simp) more
  next behind faced =>
    rw [readConfig, skipGap_append faced]
    exact readValues_append read more
  next => cases read

/-- No front part of a text that holds a configuration up to its end holds one. -/
theorem eq_of_readDocument_prefix {whole front : List Char} {config other : Config}
    (isPrefix : front <+: whole) (wholeRead : readConfig whole = .ok (config, []))
    (frontRead : readDocument front = .ok other) : front = whole := by
  unfold readDocument at frontRead
  split at frontRead
  next => cases frontRead
  next found rest read =>
    obtain ⟨more, rfl⟩ := isPrefix
    have again := readConfig_append read more
    rw [wholeRead] at again
    obtain ⟨-, none⟩ := Prod.mk.inj (Except.ok.inj again)
    obtain ⟨-, rfl⟩ := List.append_eq_nil_iff.mp none.symm
    rw [List.append_nil]

/-- What is cut off a stored configuration has a problem. -/
theorem parse_front {config : Config} {text : String}
    (isPrefix : text.toList <+: config.render.toList) (cut : text ≠ config.render) :
    ∃ problem position, parse text = .error (problem, position) := by
  cases parsed : parse text with
  | error problem => exact ⟨problem.1, problem.2, rfl⟩
  | ok other =>
      unfold parse at parsed
      split at parsed
      next found read =>
        have same := eq_of_readDocument_prefix isPrefix config.readConfig_render read
        exact absurd (String.toList_injective same) cut
      next => cases parsed

/-- A text made of the first bytes of another one is the front part of it. -/
theorem isPrefix_of_fromUTF8? {text whole : String} {count : Nat}
    (within : count ≤ whole.toUTF8.size)
    (made : String.fromUTF8? (whole.toUTF8.extract 0 count) = some text) :
    text.toList <+: whole.toList ∧ text.toUTF8 = whole.toUTF8.extract 0 count := by
  have bytes : text.toUTF8 = whole.toUTF8.extract 0 count := by
    unfold String.fromUTF8? at made
    split at made
    next =>
      cases made
      rfl
    next => cases made
  refine ⟨?_, bytes⟩
  refine List.isPrefix_of_utf8Encode_append_eq_utf8Encode
    (whole.toUTF8.extract count whole.toUTF8.size) ?_
  rw [String.utf8Encode_toList, String.utf8Encode_toList]
  calc
    text.toUTF8 ++ whole.toUTF8.extract count whole.toUTF8.size
        = whole.toUTF8.extract 0 whole.toUTF8.size := by
          rw [bytes, ByteArray.extract_append_extract, Nat.max_eq_right within, Nat.zero_min]
    _ = whole.toUTF8 := ByteArray.extract_zero_size

/-- A read that was refused is reported, unless nothing was there to be read. -/
theorem ofFile_error {path : String} {cause : Cause} (present : cause ≠ .notFound) :
    ofFile path (.error cause) = .error (.fileSystem path cause) := by
  rw [ofFile]
  exact present

/-- A file that holds only the front part of a stored configuration, wherever it
was cut, is loaded as no configuration at all: what is left of the text has a
problem, or is no text.  A read that is refused is reported like any other; only
one for which the file is not there stands for the defaults. -/
theorem load_torn {path : String} {config : Config} {disk : Disk} {count identity : Nat}
    {executable : Bool} (torn : count < config.render.toUTF8.size)
    (found : disk.entryAt? path =
      .ok (.file identity (config.render.toUTF8.extract 0 count) executable))
    (there : ∀ fault, disk.nextFault.1 = some fault → fault.cause ≠ .notFound) :
    match disk.nextFault.1, String.fromUTF8? (config.render.toUTF8.extract 0 count) with
    | some fault, _ => (load path disk).1 = .error (.fileSystem path fault.cause)
    | none, none => (load path disk).1 = .error (.fileSystem path .notText)
    | none, some _ => ∃ problem position,
        (load path disk).1 = .error (.config (.malformed problem position)) := by
  cases refused : disk.nextFault.1 with
  | some fault =>
      have read : (FileSystem.readText path disk).1 = .error fault.cause := by
        rcases next : disk.nextFault with ⟨decision, rest⟩
        rw [next] at refused
        obtain rfl : decision = some fault := refused
        have halted : readFile path disk = (.error fault.cause, rest) := by
          simp only [readFile, attempt, next]
        rw [FileSystem.readText, Effect.bind_of_error halted]
      have reported := @ofFile_error path _ (there fault refused)
      rw [load, ← Prod.eta (FileSystem.readText path disk), read]
      exact reported
  | none =>
      have bytes := readFile_file found refused
      cases text : String.fromUTF8? (config.render.toUTF8.extract 0 count) with
      | none =>
          have read : (FileSystem.readText path disk).1 = .error .notText := by
            rw [FileSystem.readText, Effect.bind_of_ok bytes, text]
            rfl
          rw [load, ← Prod.eta (FileSystem.readText path disk), read]
          rfl
      | some front =>
          have read : (FileSystem.readText path disk).1 = .ok front := by
            rw [FileSystem.readText, Effect.bind_of_ok bytes, text]
            rfl
          obtain ⟨isPrefix, held⟩ := isPrefix_of_fromUTF8? (Nat.le_of_lt torn) text
          have cut : front ≠ config.render := by
            rintro rfl
            have size := congrArg ByteArray.size held
            rw [ByteArray.size_extract] at size
            omega
          obtain ⟨problem, position, halted⟩ := parse_front isPrefix cut
          refine ⟨problem, position, ?_⟩
          rw [load, ← Prod.eta (FileSystem.readText path disk), read]
          simp only [ofFile, halted]

/-- A configuration with a character of four bytes. -/
def smiling : Config :=
  { sourceLocations := ["😀"] }

/-- A disk with the first bytes of that configuration in a file of its root directory. -/
def tornFile (count : Nat) : Disk :=
  { tree := ⟨[("config.json", .file 0 (smiling.render.toUTF8.extract 0 count) false)], 1⟩
    current := [] }

def smilingFront : String :=
  "\x7b\n  \"source_locations\": [\n    \"😀"

theorem size_smilingFront : smilingFront.toUTF8.size = 35 := by decide

theorem bytes_smiling :
    ∃ others : String, smiling.render.toUTF8 = smilingFront.toUTF8 ++ others.toUTF8 := by
  have front : ∃ others, smiling.render.toList = smilingFront.toList ++ others := by
    rw [render, String.toList_ofList]
    exact ⟨_, rfl⟩
  obtain ⟨others, front⟩ := front
  have whole : smiling.render = smilingFront ++ String.ofList others := by
    refine String.toList_injective ?_
    rw [front, String.toList_append, String.toList_ofList]
  rw [whole]
  exact ⟨_, String.toByteArray_append⟩

/-- Cut behind its brace, the configuration is a text with a problem; cut inside
the character, it is no text. -/
theorem load_torn_smiling :
    (∃ problem position,
      (load "/config.json" (tornFile 1)).1 = .error (.config (.malformed problem position))) ∧
    (load "/config.json" (tornFile 33)).1 = .error (.fileSystem "/config.json" .notText) := by
  obtain ⟨others, bytes⟩ := bytes_smiling
  have torn {count : Nat} (small : count < 35) : count < smiling.render.toUTF8.size := by
    rw [bytes, ByteArray.size_append, size_smilingFront]
    exact Nat.lt_of_lt_of_le small (Nat.le_add_right _ _)
  have cut {count : Nat} (small : count < 35) :
      smiling.render.toUTF8.extract 0 count = smilingFront.toUTF8.extract 0 count := by
    have behind : count - smilingFront.toUTF8.size = 0 := by
      rw [size_smilingFront]
      exact Nat.sub_eq_zero_of_le (Nat.le_of_lt small)
    rw [bytes, ByteArray.extract_append, behind, Nat.zero_sub, ByteArray.extract_same,
      ByteArray.append_empty]
  have found (count : Nat) : (tornFile count).entryAt? "/config.json" =
      .ok (.file 0 (smiling.render.toUTF8.extract 0 count) false) := by
    rw [tornFile]
    generalize smiling.render.toUTF8.extract 0 count = bytes
    cbv
  have noFault (count : Nat) : (tornFile count).nextFault.1 = none := rfl
  have there (count : Nat) (fault : Fault) (next : (tornFile count).nextFault.1 = some fault) :
      fault.cause ≠ .notFound := by
    rw [noFault] at next
    cases next
  have text : String.fromUTF8? (smilingFront.toUTF8.extract 0 1) = some "\x7b" := by
    decide
  have noText : String.fromUTF8? (smilingFront.toUTF8.extract 0 33) = none := by
    decide
  constructor
  · have loaded := @load_torn _ smiling _ 1 _ _ (torn (by decide)) (found 1) (there 1)
    rw [noFault, cut (by decide), text] at loaded
    exact loaded
  · have loaded := @load_torn _ smiling _ 33 _ _ (torn (by decide)) (found 33) (there 33)
    rw [noFault, cut (by decide), noText] at loaded
    exact loaded

end SnippetSandbox.Config
