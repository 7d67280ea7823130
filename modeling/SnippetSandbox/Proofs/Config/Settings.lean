import SnippetSandbox.Proofs.Config.RoundTrip
import SnippetSandbox.Proofs.Json.Value

/-!
# What a value says about a setting

Whether a value can be read as a setting, and as which one, is a matter of the value alone:
neither the gaps between its parts nor what stands behind it have a part in it.  Each reader
of a setting therefore comes to the end of the value, or stops with a problem wherever the
value stands.
-/

namespace SnippetSandbox.Config

open Json

/-! ## The settings that values are -/

/-- The characters of a text, if its surrogates come in pairs. -/
def text? (quoted : Quoted) : Option String :=
  (decoded? quoted.written).map String.ofList

/-- A text as a setting. -/
def string? : Value → Option String
  | .text quoted => text? quoted
  | _ => none

/-- Texts in a row, if all the values are texts. -/
def strings? : List Value → Option (List String)
  | [] => some []
  | value :: others =>
      (string? value).bind fun string => (strings? others).map fun strings => string :: strings

/-- A list of texts as a setting. -/
def stringList? : Value → Option (List String)
  | .list elements => strings? elements
  | _ => none

/-- A truth value as a setting. -/
def flag? : Value → Option Bool
  | .word .yes => some true
  | .word .no => some false
  | _ => none

/-- A number below a bound as a setting. -/
def bounded? (bound : Nat) : Value → Option Nat
  | .number numeral =>
      ((readNumber numeral.isNegative numeral.unsigned).toOption.map Prod.fst).bind fun number =>
        (boundedNumber "" bound number []).toOption.map Prod.fst
  | _ => none

/-- The position of a switch as a setting: its word, or an object that has the word as its
only key and null as the value. -/
def mode? : Value → Option Mode
  | .text quoted => (text? quoted).bind Mode.ofName?
  | .object [(key, .word .null)] => (text? key).bind Mode.ofName?
  | _ => none

/-- A configuration that has this setting from a value and all others by default. -/
def said? (field : Field) (value : Value) : Option Config :=
  match field with
  | .sourceLocations => (stringList? value).map fun said => { sourceLocations := said }
  | .classLocations => (stringList? value).map fun said => { classLocations := said }
  | .printAssembly => (flag? value).map fun said => { printAssembly := said }
  | .intelSyntax => (flag? value).map fun said => { intelSyntax := said }
  | .tieredCompilation => (mode? value).map fun said => { tieredCompilation := said }
  | .compressedOops => (mode? value).map fun said => { compressedOops := said }
  | .freqInlineSize =>
      (bounded? UInt32.size value).map fun said => { freqInlineSize := .ofNat said }
  | .maxInlineSize =>
      (bounded? UInt32.size value).map fun said => { maxInlineSize := .ofNat said }
  | .compilerThreshold =>
      (bounded? UInt32.size value).map fun said => { compilerThreshold := .ofNat said }
  | .compileTimeoutSecs =>
      (bounded? UInt64.size value).map fun said => { compileTimeoutSecs := .ofNat said }
  | .executeTimeoutSecs =>
      (bounded? UInt64.size value).map fun said => { executeTimeoutSecs := .ofNat said }

/-! ## The settings that are read -/

/-- A reading gives what was said and leaves the further tokens, or stops with a problem if
nothing was said. -/
def Settles {Made : Type} (said : Option Made) (tokens : List (List Char))
    (read : Except Halt (Made × List Char)) : Prop :=
  match said with
  | some made => ∃ rest, Spaced tokens rest ∧ read = .ok (made, rest)
  | none => ∃ halt, read = .error halt

theorem settles_of_toOption {Made : Type} {said : Option Made} {tokens : List (List Char)}
    {read : Except Halt (Made × List Char)} {rest : List Char} (spaced : Spaced tokens rest)
    (found : read.toOption = said.map fun made => (made, rest)) : Settles said tokens read := by
  cases read with
  | error halt =>
      cases said with
      | none => exact ⟨halt, rfl⟩
      | some made => cases found
  | ok taken =>
      cases said with
      | none => cases found
      | some made => exact ⟨rest, spaced, by rw [Option.some.inj found]⟩

theorem Settles.map {Read Made : Type} {said : Option Read} {tokens : List (List Char)}
    {read : Except Halt (Read × List Char)} (settles : Settles said tokens read)
    (make : Read → Made) :
    Settles (said.map make) tokens (read.map fun found => (make found.1, found.2)) := by
  cases said with
  | some value =>
      obtain ⟨rest, spaced, rfl⟩ := settles
      exact ⟨rest, spaced, rfl⟩
  | none =>
      obtain ⟨halt, rfl⟩ := settles
      exact ⟨halt, rfl⟩

theorem Settles.bind {Read Made : Type} {said : Option Read} {between tokens : List (List Char)}
    {read : Except Halt (Read × List Char)} (settles : Settles said between read)
    {make : Read → Option Made} {go : Read → List Char → Except Halt (Made × List Char)}
    (goesOn : ∀ value rest, Spaced between rest → Settles (make value) tokens (go value rest)) :
    Settles (said.bind make) tokens (read.bind fun found => go found.1 found.2) := by
  cases said with
  | some value =>
      obtain ⟨rest, spaced, rfl⟩ := settles
      exact goesOn value rest spaced
  | none =>
      obtain ⟨halt, rfl⟩ := settles
      exact ⟨halt, rfl⟩

theorem Settles.halted {Read Made : Type} {said : Option Read} {between : List (List Char)}
    {read : Except Halt (Read × List Char)} (settles : Settles said between read)
    {go : Read → List Char → Except Halt (Made × List Char)}
    (halts : ∀ value rest, Spaced between rest → ∃ halt, go value rest = .error halt) :
    ∃ halt, (read.bind fun found => go found.1 found.2) = .error halt := by
  cases said with
  | some value =>
      obtain ⟨rest, spaced, rfl⟩ := settles
      exact halts value rest spaced
  | none =>
      obtain ⟨halt, rfl⟩ := settles
      exact ⟨halt, rfl⟩

section

variable {value : Value} {tokens : List (List Char)} {text : List Char}

theorem front_number_ne (numeral : Numeral) {mark : Char} (noSign : mark ≠ '-')
    (noDigit : mark.isDigit = false) : (Value.number numeral).front ≠ mark := by
  rintro rfl
  rcases numeral.front with sign | isDigit
  · exact noSign sign
  · rw [noDigit] at isDigit
    cases isDigit

/-- A text in front of further tokens is read up to its closing quote. -/
theorem readText_token {quoted : Quoted} (spaced : Spaced (quoted.token :: tokens) text) :
    ∃ rest, skipGap text = '"' :: rest ∧
      Settles (decoded? quoted.written) tokens (readText rest) := by
  obtain ⟨behind, spaced, faced⟩ := spaced.faced rfl
  refine ⟨_, faced, settles_of_toOption spaced ?_⟩
  rw [List.append_assoc]
  exact readText_quoted quoted.isQuoted behind

/-! ### Texts -/

theorem readString_other {first : Char} {rest : List Char} (faced : skipGap text = first :: rest)
    (noQuote : first ≠ '"') : ∃ halt, readString text = .error halt := by
  rw [readString, faced]
  split
  next same => exact absurd (List.cons.inj same).1 noQuote
  next => exact ⟨_, rfl⟩

theorem readString_spaced (spaced : Spaced (value.tokens ++ tokens) text) :
    Settles (string? value) tokens (readString text) := by
  obtain ⟨rest, faced, -⟩ := Value.faced spaced
  cases value with
  | text quoted =>
      rw [Value.tokens] at spaced
      obtain ⟨rest, faced, read⟩ := readText_token spaced
      rw [string?, text?, readString, faced]
      cases decoded : decoded? quoted.written with
      | none =>
          rw [decoded] at read
          obtain ⟨halt, halted⟩ := read
          exact ⟨halt, by simp only [halted]⟩
      | some characters =>
          rw [decoded] at read
          obtain ⟨behind, spaced, found⟩ := read
          exact ⟨behind, spaced, by simp only [found]⟩
  | word spelled => exact readString_other faced (by cases spelled <;> decide)
  | number numeral => exact readString_other faced (front_number_ne numeral (by decide) rfl)
  | list elements => exact readString_other faced (by simp [Value.front])
  | object members => exact readString_other faced (by simp [Value.front])

/-- The first of the texts is read where it stands, and then the others. -/
theorem readStrings_next {first : Bool} {element : List Char}
    (next : nextElement first text = .ok (.element element)) :
    readStrings first text = (readString element).bind fun found =>
      (readStrings false found.2).map fun others => (found.1 :: others.1, others.2) := by
  rw [readStrings]
  split
  next other => cases next.symm.trans other
  next other => cases next.symm.trans other
  next found =>
    cases next.symm.trans found
    split
    next halted => rw [halted]; rfl
    next value rest read =>
      rw [read]
      change _ = (readStrings false rest).map _
      cases readStrings false rest <;> rfl

theorem readStrings_value {first : Bool} {element : List Char} {others : List Value}
    {further : List (List Char)} (next : nextElement first text = .ok (.element element))
    (spaced : Spaced (value.tokens ++ further) element)
    (goesOn : ∀ rest, Spaced further rest →
      Settles (strings? others) tokens (readStrings false rest)) :
    Settles (strings? (value :: others)) tokens (readStrings first text) := by
  rw [readStrings_next next]
  exact (readString_spaced spaced).bind fun string rest spaced =>
    (goesOn rest spaced).map (string :: ·)

theorem nextElement_first (spaced : Spaced (value.tokens ++ tokens) text) :
    ∃ element, nextElement true text = .ok (.element element) ∧
      Spaced (value.tokens ++ tokens) element := by
  obtain ⟨rest, faced, spaced⟩ := Value.faced spaced
  refine ⟨_, ?_, spaced⟩
  rw [nextElement, faced]
  split
  next same => cases same
  next same => exact absurd (by rw [(List.cons.inj same).1]; decide) value.front_ne.2
  next same =>
    obtain ⟨rfl, rfl⟩ := List.cons.inj same
    rw [if_pos rfl]

theorem nextElement_comma {behind : List Char} (comma : skipGap text = ',' :: behind) :
    nextElement false text =
      match skipGap behind with
      | [] => .error (.facing .endInValue [])
      | ']' :: after => .error (.facing .trailingComma (']' :: after))
      | other => .ok (.element other) := by
  rw [nextElement, comma]
  rfl

theorem nextElement_further (spaced : Spaced ([','] :: (value.tokens ++ tokens)) text) :
    ∃ element, nextElement false text = .ok (.element element) ∧
      Spaced (value.tokens ++ tokens) element := by
  obtain ⟨behind, spaced, comma⟩ := spaced.faced rfl
  obtain ⟨rest, faced, spaced⟩ := Value.faced spaced
  refine ⟨_, ?_, spaced⟩
  rw [nextElement_comma comma, List.nil_append, faced]
  split
  next same => cases same
  next same => exact absurd (by rw [(List.cons.inj same).1]; decide) value.front_ne.2
  next => rfl

theorem nextElement_closing (first : Bool) (spaced : Spaced ([']'] :: tokens) text) :
    ∃ rest, nextElement first text = .ok (.closed rest) ∧ Spaced tokens rest := by
  obtain ⟨rest, spaced, faced⟩ := spaced.faced rfl
  exact ⟨rest, by rw [nextElement, faced]; rfl, spaced⟩

theorem readStrings_closing (first : Bool) (spaced : Spaced ([']'] :: tokens) text) :
    Settles (strings? []) tokens (readStrings first text) := by
  obtain ⟨rest, closed, spaced⟩ := nextElement_closing first spaced
  exact ⟨rest, spaced, readStrings_closed closed⟩

theorem readStrings_behindCommas (elements : List Value)
    (spaced : Spaced (behindCommas (elements.map Value.tokens) ++ ([']'] :: tokens)) text) :
    Settles (strings? elements) tokens (readStrings false text) := by
  induction elements generalizing text with
  | nil => exact readStrings_closing false spaced
  | cons element elements ih =>
      rw [List.map_cons, behindCommas, List.flatMap_cons, ← behindCommas, List.cons_append,
        List.cons_append, List.append_assoc] at spaced
      obtain ⟨front, next, spaced⟩ := nextElement_further spaced
      exact readStrings_value next spaced fun rest spaced => ih spaced

theorem readStringList_other {first : Char} {rest : List Char}
    (faced : skipGap text = first :: rest) (noList : first ≠ '[') :
    ∃ halt, readStringList text = .error halt := by
  rw [readStringList, faced]
  split
  next same => exact absurd (List.cons.inj same).1 noList
  next => exact ⟨_, rfl⟩

theorem readStringList_spaced (spaced : Spaced (value.tokens ++ tokens) text) :
    Settles (stringList? value) tokens (readStringList text) := by
  obtain ⟨rest, faced, -⟩ := Value.faced spaced
  cases value with
  | list elements =>
      rw [Value.tokens, List.cons_append, List.append_assoc] at spaced
      obtain ⟨behind, spaced, faced⟩ := spaced.faced rfl
      rw [readStringList, faced, stringList?]
      cases elements with
      | nil => exact readStrings_closing true spaced
      | cons element elements =>
          rw [List.map_cons, separated, List.append_assoc] at spaced
          obtain ⟨front, next, spaced⟩ := nextElement_first spaced
          exact readStrings_value next spaced fun rest spaced =>
            readStrings_behindCommas elements spaced
  | word spelled => exact readStringList_other faced (by cases spelled <;> decide)
  | number numeral => exact readStringList_other faced (front_number_ne numeral (by decide) rfl)
  | text quoted => exact readStringList_other faced (by simp [Value.front])
  | object members => exact readStringList_other faced (by simp [Value.front])

/-! ### Truth values and numbers -/

theorem readBool_other {first : Char} {rest : List Char} (faced : skipGap text = first :: rest)
    (noTrue : first ≠ 't') (noFalse : first ≠ 'f') : ∃ halt, readBool text = .error halt := by
  rw [readBool, faced]
  split
  next same => exact absurd (List.cons.inj same).1 noTrue
  next same => exact absurd (List.cons.inj same).1 noFalse
  next => exact ⟨_, rfl⟩

theorem readBool_spaced (spaced : Spaced (value.tokens ++ tokens) text) :
    Settles (flag? value) tokens (readBool text) := by
  obtain ⟨rest, faced, -⟩ := Value.faced spaced
  cases value with
  | word spelled =>
      rw [Value.tokens] at spaced
      cases spelled with
      | null => exact readBool_other faced (by decide) (by decide)
      | yes =>
          obtain ⟨behind, spaced, faced⟩ := spaced.faced rfl
          exact ⟨behind, spaced, by rw [readBool, faced]; rfl⟩
      | no =>
          obtain ⟨behind, spaced, faced⟩ := spaced.faced rfl
          exact ⟨behind, spaced, by rw [readBool, faced]; rfl⟩
  | number numeral =>
      exact readBool_other faced (front_number_ne numeral (by decide) rfl)
        (front_number_ne numeral (by decide) rfl)
  | text quoted => exact readBool_other faced (by simp [Value.front]) (by simp [Value.front])
  | list elements => exact readBool_other faced (by simp [Value.front]) (by simp [Value.front])
  | object members => exact readBool_other faced (by simp [Value.front]) (by simp [Value.front])

theorem readBounded_other {expected : String} {bound : Nat} {first : Char} {rest : List Char}
    (faced : skipGap text = first :: rest) (noSign : first ≠ '-')
    (noDigit : first.isDigit = false) : ∃ halt, readBounded expected bound text = .error halt := by
  rw [readBounded, faced]
  split
  next same => cases same
  next same => exact absurd (List.cons.inj same).1 noSign
  next same =>
    obtain ⟨rfl, rfl⟩ := List.cons.inj same
    rw [if_neg (by simp [noDigit])]
    exact ⟨_, rfl⟩

/-- A number is read behind its sign, and then compared with the bound. -/
theorem readBounded_numeral {expected : String} {bound : Nat} {numeral : Numeral}
    {rest : List Char} (faced : skipGap text = numeral.written ++ rest) :
    readBounded expected bound text =
      (readNumber numeral.isNegative (numeral.unsigned ++ rest)).bind fun found =>
        boundedNumber expected bound found.1 found.2 := by
  obtain ⟨first, others, whole, isDigit, -⟩ := numeral.whole.exists_cons
  rw [readBounded, faced, Numeral.written]
  cases numeral.isNegative with
  | true =>
      rw [if_pos rfl, List.cons_append]
      cases read : readNumber true (numeral.unsigned ++ rest) <;> simp only [read] <;> rfl
  | false =>
      rw [if_neg Bool.false_ne_true, Numeral.unsigned, whole, List.cons_append, List.cons_append]
      split
      next same => cases same
      next same =>
        rw [(List.cons.inj same).1] at isDigit
        cases isDigit
      next same =>
        obtain ⟨rfl, rfl⟩ := List.cons.inj same
        rw [if_pos isDigit]
        cases readNumber false _ <;> rfl

theorem boundedNumber_toOption (expected : String) (bound : Nat) (number : Number)
    (rest : List Char) :
    (boundedNumber expected bound number rest).toOption =
      ((boundedNumber "" bound number []).toOption.map Prod.fst).map fun value =>
        (value, rest) := by
  cases number with
  | natural value =>
      simp only [boundedNumber]
      split <;> rfl
  | negative | floating => rfl

theorem readBounded_spaced (expected : String) (bound : Nat) (ends : EndsValue tokens)
    (spaced : Spaced (value.tokens ++ tokens) text) :
    Settles (bounded? bound value) tokens (readBounded expected bound text) := by
  obtain ⟨rest, faced, -⟩ := Value.faced spaced
  cases value with
  | number numeral =>
      rw [Value.tokens] at spaced
      obtain ⟨first, others, shape, -⟩ := numeral.written_front
      have noGap := (Value.number numeral).front_ne.1
      rw [Value.front, shape] at noGap
      rw [shape] at spaced
      obtain ⟨behind, spaced, faced⟩ := spaced.faced noGap
      rw [← List.cons_append, ← shape] at faced
      rw [readBounded_numeral faced, bounded?]
      have read : Settles ((readNumber numeral.isNegative numeral.unsigned).toOption.map Prod.fst)
          tokens (readNumber numeral.isNegative (numeral.unsigned ++ behind)) := by
        refine settles_of_toOption spaced ?_
        rw [readNumber_written _ numeral (spaced.endsToken ends), Option.map_map]
        rfl
      exact read.bind fun number rest spaced =>
        settles_of_toOption spaced (boundedNumber_toOption expected bound number rest)
  | word spelled =>
      exact readBounded_other faced (by cases spelled <;> decide) (by cases spelled <;> decide)
  | text quoted => exact readBounded_other faced (by simp [Value.front]) rfl
  | list elements => exact readBounded_other faced (by simp [Value.front]) rfl
  | object members => exact readBounded_other faced (by simp [Value.front]) rfl

/-! ### Switches -/

theorem modeOfText_settles (characters : List Char) {rest : List Char}
    (spaced : Spaced tokens rest) :
    Settles (Mode.ofName? (String.ofList characters)) tokens (modeOfText characters rest) := by
  rw [modeOfText]
  cases Mode.ofName? (String.ofList characters) with
  | none => exact ⟨_, rfl⟩
  | some mode => exact ⟨rest, spaced, rfl⟩

theorem text?_bind {Made : Type} (quoted : Quoted) (make : String → Option Made) :
    (text? quoted).bind make =
      (decoded? quoted.written).bind fun characters => make (String.ofList characters) := by
  rw [text?]
  cases decoded? quoted.written <;> rfl

/-- A text is read as the word for a position of the switch. -/
theorem readText_mode {quoted : Quoted} {rest : List Char}
    (read : Settles (decoded? quoted.written) tokens (readText rest)) :
    Settles ((text? quoted).bind Mode.ofName?) tokens
      ((readText rest).bind fun found => modeOfText found.1 found.2) := by
  rw [text?_bind]
  exact read.bind fun characters behind spaced => modeOfText_settles characters spaced

theorem readModeEnd_null {mode : Mode}
    (spaced : Spaced ((Value.word .null).tokens ++ (['\x7d'] :: tokens)) text) :
    Settles (some mode) tokens (readModeEnd mode text) := by
  rw [Value.tokens] at spaced
  obtain ⟨behind, spaced, faced⟩ := spaced.faced rfl
  obtain ⟨rest, spaced, closed⟩ := spaced.faced rfl
  refine ⟨rest, spaced, ?_⟩
  have letters : readLetters ['u', 'l', 'l'] ('u' :: 'l' :: 'l' :: behind) = .ok behind := rfl
  rw [readModeEnd, faced]
  simp only [List.cons_append, List.nil_append, letters, closed]

theorem readModeEnd_other {mode : Mode} {first : Char} {rest : List Char}
    (faced : skipGap text = first :: rest) (noNull : first ≠ 'n') :
    ∃ halt, readModeEnd mode text = .error halt := by
  rw [readModeEnd, faced]
  split
  next same => cases same
  next same => exact absurd (List.cons.inj same).1 noNull
  next => exact ⟨_, rfl⟩

theorem readModeEnd_further {mode : Mode} {member : Quoted × Value}
    {others : List (Quoted × Value)} (spaced : Spaced ((Value.word .null).tokens ++
      (behindCommas ((member :: others).map memberTokens) ++ tokens)) text) :
    ∃ halt, readModeEnd mode text = .error halt := by
  rw [Value.tokens] at spaced
  obtain ⟨behind, spaced, faced⟩ := spaced.faced rfl
  obtain ⟨rest, -, comma⟩ := spaced.faced rfl
  have letters : readLetters ['u', 'l', 'l'] ('u' :: 'l' :: 'l' :: behind) = .ok behind := rfl
  rw [readModeEnd, faced]
  simp only [List.cons_append, List.nil_append, letters, comma]
  exact ⟨_, rfl⟩

/-- Read the value of a switch's only member and the colon in front of it. -/
def readModeValue (mode : Mode) (text : List Char) : Except Halt (Mode × List Char) :=
  match skipGap text with
  | [] => .error (.facing .endInObject [])
  | ':' :: value => readModeEnd mode value
  | other => .error (.facing .expectedColon other)

theorem readModeValue_spaced (mode : Mode) (spaced : Spaced ([':'] :: tokens) text) :
    ∃ behind, Spaced tokens behind ∧ readModeValue mode text = readModeEnd mode behind := by
  obtain ⟨behind, spaced, colon⟩ := spaced.faced rfl
  exact ⟨behind, spaced, by rw [readModeValue, colon]; rfl⟩

/-- A switch given as an object is read from its key to its value. -/
theorem readModeObject_key {rest : List Char} (faced : skipGap text = '"' :: rest) :
    readModeObject text =
      ((readText rest).bind fun found => modeOfText found.1 found.2).bind fun found =>
        readModeValue found.1 found.2 := by
  rw [readModeObject, faced]
  cases read : readText rest with
  | error halt => simp only [read]; rfl
  | ok found =>
      obtain ⟨characters, remaining⟩ := found
      simp only [read]
      change _ = (modeOfText characters remaining).bind _
      cases modeOfText characters remaining <;> rfl

theorem readModeObject_spaced {members : List (Quoted × Value)}
    (spaced : Spaced (separated (members.map memberTokens) ++ (['\x7d'] :: tokens)) text) :
    Settles (mode? (.object members)) tokens (readModeObject text) := by
  cases members with
  | nil =>
      obtain ⟨rest, -, faced⟩ := spaced.faced rfl
      rw [readModeObject, faced]
      exact ⟨_, rfl⟩
  | cons member others =>
      obtain ⟨key, value⟩ := member
      rw [List.map_cons, separated, List.append_assoc] at spaced
      obtain ⟨rest, faced, read⟩ := readText_token spaced
      rw [readModeObject_key faced]
      have mode := readText_mode read
      have other (noNull : value.front ≠ 'n') :
          ∃ halt, (((readText rest).bind fun found => modeOfText found.1 found.2).bind
            fun found => readModeValue found.1 found.2) = .error halt := by
        refine mode.halted fun mode text spaced => ?_
        obtain ⟨behind, spaced, ended⟩ := readModeValue_spaced mode spaced
        obtain ⟨rest, faced, -⟩ := Value.faced spaced
        rw [ended]
        exact readModeEnd_other faced noNull
      cases value with
      | word spelled =>
          cases spelled with
          | null =>
              cases others with
              | nil =>
                  have said : mode? (.object [(key, .word .null)]) =
                      ((text? key).bind Mode.ofName?).bind some :=
                    (Option.bind_fun_some _).symm
                  rw [said]
                  refine mode.bind fun mode text spaced => ?_
                  obtain ⟨behind, spaced, ended⟩ := readModeValue_spaced mode spaced
                  rw [ended]
                  exact readModeEnd_null spaced
              | cons further others =>
                  refine mode.halted fun mode text spaced => ?_
                  obtain ⟨behind, spaced, ended⟩ := readModeValue_spaced mode spaced
                  rw [ended]
                  exact readModeEnd_further spaced
          | yes | no => exact other (by decide)
      | number numeral => exact other (front_number_ne numeral (by decide) rfl)
      | text | list | object => exact other (by simp [Value.front])

theorem readMode_other {first : Char} {rest : List Char} (faced : skipGap text = first :: rest)
    (noQuote : first ≠ '"') (noObject : first ≠ '\x7b') :
    ∃ halt, readMode text = .error halt := by
  rw [readMode, faced]
  split
  next same => cases same
  next same => exact absurd (List.cons.inj same).1 noQuote
  next same => exact absurd (List.cons.inj same).1 noObject
  next => exact ⟨_, rfl⟩

theorem readMode_spaced (spaced : Spaced (value.tokens ++ tokens) text) :
    Settles (mode? value) tokens (readMode text) := by
  obtain ⟨rest, faced, -⟩ := Value.faced spaced
  cases value with
  | text quoted =>
      rw [Value.tokens] at spaced
      obtain ⟨rest, faced, read⟩ := readText_token spaced
      have mode := readText_mode read
      rw [readMode, faced]
      cases found : readText rest <;> rw [found] at mode <;> simp only [found] <;> exact mode
  | object members =>
      rw [tokens_object, List.cons_append, List.append_assoc] at spaced
      obtain ⟨behind, spaced, faced⟩ := spaced.faced rfl
      rw [readMode, faced]
      exact readModeObject_spaced spaced
  | word spelled =>
      exact readMode_other faced (by cases spelled <;> decide) (by cases spelled <;> decide)
  | number numeral =>
      exact readMode_other faced (front_number_ne numeral (by decide) rfl)
        (front_number_ne numeral (by decide) rfl)
  | list elements => exact readMode_other faced (by simp [Value.front]) (by simp [Value.front])

/-! ### Settings -/

/-- The value of a setting fills in that setting with what it says, or has a problem. -/
theorem readField_spaced (field : Field) (config : Config) (ends : EndsValue tokens)
    (spaced : Spaced (value.tokens ++ tokens) text) :
    Settles ((said? field value).map fun source => source.filled config field) tokens
      (readField field config text) := by
  cases field with
  | sourceLocations | classLocations =>
      rw [said?, Option.map_map]
      exact (readStringList_spaced spaced).map _
  | printAssembly | intelSyntax =>
      rw [said?, Option.map_map]
      exact (readBool_spaced spaced).map _
  | tieredCompilation | compressedOops =>
      rw [said?, Option.map_map]
      exact (readMode_spaced spaced).map _
  | freqInlineSize | maxInlineSize | compilerThreshold =>
      rw [said?, Option.map_map]
      exact (readBounded_spaced "u32" UInt32.size ends spaced).map _
  | compileTimeoutSecs | executeTimeoutSecs =>
      rw [said?, Option.map_map]
      exact (readBounded_spaced "u64" UInt64.size ends spaced).map _

end

end SnippetSandbox.Config
