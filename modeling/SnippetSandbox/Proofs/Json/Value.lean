import Mathlib.Data.List.TakeWhile
import SnippetSandbox.Proofs.Json.Numeral
import SnippetSandbox.Proofs.Json.Quoted

/-!
# Values and the gaps between their parts

A value is a tree of words, numbers, texts, lists and objects, each as it is written.  It is
spelled as a row of tokens, between which any gaps may stand.  Every value is passed over to
its end, whatever it holds and however deep it is nested.
-/

namespace SnippetSandbox.Json

/-! ## Values -/

/-- The words that are values. -/
inductive Word
  | null
  | yes
  | no
  deriving DecidableEq, Repr

def Word.written : Word → List Char
  | null => ['n', 'u', 'l', 'l']
  | yes => ['t', 'r', 'u', 'e']
  | no => ['f', 'a', 'l', 's', 'e']

/-- A text as it is written between its quotes. -/
structure Quoted where
  written : List Char
  isQuoted : IsQuoted written

/-- A value as it is written, but for the gaps between its parts. -/
inductive Value
  | word (word : Word)
  | number (numeral : Numeral)
  | text (text : Quoted)
  | list (elements : List Value)
  | object (members : List (Quoted × Value))

/-- A text between its quotes. -/
def Quoted.token (text : Quoted) : List Char :=
  '"' :: (text.written ++ ['"'])

/-- Each of the items behind a comma. -/
def behindCommas (items : List (List (List Char))) : List (List Char) :=
  items.flatMap fun item => [','] :: item

/-- Items with commas between them. -/
def separated : List (List (List Char)) → List (List Char)
  | [] => []
  | item :: items => item ++ behindCommas items

/-- The value of a member is smaller than an object with that member. -/
theorem sizeOf_member {member : Quoted × Value} {members : List (Quoted × Value)}
    (isMember : member ∈ members) : sizeOf member.2 < sizeOf (Value.object members) := by
  have smaller := List.sizeOf_lt_of_mem isMember
  obtain ⟨key, value⟩ := member
  simp only [Prod.mk.sizeOf_spec, Value.object.sizeOf_spec] at smaller ⊢
  omega

/-- The tokens that a value is spelled with. -/
def Value.tokens : Value → List (List Char)
  | .word spelled => [spelled.written]
  | .number numeral => [numeral.written]
  | .text quoted => [quoted.token]
  | .list elements => ['['] :: (separated (elements.map tokens) ++ [[']']])
  | .object members =>
      ['\x7b'] :: (separated (members.map fun member =>
        member.1.token :: [':'] :: tokens member.2) ++ [['\x7d']])
termination_by value => value
decreasing_by
  · decreasing_tactic
  · exact sizeOf_member ‹_›

def memberTokens (member : Quoted × Value) : List (List Char) :=
  member.1.token :: [':'] :: member.2.tokens

theorem tokens_object (members : List (Quoted × Value)) :
    (Value.object members).tokens =
      ['\x7b'] :: (separated (members.map memberTokens) ++ [['\x7d']]) := by
  rw [Value.tokens]
  rfl

/-! ## Gaps between tokens -/

/-- The text is these tokens with any gaps in front of them, between them and behind them. -/
inductive Spaced : List (List Char) → List Char → Prop
  | nil {gap : List Char} (isGap : gap.all isGap = true) : Spaced [] gap
  | cons {gap token text : List Char} {tokens : List (List Char)} (isGap : gap.all isGap = true)
      (spaced : Spaced tokens text) : Spaced (token :: tokens) (gap ++ (token ++ text))

theorem spaced_flatten (tokens : List (List Char)) : Spaced tokens tokens.flatten := by
  induction tokens with
  | nil => exact .nil rfl
  | cons token tokens ih => exact @Spaced.cons [] token _ _ rfl ih

theorem skipGap_gap {gap : List Char} (isGap : gap.all isGap = true) {first : Char}
    (noGap : Json.isGap first = false) (text : List Char) :
    skipGap (gap ++ first :: text) = first :: text := by
  rw [skipGap, List.dropWhile_append_of_pos (by simpa using isGap),
    List.dropWhile_cons_of_neg (by simp [noGap])]

theorem Spaced.faced {first : Char} {others text : List Char} {tokens : List (List Char)}
    (spaced : Spaced ((first :: others) :: tokens) text) (noGap : Json.isGap first = false) :
    ∃ rest, Spaced tokens rest ∧ skipGap text = first :: (others ++ rest) := by
  cases spaced with
  | @cons gap _ rest _ isGap spaced => exact ⟨rest, spaced, skipGap_gap isGap noGap _⟩

/-- Without the gap in front of it the text has the same tokens. -/
theorem Spaced.skipGap {first : Char} {others text : List Char} {tokens : List (List Char)}
    (spaced : Spaced ((first :: others) :: tokens) text) (noGap : Json.isGap first = false) :
    Spaced ((first :: others) :: tokens) (skipGap text) := by
  obtain ⟨rest, spaced, faced⟩ := spaced.faced noGap
  rw [faced]
  exact @Spaced.cons [] _ _ _ rfl spaced

theorem Spaced.skipGap_nil {text : List Char} (spaced : Spaced [] text) :
    Json.skipGap text = [] := by
  cases spaced with
  | nil isGap => exact List.dropWhile_eq_nil_iff.mpr (by simpa using isGap)

def EndsValue (tokens : List (List Char)) : Prop :=
  ∀ token, tokens.head? = some token → token ∈ [[','], [']'], ['\x7d']]

theorem Spaced.endsToken {tokens : List (List Char)} {text : List Char}
    (spaced : Spaced tokens text) (ends : EndsValue tokens) : EndsToken text := by
  have gapOrMark {gap rest : List Char} (isGap : gap.all Json.isGap = true)
      (endsRest : EndsToken rest) : EndsToken (gap ++ rest) := by
    refine front_append ?_ endsRest
    intro character front
    exact .inl (List.all_eq_true.mp isGap character (List.mem_of_mem_head? front))
  cases spaced with
  | nil isGap => simpa using gapOrMark isGap (nofun : EndsToken [])
  | @cons gap token rest tokens isGap spaced =>
      refine gapOrMark isGap ?_
      have isMark := ends token rfl
      simp only [List.mem_cons, List.not_mem_nil, or_false] at isMark
      rcases isMark with rfl | rfl | rfl
      all_goals
        rintro _ ⟨⟩
        exact .inr (by decide)

/-! ## How a value begins -/

def Value.front : Value → Char
  | .word .null => 'n'
  | .word .yes => 't'
  | .word .no => 'f'
  | .number numeral => numeral.written.headD '-'
  | .text _ => '"'
  | .list _ => '['
  | .object _ => '\x7b'

theorem Numeral.written_front (numeral : Numeral) : ∃ first others,
    numeral.written = first :: others ∧ (first = '-' ∨ first.isDigit = true) := by
  obtain ⟨first, others, shape, isDigit, -⟩ := numeral.whole.exists_cons
  rw [Numeral.written, Numeral.unsigned, shape]
  split
  · exact ⟨_, _, rfl, .inl rfl⟩
  · exact ⟨_, _, rfl, .inr isDigit⟩

theorem Numeral.front (numeral : Numeral) :
    (Value.number numeral).front = '-' ∨ (Value.number numeral).front.isDigit = true := by
  obtain ⟨first, others, shape, isFirst⟩ := numeral.written_front
  rw [Value.front, shape]
  exact isFirst

/-- A value begins with one of these characters, none of which stands behind a value. -/
theorem Value.front_mem (value : Value) :
    value.front ∈ ['n', 't', 'f', '-', '"', '[', '\x7b'] ∨ value.front.isDigit = true := by
  cases value with
  | word spelled => cases spelled <;> exact .inl (by simp [Value.front])
  | number numeral => rcases numeral.front with sign | isDigit <;> simp [*]
  | text | list | object => exact .inl (by simp [Value.front])

theorem Value.front_ne (value : Value) :
    isGap value.front = false ∧ value.front ∉ [',', ']', '\x7d'] := by
  have all : ∀ first ∈ ['n', 't', 'f', '-', '"', '[', '\x7b'],
      isGap first = false ∧ first ∉ [',', ']', '\x7d'] := by simp [isGap]
  rcases value.front_mem with isFirst | isDigit
  · exact all _ isFirst
  · have noGap : isGap value.front = false := by
      cases gap : isGap value.front with
      | false => rfl
      | true =>
          simp only [isGap, Bool.or_eq_true, decide_eq_true_eq] at gap
          rcases gap with ((same | same) | same) | same <;> rw [same] at isDigit <;> cases isDigit
    refine ⟨noGap, ?_⟩
    simp only [List.mem_cons, List.not_mem_nil, or_false]
    rintro (same | same | same) <;> rw [same] at isDigit <;> cases isDigit

theorem Value.exists_tokens (value : Value) :
    ∃ others tokens, value.tokens = (value.front :: others) :: tokens := by
  cases value with
  | word spelled => cases spelled <;> exact ⟨_, _, by rw [Value.tokens]; rfl⟩
  | number numeral =>
      obtain ⟨first, others, shape, -⟩ := numeral.written_front
      exact ⟨others, [], by rw [Value.tokens, Value.front, shape]; rfl⟩
  | text | list | object => exact ⟨_, _, by rw [Value.tokens]; rfl⟩

/-- A value that is spelled behind a gap begins with its first character. -/
theorem Value.faced {value : Value} {tokens : List (List Char)} {text : List Char}
    (spaced : Spaced (value.tokens ++ tokens) text) :
    ∃ rest, skipGap text = value.front :: rest ∧
      Spaced (value.tokens ++ tokens) (value.front :: rest) := by
  obtain ⟨others, more, shape⟩ := value.exists_tokens
  rw [shape, List.cons_append] at spaced ⊢
  obtain ⟨rest, -, faced⟩ := spaced.faced value.front_ne.1
  exact ⟨others ++ rest, faced, faced ▸ spaced.skipGap value.front_ne.1⟩

/-! ## Passing over a value -/

theorem skipScalar_digit {first : Char} (isDigit : first.isDigit = true) (rest : List Char) :
    skipScalar first rest = skipNumber (first :: rest) := by
  rw [skipScalar, if_pos isDigit]
  all_goals
    rintro rfl
    cases isDigit

/-- An item of a frame can be told from the closing bracket, and passing over it leads to what
may follow a value. -/
structure IsItem (frame : Frame) (item : List (List Char)) : Prop where
  front : ∃ first others tokens, item = (first :: others) :: tokens ∧ isGap first = false ∧
    first ≠ frame.closing
  passed {tokens : List (List Char)} {text : List Char} (outer : List Frame)
    (ends : EndsValue tokens) (spaced : Spaced (item ++ tokens) text) :
    ∃ rest, Spaced tokens rest ∧
      (frame.skipKey text).bind (skipRest .value (frame :: outer)) =
        skipRest .separator (frame :: outer) rest

theorem Frame.isGap_closing (frame : Frame) : isGap frame.closing = false := by
  cases frame <;> rfl

theorem Frame.closing_ne (frame : Frame) : frame.closing ≠ ',' := by
  cases frame <;> decide

theorem endsValue_cons {mark : Char} (isMark : mark ∈ [',', ']', '\x7d'])
    (tokens : List (List Char)) : EndsValue ([mark] :: tokens) := by
  rintro _ ⟨⟩
  simp only [List.mem_cons, List.not_mem_nil, or_false] at isMark ⊢
  rcases isMark with rfl | rfl | rfl <;> decide

theorem Frame.endsValue (frame : Frame) (tokens : List (List Char)) :
    EndsValue ([frame.closing] :: tokens) :=
  endsValue_cons (by cases frame <;> decide) tokens

/-- The tokens up to the end of a frame may stand behind a value. -/
theorem endsValue_behindCommas (frame : Frame) (items : List (List (List Char)))
    (tokens : List (List Char)) :
    EndsValue (behindCommas items ++ ([frame.closing] :: tokens)) := by
  cases items with
  | nil => exact frame.endsValue tokens
  | cons item items => exact endsValue_cons (by decide) _

theorem skipRest_behindCommas {frame : Frame} {items : List (List (List Char))}
    (areItems : ∀ item ∈ items, IsItem frame item) (outer : List Frame)
    {tokens : List (List Char)} {text : List Char}
    (spaced : Spaced (behindCommas items ++ ([frame.closing] :: tokens)) text) :
    ∃ rest, Spaced tokens rest ∧
      skipRest .separator (frame :: outer) text = skipRest .separator outer rest := by
  induction items generalizing text with
  | nil =>
      obtain ⟨rest, spaced, faced⟩ := spaced.faced frame.isGap_closing
      refine ⟨rest, spaced, ?_⟩
      rw [skipRest_separator, faced]
      dsimp only
      rw [if_neg frame.closing_ne, if_pos rfl, List.nil_append]
  | cons item items ih =>
      obtain ⟨isItem, areItems⟩ := List.forall_mem_cons.mp areItems
      rw [behindCommas, List.flatMap_cons, ← behindCommas, List.cons_append, List.cons_append,
        List.append_assoc] at spaced
      obtain ⟨rest, spaced, faced⟩ := spaced.faced rfl
      obtain ⟨behind, spaced, passed⟩ :=
        isItem.passed outer (endsValue_behindCommas frame items tokens) spaced
      obtain ⟨last, spaced, closed⟩ := ih areItems spaced
      refine ⟨last, spaced, ?_⟩
      rw [skipRest_separator, faced]
      dsimp only
      rw [if_pos rfl, List.nil_append, passed, closed]

/-- The items of a frame are passed over up to the closing bracket. -/
theorem skipRest_separated {frame : Frame} {items : List (List (List Char))}
    (areItems : ∀ item ∈ items, IsItem frame item) (outer : List Frame)
    {tokens : List (List Char)} {text : List Char}
    (spaced : Spaced (separated items ++ ([frame.closing] :: tokens)) text) :
    ∃ rest, Spaced tokens rest ∧
      skipRest .element (frame :: outer) text = skipRest .separator outer rest := by
  cases items with
  | nil =>
      obtain ⟨rest, spaced, faced⟩ := spaced.faced frame.isGap_closing
      refine ⟨rest, spaced, ?_⟩
      rw [skipRest_element, faced]
      dsimp only
      rw [if_pos rfl, List.nil_append]
  | cons item items =>
      obtain ⟨isItem, furtherItems⟩ := List.forall_mem_cons.mp areItems
      obtain ⟨first, others, more, rfl, noGap, noClosing⟩ := isItem.front
      rw [separated, List.append_assoc, List.cons_append] at spaced
      obtain ⟨rest, -, faced⟩ := spaced.faced noGap
      have spaced := spaced.skipGap noGap
      rw [faced, ← List.cons_append] at spaced
      obtain ⟨behind, spaced, passed⟩ :=
        isItem.passed outer (endsValue_behindCommas frame items tokens) spaced
      obtain ⟨last, spaced, closed⟩ := skipRest_behindCommas furtherItems outer spaced
      refine ⟨last, spaced, ?_⟩
      rw [skipRest_element, faced]
      dsimp only
      rw [if_neg noClosing, passed, closed]

/-- Passing over the value leads to what may follow it, in whatever frames it stands. -/
def IsPassed (value : Value) : Prop :=
  ∀ {tokens : List (List Char)} {text : List Char} (frames : List Frame), EndsValue tokens →
    Spaced (value.tokens ++ tokens) text → ∃ rest, Spaced tokens rest ∧
      skipRest .value frames text = skipRest .separator frames rest

theorem IsPassed.element {value : Value} (isPassed : IsPassed value) :
    IsItem .list value.tokens where
  front := by
    obtain ⟨others, tokens, shape⟩ := value.exists_tokens
    have noMark := value.front_ne.2
    exact ⟨_, _, _, shape, value.front_ne.1, fun same => noMark (by rw [same]; decide)⟩
  passed outer ends spaced := isPassed (.list :: outer) ends spaced

theorem skipKey_spaced {key : Quoted} {tokens : List (List Char)} {text : List Char}
    (spaced : Spaced (key.token :: [':'] :: tokens) text) :
    ∃ rest, Spaced tokens rest ∧ Frame.object.skipKey text = .ok rest := by
  obtain ⟨behind, spaced, faced⟩ := spaced.faced rfl
  obtain ⟨rest, spaced, colon⟩ := spaced.faced rfl
  refine ⟨rest, spaced, ?_⟩
  have skipped := skipText_quoted key.isQuoted behind
  simp only [Frame.skipKey, faced, List.append_assoc, List.cons_append, List.nil_append, skipped,
    colon]

theorem IsPassed.member {key : Quoted} {value : Value} (isPassed : IsPassed value) :
    IsItem .object (memberTokens (key, value)) where
  front := ⟨_, _, _, rfl, rfl, by decide⟩
  passed outer ends spaced := by
    obtain ⟨behind, spaced, skipped⟩ := skipKey_spaced spaced
    rw [skipped]
    exact isPassed (.object :: outer) ends spaced

theorem isPassed_scalar {value : Value} {others : List Char}
    (shape : value.tokens = [value.front :: others]) (noList : value.front ≠ '[')
    (noObject : value.front ≠ '\x7b')
    (skipped : ∀ {rest}, EndsToken rest →
      skipScalar value.front (others ++ rest) = .ok rest) : IsPassed value := by
  intro tokens text frames ends spaced
  rw [shape] at spaced
  obtain ⟨rest, spaced, faced⟩ := spaced.faced value.front_ne.1
  refine ⟨rest, spaced, ?_⟩
  rw [skipRest_scalar faced noList noObject, skipped (spaced.endsToken ends)]
  rfl

theorem Numeral.isPassed (numeral : Numeral) : IsPassed (.number numeral) := by
  obtain ⟨first, others, shape, isFirst⟩ := numeral.written_front
  have front : (Value.number numeral).front = first := by rw [Value.front, shape]; rfl
  refine @isPassed_scalar _ others (by rw [Value.tokens, front, shape]) ?_ ?_ ?_
  · rw [front]
    rintro rfl
    rcases isFirst with same | isDigit
    · cases same
    · cases isDigit
  · rw [front]
    rintro rfl
    rcases isFirst with same | isDigit
    · cases same
    · cases isDigit
  · intro rest ends
    have skipped := skipNumber_written ends numeral
    rw [front]
    rw [Numeral.written] at shape
    split at shape
    next =>
      obtain ⟨rfl, rfl⟩ := List.cons.inj shape
      exact skipped
    next =>
      obtain ⟨digit, digits, whole, isDigit, -⟩ := numeral.whole.exists_cons
      rw [shape] at skipped
      rw [Numeral.unsigned, whole, List.cons_append] at shape
      obtain ⟨rfl, rfl⟩ := List.cons.inj shape
      rw [skipScalar_digit isDigit]
      exact skipped

/-- Every value is passed over up to its end. -/
theorem Value.isPassed : (value : Value) → IsPassed value
  | .word spelled => by
      cases spelled <;>
        exact isPassed_scalar (by rw [Value.tokens]; rfl) (by decide) (by decide) fun _ => rfl
  | .number numeral => numeral.isPassed
  | .text quoted =>
      isPassed_scalar (by rw [Value.tokens]; rfl) (by simp [Value.front]) (by simp [Value.front])
        fun {rest} _ => by
          have skipped := skipText_quoted quoted.isQuoted rest
          simpa [Value.front, skipScalar] using skipped
  | .list elements => fun frames ends spaced => by
      rw [Value.tokens, List.cons_append, List.append_assoc] at spaced
      obtain ⟨behind, spaced, faced⟩ := spaced.faced rfl
      obtain ⟨rest, spaced, skipped⟩ := @skipRest_separated .list _
        (List.forall_mem_map.mpr fun element _ => IsPassed.element (isPassed element)) frames _ _ spaced
      exact ⟨rest, spaced, by rw [skipRest_list faced, List.nil_append, skipped]⟩
  | .object members => fun frames ends spaced => by
      rw [tokens_object, List.cons_append, List.append_assoc] at spaced
      obtain ⟨behind, spaced, faced⟩ := spaced.faced rfl
      obtain ⟨rest, spaced, skipped⟩ := @skipRest_separated .object _
        (List.forall_mem_map.mpr fun member _ => IsPassed.member (isPassed member.2)) frames _ _ spaced
      exact ⟨rest, spaced, by rw [skipRest_object faced, List.nil_append, skipped]⟩
termination_by value => value
decreasing_by
  · decreasing_tactic
  · exact sizeOf_member ‹_›

/-- Any value is passed over up to what stands behind it. -/
theorem skipValue_spaced {value : Value} {tokens : List (List Char)} {text : List Char}
    (ends : EndsValue tokens) (spaced : Spaced (value.tokens ++ tokens) text) :
    ∃ rest, Spaced tokens rest ∧ skipValue text = .ok rest := by
  obtain ⟨rest, spaced, skipped⟩ := value.isPassed [] ends spaced
  refine ⟨rest, spaced, ?_⟩
  rw [skipValue, skipped, skipRest]

end SnippetSandbox.Json
