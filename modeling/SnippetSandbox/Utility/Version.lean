import SnippetSandbox.Text.Lines

/-!
# The order of versions

Names with numbers in them are compared number by number, so that the ninth comes before
the tenth.  What only says what kind of file it is counts last.
-/

namespace SnippetSandbox.Utility

def compareTexts : List Char → List Char → Ordering
  | [], [] => .eq
  | [], _ :: _ => .lt
  | _ :: _, [] => .gt
  | first :: firsts, second :: seconds =>
      if first < second then .lt
      else if second < first then .gt
      else compareTexts firsts seconds

def versionWeight : List Char → Int
  | [] => -1
  | character :: _ =>
      if character.isDigit then 0
      else if character.isAlpha then character.toNat
      else if character = '~' then -2
      else character.toNat + 256

/-- The order of two versions, which are numbers with other characters between them.
`count` bounds the number of steps. -/
def compareVersions : Nat → List Char → List Char → Ordering
  | 0, _, _ | _, [], [] => .eq
  | count + 1, first, second =>
      let isOther (text : List Char) : Bool := text.head?.any fun letter => !letter.isDigit
      if isOther first || isOther second then
        let order := compare (versionWeight first) (versionWeight second)
        if order = .eq then compareVersions count first.tail second.tail else order
      else
        let first := first.dropWhile (· = '0')
        let second := second.dropWhile (· = '0')
        let firstDigits := first.takeWhile Char.isDigit
        let secondDigits := second.takeWhile Char.isDigit
        let order := (compare firstDigits.length secondDigits.length).then
          (compareTexts firstDigits secondDigits)
        if order = .eq then
          compareVersions count (first.drop firstDigits.length) (second.drop secondDigits.length)
        else order

/-- A part of a name, behind a point, that only says what kind of file it is. -/
def isKind (part : List Char) : Bool :=
  match part with
  | first :: others =>
      (first.isAlpha || first = '~') &&
        others.all fun letter => letter.isAlphanum || letter = '~'
  | [] => false

def withoutKinds (name : List Char) : List Char :=
  let parts := Text.splitOn '.' name
  let kept := (parts.reverse.dropWhile isKind).reverse
  let kept := if kept = [] then parts.take 1 else kept
  ['.'].intercalate kept

def compareNames (first second : List Char) : Ordering :=
  let rank (name : List Char) : Nat := match name with
    | [] => 0
    | ['.'] => 1
    | ['.', '.'] => 2
    | '.' :: _ => 3
    | _ => 4
  let order := compare (rank first) (rank second)
  if order ≠ .eq || rank first < 3 then order
  else
    let count := first.length + second.length + 2
    (compareVersions count (withoutKinds first) (withoutKinds second)).then
      (compareVersions count first second)

end SnippetSandbox.Utility
