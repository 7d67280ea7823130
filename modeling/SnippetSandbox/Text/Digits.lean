import SnippetSandbox.Instances

/-!
# Numbers in decimal digits

The decimal digits of a natural number, most significant first and without a
leading zero, and the number that a run of digits stands for.
-/

namespace SnippetSandbox.Text

def digitChar (digit : Nat) : Char :=
  Char.ofNat (0x30 + digit % 10)

def digits (number : Nat) : List Char :=
  if number < 10 then [digitChar number]
  else digits (number / 10) ++ [digitChar number]
termination_by number
decreasing_by omega

def digitValue (character : Char) : Nat :=
  character.toNat - 0x30

def numberFrom (start : Nat) (written : List Char) : Nat :=
  written.foldl (fun number character => 10 * number + digitValue character) start

def number (written : List Char) : Nat :=
  numberFrom 0 written

def decimal (value : Nat) : String :=
  String.ofList (digits value)

/-- The decimal digits of a number, filled up with zeros in front to a width. -/
def paddedDigits (width value : Nat) : List Char :=
  List.replicate (width - (digits value).length) '0' ++ digits value

/-- An integer's decimal digits behind its sign; only a negative one shows it. -/
def signedDecimal : Int → String
  | .ofNat value => decimal value
  | .negSucc value => "-" ++ decimal (value + 1)

theorem digitChar_isDigit (digit : Nat) : (digitChar digit).isDigit = true := by
  have bound : digit % 10 < 10 := Nat.mod_lt _ (by decide)
  have all : ∀ small < 10, (Char.ofNat (0x30 + small)).isDigit = true := by decide
  exact all _ bound

theorem digitValue_digitChar (digit : Nat) : digitValue (digitChar digit) = digit % 10 := by
  have bound : digit % 10 < 10 := Nat.mod_lt _ (by decide)
  have all : ∀ small < 10, digitValue (Char.ofNat (0x30 + small)) = small := by decide
  exact all _ bound

theorem digits_ne_nil (value : Nat) : digits value ≠ [] := by
  unfold digits
  split <;> simp

theorem all_isDigit_digits (value : Nat) : (digits value).all Char.isDigit = true := by
  induction value using Nat.strongRecOn with
  | ind value ih =>
      unfold digits
      split
      next => simp [digitChar_isDigit]
      next large => simp [digitChar_isDigit, ih (value / 10) (by omega)]

theorem numberFrom_append (start : Nat) (front back : List Char) :
    numberFrom start (front ++ back) = numberFrom (numberFrom start front) back := by
  simp [numberFrom]

/-- Reading a number's digits gives the number back. -/
theorem number_digits (value : Nat) : number (digits value) = value := by
  induction value using Nat.strongRecOn with
  | ind value ih =>
      unfold digits
      split
      next small =>
        simp only [number, numberFrom, List.foldl_cons, List.foldl_nil, digitValue_digitChar]
        omega
      next large =>
        have rest := ih (value / 10) (by omega)
        unfold number at rest ⊢
        rw [numberFrom_append, rest]
        simp only [numberFrom, List.foldl_cons, List.foldl_nil, digitValue_digitChar]
        omega

end SnippetSandbox.Text
