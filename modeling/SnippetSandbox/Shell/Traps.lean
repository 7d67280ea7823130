import SnippetSandbox.Shell.Options

/-!
# Traps

A script can say what is to be done on a signal and at its end.  What is to be done is
kept as text; an empty text means that the signal is ignored.
-/

namespace SnippetSandbox.Shell

open Action Kernel

def endSignal : Nat := 0

/-- React to a signal as the traps want it.  Signals that were ignored when the script
was started stay so. -/
def reactAsSet (signal : Nat) : Action Unit := do
  let state ← own id
  if signal = endSignal || state.deaf.contains signal then return ()
  Program.react signal (match state.traps.lookup signal with
    | none => none
    | some "" => if signal = Signal.child then none else some .ignored
    | some _ => some .noted)

def setTrap (text : Option String) (signal : Nat) : Action Unit := do
  change fun state =>
    { state with
      traps := (text.map fun text => (signal, text)).toList ++
        state.traps.filter fun (found, _) => found ≠ signal }
  reactAsSet signal

def showTraps : Action Nat := do
  let traps ← own Own.traps
  let sorted := traps.mergeSort fun first second => decide (first.1 ≤ second.1)
  putLines (sorted.map fun (signal, text) =>
    "trap -- " ++ quotedText text ++ " " ++ Signal.name signal)

def setTraps (text : Option String) : List String → Action Nat
  | [] => return 0
  | word :: others => do
      match Signal.ofText? word with
      | some signal =>
          setTrap text signal
          setTraps text others
      | none =>
          let _ ← writeText 2 ("trap: " ++ word ++ ": bad trap\n")
          return 1

def trap (arguments : List String) : Action Nat := do
  let words ← withoutOptions arguments
  match words with
  | [] => showTraps
  | [_] => setTraps none words
  | first :: others =>
      let isNumber := first ≠ "" && first.toList.all Char.isDigit
      if isNumber && (Signal.ofText? first).isSome then setTraps none words
      else setTraps (if first = "-" then none else some first) others

def hasTraps : Action Bool :=
  own fun state => state.traps.any fun (_, text) => text ≠ ""

end SnippetSandbox.Shell
