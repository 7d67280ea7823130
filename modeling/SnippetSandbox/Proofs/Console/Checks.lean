import SnippetSandbox.Console.Command
import SnippetSandbox.Proofs.FileSystem.Schedule

/-!
# What a run makes sure of before it begins

A run checks one thing after another: each source can be read, the configuration loads, the
tools are there.  The first check that fails is what the run is refused for.  None of them does
anything to the disk, but each one that reads a file uses up a decision of the schedule.
-/

namespace SnippetSandbox

open FileSystem

namespace Console

/-- What a check has found, when it has failed. -/
def problem? {Result : Type} : Except Refusal Result → Option Refusal
  | .ok _ => none
  | .error refusal => some refusal

/-- A source can be read as a text. -/
def checkSource (file : String) (disk : Disk) : Option Refusal :=
  problem? ((readText file disk).1.mapError (.unreadable file))

namespace Setting

variable (setting : Setting)

/-- The configuration loads. -/
def checkConfig (disk : Disk) : Option Refusal :=
  problem? ((Config.load setting.configFile disk).1.mapError .failed)

/-- Both tools are found. -/
def checkTools (disk : Disk) : Option Refusal :=
  problem? ((Toolchain.detect disk setting.tools).mapError .failed)

/-- What a run of these files makes sure of, in this order. -/
def checks (files : List String) : List (Disk → Option Refusal) :=
  files.map checkSource ++ [setting.checkConfig, setting.checkTools]

end Setting

/-- What the first check finds that fails.  A check uses up a decision of the schedule. -/
def firstProblem? : List (Disk → Option Refusal) → Disk → Option Refusal
  | [], _ => none
  | check :: others, disk => (check disk).or (firstProblem? others disk.nextFault.2)

theorem exists_of_firstProblem {checks : List (Disk → Option Refusal)} {disk : Disk}
    {refusal : Refusal} (found : firstProblem? checks disk = some refusal) :
    ∃ check ∈ checks, ∃ reached, check reached = some refusal := by
  induction checks generalizing disk with
  | nil => cases found
  | cons check others ih =>
      rcases Option.or_eq_some_iff.mp found with here | ⟨-, later⟩
      · exact ⟨check, List.mem_cons_self, disk, here⟩
      · obtain ⟨other, isMember, fails⟩ := ih later
        exact ⟨other, List.mem_cons_of_mem _ isMember, fails⟩

theorem spends_readSources (files : List String) :
    Effect.Relates Disk.Spends (readSources files) := by
  induction files with
  | nil => exact .refl
  | cons file others ih =>
      rw [readSources]
      refine .bind .trans (Disk.Spends.readText file) fun text => ?_
      exact .bind .trans ih fun _ => .refl

theorem firstProblem_sources (files : List String) (further : List (Disk → Option Refusal))
    (disk : Disk) :
    firstProblem? (files.map checkSource ++ further) disk =
      match readSources files disk with
      | (.ok _, read) => firstProblem? further read
      | (.error refusal, _) => some refusal := by
  induction files generalizing disk with
  | nil => rfl
  | cons file others ih =>
      rw [List.map_cons, List.cons_append, firstProblem?, ih, checkSource, ← readText_spent file]
      rcases answered : readText file disk with ⟨cause | text, rest⟩
      · have fails : readSources (file :: others) disk =
            (.error (.unreadable file cause), rest) := by
          refine Effect.bind_of_error ?_
          rw [answered]
          rfl
        rw [fails]
        rfl
      · have goesOn : readSources (file :: others) disk =
            (do return text :: (← readSources others)) rest := by
          refine Effect.bind_of_ok ?_
          rw [answered]
          rfl
        rw [goesOn]
        rcases read : readSources others rest with ⟨refusal | texts, last⟩
        · rw [Effect.bind_of_error read]
          rfl
        · rw [Effect.bind_of_ok read]
          rfl

theorem spends_prepare (setting : Setting) (files : List String) :
    Effect.Relates Disk.Spends (prepare setting files) := by
  refine .bind .trans (spends_readSources files) fun sources => ?_
  refine .bind .trans (Disk.Spends.readText setting.configFile) fun config => ?_
  refine .bind .trans (fun disk => .refl disk) fun disk => ?_
  split <;> exact .refl

/-- A run gets past its preparation just when no check fails, and the first one that does is
what it is refused for. -/
theorem problem_prepare (setting : Setting) (files : List String) (disk : Disk) :
    problem? (prepare setting files disk).1 = firstProblem? (setting.checks files) disk := by
  rw [Setting.checks, firstProblem_sources]
  rcases read : readSources files disk with ⟨refusal | sources, rest⟩
  · rw [prepare, Effect.bind_of_error read]
    rfl
  · have loads : perform (Config.load setting.configFile) rest =
        ((Config.load setting.configFile rest).1.mapError .failed, rest.nextFault.2) := by
      rw [← readText_spent setting.configFile]
      rfl
    rw [prepare, Effect.bind_of_ok read]
    dsimp only
    rw [firstProblem?, Setting.checkConfig]
    rcases loaded : (Config.load setting.configFile rest).1 with failure | config
    · rw [loaded] at loads
      rw [Effect.bind_of_error loads]
      rfl
    · rw [loaded] at loads
      have asked : (get : Step Disk) rest.nextFault.2 = (.ok rest.nextFault.2, rest.nextFault.2) :=
        rfl
      rw [Effect.bind_of_ok loads, Effect.bind_of_ok asked, firstProblem?, Setting.checkTools]
      cases Toolchain.detect rest.nextFault.2 setting.tools <;> rfl

end Console

end SnippetSandbox
