import Mathlib
import SnippetSandbox.Proofs.FileSystem.Way
import SnippetSandbox.Toolchain

/-!
# Tools in the home of a kit

The home of a kit is searched through a list of directories with one entry.  A
colon in the home makes several entries of it, and then the tools of the home are
found only through an entry that leads back to it.
-/

namespace SnippetSandbox

open FileSystem Text

namespace Toolchain

variable {disk : Disk} {userHome : Option String} {base home tool entry list : String}

/-- Where a kit keeps a tool. -/
def inKit (home tool : String) : String :=
  Path.join (Path.join home "bin") tool

/-- The entries of a search list. -/
def entries (list : String) : List String :=
  (splitOn ':' list.toList).map String.ofList

/-- An entry of a search list leads to the base itself: it names nothing, or it leads there
from the user's home. -/
def LeadsBack (userHome : Option String) (base tool entry : String) : Prop :=
  match fromHome? userHome entry with
  | some directory => Path.join directory tool = Path.join base tool
  | none => Path.isAbsolute entry = false ∧ Path.names entry = []

/-- Some entry made of a kit's directory leads back to it, and no entry before it gives a file
that can be executed. -/
def IsFoundAgain (disk : Disk) (userHome : Option String) (home tool : String) : Prop :=
  let base := Path.join home "bin"
  ∃ earlier entry later, entries base = earlier ++ entry :: later ∧
    LeadsBack userHome base tool entry ∧
    ∀ other ∈ earlier, disk.isExecutable (candidate userHome base tool other) = false

theorem candidates_eq :
    candidates userHome base tool list = (entries list).map (candidate userHome base tool) := by
  rw [entries, List.map_map]
  rfl

theorem colon_not_mem_of_mem_entries (isEntry : entry ∈ entries list) : ':' ∉ entry.toList := by
  obtain ⟨letters, isPiece, rfl⟩ := List.mem_map.mp isEntry
  simpa using not_mem_of_mem_splitOn isPiece

theorem entries_of_noColon (noColon : ':' ∉ list.toList) : entries list = [list] := by
  rw [entries, splitOn_eq, List.splitOn_eq_singleton noColon]
  simp

/-- An absolute entry gives the tool right inside it. -/
theorem candidate_of_isAbsolute (absolute : Path.isAbsolute entry = true)
    (relative : Path.isAbsolute tool = false) :
    candidate userHome base tool entry = Path.join entry tool := by
  have noTilde : fromHome? userHome entry = none := by
    rw [fromHome?, Path.segments_of_isAbsolute absolute]
    split
    · rename_i starts
      exact absurd (List.cons.inj starts).1 (by decide)
    · rfl
  rw [candidate, noTilde]
  dsimp only
  rw [if_pos (by rwa [Path.isAbsolute_join relative])]

theorem search_of_noColon (noColon : ':' ∉ list.toList) (absolute : Path.isAbsolute list = true)
    (relative : Path.isAbsolute tool = false)
    (runs : disk.isExecutable (Path.join list tool) = true) :
    search? disk userHome base tool list = some (Path.join list tool) := by
  rw [search?, candidates_eq, entries_of_noColon noColon, List.map_singleton,
    candidate_of_isAbsolute absolute relative]
  exact List.find?_cons_of_pos runs

theorem noColon_join {name : String} (relative : Path.isAbsolute name = false)
    (noColon : ':' ∉ base.toList) (nameFree : ':' ∉ name.toList) :
    ':' ∉ (Path.join base name).toList := by
  rw [Path.join_eq relative, Path.lead]
  split <;> simp [noColon, nameFree]

theorem colon_join {name : String} (relative : Path.isAbsolute name = false)
    (colon : ':' ∈ base.toList) : ':' ∈ (Path.join base name).toList := by
  have written : base ≠ "" := by
    rintro rfl
    exact absurd colon (by decide)
  obtain ⟨rest, same⟩ := Path.join_eq_append relative written
  rw [same, String.toList_append]
  exact List.mem_append_left _ colon

/-- A base with a colon in it is met again only by an entry that leads back. -/
theorem candidate_eq_iff (userHome : Option String) (colon : ':' ∈ base.toList)
    (noColon : ':' ∉ entry.toList) (proper : Path.IsProper tool) (toolFree : ':' ∉ tool.toList) :
    candidate userHome base tool entry = Path.join base tool ↔
      LeadsBack userHome base tool entry := by
  have relative := Path.isAbsolute_of_noSlash proper.noSlash
  have ofTool := Path.names_of_isProper proper
  rw [candidate, LeadsBack]
  cases fromHome? userHome entry with
  | some directory => rfl
  | none =>
      dsimp only
      rw [Path.isAbsolute_join relative]
      by_cases absolute : Path.isAbsolute entry = true
      · rw [if_pos absolute]
        constructor
        · intro same
          exact absurd (same ▸ colon_join relative colon) (noColon_join relative noColon toolFree)
        · rintro ⟨notAbsolute, -⟩
          exact absurd absolute (by simp [notAbsolute])
      · rw [if_neg absolute]
        constructor
        · intro same
          have named := congrArg Path.names same
          rw [Path.names_joinAll_names, Path.names_join relative, Path.names_join relative, ofTool,
            List.append_cancel_left_eq] at named
          exact ⟨by simpa using absolute, by simpa using named⟩
        · rintro ⟨-, nothing⟩
          rw [Path.names_join relative, nothing, ofTool]
          rfl

/-- A tool of the home comes first just when there is no colon or it is found again. -/
theorem searchKit_iff (userHome : Option String) (absolute : Path.isAbsolute home = true)
    (proper : Path.IsProper tool) (toolFree : ':' ∉ tool.toList)
    (runs : disk.isExecutable (inKit home tool) = true) :
    searchKit? disk userHome tool home = some (inKit home tool) ↔
      ':' ∉ home.toList ∨ IsFoundAgain disk userHome home tool := by
  have relative := Path.isAbsolute_of_noSlash proper.noSlash
  have within : Path.isAbsolute "bin" = false := by decide
  by_cases colon : ':' ∈ home.toList
  · have inBase : ':' ∈ (Path.join home "bin").toList := colon_join within colon
    rw [searchKit?, search?, candidates_eq]
    rw [List.find?_map, Option.map_eq_some_iff]
    have leadsBack {entry : String} (isEntry : entry ∈ entries (Path.join home "bin")) :=
      candidate_eq_iff userHome inBase (colon_not_mem_of_mem_entries isEntry) proper
        toolFree
    constructor
    · rintro ⟨entry, found, same⟩
      obtain ⟨-, earlier, later, whole, before⟩ := List.find?_eq_some_iff_append.mp found
      refine .inr ⟨earlier, entry, later, whole, ?_, fun other isOther => ?_⟩
      · exact (leadsBack (by simp [whole])).mp same
      · simpa using before other isOther
    · rintro (noColon | ⟨earlier, entry, later, whole, back, before⟩)
      · exact absurd colon noColon
      · have same := (leadsBack (by simp [whole])).mpr back
        refine ⟨entry, List.find?_eq_some_iff_append.mpr ⟨?_, earlier, later, whole, ?_⟩, same⟩
        · exact (congrArg disk.isExecutable same).trans runs
        · intro other isOther
          simpa using before other isOther
  · have noColon : ':' ∉ (Path.join home "bin").toList := noColon_join within colon (by decide)
    have isAbsolute : Path.isAbsolute (Path.join home "bin") = true := by
      rwa [Path.isAbsolute_join within]
    exact iff_of_true (search_of_noColon noColon isAbsolute relative runs) (.inl colon)

theorem detect_iff {tools : ToolEnvironment} {toolchain : Toolchain} :
    detect disk tools = .ok toolchain ↔
      find disk tools compilerName = .ok toolchain.compiler ∧
      find disk tools runtimeName = .ok toolchain.runtime ∧
      toolchain.home = tools.kitHome.or (homeOf? disk toolchain.runtime) := by
  unfold Toolchain.detect
  rcases toolchain with ⟨compiler, runtime, home⟩
  cases find disk tools compilerName with
  | error failure =>
      constructor
      · rintro ⟨⟩
      · rintro ⟨⟨⟩, -⟩
  | ok found =>
      cases find disk tools runtimeName with
      | error failure =>
          constructor
          · rintro ⟨⟩
          · rintro ⟨-, ⟨⟩, -⟩
      | ok other =>
          constructor
          · rintro ⟨⟩
            exact ⟨rfl, rfl, rfl⟩
          · rintro ⟨⟨⟩, ⟨⟩, isHome⟩
            exact congrArg (fun home => Except.ok (Toolchain.mk compiler runtime home)) isHome.symm

/-- No tools are found only because one of them is nowhere. -/
theorem detect_error {tools : ToolEnvironment} {failure : Failure}
    (failed : detect disk tools = .error failure) :
    ∃ tool, failure = .toolchain (.notFound tool) := by
  have find_error {tool : String} {failure : Failure}
      (failed : find disk tools tool = .error failure) :
      failure = .toolchain (.notFound tool) := by
    rw [find] at failed
    split at failed <;> cases failed
    rfl
  unfold Toolchain.detect at failed
  rcases compiler : find disk tools compilerName with problem | found
  · rw [compiler] at failed
    cases failed
    exact ⟨_, find_error compiler⟩
  · rw [compiler] at failed
    rcases runtime : find disk tools runtimeName with problem | other
    · rw [runtime] at failed
      cases failed
      exact ⟨_, find_error runtime⟩
    · rw [runtime] at failed
      cases failed

/-- A tool is found in a home, whatever the search path is, just when the search of the home
finds it. -/
theorem find_iff {path : String} :
    (∀ searchPath, find disk ⟨some home, searchPath, userHome⟩ tool = .ok path) ↔
      searchKit? disk userHome tool home = some path := by
  constructor
  · intro found
    have alone := found none
    rw [find] at alone
    dsimp only [Option.bind_some, Option.bind_none] at alone
    rw [Option.or_none] at alone
    cases inHome : searchKit? disk userHome tool home with
    | none =>
        rw [inHome] at alone
        cases alone
    | some other =>
        rw [inHome] at alone
        cases alone
        rfl
  · intro inHome searchPath
    rw [find]
    dsimp only [Option.bind_some]
    rw [inHome]
    rfl

/-- The tools of an absolute home in which both can be executed are the ones found, whatever
the search path is, just when the home has no colon or both are found again. -/
theorem detect_home_iff (absolute : Path.isAbsolute home = true)
    (compilerRuns : disk.isExecutable (inKit home compilerName) = true)
    (runtimeRuns : disk.isExecutable (inKit home runtimeName) = true) :
    (∀ searchPath, detect disk ⟨some home, searchPath, userHome⟩ =
        .ok ⟨inKit home compilerName, inKit home runtimeName, some home⟩) ↔
      ':' ∉ home.toList ∨ ∀ tool ∈ [compilerName, runtimeName],
        IsFoundAgain disk userHome home tool := by
  have compiler := searchKit_iff userHome absolute (by decide) (by decide)
    compilerRuns
  have runtime := searchKit_iff userHome absolute (by decide) (by decide)
    runtimeRuns
  have each : (∀ searchPath, detect disk ⟨some home, searchPath, userHome⟩ =
      .ok ⟨inKit home compilerName, inKit home runtimeName, some home⟩) ↔
      searchKit? disk userHome compilerName home = some (inKit home compilerName) ∧
        searchKit? disk userHome runtimeName home = some (inKit home runtimeName) := by
    rw [← find_iff, ← find_iff, ← forall_and]
    refine forall_congr' fun searchPath => detect_iff.trans ?_
    simp
  rw [each, compiler, runtime, ← or_and_left]
  simp

def kit : Node :=
  .directory [("bin", .directory [("javac", .file 0 .empty true), ("java", .file 1 .empty true)])]

/-- A kit in a home with a colon, and one in a home without. -/
def kits : Disk where
  tree := ⟨[("j:dk", kit), ("other", kit)], 2⟩
  current := []

theorem isExecutable_kits (colon : Bool) {tool : String}
    (isTool : tool = compilerName ∨ tool = runtimeName) :
    kits.isExecutable (inKit (if colon then "/j:dk" else "/other") tool) = true := by
  cases colon <;> rcases isTool with rfl | rfl
  all_goals rw [Disk.isExecutable, Disk.entryAt?, Disk.find]
  · rw [Tree.find_absolute ["", "other", "bin", "javac"] (by decide) (by cbv)]
  · rw [Tree.find_absolute ["", "other", "bin", "java"] (by decide) (by cbv)]
  · rw [Tree.find_absolute ["", "j:dk", "bin", "javac"] (by decide) (by cbv)]
  · rw [Tree.find_absolute ["", "j:dk", "bin", "java"] (by decide) (by cbv)]

theorem detect_home_iff_other :
    detect kits ⟨some "/other", some "/j:dk/bin", none⟩ =
      .ok ⟨inKit "/other" compilerName, inKit "/other" runtimeName, some "/other"⟩ :=
  (detect_home_iff (by decide) (isExecutable_kits false (.inl rfl))
    (isExecutable_kits false (.inr rfl))).mpr (.inl (by decide)) (some "/j:dk/bin")

/-- Neither entry that the colon makes of the home leads to a tool. -/
theorem searchKit_colon {tool : String} (isTool : tool = compilerName ∨ tool = runtimeName) :
    searchKit? kits none tool "/j:dk" = none := by
  rw [searchKit?, search?, candidates_eq, List.find?_eq_none]
  intro path isCandidate
  have apart : (entries (Path.join "/j:dk" "bin")).map
      (candidate none (Path.join "/j:dk" "bin") tool) =
        [Path.join "/j" tool, Path.join "/j:dk/bin/dk/bin" tool] := by
    rcases isTool with rfl | rfl <;> decide
  rw [apart, List.mem_cons, List.mem_singleton] at isCandidate
  rcases isTool with rfl | rfl <;> rcases isCandidate with rfl | rfl
  all_goals rw [Disk.isExecutable, Disk.entryAt?, Disk.find]
  · rw [Tree.find_absolute ["", "j", "javac"] (by decide) (by cbv)]
    decide
  · rw [Tree.find_absolute ["", "j:dk", "bin", "dk", "bin", "javac"] (by decide) (by cbv)]
    decide
  · rw [Tree.find_absolute ["", "j", "java"] (by decide) (by cbv)]
    decide
  · rw [Tree.find_absolute ["", "j:dk", "bin", "dk", "bin", "java"] (by decide) (by cbv)]
    decide

/-- The colon in a home hides the tools in it behind those of the search path. -/
theorem detect_colon : kits.isExecutable (inKit "/j:dk" compilerName) = true ∧
    kits.isExecutable (inKit "/j:dk" runtimeName) = true ∧
    detect kits ⟨some "/j:dk", some "/other/bin", none⟩ =
      .ok ⟨inKit "/other" compilerName, inKit "/other" runtimeName, some "/j:dk"⟩ := by
  refine ⟨isExecutable_kits true (.inl rfl), isExecutable_kits true (.inr rfl), ?_⟩
  have finds {tool : String} (isTool : tool = compilerName ∨ tool = runtimeName) :
      find kits ⟨some "/j:dk", some "/other/bin", none⟩ tool = .ok (inKit "/other" tool) := by
    have onPath : search? kits none kits.current.path tool "/other/bin" =
        some (inKit "/other" tool) :=
      search_of_noColon (by decide) (by decide) (by rcases isTool with rfl | rfl <;> decide)
        (isExecutable_kits false isTool)
    rw [find]
    dsimp only [Option.bind_some]
    rw [searchKit_colon isTool, onPath]
    rfl
  exact detect_iff.mpr ⟨finds (.inl rfl), finds (.inr rfl), rfl⟩

end Toolchain

end SnippetSandbox
