import SnippetSandbox.Proofs.FileSystem.Absolute
import SnippetSandbox.Proofs.Run.Classpath

/-!
# One workspace for every spelling of its root

The same root can be written with dots, with further slashes, and from the working directory or
from the root directory on.  A workspace has the same paths for all of these spellings and for
no others.  Locations are compared as texts, so this is what keeps a workspace from being
registered twice.
-/

namespace SnippetSandbox

open FileSystem

/-- Two paths that are read from this place name the same location, but for links and double
dots: they have the same names from the root directory on, and exactly two slashes stand in
front of both or of neither. -/
structure Path.SameLocation (current : Place) (one other : String) : Prop where
  written : one ≠ "" ∧ other ≠ ""
  sameNames : Path.placed current one = Path.placed current other
  sameFront : Path.isDoubled one = Path.isDoubled other

namespace Path

/-! ## Spellings that make no difference -/

namespace SameLocation

variable {current : Place} {path void rest : String}

/-- Dots and further slashes make no difference behind a slash. -/
theorem of_void (named : names void = []) (front : String)
    (doubled :
      isDoubled (front ++ "/" ++ (void ++ "/" ++ rest)) = isDoubled (front ++ "/" ++ rest)) :
    SameLocation current (front ++ "/" ++ (void ++ "/" ++ rest)) (front ++ "/" ++ rest) where
  written := by simp
  sameNames := by
    have begins (behind : String) :
        isAbsolute (front ++ "/" ++ behind) = isAbsolute (front ++ "/") :=
      isAbsolute_append (by simp) behind
    simp only [placed, begins, names_append_slash, named, List.nil_append]
  sameFront := doubled

/-- They make none in front of a relative path, if what then stands there is relative too. -/
theorem of_leading (named : names void = []) (written : void ≠ "")
    (begins : isAbsolute void = false) (some : rest ≠ "") (relative : isAbsolute rest = false) :
    SameLocation current (void ++ "/" ++ rest) rest := by
  have still : isAbsolute (void ++ "/" ++ rest) = false := by
    rw [String.append_assoc, isAbsolute_append written, begins]
  refine ⟨⟨by simp, some⟩, ?_, ?_⟩
  · simp only [placed, still, relative, names_append_slash, named, List.nil_append]
  · rw [isDoubled_of_relative still, isDoubled_of_relative relative]

/-- A slash at the end makes no difference. -/
theorem of_trailing (some : path ≠ "") (doubled : isDoubled (path ++ "/") = isDoubled path) :
    SameLocation current (path ++ "/") path := by
  refine ⟨⟨by simp, some⟩, ?_, doubled⟩
  have named := names_append_slash path ""
  rw [String.append_empty, show names "" = [] from rfl, List.append_nil] at named
  rw [placed, placed, named, isAbsolute_append some]

/-- A relative path can be written from the root directory on. -/
theorem of_relative (proper : ∀ name ∈ current, IsProper name) (some : path ≠ "")
    (relative : isAbsolute path = false) :
    SameLocation current path (join current.path path) := by
  have behind : isAbsolute (join current.path path) = true := by
    rw [isAbsolute_join relative, isAbsolute_path proper]
  refine ⟨⟨some, ne_empty_of_isAbsolute behind⟩, ?_, ?_⟩
  · rw [placed, placed, if_neg (by simp [relative]), if_pos behind, names_join relative,
      names_path proper]
  · rw [isDoubled_of_relative relative, isDoubled,
      leadingSlashes_join (isAbsolute_path proper) relative, ← isDoubled, isDoubled_path proper]

end SameLocation

end Path

/-! ## The workspace of a root -/

namespace Workspace

def paths (workspace : Workspace) : List String :=
  [workspace.sandboxDir, workspace.sourceDir, workspace.classDir, workspace.logFile,
    workspace.lockFile]

theorem inside_closed (path full : String) : inside (Path.closed path full) = inside full := by
  have sandbox : Path.isAbsolute "sandbox" = false := by decide
  have lock : Path.isAbsolute "sandbox.lock" = false := by decide
  simp only [inside, Path.join_closed sandbox, Path.join_closed lock]

theorem isAbsolute_of_mem_paths {root path : String} (absolute : Path.isAbsolute root = true)
    (isPath : path ∈ (inside root).paths) : Path.isAbsolute path = true := by
  have sandbox : Path.isAbsolute (Path.join root "sandbox") = true :=
    (Path.isAbsolute_join (by decide) root).trans absolute
  have further {name : String} (relative : Path.isAbsolute name = false) :
      Path.isAbsolute (Path.join (Path.join root "sandbox") name) = true :=
    (Path.isAbsolute_join relative _).trans sandbox
  simp only [paths, inside, List.mem_cons, List.not_mem_nil, or_false] at isPath
  rcases isPath with rfl | rfl | rfl | rfl | rfl
  · exact sandbox
  · exact further (by decide)
  · exact further (by decide)
  · exact further (by decide)
  · exact (Path.isAbsolute_join (by decide) root).trans absolute

section Spelled

variable {current : Place} {one other root : String}

/-- A workspace is where the names of its root lead, seen from the root directory. -/
theorem at?_eq (proper : ∀ name ∈ current, Path.IsProper name) (some : root ≠ "") :
    at? current.path root =
      .ok (inside (Path.joinAll (Path.origin root) (Path.placed current root))) := by
  rw [at?, Path.absolute_eq proper some]
  dsimp only
  rw [inside_closed]

theorem ne_empty_of_at? {directory : String} {workspace : Workspace}
    (made : at? directory root = .ok workspace) : root ≠ "" := by
  rintro rfl
  cases made

theorem sameLocation_of_at? (proper : ∀ name ∈ current, Path.IsProper name)
    {workspace : Workspace} (first : at? current.path one = .ok workspace)
    (second : at? current.path other = .ok workspace) : Path.SameLocation current one other := by
  have written := ne_empty_of_at? first
  have otherWritten := ne_empty_of_at? second
  rw [at?_eq proper written] at first
  rw [at?_eq proper otherWritten] at second
  -- The path of the sandbox alone tells the names of the root and how it begins.
  have same := congrArg sandboxDir (Except.ok.inj (first.trans second.symm))
  simp only [inside] at same
  have named (path : String) : Path.names (Path.join (Path.joinAll (Path.origin path)
      (Path.placed current path)) "sandbox") = Path.placed current path ++ ["sandbox"] := by
    rw [Path.names_join (by decide), Path.names_joinAll_placed proper, Path.names_origin,
      List.nil_append]
    rfl
  have fronted (path : String) : Path.isDoubled (Path.join (Path.joinAll (Path.origin path)
      (Path.placed current path)) "sandbox") = Path.isDoubled path := by
    rw [Path.isDoubled, Path.leadingSlashes_join (Path.isAbsolute_joinAll_placed proper path)
      (by decide), ← Path.isDoubled, Path.isDoubled_joinAll_placed proper]
  refine ⟨⟨written, otherWritten⟩, ?_, ?_⟩
  · have names := congrArg Path.names same
    rw [named, named] at names
    exact List.append_cancel_right names
  · rw [← fronted one, same, fronted]

end Spelled

theorem isAbsolute_of_at? {current : Place} (proper : ∀ name ∈ current, Path.IsProper name)
    {root path : String} {workspace : Workspace} (made : at? current.path root = .ok workspace)
    (isPath : path ∈ workspace.paths) : Path.isAbsolute path = true := by
  rw [at?_eq proper (ne_empty_of_at? made)] at made
  obtain rfl := Except.ok.inj made
  exact isAbsolute_of_mem_paths (Path.isAbsolute_joinAll_placed proper root) isPath

/-- A path that is seen from the root directory is a root of the same workspace for every
working directory. -/
theorem exists_settled {current : Place} (proper : ∀ name ∈ current, Path.IsProper name)
    {spelling : String} {workspace : Workspace}
    (made : at? current.path spelling = .ok workspace) :
    ∃ root, Path.absolute current.path spelling = .ok root ∧
      ∀ elsewhere, Path.absolute elsewhere root = .ok root ∧
        at? elsewhere root = .ok workspace := by
  rw [at?] at made
  split at made
  next root seen =>
    refine ⟨root, seen, fun elsewhere => ?_⟩
    have again := Path.absolute_absolute proper seen elsewhere
    refine ⟨again, ?_⟩
    rw [at?, again]
    exact made
  next => cases made

theorem isOf_register (workspace : Workspace) (archive : Option String) (config : Config) :
    Run.Classpath.IsOf workspace.classDir config.classLocations
      (Run.Classpath.entries workspace.classDir
        (Run.register workspace archive config).1.classLocations) := by
  rw [Run.register, Run.neededClasses, Run.Classpath.entries_addMissing]
  exact Run.Classpath.isOf_entries _ _

/-! ## Sharing a workspace -/

/-- Two spellings of a root lead to this workspace, and it makes no difference from then on which
of them is used. -/
structure IsSharedBy (current : Place) (one other : String) (workspace : Workspace) : Prop where
  first : at? current.path one = .ok workspace
  second : at? current.path other = .ok workspace
  absolute : ∀ path ∈ workspace.paths, Path.isAbsolute path = true
  /-- Seen from the root directory, either spelling is one more for this workspace, which stays
  as it is when it is seen from there again, whatever the working directory. -/
  settled : ∀ spelling ∈ [one, other], ∃ root, Path.absolute current.path spelling = .ok root ∧
    ∀ elsewhere, Path.absolute elsewhere root = .ok root ∧ at? elsewhere root = .ok workspace
  /-- What is registered for one spelling needs nothing more to be registered for the other. -/
  registered : ∀ archive config, ∀ again : Workspace, at? current.path other = .ok again →
    let once := (Run.register workspace archive config).1
    Run.register again archive once = (once, false)
  /-- With both registered, the class directory is on the classpath just once. -/
  classpath : ∀ archive config, ∀ again : Workspace, at? current.path other = .ok again →
    let twice := (Run.register again archive (Run.register workspace archive config).1).1
    Run.Classpath.IsOf workspace.classDir config.classLocations
      (Run.Classpath.entries again.classDir twice.classLocations)

theorem IsSharedBy.of_at? {current : Place} (proper : ∀ name ∈ current, Path.IsProper name)
    {one other : String} {workspace : Workspace} (first : at? current.path one = .ok workspace)
    (second : at? current.path other = .ok workspace) : IsSharedBy current one other workspace where
  first := first
  second := second
  absolute _ isPath := isAbsolute_of_at? proper first isPath
  settled := by
    intro spelling isSpelling
    rcases List.mem_pair.mp isSpelling with rfl | rfl
    · exact exists_settled proper first
    · exact exists_settled proper second
  registered := by
    intro archive config again made
    obtain rfl := Except.ok.inj (second.symm.trans made)
    exact Run.register_eq_self (Run.isRegistered_register _ _ _)
  classpath := by
    intro archive config again made
    obtain rfl := Except.ok.inj (second.symm.trans made)
    rw [Run.register_eq_self (Run.isRegistered_register _ _ _)]
    exact isOf_register workspace archive config

/-- Two spellings of a root have a workspace in common just when they name the same location. -/
theorem sameLocation_iff {current : Place} (proper : ∀ name ∈ current, Path.IsProper name)
    (one other : String) :
    Path.SameLocation current one other ↔ ∃ workspace, IsSharedBy current one other workspace := by
  constructor
  · intro same
    have first := at?_eq proper same.written.1
    have second := at?_eq proper same.written.2
    have origin : Path.origin other = Path.origin one := by
      rw [Path.origin, Path.origin, same.sameFront]
    rw [origin, ← same.sameNames] at second
    exact ⟨_, .of_at? proper first second⟩
  · rintro ⟨workspace, shared⟩
    exact sameLocation_of_at? proper shared.first shared.second

theorem isSharedBy_boxed : (∀ name ∈ ["work", "home"], Path.IsProper name) ∧
    ∃ workspace, IsSharedBy ["work", "home"] "./snippets//box/." "/home//work/./snippets/box/"
      workspace := by
  have proper : ∀ name ∈ ["work", "home"], Path.IsProper name := by decide
  have same : Path.SameLocation ["work", "home"] "./snippets//box/."
      "/home//work/./snippets/box/" :=
    ⟨by decide, by decide, by decide⟩
  exact ⟨proper, (sameLocation_iff proper _ _).mp same⟩

end Workspace

end SnippetSandbox
