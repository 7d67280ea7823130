import SnippetSandbox.Task

/-!
# What is known about executed classes

The log of an execution is read by an analysis that can then be asked about
classes.  Where no analysis is at hand, a gauge takes its place: it insists on a
log, notes its size and knows no class.
-/

namespace SnippetSandbox.Analysis

open FileSystem

/-- A method or constructor of a class. -/
structure Member where
  signature : String
  compiled : Bool
  deriving DecidableEq, Repr

/-- A class with its members in the order of their declaration. -/
structure ClassReport where
  name : String
  members : List Member
  deriving DecidableEq, Repr

def ClassReport.firstCompiled (report : ClassReport) : Option Member :=
  report.members.find? Member.compiled

/-- Takes the place of an analysis. -/
structure Gauge where
  /-- The size of the last log it was shown. -/
  ingestedBytes : Nat := 0
  deriving DecidableEq, Repr

namespace Gauge

def forget (_ : Gauge) : Gauge := {}

def ingest (gauge : Gauge) (logFile : String) (disk : Disk) : Except Failure Unit × Gauge :=
  match disk.size logFile with
  | .ok bytes => (.ok (), { gauge with ingestedBytes := bytes })
  | .error cause => (.error (.fileSystem logFile cause), gauge)

def lookup (_ : Gauge) (_ : String) : Option ClassReport := none

end Gauge

end SnippetSandbox.Analysis
