import Mathlib.Logic.Relation
import SnippetSandbox.Proofs.Console.Sharing

/-!
# Commands in pieces

A run or a reset that wants the lock of a workspace is cut into the pieces between which
others may act: it prepares, comes to the lock file, opens it, asks for the lock, works, and
gives the lock back.  Left alone, the pieces one after another are the whole command.
-/

namespace SnippetSandbox.Console

open FileSystem Workspace

/-- A command that wants the lock, as three procedures: what it does before, how it comes to
the lock file, and what it does behind the lock. -/
structure Client (root : String) (ground : Place) (back : List String)
    (command : Step Transcript) where
  Prepared : Type
  prepare : Procedure (Except Refusal Prepared)
  approach : Procedure (Except Failure Unit)
  work : Prepared → Procedure Transcript
  /-- The directory that its relative paths start from. -/
  current : Place
  performs : command = do
    let prepared ← prepare.carryOut
    locked (inside root) (work prepared).carryOut
  approaches : approach.carryOut = (inside root).approach
  looks : prepare.KeepsTo (looking root ground back) fun _ => True
  makesWay : approach.KeepsTo (Workspace.approaching root ground back) fun _ => True
  minds : ∀ prepared, (work prepared).KeepsTo (sharing root ground back) fun _ => True

section Clients

variable {root : String} {ground : Place} {back : List String} {setting : Setting}

theorem exists_client {Prepared : Type} {prepare : Step Prepared}
    {work : Prepared → Disk → Transcript × Disk}
    (looks : (looking root ground back).Obeys prepare)
    (minds : ∀ prepared, (sharing root ground back).Obeys (work prepared)) (current : Place) :
    ∃ client : Client root ground back (do
        let prepared ← prepare
        locked (inside root) (work prepared)), client.current = current := by
  obtain ⟨looking, rfl, looks⟩ := looks
  obtain ⟨approach, approaches, makesWay⟩ :=
    @obeys_approach root ground back
  obtain ⟨working, minds⟩ := Classical.skolem.mp minds
  obtain rfl : (fun prepared => (working prepared).carryOut) = work :=
    funext fun prepared => (minds prepared).1
  exact ⟨⟨Prepared, looking, approach, working, current, rfl, approaches, looks, makesWay,
    fun prepared => (minds prepared).2⟩, rfl⟩

/-- Runs and resets are clients, whatever their tools, seed and configuration file are. -/
theorem exists_client_of_task (inside : setting.workspace = .inside root)
    (spares : setting.machine.Spares root ground back) {task : Task} (wants : task ≠ .options)
    (current : Place) :
    ∃ client : Client root ground back (task.carryOut setting), client.current = current := by
  cases task with
  | run files quiet =>
      have client := exists_client (@looks_prepare root ground back setting files)
        (obeys_runPrepared inside spares quiet) current
      rwa [← inside] at client
  | reset =>
      have client := @exists_client root ground back _ _ _ (Rule.done (.ok ()))
        (fun _ => obeys_resetting inside) current
      rwa [← inside] at client
  | options => exact absurd rfl wants

end Clients

section Locked

variable {workspace : Workspace} {work : Disk → Transcript × Disk} {before after : Disk}

theorem locked_of_ok {key : FileKey} (took : workspace.lock before = (.ok key, after)) :
    locked workspace work before = (.ok (work after).1, unlock key (work after).2) := by
  have performed : perform workspace.lock before = (.ok key, after) := by
    rw [perform, took]
    rfl
  rw [locked, Effect.bind_of_ok performed]

theorem locked_of_error {failure : Failure}
    (failed : workspace.lock before = (.error failure, after)) :
    locked workspace work before = (.error (.failed failure), after) := by
  have performed : perform workspace.lock before = (.error (.failed failure), after) := by
    rw [perform, failed]
    rfl
  rw [locked, Effect.bind_of_error performed]

end Locked

section Phases

variable {root : String} {ground : Place} {back : List String} {command : Step Transcript}

/-- How far a client has come. -/
inductive Phase (client : Client root ground back command)
  | preparing (rest : Procedure (Except Refusal client.Prepared))
  | approaching (prepared : client.Prepared) (rest : Procedure (Except Failure Unit))
  /-- It is about to open the lock file. -/
  | opening (prepared : client.Prepared)
  /-- It has the lock file open and is about to take the lock. -/
  | taking (prepared : client.Prepared) (handle : Handle)
  | working (key : FileKey) (rest : Procedure Transcript)
  | ended (answer : Except Refusal Transcript)
  | dead

variable {client : Client root ground back command}

namespace Phase

/-- The refusal of somebody who finds the lock taken. -/
def busy : Phase client :=
  .ended (.error (.failed (.workspaceBusy (inside root).lockFile)))

/-- The lock that a client has. -/
def key? : Phase client → Option FileKey
  | .working key _ => some key
  | _ => none

/-- Go on by one piece. -/
def next : Phase client → Disk → Phase client × Disk
  | .preparing (.act piece goOn), disk => (.preparing (goOn (piece disk).1), (piece disk).2)
  | .preparing (.done (.ok prepared)), disk => (.approaching prepared client.approach, disk)
  | .preparing (.done (.error refusal)), disk => (.ended (.error refusal), disk)
  | .approaching prepared (.act piece goOn), disk =>
      (.approaching prepared (goOn (piece disk).1), (piece disk).2)
  | .approaching prepared (.done (.ok ())), disk => (.opening prepared, disk)
  | .approaching _ (.done (.error failure)), disk => (.ended (.error (.failed failure)), disk)
  | .opening prepared, disk =>
      match openForWriting (inside root).lockFile false false disk with
      | (.ok handle, changed) => (.taking prepared handle, changed)
      | (.error cause, changed) =>
          (.ended (.error (.failed (.fileSystem (inside root).lockFile cause))), changed)
  | .taking prepared handle, disk =>
      match (inside root).take handle disk with
      | (.ok key, changed) => (.working key (client.work prepared), changed)
      | (.error failure, changed) => (.ended (.error (.failed failure)), changed)
  | .working key (.act piece goOn), disk => (.working key (goOn (piece disk).1), (piece disk).2)
  | .working key (.done transcript), disk => (.ended (.ok transcript), unlock key disk)
  | .ended answer, disk => (.ended answer, disk)
  | .dead, disk => (.dead, disk)

/-- One gets from here to there while nobody else is at work. -/
def Leads : Phase client × Disk → Phase client × Disk → Prop :=
  Relation.ReflTransGen fun now later => later = now.1.next now.2

theorem leads_preparing (rest : Procedure (Except Refusal client.Prepared)) (disk : Disk) :
    Leads (.preparing rest, disk)
      (.preparing (.done (rest.carryOut disk).1), (rest.carryOut disk).2) := by
  induction rest generalizing disk with
  | done answer => exact .refl
  | act piece goOn ih => exact .head rfl (ih _ _)

theorem leads_approaching (prepared : client.Prepared) (rest : Procedure (Except Failure Unit))
    (disk : Disk) :
    Leads ((.approaching prepared rest : Phase client), disk)
      (.approaching prepared (.done (rest.carryOut disk).1), (rest.carryOut disk).2) := by
  induction rest generalizing disk with
  | done answer => exact .refl
  | act piece goOn ih => exact .head rfl (ih _ _)

theorem leads_working (key : FileKey) (rest : Procedure Transcript) (disk : Disk) :
    Leads ((.working key rest : Phase client), disk)
      (.ended (.ok (rest.carryOut disk).1), unlock key (rest.carryOut disk).2) := by
  induction rest generalizing disk with
  | done answer => exact .single rfl
  | act piece goOn ih => exact .head rfl (ih _ _)

/-- From the way to the lock on, a client does what is done behind a lock. -/
theorem leads_locked (prepared : client.Prepared) (disk : Disk) :
    Leads (.approaching prepared client.approach, disk)
      (.ended (locked (inside root) (client.work prepared).carryOut disk).1,
        (locked (inside root) (client.work prepared).carryOut disk).2) := by
  have comes := leads_approaching prepared client.approach disk
  rw [client.approaches] at comes
  rcases approached : (inside root).approach disk with ⟨failure | ⟨⟩, near⟩
  · rw [approached] at comes
    rw [locked_of_error (lock_of_approach approached)]
    exact comes.tail rfl
  rw [approached] at comes
  have opens : Leads (.approaching prepared client.approach, disk) (.opening prepared, near) :=
    comes.tail rfl
  rcases opened : openForWriting (inside root).lockFile false false near with
    ⟨cause | handle, found⟩
  · rw [locked_of_error (lock_of_open approached opened)]
    refine opens.tail ?_
    rw [next, opened]
  have takes :
      Leads (.approaching prepared client.approach, disk) (.taking prepared handle, found) := by
    refine opens.tail ?_
    rw [next, opened]
  have asks := lock_of_take approached opened
  rcases took : (inside root).take handle found with ⟨failure | key, held⟩
  · rw [took] at asks
    rw [locked_of_error asks]
    refine takes.tail ?_
    rw [next, took]
  · rw [took] at asks
    rw [locked_of_ok asks]
    refine (takes.tail ?_).trans (leads_working key (client.work prepared) held)
    rw [next, took]

/-- A client that is left alone does what its command does. -/
theorem leads_command (client : Client root ground back command) (disk : Disk) :
    Leads (.preparing client.prepare, disk)
      ((.ended (command disk).1 : Phase client), (command disk).2) := by
  have comes := leads_preparing client.prepare disk
  rw [congrFun client.performs disk]
  rcases prepared : client.prepare.carryOut disk with ⟨refusal | known, rest⟩
  · rw [prepared] at comes
    rw [Effect.bind_of_error prepared]
    exact comes.tail rfl
  · rw [prepared] at comes
    rw [Effect.bind_of_ok prepared]
    exact (comes.tail rfl).trans (leads_locked known rest)

end Phase

end Phases

end SnippetSandbox.Console
