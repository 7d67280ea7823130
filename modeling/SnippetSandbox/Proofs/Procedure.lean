import SnippetSandbox.Proofs.Effect
import SnippetSandbox.Supervision.Bounded

/-!
# Work on a shared disk

Several processes can be at work on one disk.  What each of them does is cut into single
operations, and between any two of its operations the others may change the disk.  So each
operation has to keep to a rule on every disk that the others may have left, and not only on
the one that its own earlier operations have made.
-/

namespace SnippetSandbox

open FileSystem Supervision

/-- Work on a disk that is shared, cut into the pieces between which others may act. -/
inductive Procedure (Result : Type) : Type 1
  | done (result : Result)
  | act {Answer : Type} (piece : Disk → Answer × Disk) (goOn : Answer → Procedure Result)

/-- What is done to a disk in one go: one operation or question, the writing of one file, or
the run of one tool. -/
inductive IsSingle : {Answer : Type} → (Disk → Answer × Disk) → Prop
  | attempt {Result : Type} (action : Disk → Except Cause (Result × Disk)) :
      IsSingle (FileSystem.attempt action)
  | ask {Answer : Type} (question : Disk → Answer) : IsSingle fun disk => (question disk, disk)
  | fill (path : String) (executable : Bool) (bytes : ByteArray) :
      IsSingle (openForWriting path true executable >>= fun handle => storeBytes handle bytes)
  | tool (machine : Machine) (command : Command) (limit : Time.Span) :
      IsSingle (runBounded machine command limit)

/-- What holds of the disk at all times, and what a single piece of work may do to it. -/
structure Rule where
  holds : Disk → Prop
  allows : Disk → Disk → Prop
  refl : ∀ disk, allows disk disk

namespace Procedure

variable {First Second Result : Type} {rule : Rule}

/-- Carry out a procedure while nobody else acts. -/
def carryOut : Procedure Result → Disk → Result × Disk
  | .done result, disk => (result, disk)
  | .act piece goOn, disk => (goOn (piece disk).1).carryOut (piece disk).2

def bind : Procedure First → (First → Procedure Second) → Procedure Second
  | .done result, next => next result
  | .act piece goOn, next => .act piece fun answer => (goOn answer).bind next

theorem carryOut_bind (work : Procedure First) (next : First → Procedure Second) (disk : Disk) :
    (work.bind next).carryOut disk =
      (next (work.carryOut disk).1).carryOut (work.carryOut disk).2 := by
  induction work generalizing disk with
  | done result => rfl
  | act piece goOn ih => exact ih _ _

/-- Each piece keeps to the rule, and the result is as promised, whatever others who keep to
it do in between. -/
inductive KeepsTo (rule : Rule) (promise : Result → Prop) : Procedure Result → Prop
  | done {result : Result} (kept : promise result) : KeepsTo rule promise (.done result)
  | act {Answer : Type} {piece : Disk → Answer × Disk} {goOn : Answer → Procedure Result}
      (single : IsSingle piece)
      (moves : ∀ disk, rule.holds disk →
        rule.holds (piece disk).2 ∧ rule.allows disk (piece disk).2)
      (later : ∀ disk, rule.holds disk → KeepsTo rule promise (goOn (piece disk).1)) :
      KeepsTo rule promise (.act piece goOn)

theorem KeepsTo.step {Answer : Type} {promise : Result → Prop} {piece : Disk → Answer × Disk}
    {goOn : Answer → Procedure Result} {disk : Disk}
    (keeps : (Procedure.act piece goOn).KeepsTo rule promise) (holds : rule.holds disk) :
    rule.holds (piece disk).2 ∧ rule.allows disk (piece disk).2 ∧
      (goOn (piece disk).1).KeepsTo rule promise := by
  cases keeps with
  | act single moves later =>
      exact ⟨(moves disk holds).1, (moves disk holds).2, later disk holds⟩

theorem KeepsTo.bind {promise : First → Prop} {last : Second → Prop} {work : Procedure First}
    {next : First → Procedure Second} (keeps : work.KeepsTo rule promise)
    (goesOn : ∀ first, promise first → (next first).KeepsTo rule last) :
    (work.bind next).KeepsTo rule last := by
  induction keeps with
  | done kept => exact goesOn _ kept
  | act single moves later ih => exact .act single moves ih

end Procedure

namespace Rule

/-- Some work can be cut into pieces that keep to the rule, with a result as promised. -/
def Promises {Result : Type} (rule : Rule) (promise : Result → Prop)
    (work : Disk → Result × Disk) : Prop :=
  ∃ procedure : Procedure Result, procedure.carryOut = work ∧ procedure.KeepsTo rule promise

/-- Some work can be cut into pieces that keep to the rule. -/
abbrev Obeys {Result : Type} (rule : Rule) (work : Disk → Result × Disk) : Prop :=
  rule.Promises (fun _ => True) work

variable {rule : Rule} {First Second Result : Type}

theorem done (result : Result) : rule.Obeys fun disk => (result, disk) :=
  ⟨.done result, rfl, .done trivial⟩

theorem Promises.single {promise : Result → Prop} {piece : Disk → Result × Disk}
    (single : IsSingle piece)
    (moves : ∀ disk, rule.holds disk →
      rule.holds (piece disk).2 ∧ rule.allows disk (piece disk).2)
    (kept : ∀ disk, rule.holds disk → promise (piece disk).1) : rule.Promises promise piece :=
  ⟨.act piece .done, rfl, .act single moves fun disk holds => .done (kept disk holds)⟩

theorem ask (question : Disk → Result) : rule.Obeys fun disk => (question disk, disk) :=
  .single (.ask question) (fun disk holds => ⟨holds, rule.refl disk⟩) fun _ _ => trivial

theorem Promises.goOn {promise : First → Prop} {last : Second → Prop}
    {work : Disk → First × Disk} {next : First → Disk → Second × Disk}
    (works : rule.Promises promise work)
    (goesOn : ∀ first, promise first → rule.Promises last (next first)) :
    rule.Promises last fun disk => next (work disk).1 (work disk).2 := by
  obtain ⟨procedure, rfl, keeps⟩ := works
  -- What was not promised does not come, so any procedure will do there.
  have total (first : First) : ∃ rest : Procedure Second,
      rest.carryOut = next first ∧ (promise first → rest.KeepsTo rule last) := by
    by_cases kept : promise first
    · obtain ⟨rest, carriesOut, keepsTo⟩ := goesOn first kept
      exact ⟨rest, carriesOut, fun _ => keepsTo⟩
    · exact ⟨.act (next first) .done, rfl, fun isPromised => absurd isPromised kept⟩
  obtain ⟨further, spec⟩ := Classical.skolem.mp total
  refine ⟨procedure.bind further, ?_, keeps.bind fun first kept => (spec first).2 kept⟩
  funext disk
  rw [Procedure.carryOut_bind, (spec _).1]

/-- Where what is allowed twice is allowed, the whole of some work is. -/
theorem Promises.keeps {promise : Result → Prop} {work : Disk → Result × Disk}
    (works : rule.Promises promise work)
    (chains : ∀ {first second third}, rule.allows first second → rule.allows second third →
      rule.allows first third) {disk : Disk} (holds : rule.holds disk) :
    rule.holds (work disk).2 ∧ rule.allows disk (work disk).2 := by
  obtain ⟨procedure, rfl, keeps⟩ := works
  induction procedure generalizing disk with
  | done result => exact ⟨holds, rule.refl disk⟩
  | act piece goOn ih =>
      obtain ⟨holdsNext, allowed, later⟩ := keeps.step holds
      obtain ⟨holdsLast, further⟩ := ih _ holdsNext later
      exact ⟨holdsLast, chains allowed further⟩

theorem Promises.map {promise : First → Prop} {last : Second → Prop}
    {work : Disk → First × Disk} (change : First → Second) (works : rule.Promises promise work)
    (kept : ∀ first, promise first → last (change first)) :
    rule.Promises last fun disk => (change (work disk).1, (work disk).2) :=
  works.goOn fun first isPromised => ⟨.done (change first), rfl, .done (kept first isPromised)⟩

theorem Obeys.map {work : Disk → First × Disk} (works : rule.Obeys work)
    (change : First → Second) :
    rule.Obeys fun disk => (change (work disk).1, (work disk).2) :=
  Promises.map change works fun _ _ => trivial

section Failing

variable {Error Other : Type} {work : ExceptT Error (StateM Disk) First}
variable {next : First → ExceptT Error (StateM Disk) Second}

/-- A success is as promised. -/
abbrev Succeeds (promise : First → Prop) (answer : Except Error First) : Prop :=
  ∀ first, answer = .ok first → promise first

theorem Obeys.succeeds (works : rule.Obeys work) :
    rule.Promises (Succeeds fun _ => True) work :=
  Promises.map id works fun _ _ _ _ => trivial

theorem Promises.bind {promise : First → Prop} (works : rule.Promises (Succeeds promise) work)
    (goesOn : ∀ first, promise first → rule.Obeys (next first)) :
    rule.Obeys (work >>= next) := by
  -- `ExceptT` goes on with an answer by `bindCont`, a failure being passed on.
  have further (answer : Except Error First)
      (kept : ∀ first, answer = .ok first → promise first) :
      rule.Obeys (ExceptT.bindCont next answer : StateM Disk _) := by
    cases answer with
    | ok first => exact goesOn first (kept first rfl)
    | error error => exact done _
  exact (works.goOn further :)

theorem Obeys.bind (works : rule.Obeys work) (goesOn : ∀ first, rule.Obeys (next first)) :
    rule.Obeys (work >>= next) :=
  works.succeeds.bind fun first _ => goesOn first

/-- What becomes of an answer when a failure is handled. -/
def recover (handler : Error → ExceptT Error (StateM Disk) First) :
    Except Error First → Disk → Except Error First × Disk
  | .ok first => fun disk => (.ok first, disk)
  | .error error => handler error

theorem Obeys.tryCatch {handler : Error → ExceptT Error (StateM Disk) First}
    (works : rule.Obeys work) (handles : ∀ error, rule.Obeys (handler error)) :
    rule.Obeys (MonadExcept.tryCatch work handler) := by
  have cut : MonadExcept.tryCatch work handler =
      fun disk => recover handler (work disk).1 (work disk).2 := by
    funext disk
    rcases reached : work disk with ⟨error | first, between⟩
    · exact Effect.tryCatch_of_error reached
    · exact Effect.tryCatch_of_ok reached
  rw [cut]
  refine works.goOn fun answer _ => ?_
  cases answer with
  | ok first => exact done _
  | error error => exact handles error

theorem Obeys.forM {Item : Type} {body : Item → ExceptT Error (StateM Disk) PUnit}
    {items : List Item} (works : ∀ item ∈ items, rule.Obeys (body item)) :
    rule.Obeys (items.forM body) := by
  induction items with
  | nil => exact done _
  | cons item items ih =>
      refine Obeys.bind (works item List.mem_cons_self) fun _ => ?_
      exact ih fun other isMember => works other (List.mem_cons_of_mem _ isMember)

theorem Obeys.makeDirectoriesUp {fits : String → Prop}
    (makes : ∀ path, fits path → rule.Obeys (makeDirectory path))
    (up : ∀ path around, Path.parent? path = some around → fits path → fits around)
    (levels : Nat) (path : String) (isFit : fits path) :
    rule.Obeys (makeDirectoriesUp levels path) := by
  have accepts (path : String) (cause : Cause) : rule.Obeys (acceptDirectory path cause) := by
    have asks : acceptDirectory path cause = fun disk =>
        (if disk.isDirectory path then .ok () else .error cause, disk) := by
      funext disk
      change (if disk.isDirectory path then pure () else throw cause : Operation Unit) disk = _
      split <;> rfl
    rw [asks]
    exact ask _
  induction levels generalizing path with
  | zero =>
      unfold FileSystem.makeDirectoriesUp
      split
      next => exact done _
      next =>
        refine Obeys.tryCatch (makes path isFit) fun cause => ?_
        split
        next => exact done _
        next => exact accepts path cause
  | succ levels ih =>
      unfold FileSystem.makeDirectoriesUp
      split
      next => exact done _
      next =>
        refine Obeys.tryCatch (makes path isFit) fun cause => ?_
        split
        next =>
          split
          next _ _ fewer around same isParent =>
            obtain rfl : levels = fewer := Nat.succ.inj same
            refine Obeys.bind (ih around (up path around isParent isFit)) fun _ => ?_
            exact Obeys.tryCatch (makes path isFit) (accepts path)
          next => exact done _
        next => exact accepts path cause

end Failing

section Reporting

variable {operation : Operation Result}

theorem Promises.reportedFor {promise : Result → Prop}
    (works : rule.Promises (Succeeds promise) operation) (path : String) :
    rule.Promises (Succeeds promise) (operation.reportedFor path) := by
  have cut : operation.reportedFor path = fun disk =>
      ((operation disk).1.mapError (.fileSystem path), (operation disk).2) := by
    funext disk
    rw [Operation.reportedFor]
    rcases operation disk with ⟨cause | result, after⟩ <;> rfl
  rw [cut]
  refine Promises.map _ works fun answer kept result same => ?_
  cases answer with
  | ok other =>
      cases same
      exact kept _ rfl
  | error cause => cases same

theorem Obeys.reportedFor (works : rule.Obeys operation) (path : String) :
    rule.Obeys (operation.reportedFor path) :=
  Promises.map id (works.succeeds.reportedFor path) fun _ _ => trivial

end Reporting

end Rule

end SnippetSandbox
