import SnippetSandbox.Proofs.Run.History
import SnippetSandbox.Proofs.Run.Registration

/-!
# The stored configuration and the one in memory

Registration changes the configuration in memory before the store is asked to
keep it, and a configuration in which nothing is missing is not stored again.  So
the two agree for as long as the store has refused nothing, and after a refusal
they never agree again.
-/

namespace SnippetSandbox.Run

variable {Memory : Type}

namespace Exchange

/-- The configuration that the store has kept, in an exchange in which it kept one. -/
def kept? : Exchange → Option Config
  | .save config ⟨_, .ok (), _⟩ => some config
  | _ => none

/-- The store has refused to keep a configuration. -/
def isRefusal : Exchange → Bool
  | .save _ ⟨_, .error _, _⟩ => true
  | _ => false

/-- The analysis was shown a log. -/
def isIngestion : Exchange → Bool
  | .ingest .. => true
  | _ => false

end Exchange

/-- The configuration that was kept last, where this one was kept at first. -/
def persisted (initial : Config) (exchanges : List Exchange) : Config :=
  exchanges.foldl (fun config exchange => exchange.kept?.getD config) initial

theorem persisted_append (initial : Config) (first second : List Exchange) :
    persisted initial (first ++ second) = persisted (persisted initial first) second :=
  List.foldl_append

/-- These exchanges have nothing to do with the configuration. -/
structure LeavesConfig (exchanges : List Exchange) : Prop where
  noRefusal : exchanges.any Exchange.isRefusal = false
  noIngestion : exchanges.any Exchange.isIngestion = false
  nothingKept : ∀ config, persisted config exchanges = config

theorem leavesConfig_nil : LeavesConfig [] := ⟨rfl, rfl, fun _ => rfl⟩

/-- What is so about the configuration in memory after some exchanges. -/
structure Remembers (sandbox : Sandbox Memory) (initial : Config)
    (state : State (Recorded Memory)) : Prop where
  agrees : state.exchanges.any Exchange.isRefusal = false →
    persisted initial state.exchanges = state.config
  differs : state.exchanges.any Exchange.isRefusal = true →
    ¬IsRegistered sandbox.workspace sandbox.archive (persisted initial state.exchanges) ∧
      IsRegistered sandbox.workspace sandbox.archive state.config
  registered : state.exchanges.any Exchange.isIngestion = true →
    IsRegistered sandbox.workspace sandbox.archive state.config

/-- A synchronization keeps the registered configuration if that is another one and the
store does not refuse it, and what the store may refuse is another one. -/
theorem Synchronizes.stores {sandbox : Sandbox Memory}
    {before after : State (Recorded Memory)} {answer : Except Failure Bool}
    (tries : Synchronizes sandbox before after answer) :
    let registered := register sandbox.workspace sandbox.archive before.config
    ∃ exchanges, after.exchanges = before.exchanges ++ exchanges ∧
      (exchanges.any Exchange.isRefusal = true → registered.2 = true) ∧
      ∀ config, persisted config exchanges =
        if registered.2 && !exchanges.any Exchange.isRefusal then registered.1 else config := by
  intro registered
  -- Being shown the log has nothing to do with the store.
  have shows {saves : List Exchange} {stored left : Surroundings Memory}
      {answered : Except Failure Unit}
      (storing : Storing sandbox registered before.outside saves stored)
      (adds : Adds before after (saves ++ showing sandbox stored answered left) []) :
      ∃ exchanges, after.exchanges = before.exchanges ++ exchanges ∧
        (exchanges.any Exchange.isRefusal = true → registered.2 = true) ∧
        ∀ config, persisted config exchanges =
          if registered.2 && !exchanges.any Exchange.isRefusal then registered.1 else config := by
    refine ⟨_, adds.exchanges, ?_⟩
    cases storing with
    | needless same =>
        rw [same]
        exact ⟨fun refused => by simp [showing, Exchange.isRefusal] at refused, fun _ => rfl⟩
    | stored changed kept =>
        rw [changed]
        exact ⟨fun _ => rfl, fun _ => rfl⟩
  cases tries with
  | unsaved isRegistered changed refused adds =>
      subst isRegistered
      refine ⟨_, adds.exchanges, fun _ => changed, fun config => ?_⟩
      rw [changed]
      rfl
  | unshown isRegistered storing refused adds =>
      subst isRegistered
      exact shows storing adds
  | shown isRegistered storing answered adds =>
      subst isRegistered
      exact shows storing adds

namespace Remembers

variable {sandbox : Sandbox Memory} {initial : Config} {before after : State (Recorded Memory)}

/-- Exchanges that have nothing to do with the configuration leave everything as it was. -/
theorem leave (holds : Remembers sandbox initial before) {exchanges : List Exchange}
    (leaves : LeavesConfig exchanges)
    (adds : after.exchanges = before.exchanges ++ exchanges)
    (config : after.config = before.config) : Remembers sandbox initial after := by
  constructor
  all_goals rw [adds, config, List.any_append]
  · rw [leaves.noRefusal, Bool.or_false, persisted_append, leaves.nothingKept]
    exact holds.agrees
  · rw [leaves.noRefusal, Bool.or_false, persisted_append, leaves.nothingKept]
    exact holds.differs
  · rw [leaves.noIngestion, Bool.or_false]
    exact holds.registered

theorem synchronizes {answer : Except Failure Bool} (holds : Remembers sandbox initial before)
    (tries : Synchronizes sandbox before after answer)
    (config : after.config = (register sandbox.workspace sandbox.archive before.config).1) :
    Remembers sandbox initial after := by
  obtain ⟨exchanges, adds, onlyChanged, kept⟩ := tries.stores
  have registered : IsRegistered sandbox.workspace sandbox.archive after.config := by
    rw [config]
    exact isRegistered_register _ _ _
  refine ⟨?_, fun refused => ⟨?_, registered⟩, fun _ => registered⟩
  · intro noRefusal
    rw [adds, List.any_append, Bool.or_eq_false_iff] at noRefusal
    rw [adds, config, persisted_append, kept, noRefusal.2, holds.agrees noRefusal.1,
      Bool.not_false, Bool.and_true]
    split
    next => rfl
    next same =>
      have complete := register_unchanged.mp (Bool.eq_false_iff.mpr same)
      rw [register_eq_self complete]
  · rw [adds, persisted_append, kept]
    cases earlier : before.exchanges.any Exchange.isRefusal with
    | true =>
        -- Nothing is missing any more, so the store is not asked again.
        obtain ⟨lacking, complete⟩ := holds.differs earlier
        rw [register_eq_self complete]
        exact lacking
    | false =>
        rw [adds, List.any_append, earlier, Bool.false_or] at refused
        rw [refused, holds.agrees earlier, Bool.not_true, Bool.and_false]
        intro complete
        have unchanged := register_unchanged.mpr complete
        exact Bool.eq_false_iff.mp unchanged (onlyChanged refused)

end Remembers

theorem lasts_remembers (sandbox : Sandbox Memory) (initial : Config) :
    Lasts sandbox (Remembers sandbox initial) := by
  refine .of_toolCalls (fun holds exchanges config => ?_)
    (fun {_ _ exchange} holds adds isCall config => ?_)
    fun holds tries config => holds.synchronizes tries config
  · exact holds.leave leavesConfig_nil (exchanges.trans (List.append_nil _).symm) config
  · refine holds.leave ?_ adds config
    cases exchange with
    | compile | execute => exact ⟨rfl, rfl, fun _ => rfl⟩
    | save | forget | ingest => exact isCall.elim

/-- After a history that began with the configuration being kept, the store has kept the
one in memory just when it has refused nothing.  Once the analysis was shown a log, as
in every synchronization that succeeds, the one in memory lists everything the
workspace needs, and the kept one does so just when the store has refused nothing. -/
theorem persisted_eq_config_iff (sandbox : Sandbox Memory) (episodes : List Episode)
    (surroundings : Surroundings Memory) (config : Config) :
    let exchanges := sandbox.exchangesOf episodes (.start surroundings config)
    let refused := exchanges.any Exchange.isRefusal
    let left := (sandbox.play episodes (.start surroundings config)).config
    (persisted config exchanges = left ↔ refused = false) ∧
      (exchanges.any Exchange.isIngestion = true →
        IsRegistered sandbox.workspace sandbox.archive left ∧
          (IsRegistered sandbox.workspace sandbox.archive (persisted config exchanges) ↔
            refused = false)) := by
  intro exchanges refused left
  have begun : Remembers sandbox config (State.start surroundings config).recorded :=
    ⟨fun _ => rfl, (nomatch ·), (nomatch ·)⟩
  have holds := (lasts_remembers sandbox config).play episodes begun
  have same : (sandbox.recorded.play episodes (State.start surroundings config).recorded).config =
      left := congrArg State.config (sandbox.plain_play episodes _)
  obtain ⟨agrees, differs, registered⟩ := holds
  rw [same] at agrees differs registered
  change refused = false → persisted config exchanges = left at agrees
  change refused = true → _ at differs
  constructor
  · constructor
    · intro equal
      refine Bool.eq_false_iff.mpr fun isRefused => ?_
      obtain ⟨lacking, complete⟩ := differs isRefused
      exact lacking (equal ▸ complete)
    · exact agrees
  · intro shown
    refine ⟨registered shown, ?_⟩
    constructor
    · intro complete
      refine Bool.eq_false_iff.mpr fun isRefused => ?_
      exact (differs isRefused).1 complete
    · intro noRefusal
      rw [agrees noRefusal]
      exact registered shown

/-- A sandbox whose store refuses everything, and whose analysis takes every log. -/
def refusing : Sandbox Unit where
  workspace := ⟨"/w", "/w/sources", "/w/classes", "/w/log", "/w/lock"⟩
  collaborators :=
    { compile _ _ := pure ⟨true, ""⟩
      execute _ _ _ := pure ⟨true, ""⟩
      save _ := throw (.config (.reported "disk full"))
      forget := id
      ingest _ := pure ()
      lookup _ _ := none
      detect _ := false }

/-- The surroundings with nothing on the disk. -/
def bareSurroundings : Surroundings Unit := ⟨⟨⟨[], 0⟩, [], [], []⟩, ()⟩

/-- A synchronization succeeds after one that failed, and what it leaves in memory is
not kept. -/
theorem synchronize_ok_after_refusal :
    let start := State.start bareSurroundings {}
    let synchronized := refusing.synchronize (refusing.play [.synchronize] start)
    synchronized.1 = .ok false ∧
      persisted {} (refusing.exchangesOf [.synchronize, .synchronize] start) ≠
        synchronized.2.config := by
  refine ⟨rfl, ?_⟩
  decide

end SnippetSandbox.Run
