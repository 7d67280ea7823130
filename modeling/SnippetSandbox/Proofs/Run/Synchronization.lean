import SnippetSandbox.Proofs.Run.Persistence

/-!
# What a synchronization asks of others

Registration puts behind the listed locations just those that were missing, so it has nothing
to add a second time.  A synchronization registers before anything can fail, and asks the store
only after a change.  So in a history of any length the store is asked once at most, whatever
fails, while the analysis is shown the log every time the store has not refused.
-/

namespace SnippetSandbox.Run

variable {Memory : Type}

section Completion

/-- The second list is the first one and behind it, in their order, the needed locations that
the first one lacks, each of them once. -/
def IsCompletion (needed old new : List String) : Prop :=
  ∃ added, new = old ++ added ∧ added.Sublist needed ∧ added.Nodup ∧
    ∀ location, location ∈ added ↔ location ∈ needed ∧ location ∉ old

theorem isCompletion_addMissing (needed old : List String) :
    IsCompletion needed old (addMissing old needed) := by
  induction needed generalizing old with
  | nil => exact ⟨[], (List.append_nil _).symm, .refl _, .nil, by simp⟩
  | cons first needed ih =>
      rw [addMissing]
      split
      next listed =>
        obtain ⟨added, behind, inOrder, once, missing⟩ := ih old
        refine ⟨added, behind, inOrder.cons first, once, fun location => ?_⟩
        rw [missing, List.mem_cons]
        constructor
        · rintro ⟨isNeeded, lacks⟩
          exact ⟨.inr isNeeded, lacks⟩
        · rintro ⟨rfl | isNeeded, lacks⟩
          · exact absurd listed lacks
          · exact ⟨isNeeded, lacks⟩
      next unlisted =>
        obtain ⟨added, behind, inOrder, once, missing⟩ := ih (old ++ [first])
        have noAgain : first ∉ added := by simp [missing]
        refine ⟨first :: added, by simp [behind], inOrder.cons_cons first,
          List.nodup_cons.mpr ⟨noAgain, once⟩, fun location => ?_⟩
        by_cases isFirst : location = first
        · simp [isFirst, unlisted]
        · simp [isFirst, missing]

/-- What the registration of a workspace makes of a configuration, and whether that is another
one. -/
structure IsRegistration (workspace : Workspace) (archive : Option String) (config : Config)
    (registered : Config × Bool) : Prop where
  sources : IsCompletion (workspace.sourceDir :: archive.toList) config.sourceLocations
    registered.1.sourceLocations
  classes : IsCompletion [workspace.classDir] config.classLocations registered.1.classLocations
  /-- Every setting but the two lists is as it was. -/
  others : { registered.1 with
    sourceLocations := config.sourceLocations, classLocations := config.classLocations } = config
  changed : registered.2 = true ↔ registered.1 ≠ config
  /-- There is nothing to register a second time. -/
  again : register workspace archive registered.1 = (registered.1, false)

theorem isRegistration_register (workspace : Workspace) (archive : Option String)
    (config : Config) :
    IsRegistration workspace archive config (register workspace archive config) where
  sources := isCompletion_addMissing _ _
  classes := isCompletion_addMissing _ _
  others := rfl
  changed := register_changed
  again := register_eq_self (isRegistered_register _ _ _)

end Completion

/-- The configuration that the store was asked to keep, in an exchange in which it was. -/
def Exchange.asked? : Exchange → Option Config
  | .save config _ => some config
  | _ => none

namespace Sandbox

variable (sandbox : Sandbox Memory)

/-- What the store is asked to keep for a configuration: the registered one, if that is
another. -/
def asks (config : Config) : List Config :=
  let registered := register sandbox.workspace sandbox.archive config
  if registered.2 then [registered.1] else []

/-- What a synchronization exchanges with others, where the configuration is this one, and how
it ends. -/
inductive Exchanges (config : Config) : List Exchange → Except Failure Bool → Prop
  /-- The store refuses a configuration that has changed, and nobody else is asked. -/
  | unsaved {failure : Failure} {exchange : Exchange}
      (changed : (register sandbox.workspace sandbox.archive config).2 = true)
      (saves : Saves (register sandbox.workspace sandbox.archive config).1 (.error failure)
        exchange) :
      Exchanges config [exchange] (.error failure)
  /-- A configuration that has changed is stored.  The analysis is made to forget and shown the
  log, and its answer is the end. -/
  | shown {answer : Except Failure Unit} {saves shows : List Exchange}
      (stores : Stores (register sandbox.workspace sandbox.archive config).1 saves)
      (needed : saves ≠ [] ↔ (register sandbox.workspace sandbox.archive config).2 = true)
      (shown : Shows sandbox.workspace.logFile answer shows) :
      Exchanges config (saves ++ shows)
        (answer.map fun _ => (register sandbox.workspace sandbox.archive config).2)

end Sandbox

variable {sandbox : Sandbox Memory} {before after : State (Recorded Memory)}

theorem Storing.nonempty_iff {registered : Config × Bool} {saves : List Exchange}
    {asked stored : Surroundings Memory} (storing : Storing sandbox registered asked saves stored) :
    saves ≠ [] ↔ registered.2 = true := by
  cases storing with
  | needless same => simp [same]
  | stored changed answered => simp [changed]

theorem Synchronizes.exchanges {answer : Except Failure Bool}
    (tries : Synchronizes sandbox before after answer) :
    ∃ exchanges, after.exchanges = before.exchanges ++ exchanges ∧
      sandbox.Exchanges before.config exchanges answer := by
  cases tries with
  | unsaved isRegistered changed refused adds =>
      subst isRegistered
      exact ⟨_, adds.exchanges, .unsaved changed (.intro _ _)⟩
  | unshown isRegistered storing refused adds =>
      subst isRegistered
      exact ⟨_, adds.exchanges,
        .shown storing.stores storing.nonempty_iff (shows_showing _ _ _ _)⟩
  | shown isRegistered storing answered adds =>
      subst isRegistered
      exact ⟨_, adds.exchanges,
        .shown storing.stores storing.nonempty_iff (shows_showing _ _ _ _)⟩

/-- Refused or not, the store is asked to keep a configuration that has changed, and no other. -/
theorem Sandbox.Exchanges.asked {config : Config} {exchanges : List Exchange}
    {answer : Except Failure Bool} (exchanged : sandbox.Exchanges config exchanges answer) :
    exchanges.filterMap Exchange.asked? = sandbox.asks config := by
  rw [asks]
  cases exchanged with
  | unsaved changed saves =>
      cases saves
      rw [changed]
      rfl
  | shown stores needed shown =>
      obtain ⟨⟨⟩⟩ := shown
      cases stores with
      | needless =>
          have same := needed.not.mp (by simp)
          simp [same, Exchange.asked?]
      | stored saves =>
          cases saves
          have changed := needed.mp (by simp)
          simp [changed, Exchange.asked?]

/-- From this configuration on, registration was not yet gone through, or it was gone through
and the store was asked for what it has changed. -/
inductive AsksOnce (sandbox : Sandbox Memory) (initial : Config)
    (state : State (Recorded Memory)) : Prop
  | unregistered (same : state.config = initial)
      (asked : state.exchanges.filterMap Exchange.asked? = [])
  | registered
      (config : state.config = (register sandbox.workspace sandbox.archive initial).1)
      (asked : state.exchanges.filterMap Exchange.asked? = sandbox.asks initial)

namespace AsksOnce

variable {initial : Config}

theorem leave (holds : AsksOnce sandbox initial before) {exchanges : List Exchange}
    (noneAsked : exchanges.filterMap Exchange.asked? = [])
    (adds : after.exchanges = before.exchanges ++ exchanges)
    (config : after.config = before.config) : AsksOnce sandbox initial after := by
  have same : after.exchanges.filterMap Exchange.asked? =
      before.exchanges.filterMap Exchange.asked? := by
    rw [adds, List.filterMap_append, noneAsked, List.append_nil]
  cases holds with
  | unregistered unchanged asked => exact .unregistered (config.trans unchanged) (same.trans asked)
  | registered isRegistered asked => exact .registered (config.trans isRegistered) (same.trans asked)

theorem synchronizes {answer : Except Failure Bool} (holds : AsksOnce sandbox initial before)
    (tries : Synchronizes sandbox before after answer)
    (config : after.config = (register sandbox.workspace sandbox.archive before.config).1) :
    AsksOnce sandbox initial after := by
  obtain ⟨exchanges, adds, exchanged⟩ := tries.exchanges
  have asked : after.exchanges.filterMap Exchange.asked? =
      before.exchanges.filterMap Exchange.asked? ++ sandbox.asks before.config := by
    rw [adds, List.filterMap_append, exchanged.asked]
  cases holds with
  | unregistered same noneAsked =>
      rw [noneAsked, same, List.nil_append] at asked
      exact .registered (same ▸ config) asked
  | registered isRegistered askedOnce =>
      -- What is registered is not registered again, so the store is not asked again.
      have again := (isRegistration_register sandbox.workspace sandbox.archive initial).again
      have noFurther : sandbox.asks before.config = [] := by
        rw [Sandbox.asks, isRegistered, again]
        rfl
      rw [noFurther, List.append_nil, askedOnce] at asked
      rw [isRegistered, again] at config
      exact .registered config asked

/-- The store was asked for the registered configuration at most, and only if that is another
one. -/
theorem asked_le (holds : AsksOnce sandbox initial after) :
    let asked := after.exchanges.filterMap Exchange.asked?
    asked.length ≤ 1 ∧ ∀ config ∈ asked,
      config = (register sandbox.workspace sandbox.archive initial).1 ∧ config ≠ initial := by
  intro asked
  rcases registered : register sandbox.workspace sandbox.archive initial with ⟨config, changed⟩
  have other := (isRegistration_register sandbox.workspace sandbox.archive initial).changed
  cases holds with
  | unregistered _ noneAsked => simp [asked, noneAsked]
  | registered _ askedOnce =>
      rw [Sandbox.asks] at askedOnce
      rw [registered] at other askedOnce
      cases changed with
      | false => simp [asked, askedOnce]
      | true => simpa [asked, askedOnce] using other

end AsksOnce

theorem lasts_asksOnce (sandbox : Sandbox Memory) (initial : Config) :
    Lasts sandbox (AsksOnce sandbox initial) := by
  refine .of_toolCalls (fun holds exchanges config => ?_)
    (fun {_ _ exchange} holds adds isCall config => ?_)
    fun holds tries config => holds.synchronizes tries config
  · exact holds.leave rfl (exchanges.trans (List.append_nil _).symm) config
  · refine holds.leave ?_ adds config
    cases exchange with
    | compile | execute => rfl
    | save | forget | ingest => exact isCall.elim

/-- Registration completes the two lists of a configuration and does nothing else.  In a history
that begins in any state, whatever runs, stages, synchronizations and changes of the disk it is
made of and whichever of them fail, the store is asked once at most.  A synchronization behind
it leaves the registered configuration in memory, and unless the store has refused it, the
analysis is made to forget and shown the log just once. -/
theorem register_once (sandbox : Sandbox Memory) :
    (∀ workspace archive config,
      IsRegistration workspace archive config (register workspace archive config)) ∧
    ∀ (episodes : List Episode) (state : State Memory),
      let reached := sandbox.play episodes state
      let asked := (sandbox.exchangesOf episodes state).filterMap Exchange.asked?
      (asked.length ≤ 1 ∧ ∀ config ∈ asked,
        config = (register sandbox.workspace sandbox.archive state.config).1 ∧
          config ≠ state.config) ∧
      (sandbox.synchronize reached).2.config =
        (register sandbox.workspace sandbox.archive reached.config).1 ∧
      ∃ exchanges,
        sandbox.exchangesOf (episodes ++ [.synchronize]) state =
          sandbox.exchangesOf episodes state ++ exchanges ∧
        sandbox.Exchanges reached.config exchanges (sandbox.synchronize reached).1 := by
  refine ⟨isRegistration_register, fun episodes state => ?_⟩
  intro reached asked
  have begun : AsksOnce sandbox state.config state.recorded := .unregistered rfl rfl
  have holds := (lasts_asksOnce sandbox state.config).play episodes begun
  have same : (sandbox.recorded.play episodes state.recorded).plain = reached :=
    sandbox.plain_play episodes _
  have mirrored := sandbox.mirrors_synchronize (sandbox.recorded.play episodes state.recorded)
  rcases done : sandbox.recorded.synchronize (sandbox.recorded.play episodes state.recorded) with
    ⟨answer, after⟩
  obtain ⟨tries, config, -⟩ := synchronizes_done done
  obtain ⟨exchanges, adds, exchanged⟩ := tries.exchanges
  rw [done, same] at mirrored
  rw [mirrored, ← same]
  refine ⟨holds.asked_le, config, exchanges, ?_, exchanged⟩
  rw [Sandbox.exchangesOf, Sandbox.exchangesOf, ← adds, Sandbox.play, List.foldl_append,
    List.foldl_cons, List.foldl_nil, ← Sandbox.play, Episode.play, done]

end SnippetSandbox.Run
