import SnippetSandbox.Task

/-!
# Work that changes a state and may fail

The operations on files, the tasks and the parts of a run are all of this kind:
from a state they lead to an answer and a state.  A sequence of them fails with
the first that fails, and succeeds only after each of them did.
-/

namespace SnippetSandbox.Effect

variable {Error State First Second : Type}
variable {work : ExceptT Error (StateM State) First}
variable {next : First → ExceptT Error (StateM State) Second}
variable {before after : State}

theorem bind_of_ok {first : First} (done : work before = (.ok first, after)) :
    (work >>= next) before = next first after := by
  change (match work before with | (answer, state) => (ExceptT.bindCont next answer) state) = _
  rw [done]
  rfl

theorem bind_of_error {error : Error} (failed : work before = (.error error, after)) :
    (work >>= next) before = (.error error, after) := by
  change (match work before with | (answer, state) => (ExceptT.bindCont next answer) state) = _
  rw [failed]
  rfl

/-- A sequence has failed with its first part, or it has gone on with a result. -/
theorem bind_done {answer : Except Error Second} (done : (work >>= next) before = (answer, after)) :
    (∃ error, work before = (.error error, after) ∧ answer = .error error) ∨
    ∃ first between, work before = (.ok first, between) ∧
      next first between = (answer, after) := by
  rcases reached : work before with ⟨error | first, between⟩
  · rw [bind_of_error reached] at done
    cases done
    exact .inl ⟨error, rfl, rfl⟩
  · rw [bind_of_ok reached] at done
    exact .inr ⟨first, between, rfl, done⟩

/-- What follows a piece of work has been reached by a success of it. -/
theorem bind_ok {second : Second} (done : (work >>= next) before = (.ok second, after)) :
    ∃ first between, work before = (.ok first, between) ∧
      next first between = (.ok second, after) := by
  rcases bind_done done with ⟨error, _, impossible⟩ | reached
  · cases impossible
  · exact reached

theorem tryCatch_of_ok {handler : Error → ExceptT Error (StateM State) First} {first : First}
    (done : work before = (.ok first, after)) :
    tryCatch work handler before = (.ok first, after) := by
  change ((match work before with
    | (answer, state) =>
        (match answer with
          | .ok first => pure (.ok first)
          | .error error => handler error : StateM State (Except Error First)) state) :
      Except Error First × State) = (.ok first, after)
  rw [done]
  rfl

theorem tryCatch_of_error {handler : Error → ExceptT Error (StateM State) First} {error : Error}
    (failed : work before = (.error error, after)) :
    tryCatch work handler before = handler error after := by
  change ((match work before with
    | (answer, state) =>
        (match answer with
          | .ok first => pure (.ok first)
          | .error error => handler error : StateM State (Except Error First)) state) :
      Except Error First × State) = handler error after
  rw [failed]

/-- Work with a handler has succeeded, or the handler has answered its failure. -/
theorem tryCatch_done {handler : Error → ExceptT Error (StateM State) First}
    {answer : Except Error First}
    (done : tryCatch work handler before = (answer, after)) :
    (∃ first, work before = (.ok first, after) ∧ answer = .ok first) ∨
    ∃ error between, work before = (.error error, between) ∧
      handler error between = (answer, after) := by
  change ((match work before with
    | (answer, state) =>
        (match answer with
          | .ok first => pure (.ok first)
          | .error error => handler error : StateM State (Except Error First)) state) :
      Except Error First × State) = (answer, after) at done
  rcases reached : work before with ⟨error | first, between⟩ <;> rw [reached] at done
  · exact .inr ⟨error, between, rfl, done⟩
  · cases done
    exact .inl ⟨first, rfl, rfl⟩

/-- Whatever the answer is, the states around the work are related. -/
def Relates (relation : State → State → Prop) (work : ExceptT Error (StateM State) First) :
    Prop :=
  ∀ before, relation before (work before).2

namespace Relates

variable {relation : State → State → Prop}

theorem states {answer : Except Error First} (works : Relates relation work)
    (done : work before = (answer, after)) : relation before after := by
  have related := works before
  rwa [done] at related

theorem bind (transitive : ∀ {first second third}, relation first second →
      relation second third → relation first third)
    (works : Relates relation work) (goesOn : ∀ first, Relates relation (next first)) :
    Relates relation (work >>= next) := by
  intro before
  have reached := works before
  rcases outcome : work before with ⟨_ | first, between⟩
  · rw [bind_of_error outcome]
    rwa [outcome] at reached
  · rw [bind_of_ok outcome]
    rw [outcome] at reached
    exact transitive reached (goesOn first between)

theorem tryCatch {handler : Error → ExceptT Error (StateM State) First}
    (transitive : ∀ {first second third}, relation first second →
      relation second third → relation first third)
    (works : Relates relation work) (handles : ∀ error, Relates relation (handler error)) :
    Relates relation (tryCatch work handler) := by
  intro before
  have reached := works before
  change relation before
    ((match work before with
      | (answer, state) =>
          (match answer with
            | .ok first => pure (.ok first)
            | .error error => handler error : StateM State (Except Error First)) state) :
        Except Error First × State).2
  rcases outcome : work before with ⟨error | first, between⟩ <;> rw [outcome] at reached
  · exact transitive reached (handles error between)
  · exact reached

/-- What every step of a loop does to the states, the loop does. -/
theorem forM {Item : Type} {body : Item → ExceptT Error (StateM State) PUnit}
    (reflexive : ∀ state, relation state state)
    (transitive : ∀ {first second third}, relation first second →
      relation second third → relation first third)
    (works : ∀ item, Relates relation (body item)) (items : List Item) :
    Relates relation (items.forM body) := by
  induction items with
  | nil => exact reflexive
  | cons item items ih => exact bind transitive (works item) fun _ => ih

end Relates

theorem forM_singleton {Item : Type} {body : Item → ExceptT Error (StateM State) PUnit}
    {item : Item} (done : body item before = (.ok ⟨⟩, after)) :
    [item].forM body before = (.ok ⟨⟩, after) :=
  (bind_of_ok done : (body item >>= fun _ => [].forM body) before = _)

/-- A loop that succeeded has taken all its steps.  What relates the states around each of
them relates the states around the loop, and what a step has achieved lasts. -/
theorem forM_ok {Item : Type} {body : Item → ExceptT Error (StateM State) PUnit}
    {items : List Item} {relation : State → State → Prop} {achieved : Item → State → Prop}
    (reflexive : ∀ state, relation state state)
    (transitive : ∀ {first second third}, relation first second →
      relation second third → relation first third)
    (lasts : ∀ item first second, relation first second →
      achieved item first → achieved item second)
    (step : ∀ item ∈ items, ∀ state next, relation before state →
      body item state = (.ok ⟨⟩, next) → relation state next ∧ achieved item next)
    (done : items.forM body before = (.ok ⟨⟩, after)) :
    relation before after ∧ ∀ item ∈ items, achieved item after := by
  -- The induction keeps how the loop got to the state in which it goes on.
  suffices loop : ∀ state, relation before state → items.forM body state = (.ok ⟨⟩, after) →
      relation state after ∧ ∀ item ∈ items, achieved item after from
    loop before (reflexive before) done
  clear done
  induction items with
  | nil =>
      intro state _ done
      cases done
      exact ⟨reflexive _, nofun⟩
  | cons item items ih =>
      intro state reached done
      obtain ⟨⟨⟩, next, first, rest⟩ := bind_ok done
      obtain ⟨related, here⟩ := step item List.mem_cons_self state next reached first
      have later := fun other isMember => step other (List.mem_cons_of_mem _ isMember)
      obtain ⟨goesOn, others⟩ := ih later next (transitive reached related) rest
      refine ⟨transitive related goesOn, ?_⟩
      simpa using ⟨lasts item next after goesOn here, others⟩

/-- A loop succeeds when each of its steps does in the states that the steps before it lead to. -/
theorem forM_of_steps {Item : Type} {body : Item → ExceptT Error (StateM State) PUnit}
    {items : List Item} {holds : List Item → State → Prop} (start : holds items before)
    (step : ∀ item rest state, holds (item :: rest) state →
      ∃ next, body item state = (.ok ⟨⟩, next) ∧ holds rest next) :
    ∃ after, items.forM body before = (.ok ⟨⟩, after) ∧ holds [] after := by
  induction items generalizing before with
  | nil => exact ⟨before, rfl, start⟩
  | cons item items ih =>
      obtain ⟨next, first, held⟩ := step item items before start
      obtain ⟨after, rest, ends⟩ := ih held
      have whole : (body item >>= fun _ => items.forM body) before = (.ok ⟨⟩, after) :=
        (bind_of_ok first).trans rest
      exact ⟨after, whole, ends⟩

end SnippetSandbox.Effect
