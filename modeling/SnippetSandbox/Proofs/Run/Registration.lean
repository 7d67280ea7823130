import SnippetSandbox.Run.Registration

/-!
# Registering once is enough

Registration keeps every location that was listed and adds what was needed, so
that a second registration finds nothing to add.  It leaves a configuration alone
just when nothing was missing.
-/

namespace SnippetSandbox.Run

theorem mem_addMissing {locations needed : List String} {location : String} :
    location ∈ addMissing locations needed ↔ location ∈ locations ∨ location ∈ needed := by
  induction needed generalizing locations with
  | nil => simp [addMissing]
  | cons first needed ih =>
      rw [addMissing]
      split
      next listed =>
        rw [ih, List.mem_cons]
        constructor
        · rintro (old | new)
          · exact .inl old
          · exact .inr (.inr new)
        · rintro (old | rfl | new)
          · exact .inl old
          · exact .inl listed
          · exact .inr new
      next =>
        rw [ih, List.mem_append, List.mem_singleton, List.mem_cons, or_assoc]

theorem lacksAny_eq_false {locations needed : List String} :
    lacksAny locations needed = false ↔ ∀ location ∈ needed, location ∈ locations := by
  simp [lacksAny]

theorem length_le_addMissing (locations needed : List String) :
    locations.length ≤ (addMissing locations needed).length := by
  induction needed generalizing locations with
  | nil => exact Nat.le_refl _
  | cons first needed ih =>
      rw [addMissing]
      split
      next => exact ih locations
      next =>
        have longer := ih (locations ++ [first])
        rw [List.length_append] at longer
        omega

theorem addMissing_eq_self {locations needed : List String}
    (complete : lacksAny locations needed = false) : addMissing locations needed = locations := by
  rw [lacksAny_eq_false] at complete
  induction needed with
  | nil => rfl
  | cons first needed ih =>
      rw [addMissing, if_pos (complete first List.mem_cons_self)]
      exact ih fun location isNeeded => complete location (List.mem_cons_of_mem _ isNeeded)

theorem length_lt_addMissing {locations needed : List String}
    (lacks : lacksAny locations needed = true) :
    locations.length < (addMissing locations needed).length := by
  induction needed with
  | nil => cases lacks
  | cons first needed ih =>
      rw [addMissing]
      split
      next listed =>
        refine ih ?_
        simpa [lacksAny, listed] using lacks
      next =>
        have longer := length_le_addMissing (locations ++ [first]) needed
        rw [List.length_append, List.length_singleton] at longer
        omega

section Register

variable (workspace : Workspace) (archive : Option String) (config : Config)

/-- Everything a workspace needs is listed in the configuration. -/
def IsRegistered : Prop :=
  (∀ location ∈ neededSources workspace archive, location ∈ config.sourceLocations) ∧
    ∀ location ∈ neededClasses workspace, location ∈ config.classLocations

variable {workspace archive config}

theorem register_unchanged : (register workspace archive config).2 = false ↔
    IsRegistered workspace archive config := by
  rw [register, Bool.or_eq_false_iff, lacksAny_eq_false, lacksAny_eq_false]
  rfl

theorem register_eq_self (registered : IsRegistered workspace archive config) :
    register workspace archive config = (config, false) := by
  refine Prod.ext ?_ (register_unchanged.mpr registered)
  have sources := addMissing_eq_self (lacksAny_eq_false.mpr registered.1)
  have classes := addMissing_eq_self (lacksAny_eq_false.mpr registered.2)
  rw [register, sources, classes]

/-- Registration says that something was missing just when it leads to another
configuration. -/
theorem register_changed : (register workspace archive config).2 = true ↔
    (register workspace archive config).1 ≠ config := by
  constructor
  · intro changed same
    rw [register, Bool.or_eq_true] at changed
    rcases changed with lacks | lacks
    · have longer := length_lt_addMissing lacks
      have kept := congrArg (List.length ∘ Config.sourceLocations) same
      simp only [register, Function.comp_apply] at kept
      omega
    · have longer := length_lt_addMissing lacks
      have kept := congrArg (List.length ∘ Config.classLocations) same
      simp only [register, Function.comp_apply] at kept
      omega
  · intro other
    rw [← Bool.not_eq_false]
    intro unchanged
    have complete := register_unchanged.mp unchanged
    exact other (congrArg Prod.fst (register_eq_self complete))

variable (workspace archive config) in
/-- After registration nothing is lacking. -/
theorem isRegistered_register :
    IsRegistered workspace archive (register workspace archive config).1 :=
  ⟨fun _ isNeeded => mem_addMissing.mpr (.inr isNeeded),
    fun _ isNeeded => mem_addMissing.mpr (.inr isNeeded)⟩

theorem IsRegistered.further (registered : IsRegistered workspace archive config)
    (other : Option String) : IsRegistered workspace archive (register workspace other config).1 :=
  ⟨fun location isNeeded => mem_addMissing.mpr (.inl (registered.1 location isNeeded)),
    fun location isNeeded => mem_addMissing.mpr (.inl (registered.2 location isNeeded))⟩

end Register

end SnippetSandbox.Run
