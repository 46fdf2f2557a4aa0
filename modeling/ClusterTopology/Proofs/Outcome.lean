import ClusterTopology.Outcome

/-!
How outcomes follow one another: an operation that succeeded hands its state and value on, one that
failed ends there, and the events of both stand in their order.
-/

namespace ClusterTopology

namespace Outcome

variable {σ τ α β : Type}

theorem andThen_of_ok {outcome : Outcome σ α} {value : α} (next : σ → α → Outcome σ β)
    (success : outcome.result = .ok value) :
    outcome.andThen next = (next outcome.state value).after outcome.events := by
  simp only [andThen, success]

theorem andThen_of_error {outcome : Outcome σ α} {fault : Fault} (next : σ → α → Outcome σ β)
    (failure : outcome.result = .error fault) :
    outcome.andThen next = ⟨outcome.state, outcome.events, .error fault⟩ := by
  simp only [andThen, failure]

@[simp] theorem done_andThen (state : σ) (value : α) (next : σ → α → Outcome σ β) :
    (done state value).andThen next = next state value := rfl

@[simp] theorem failed_andThen (state : σ) (fault : Fault) (next : σ → α → Outcome σ β) :
    (failed state fault).andThen next = failed state fault := rfl

@[simp] theorem done_within (put : σ → τ) (state : σ) (value : α) :
    (done state value).within put = done (put state) value := rfl

@[simp] theorem failed_within (put : σ → τ) (state : σ) (fault : Fault) :
    (failed state fault : Outcome σ α).within put = failed (put state) fault := rfl

theorem result_andThen_eq_ok {outcome : Outcome σ α} {next : σ → α → Outcome σ β} {value : β}
    (success : (outcome.andThen next).result = .ok value) :
    ∃ first, outcome.result = .ok first ∧ (next outcome.state first).result = .ok value := by
  cases result : outcome.result with
  | error fault =>
    rw [andThen_of_error next result] at success
    exact absurd success (by simp)
  | ok first =>
    rw [andThen_of_ok next result] at success
    exact ⟨first, rfl, success⟩

end Outcome

/-! Steps that may fail, one after the other and over a list. -/

@[simp] theorem mapError_ok {ε φ α : Type} (fault : ε → φ) (value : α) :
    (Except.ok value : Except ε α).mapError fault = .ok value := rfl

@[simp] theorem mapError_error {ε φ α : Type} (fault : ε → φ) (problem : ε) :
    (Except.error problem : Except ε α).mapError fault = .error (fault problem) := rfl

theorem mapError_eq_ok_iff {ε φ α : Type} {fault : ε → φ} {result : Except ε α} {value : α} :
    result.mapError fault = .ok value ↔ result = .ok value := by
  cases result <;> simp

@[simp] theorem toOption_ok {ε α : Type} (value : α) :
    (Except.ok value : Except ε α).toOption = some value := rfl

@[simp] theorem toOption_error {ε α : Type} (fault : ε) :
    (Except.error fault : Except ε α).toOption = none := rfl

theorem eq_ok_of_toOption {ε α : Type} {result : Except ε α} {value : α}
    (found : result.toOption = some value) : result = .ok value := by
  cases result with
  | error fault => exact absurd found (by simp)
  | ok other => exact congrArg Except.ok (Option.some.inj found)

theorem toOption_eq_some_iff {ε α : Type} {result : Except ε α} {value : α} :
    result.toOption = some value ↔ result = .ok value :=
  ⟨eq_ok_of_toOption, fun success => by rw [success, toOption_ok]⟩

theorem exists_of_bind_eq_ok {ε α β : Type} {first : Except ε α} {next : α → Except ε β}
    {value : β} (success : (first >>= next) = .ok value) :
    ∃ found, first = .ok found ∧ next found = .ok value := by
  cases first with
  | error fault => exact absurd success (by simp [bind, Except.bind])
  | ok found => exact ⟨found, rfl, success⟩

theorem then_eq_ok_iff {ε : Type} {first second : Except ε Unit} :
    (first >>= fun _ => second) = .ok () ↔ first = .ok () ∧ second = .ok () := by
  cases first with
  | error fault => simp [bind, Except.bind]
  | ok value => simp [bind, Except.bind]

theorem bind_eq_error_iff {ε α β : Type} {first : Except ε α} {next : α → Except ε β} {fault : ε} :
    (first >>= next) = .error fault ↔
      first = .error fault ∨ ∃ found, first = .ok found ∧ next found = .error fault := by
  cases first with
  | error other => simp [bind, Except.bind]
  | ok found => simp [bind, Except.bind]

section

variable {ε ι ν : Type} {step : ι → Except ε ν} {item : ι}

theorem mapM_cons_of_ok {value : ν} (success : step item = .ok value) (items : List ι) :
    (item :: items).mapM step = (items.mapM step).map (value :: ·) := by
  rw [List.mapM_cons, success]
  rfl

theorem mapM_eq_ok {result : ι → ν} {items : List ι}
    (success : ∀ item ∈ items, step item = .ok (result item)) :
    items.mapM step = .ok (items.map result) := by
  induction items with
  | nil => rfl
  | cons item items ih =>
    rw [mapM_cons_of_ok (success item List.mem_cons_self),
      ih fun other member => success other (List.mem_cons_of_mem _ member)]
    rfl

theorem mapM_cons_of_error {fault : ε} (failure : step item = .error fault) (items : List ι) :
    (item :: items).mapM step = .error fault := by
  rw [List.mapM_cons, failure]
  rfl

theorem mapM_of_first_error {before : List ι} {fault : ε}
    (fine : ∀ other ∈ before, ∃ value, step other = .ok value) (failure : step item = .error fault)
    (after : List ι) : (before ++ item :: after).mapM step = .error fault := by
  induction before with
  | nil => exact mapM_cons_of_error failure after
  | cons first before ih =>
    obtain ⟨⟨value, success⟩, fine⟩ := List.forall_mem_cons.mp fine
    rw [List.cons_append, mapM_cons_of_ok success, ih fine]
    rfl

theorem exists_first_error {items : List ι} {fault : ε} (failed : items.mapM step = .error fault) :
    ∃ before item after, items = before ++ item :: after
      ∧ (∀ other ∈ before, ∃ value, step other = .ok value) ∧ step item = .error fault := by
  induction items with
  | nil => exact absurd failed (by simp [pure, Except.pure])
  | cons first items ih =>
    cases outcome : step first with
    | error other =>
      rw [mapM_cons_of_error outcome] at failed
      obtain rfl := Except.error.inj failed
      exact ⟨[], first, items, rfl, by simp, outcome⟩
    | ok value =>
      have later : items.mapM step = .error fault := by
        rw [mapM_cons_of_ok outcome] at failed
        cases rest : items.mapM step with
        | error other => rw [rest] at failed; exact failed
        | ok values => rw [rest] at failed; exact absurd failed (by simp [Except.map])
      obtain ⟨before, item, after, rfl, fine, failure⟩ := ih later
      exact ⟨first :: before, item, after, rfl,
        List.forall_mem_cons.mpr ⟨⟨value, outcome⟩, fine⟩, failure⟩

end

theorem mapM_map_eq_ok {ε ι β ν : Type} {keyOf : ι → β} {items : List ι} {step : β → Except ε ν}
    {result : ι → ν} (success : ∀ item ∈ items, step (keyOf item) = .ok (result item)) :
    (items.map keyOf).mapM step = .ok (items.map result) := by
  rw [List.mapM_map]
  exact mapM_eq_ok success

/-- An operation that fails does so with one of these faults. -/
def FailsOnlyWith {ε α : Type} (faults : ε → Prop) (outcome : Except ε α) : Prop :=
  ∀ fault, outcome = .error fault → faults fault

namespace FailsOnlyWith

variable {ε φ α β : Type} {faults : ε → Prop} {outcome : Except ε α}

theorem ok (value : α) : FailsOnlyWith faults (.ok value) := fun _ failure => nomatch failure

theorem any (outcome : Except ε α) : FailsOnlyWith (fun _ => True) outcome := fun _ _ => trivial

theorem error {fault : ε} (among : faults fault) :
    FailsOnlyWith faults (.error fault : Except ε α) := by
  intro other failure
  rw [← Except.error.inj failure]
  exact among

theorem bind {next : α → Except ε β} (only : FailsOnlyWith faults outcome)
    (onlyNext : ∀ found, outcome = .ok found → FailsOnlyWith faults (next found)) :
    FailsOnlyWith faults (outcome >>= next) := by
  intro fault failure
  rcases bind_eq_error_iff.mp failure with failed | ⟨found, success, failed⟩
  · exact only fault failed
  · exact onlyNext found success fault failed

theorem mapError {others : φ → Prop} {change : ε → φ} (only : FailsOnlyWith faults outcome)
    (changed : ∀ fault, faults fault → others (change fault)) :
    FailsOnlyWith others (outcome.mapError change) := by
  cases outcome with
  | ok value => exact .ok value
  | error fault => exact .error (changed fault (only fault rfl))

theorem mono {others : ε → Prop} (only : FailsOnlyWith faults outcome)
    (weaker : ∀ fault, faults fault → others fault) : FailsOnlyWith others outcome :=
  fun fault failure => weaker fault (only fault failure)

theorem cases (only : FailsOnlyWith faults outcome) :
    (∃ value, outcome = .ok value) ∨ ∃ fault, faults fault ∧ outcome = .error fault := by
  cases result : outcome with
  | ok value => exact Or.inl ⟨value, rfl⟩
  | error fault => exact Or.inr ⟨fault, only fault result, rfl⟩

end FailsOnlyWith

@[simp] theorem offeredIn_nil : offeredIn [] = [] := rfl

@[simp] theorem acceptedIn_nil : acceptedIn [] = [] := rfl

@[simp] theorem logOf_nil : logOf [] = [] := rfl

@[simp] theorem offeredIn_append (events later : List Event) :
    offeredIn (events ++ later) = offeredIn events ++ offeredIn later :=
  List.filterMap_append

@[simp] theorem acceptedIn_append (events later : List Event) :
    acceptedIn (events ++ later) = acceptedIn events ++ acceptedIn later :=
  List.filterMap_append

theorem acceptedIn_of_offeredIn_eq_nil {events : List Event} (nothing : offeredIn events = []) :
    acceptedIn events = [] := by
  unfold offeredIn acceptedIn at *
  rw [List.filterMap_eq_nil_iff] at *
  intro event member
  have unoffered := nothing event member
  cases event with
  | patchOffered patch accepted => exact absurd unoffered (by simp [Event.offered?])
  | _ => rfl

@[simp] theorem logOf_append (events later : List Event) :
    logOf (events ++ later) = logOf events ++ logOf later :=
  List.filterMap_append

end ClusterTopology
