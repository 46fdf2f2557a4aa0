import ClusterTopology.Planner.Plan
import ClusterTopology.Proofs.Outcome

/-!
What a plan prints and leaves behind. A plan stops at the first line that cannot be printed, and the
status is stored only after all lines but the last, which says so. On a status of texts a plan that is
to be stored goes through just when the selector is valid, the failure domain can be reconciled for
the eligible nodes, and the status can be stored; where everything can be printed, that is one line
about the nodes, one for each patch that was accepted, and the domain.
-/

namespace ClusterTopology

namespace Planner

def lines (texts : List Text) : Text := texts.flatMap fun text => text ++ "\n"

def Host.PrintsAll (host : Host) : Prop := ∀ printed text, host.console printed text = none

/-- A run came to its end, or to the line that says where its status was stored, which the console
refused. -/
inductive Exit.IsLast (host : Host) (path : Text) : Exit → Prop
  | ended : IsLast host path (.code 0)
  | unsaid {printed reason : Text}
      (refused : host.console printed (storedLine path ++ "\n") = some reason) :
      IsLast host path (.unprinted (storedLine path) reason)

theorem Host.PrintsAll.isLast_iff {host : Host} (prints : host.PrintsAll) {path : Text} {exit : Exit} :
    exit.IsLast host path ↔ exit = .code 0 := by
  constructor
  · rintro (_ | ⟨refused⟩)
    · rfl
    · exact absurd ((prints _ _).symm.trans refused) (by simp)
  · rintro rfl
    exact .ended

section

variable {α : Type} [Name α] {host : Host} {path : Text} {nodes eligible : List Node}

theorem Host.printAll_cases (host : Host) (printed : Text) (texts : List Text) :
    host.printAll printed texts = (printed ++ lines texts, .ok ())
      ∨ ∃ output, ∃ line ∈ texts, ∃ reason, host.console output (line ++ "\n") = some reason
        ∧ host.printAll printed texts = (output, .error (.unprinted line reason)) := by
  induction texts generalizing printed with
  | nil =>
    left
    rw [printAll, lines, List.flatMap_nil, List.append_nil]
  | cons line texts ih =>
    rw [printAll]
    cases answer : host.console printed (line ++ "\n") with
    | some reason => exact Or.inr ⟨printed, line, List.mem_cons_self, reason, answer, rfl⟩
    | none =>
      rcases ih (printed ++ (line ++ "\n")) with
        all | ⟨output, other, later, reason, refused, stopped⟩
      · left
        rw [all, lines, lines, List.flatMap_cons, List.append_assoc]
      · exact Or.inr ⟨output, other, List.mem_cons_of_mem _ later, reason, refused, stopped⟩

theorem printing_cases (host : Host) (planned : Planned) (texts : List Text)
    (next : Planned → Planned) :
    planned.printing host texts next =
        next { planned with output := planned.output ++ lines texts }
      ∨ ∃ output, ∃ line ∈ texts, ∃ reason, host.console output (line ++ "\n") = some reason
        ∧ planned.printing host texts next =
          { planned with output := output, exit := .unprinted line reason } := by
  unfold Planned.printing
  rcases host.printAll_cases planned.output texts with
    all | ⟨output, line, member, reason, refused, stopped⟩
  · left
    rw [all]
  · right
    rw [stopped]
    exact ⟨output, line, member, reason, refused, rfl⟩

theorem nodesLine_ne_storedLine : nodesLine nodes eligible ≠ storedLine path := by
  intro same
  have marks : some (CodePoint.ofChar '+') = some (CodePoint.ofChar ' ') :=
    congrArg List.head? same
  exact absurd marks (by decide)

theorem patchLine_ne_storedLine (patch : LabelPatch) : patchLine patch ≠ storedLine path := by
  intro same
  have marks : some (CodePoint.ofChar '+') = some (CodePoint.ofChar ' ') :=
    congrArg List.head? same
  exact absurd marks (by decide)

theorem domainLine_ne_storedLine (domain : FailureDomain α) : domainLine domain ≠ storedLine path := by
  intro same
  have marks : some (CodePoint.ofChar '\n') = some (CodePoint.ofChar ' ') :=
    congrArg List.head? same
  exact absurd marks (by decide)

theorem keyLine_ne_storedLine (domain : FailureDomain α) : keyLine domain ≠ storedLine path := by
  intro same
  have marks : some (CodePoint.ofChar 'K') = some (CodePoint.ofChar 'S') :=
    congrArg (·[3]?) same
  exact absurd marks (by decide)

theorem valuesLine_ne_storedLine (values : List Text) : valuesLine values ≠ storedLine path := by
  intro same
  have marks : some (CodePoint.ofChar 'V') = some (CodePoint.ofChar 'S') :=
    congrArg (·[3]?) same
  exact absurd marks (by decide)

end

/-- A run leaves the files alone, and comes to its last line only if it is not to store its status. -/
structure Planned.LeavesFiles (after : Planned) (host : Host) (files : Files) (write : Bool)
    (path : Text) : Prop where
  same : after.files = files
  unstored : write = true → ¬after.exit.IsLast host path

section

variable {α : Type} [Name α] {planned : Planned} {path : Text}

theorem printing_or_leavesFiles (host : Host) {texts : List Text}
    (others : ∀ line ∈ texts, line ≠ storedLine path) (write : Bool) (next : Planned → Planned) :
    planned.printing host texts next =
        next { planned with output := planned.output ++ lines texts }
      ∨ (planned.printing host texts next).LeavesFiles host planned.files write path := by
  rcases printing_cases host planned texts next with goesOn | ⟨_, line, member, reason, _, stops⟩
  · exact Or.inl goesOn
  · right
    rw [stops]
    refine ⟨rfl, fun _ last => ?_⟩
    cases last
    exact others _ member rfl

theorem isLast_printing_storedLine (host : Host) (running : planned.exit = .code 0) :
    (planned.printing host [storedLine path] id).exit.IsLast host path := by
  rcases printing_cases host planned [storedLine path] id with
    goesOn | ⟨_, line, member, _, refused, stops⟩
  · rw [goesOn, id_eq, running]
    exact .ended
  · obtain rfl := List.mem_singleton.mp member
    rw [stops]
    exact .unsaid refused

theorem files_printing_id (host : Host) (texts : List Text) :
    (planned.printing host texts id).files = planned.files := by
  rcases printing_cases host planned texts id with goesOn | ⟨_, _, _, _, _, stops⟩
  · rw [goesOn, id_eq]
  · rw [stops]

/-- What a run does that comes to store its status, or that does not. -/
inductive Planned.Concludes (after : Planned) (host : Host) (files : Files) (write : Bool)
    (path : Text) (status : Status α) : Prop
  | short (leaves : after.LeavesFiles host files write path)
  | stored (asked : write = true) (left : after.files = (status.save files path).state)
      (last : after.exit.IsLast host path ↔ (status.save files path).result = .ok ())

theorem concludes (host : Host) (running : planned.exit = .code 0) (write : Bool)
    (status : Status α) :
    (conclude host planned write path status).Concludes host planned.files write path status := by
  unfold conclude
  cases write with
  | false => exact .short ⟨rfl, fun asked => absurd asked (by simp)⟩
  | true =>
    simp only [↓reduceIte]
    cases stores : (status.save planned.files path).result with
    | error fault =>
      have neither : ¬(Exit.fault fault).IsLast host path := nofun
      exact .stored rfl rfl (iff_of_false neither (by simp [stores]))
    | ok _ =>
      refine .stored rfl (files_printing_id host _) (iff_of_true ?_ stores)
      exact isLast_printing_storedLine host running

theorem report_concludes (host : Host) (running : planned.exit = .code 0) (write : Bool)
    (status : Status α) (domain : FailureDomain α) :
    (report host planned write path status domain).Concludes host planned.files write path status := by
  have domainOthers : ∀ line ∈ [domainLine domain, keyLine domain], line ≠ storedLine path := by
    simp only [List.forall_mem_cons]
    exact ⟨domainLine_ne_storedLine domain, keyLine_ne_storedLine domain, by simp⟩
  unfold report
  rcases printing_or_leavesFiles host domainOthers write _ with printed | stops
  · rw [printed]
    cases valueTexts? domain.values with
    | none => exact .short ⟨rfl, nofun⟩
    | some values =>
      have valueOthers : ∀ line ∈ [valuesLine values], line ≠ storedLine path := by
        simp only [List.forall_mem_cons]
        exact ⟨valuesLine_ne_storedLine values, by simp⟩
      dsimp only
      rcases printing_or_leavesFiles host valueOthers write _ with printed | stops
      · rw [printed]
        exact concludes host (by exact running) write status
      · exact .short stops
  · exact .short stops

theorem choose_cases (host : Host) (running : planned.exit = .code 0) (arguments : Arguments)
    (path : Text) (nodes : List Node) (selector : Option Selector) (status : Status α) :
    (choose host planned arguments path nodes selector status).LeavesFiles host
        planned.files arguments.write path
      ∨ ∃ eligible domain, Node.eligible nodes selector = .ok eligible
        ∧ (reconcile status arguments eligible selector).result = .ok domain
        ∧ (choose host planned arguments path nodes selector status).Concludes host planned.files
          arguments.write path (reconcile status arguments eligible selector).state := by
  have failed (before : Planned) (same : before.files = planned.files) (fault : Fault) :
      (before.exiting (if fault.isSelectionFault then
        .message ("Failure domain selection failed: " ++ fault.message)
        else .fault fault)).LeavesFiles host planned.files arguments.write path := by
    refine ⟨same, fun _ last => ?_⟩
    unfold Planned.exiting at last
    dsimp only at last
    split at last <;> exact nomatch last
  unfold choose
  cases selected : Node.eligible nodes selector with
  | error fault => exact Or.inl (failed planned rfl fault)
  | ok eligible =>
    have nodeOthers : ∀ line ∈ [nodesLine nodes eligible], line ≠ storedLine path := by
      simp only [List.forall_mem_cons]
      exact ⟨nodesLine_ne_storedLine, by simp⟩
    dsimp only
    rcases printing_or_leavesFiles host nodeOthers arguments.write _ with printed | stops
    · rw [printed]
      cases chosen : (reconcile status arguments eligible selector).result with
      | error fault => exact Or.inl (failed _ (by rfl) fault)
      | ok domain =>
        right
        refine ⟨eligible, domain, rfl, chosen, ?_⟩
        have patchOthers : ∀ line ∈ (acceptedIn (reconcile status arguments eligible
            selector).events).map patchLine, line ≠ storedLine path := by
          intro line member
          obtain ⟨patch, _, rfl⟩ := List.mem_map.mp member
          exact patchLine_ne_storedLine patch
        dsimp only
        rcases printing_or_leavesFiles host patchOthers arguments.write _ with printed | stops
        · rw [printed]
          exact report_concludes host (by exact running) _ _ domain
        · exact .short stops
    · exact Or.inl stops

end

section

variable {host : Host} {files : Files} {arguments : Arguments} {path : Text}
  {nodes eligible : List Node} {selector : Option Selector} {status : Status Text}
  {domain : FailureDomain Text}

structure Arguments.GiveSpec (arguments : Arguments) (spec : ClusterSpec) : Prop where
  flexibleScaling : arguments.flexibleScaling = spec.flexibleScaling
  arbiter : arguments.arbiter = spec.arbiter
  minimumNodes : arguments.minimumNodes = some spec.minimumNodes
  minimumRacks : arguments.minimumRacks = some spec.minimumRacks

theorem reconcile_eq {spec : ClusterSpec} (gives : arguments.GiveSpec spec) (status : Status Text)
    (nodes : List Node) :
    reconcile status arguments nodes spec.selector =
      status.reconcile spec nodes fun _ _ => .accepted := by
  unfold reconcile
  simp only [gives.minimumNodes, gives.minimumRacks, gives.flexibleScaling, gives.arbiter,
    Option.isNone_some, Bool.false_and, Bool.false_eq_true, Option.getD_some, ↓reduceIte]

end

end Planner
end ClusterTopology
