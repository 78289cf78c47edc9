import FleetPlan.Proofs.Rpm.Settled

/-!
# Reports on package files

A report on a package file is sure when it is known which package the file holds and
the inventory says what the report says. Where it is not known, the host has to check
for itself. What is planned for a file is sure in this sense exactly if the package is
known or should be present (`RpmGoal.isSure_iff`): a file of an unknown package that
should be absent is reported not to be installed, and nothing checks it.
-/

namespace FleetPlan.RpmGoal

/-- Whether a package is installed is known if it is known which package it is. -/
def IsKnown (info : Option RpmInfo) (inventory : Inventory) (installed : Bool) : Prop :=
  ∃ known ∈ info, inventory.has known.name (some known.version) = installed

/-- A command that first asks the host for the package of a file. -/
def ChecksHost (path command : String) : Prop :=
  ∃ rest, command = "rpm -q `rpm -qp " ++ path ++ "`" ++ rest

/-- Each report on a package file tells what is known, and where nothing is known the host checks. -/
structure IsSure (outcome : Outcome) (path : String) (info : Option RpmInfo)
    (inventory : Inventory) : Prop where
  reports : ∀ source installed, .rpmState source installed ∈ outcome.observations →
    IsKnown info inventory installed
  checks : info = none → ∃ command ∈ outcome.commands, ChecksHost path command

variable {goal : RpmGoal} {temporaryPath path : String} {facts : Facts} {files : FileWork}
  {info : Option RpmInfo} {inventory after : Inventory} {outcome fetched : Outcome}

/-- A file is reported if its package is as wanted, or if its package is not known and should be
absent. -/
theorem rpmState_mem_settle_iff {source : String} {installed : Bool} :
    .rpmState source installed ∈ (goal.settle path info inventory).1.observations ↔
      (source = goal.source ∧ installed = goal.present) ∧
        (IsKnown info inventory goal.present ∨ info = none ∧ goal.present = false) := by
  cases info with
  | none =>
    simp only [settle]
    cases goal.present <;> simp [IsKnown, Outcome.ofCommand, Outcome.ofObservation]
  | some info =>
    simp only [settle]
    cases goal.present <;> cases found : inventory.has info.name (some info.version) <;>
      simp [IsKnown, found, Outcome.ofCommand, Outcome.ofObservation]

/-- The guarded command asks the host first. -/
theorem checksHost_guardedCommand (path : String) : ChecksHost path (guardedCommand path) := by
  have regroup : ∀ front quote rest back : String,
      front ++ (quote ++ rest) ++ back = front ++ quote ++ (rest ++ back) := by
    intro front quote rest back
    rw [← String.append_assoc, ← String.append_assoc]
  exact ⟨" 2> /dev/null || rpm -i " ++ path,
    regroup ("rpm -q `rpm -qp " ++ path) "`" " 2> /dev/null || rpm -i " path⟩

/-- What is reported as wanted is known to be so before and after, or nothing is known and the package
should be absent. -/
theorem isKnown_of_mem_settle {source : String} {installed : Bool}
    (reported : .rpmState source installed ∈ (goal.settle path info inventory).1.observations)
    (sure : info = none → goal.present = true) {state : Inventory}
    (here : state = inventory ∨ state = (goal.settle path info inventory).2) :
    IsKnown info state installed := by
  obtain ⟨⟨-, rfl⟩, known | ⟨unknown, absent⟩⟩ := rpmState_mem_settle_iff.mp reported
  · rcases here with rfl | rfl
    · exact known
    · obtain ⟨package, rfl, -⟩ := known
      exact ⟨package, rfl, goal.has_settle path package inventory⟩
  · rw [sure unknown] at absent
    cases absent

/-- What is planned for a file is sure, by the inventory before as by the inventory after, exactly if
its package is known or should be present. What the download itself reports has to be sure, too. -/
theorem isSure_iff
    (planned : goal.reconcile temporaryPath facts files inventory = .ok (outcome, after)) :
    ∃ fetched path info, goal.fetch temporaryPath files = .ok (fetched, path) ∧
      facts.rpmPackage path = .ok info ∧
      ∀ state, state = inventory ∨ state = after →
        (IsSure outcome path info state ↔
          (info = none → goal.present = true) ∧
            ∀ source installed, .rpmState source installed ∈ fetched.observations →
              IsKnown info state installed) := by
  obtain ⟨fetched, path, info, fetching, asked, rfl, rfl⟩ :=
    (goal.reconcile_eq_ok_iff temporaryPath facts files).mp planned
  refine ⟨fetched, path, info, fetching, asked, fun state here => ⟨?_, ?_⟩⟩
  · rintro ⟨reports, -⟩
    constructor
    · rintro rfl
      cases wanted : goal.present with
      | true => rfl
      | false =>
        have reported : .rpmState goal.source goal.present ∈
            (goal.settle path none inventory).1.observations :=
          rpmState_mem_settle_iff.mpr ⟨⟨rfl, rfl⟩, Or.inr ⟨rfl, wanted⟩⟩
        obtain ⟨known, impossible, -⟩ :=
          reports goal.source goal.present (List.mem_append_right _ reported)
        cases impossible
    · exact fun source installed member =>
        reports source installed (List.mem_append_left _ member)
  · rintro ⟨sure, own⟩
    constructor
    · intro source installed member
      rcases List.mem_append.mp member with early | late
      · exact own source installed early
      · exact isKnown_of_mem_settle late sure here
    · rintro rfl
      refine ⟨guardedCommand path, List.mem_append_right _ ?_, checksHost_guardedCommand path⟩
      simp [settle, sure rfl, Outcome.ofCommand]

/-- The package of a file that cannot be looked into is reported not to be installed where it should be
absent. Nothing is known of it, nothing checks it, and it may well be the package that is installed. -/
theorem not_isSure_unwantedFile :
    let inventory := Inventory.ofList [("top", ["3"])]
    let outcome := Outcome.ofObservation (.rpmState "/srv/top.rpm" false)
    (RpmGoal.mk "/srv/top.rpm" false "dnf").reconcile "/tmp/top.rpm" .none (.shell .none)
        inventory = .ok (outcome, inventory) ∧
      Facts.none.rpmPackage "/srv/top.rpm" = .ok none ∧
      ¬ IsSure outcome "/srv/top.rpm" none inventory ∧
      ¬ ∃ command ∈ outcome.commands, ChecksHost "/srv/top.rpm" command := by
  intro inventory outcome
  refine ⟨rfl, rfl, ?_, ?_⟩
  · rintro ⟨reports, -⟩
    obtain ⟨known, impossible, -⟩ := reports "/srv/top.rpm" false (.head _)
    cases impossible
  · rintro ⟨command, impossible, -⟩
    cases impossible

/-- The package of a file that cannot be looked into is checked by the host where it should be present.
-/
theorem isSure_wantedFile :
    let outcome := Outcome.ofCommand
      "rpm -q `rpm -qp /srv/top.rpm` 2> /dev/null || rpm -i /srv/top.rpm"
    (RpmGoal.mk "/srv/top.rpm" true "dnf").reconcile "/tmp/top.rpm" .none (.shell .none)
        .empty = .ok (outcome, .empty) ∧
      IsSure outcome "/srv/top.rpm" none .empty := by
  intro outcome
  have planned : (RpmGoal.mk "/srv/top.rpm" true "dnf").reconcile "/tmp/top.rpm" .none
      (.shell .none) .empty = .ok (outcome, .empty) := rfl
  obtain ⟨fetched, path, info, fetching, asked, sure⟩ := isSure_iff planned
  obtain ⟨rfl, rfl⟩ := Prod.mk.inj (Except.ok.inj fetching)
  obtain rfl : none = info := Except.ok.inj asked
  refine ⟨planned, (sure .empty (Or.inl rfl)).mpr ⟨fun _ => rfl, fun _ _ member => ?_⟩⟩
  cases member

end FleetPlan.RpmGoal
