import FleetPlan.Proofs.Package.StandAlone
import FleetPlan.Proofs.Rpm.Settled
import FleetPlan.Report

/-!
# Package files and packages in one inventory

Package files are recorded by the exact version they hold, and packages are looked
up by their identities, in the same inventory. What one of the two did the other
one sees (`RpmGoal.agrees_with_packages`), also after any operations that are about
other packages: `Operation.Spares` says when an operation leaves what is known of a
package as it is, and `Operation.has_attempt` and `has_planSteps` that it does.
-/

namespace FleetPlan

/-- The requests for the package of a file: by its name, and pinned to its version. -/
def RpmInfo.packages (info : RpmInfo) : List Package :=
  [⟨info.name, none⟩, ⟨info.name, some info.version⟩]

/-- A request for the package of a file is by its name. -/
theorem RpmInfo.name_of_mem_packages {info : RpmInfo} {package : Package}
    (member : package ∈ info.packages) : package.name = info.name := by
  simp only [packages, List.mem_cons, List.not_mem_nil, or_false] at member
  rcases member with rfl | rfl <;> rfl

/-- Where the package of a file is installed, so is what is requested for it. -/
theorem RpmInfo.has_of_mem_packages {info : RpmInfo} {package : Package} {inventory : Inventory}
    (member : package ∈ info.packages)
    (installed : inventory.has info.name (some info.version) = true) :
    inventory.has package.name package.version = true := by
  simp only [packages, List.mem_cons, List.not_mem_nil, or_false] at member
  rcases member with rfl | rfl
  · exact Inventory.has_none_of_has installed
  · exact installed

namespace RpmGoal

/-- A package file can be fetched, and is known to hold a package. -/
structure Resolves (goal : RpmGoal) (temporaryPath : String) (facts : Facts) (files : FileWork)
    (fetched : Outcome) (path : String) (info : RpmInfo) : Prop where
  fetch : goal.fetch temporaryPath files = .ok (fetched, path)
  holds : facts.rpmPackage path = .ok (some info)

variable {goal : RpmGoal} {temporaryPath : String} {facts : Facts} {files : FileWork}
  {fetched : Outcome} {path : String} {info : RpmInfo}

/-- A package file that is known to hold a package is always planned. -/
theorem Resolves.reconcile
    (resolves : goal.Resolves temporaryPath facts files fetched path info)
    (inventory : Inventory) :
    goal.reconcile temporaryPath facts files inventory =
      .ok (fetched ++ (goal.settle path (some info) inventory).1,
        (goal.settle path (some info) inventory).2) :=
  (goal.reconcile_eq_ok_iff temporaryPath facts files).mpr
    ⟨fetched, path, some info, resolves.fetch, resolves.holds, rfl, rfl⟩

/-- A package that is not installed is installed from its file. -/
theorem commands_settle_of_absent (wanted : goal.present = true) {inventory : Inventory}
    (absent : inventory.has info.name (some info.version) = false) :
    (goal.settle path (some info) inventory).1.commands = [installCommand path] := by
  simp [settle, wanted, absent, Outcome.ofCommand]

/-- A file for which its package is removed leaves nothing of the package. -/
theorem has_settle_of_commands {inventory : Inventory} (unwanted : goal.present = false)
    (removes : (goal.settle path (some info) inventory).1.commands =
      [removeCommand goal.remover info.name]) (version : Option String) :
    (goal.settle path (some info) inventory).2.has info.name version = false := by
  rw [inventory_settle_some, unwanted]
  cases installed : inventory.has info.name (some info.version) with
  | false => simp [settle, unwanted, installed, Outcome.ofObservation] at removes
  | true =>
    simp only [Bool.true_eq_false, Bool.false_eq_true, if_false]
    rw [Bool.eq_false_iff]
    exact fun found => (Inventory.has_remove_iff.mp found).1 rfl

end RpmGoal

namespace Operation

/-- Whether an operation is about no package of a name. -/
def Spares (collaborators : Collaborators) (session : Session) (name : String) : Operation → Prop
  | .packages entries _ _ verbs =>
    ∀ entry ∈ entries, ∀ identity ∈
      (Package.ofEntry verbs.separator entry).identities collaborators.providers,
        identity.name ≠ name
  | .rpm goal =>
    ∀ fetched path info, goal.Resolves (session.rpmPath goal.source) collaborators.facts
      collaborators.files fetched path info → info.name ≠ name
  | .service .. | .repository _ => True

variable {collaborators : Collaborators} {session : Session} {name : String}

/-- Whether an operation is about a package depends on the session only by the paths for downloads. -/
theorem Spares.of_rpmPath_eq {operation : Operation} {other : Session}
    (spares : operation.Spares collaborators session name)
    (samePaths : ∀ source, other.rpmPath source = session.rpmPath source) :
    operation.Spares collaborators other name := by
  cases operation with
  | packages entries present latest verbs => exact spares
  | service service template goal => exact trivial
  | rpm goal =>
    simp only [Spares, samePaths] at spares ⊢
    exact spares
  | repository declared => exact trivial

/-- An operation that is about no package of a name keeps what is known of the package. -/
theorem has_attempt {operation : Operation}
    (spares : operation.Spares collaborators session name) (asked : Option String) :
    (operation.attempt collaborators session).2.packages.has name asked =
      session.packages.has name asked := by
  cases operation with
  | packages entries present latest verbs =>
    rw [attempt_packages]
    refine (packageGoal entries present latest verbs).has_inventoryAfter ?_ session.packages
    intro package declared
    obtain ⟨entry, written, rfl⟩ := List.mem_map.mp declared
    exact spares entry written
  | service service template goal => rfl
  | rpm goal =>
    cases planned : goal.reconcile (session.rpmPath goal.source) collaborators.facts
        collaborators.files session.packages with
    | error failure => rw [attempt_rpm_of_error planned]
    | ok result =>
      obtain ⟨outcome, after⟩ := result
      rw [attempt_rpm_of_ok planned]
      obtain ⟨fetched, path, info, fetching, asks, -, rfl⟩ :=
        (goal.reconcile_eq_ok_iff _ _ _).mp planned
      cases info with
      | none => rw [RpmGoal.inventory_settle_none]
      | some info =>
        have different := spares fetched path info ⟨fetching, asks⟩
        rw [RpmGoal.inventory_settle_some]
        split
        · rfl
        · split
          · exact Inventory.has_record_of_ne different (some info.version)
          · exact Inventory.has_remove_of_ne different
  | repository declared => rw [session_attempt_repository]

end Operation

section Runs

variable {collaborators : Collaborators} {operations : List Operation} {session : Session}

/-- Paths for downloads are the same after a run. -/
theorem rpmPath_planSteps (collaborators : Collaborators) (operations : List Operation)
    (session : Session) (source : String) :
    (planSteps collaborators operations session).2.rpmPath source = session.rpmPath source := by
  induction operations generalizing session with
  | nil => rfl
  | cons operation operations inductionHypothesis =>
    exact (inductionHypothesis _).trans (operation.rpmPath_attempt collaborators session source)

/-- Operations that are about no package of a name keep what is known of the package. -/
theorem has_planSteps {name : String}
    (spared : ∀ operation ∈ operations, operation.Spares collaborators session name)
    (asked : Option String) :
    (planSteps collaborators operations session).2.packages.has name asked =
      session.packages.has name asked := by
  induction operations generalizing session with
  | nil => rfl
  | cons operation operations inductionHypothesis =>
    obtain ⟨here, others⟩ := List.forall_mem_cons.mp spared
    have later := inductionHypothesis fun other member =>
      (others other member).of_rpmPath_eq (operation.rpmPath_attempt collaborators session)
    exact later.trans (Operation.has_attempt here asked)

end Runs

namespace RpmGoal

variable {collaborators : Collaborators} {session : Session} {goal : RpmGoal} {fetched : Outcome}
  {path : String} {info : RpmInfo}

/-- What is known of the package of a file after the file was planned and operations on other packages
followed. -/
theorem has_planSteps_cons
    (resolves : goal.Resolves (session.rpmPath goal.source) collaborators.facts
      collaborators.files fetched path info)
    {between : List Operation}
    (spared : ∀ operation ∈ between, operation.Spares collaborators session info.name)
    (asked : Option String) :
    (planSteps collaborators (.rpm goal :: between) session).2.packages.has info.name asked =
      (goal.settle path (some info) session.packages).2.has info.name asked := by
  have samePaths := (Operation.rpm goal).rpmPath_attempt collaborators session
  have after := has_planSteps (fun operation member =>
    (spared operation member).of_rpmPath_eq samePaths) asked
  have attempted := Operation.attempt_rpm_of_ok (resolves.reconcile session.packages)
  rw [attempted] at after
  simp only [planSteps, attempted]
  exact after

/-- A file that should be present is installed again where its package is gone. -/
theorem exists_reconcile_of_absent
    (resolves : goal.Resolves (session.rpmPath goal.source) collaborators.facts
      collaborators.files fetched path info)
    (wanted : goal.present = true) {final : Session}
    (samePaths : ∀ source, final.rpmPath source = session.rpmPath source)
    (absent : final.packages.has info.name (some info.version) = false) :
    ∃ again left, goal.reconcile (final.rpmPath goal.source) collaborators.facts
        collaborators.files final.packages = .ok (again, left) ∧
      again.commands = fetched.commands ++ [installCommand path] := by
  rw [samePaths]
  refine ⟨_, _, resolves.reconcile final.packages, ?_⟩
  rw [Outcome.commands_append, commands_settle_of_absent wanted absent]

/-- Package files and packages agree on what is installed.

Take a file that is known to hold a package which stands for itself, plan the file, then any operations
that are about no package of its name, and then a request for packages by this name. If the file should
be present, a request for presence (of the name, or of the version in the file) needs at most an
upgrade. A request for absence removes what it lists, and after it and any more such operations the
file is installed again. If the file should be absent and a removal was planned for it, a request for
presence installs what it lists, and a request for absence needs no command. -/
theorem agrees_with_packages
    (resolves : goal.Resolves (session.rpmPath goal.source) collaborators.facts
      collaborators.files fetched path info)
    (unexpanded : collaborators.providers info.name = [])
    {outcome : Outcome} {inventory : Inventory}
    (planned : goal.reconcile (session.rpmPath goal.source) collaborators.facts
      collaborators.files session.packages = .ok (outcome, inventory))
    {between : List Operation}
    (spared : ∀ operation ∈ between, operation.Spares collaborators session info.name)
    (verbs : PackageVerbs) (latest : Bool) (packages : List Package) :
    let after := (planSteps collaborators (.rpm goal :: between) session).2
    let presence := PackageGoal.mk packages true latest
    let absence := PackageGoal.mk packages false latest
    let install := presence.reconcile verbs collaborators.providers after.packages
    let removal := absence.reconcile verbs collaborators.providers after.packages
    let tokens := packages.map (Package.token verbs.separator)
    (goal.present = true → packages ⊆ info.packages →
      install.1.commands =
          (presence.upgradeCommand? verbs after.packages collaborators.providers).toList ∧
        (packages ≠ [] →
          removal.1.commands = [verbs.uninstall ++ " " ++ Shell.join tokens] ∧
          ∀ later : List Operation,
            (∀ operation ∈ later, operation.Spares collaborators session info.name) →
            let final :=
              (planSteps collaborators later { after with packages := removal.2 }).2
            ∃ again left, goal.reconcile (final.rpmPath goal.source) collaborators.facts
                collaborators.files final.packages = .ok (again, left) ∧
              again.commands = fetched.commands ++ [installCommand path])) ∧
    (goal.present = false →
      outcome.commands = fetched.commands ++ [removeCommand goal.remover info.name] →
      (∀ package ∈ packages, package.name = info.name) →
      (packages ≠ [] → install.1.commands = [verbs.install ++ " " ++ Shell.join tokens]) ∧
        removal.1.commands = []) := by
  intro after presence absence install removal tokens
  have known := fun asked => has_planSteps_cons resolves spared asked
  have samePaths := rpmPath_planSteps collaborators (.rpm goal :: between) session
  have result := planned.symm.trans (resolves.reconcile session.packages)
  obtain ⟨rfl, -⟩ := Prod.mk.inj (Except.ok.inj result)
  constructor
  · intro wanted requested
    have named : ∀ package ∈ packages, package.name = info.name :=
      fun _ declared => RpmInfo.name_of_mem_packages (requested declared)
    have standAlone : ∀ package ∈ packages, collaborators.providers package.name = [] := by
      intro package declared
      rw [named package declared, unexpanded]
    have installed : after.packages.has info.name (some info.version) = true := by
      rw [known, has_settle, wanted]
    obtain ⟨quiet, removes, gone⟩ := PackageGoal.requests_of_installed verbs latest standAlone
      fun _ declared => RpmInfo.has_of_mem_packages (requested declared) installed
    refine ⟨quiet, fun nonempty => ⟨removes nonempty, ?_⟩⟩
    intro later sparedLater final
    obtain ⟨package, declared⟩ := List.exists_mem_of_ne_nil packages nonempty
    have removed := gone package declared (some info.version)
    rw [named package declared] at removed
    -- The removal changes the inventory only, so later downloads have the same paths.
    have sparedAfter : ∀ operation ∈ later,
        operation.Spares collaborators { after with packages := removal.2 } info.name :=
      fun operation member => (sparedLater operation member).of_rpmPath_eq samePaths
    have kept := has_planSteps sparedAfter (some info.version)
    exact exists_reconcile_of_absent resolves wanted
      (fun source => (rpmPath_planSteps ..).trans (samePaths source)) (kept.trans removed)
  · intro unwanted removes named
    rw [Outcome.commands_append, List.append_cancel_left_eq] at removes
    refine PackageGoal.requests_of_absent verbs latest ?_ ?_
    · intro package declared
      rw [named package declared, unexpanded]
    · intro package declared
      rw [named package declared, known, has_settle_of_commands unwanted removes]

end RpmGoal

/-- A host with the files of two packages, on which nothing else is known. -/
def toolCollaborators : Collaborators where
  facts :=
    { Facts.none with
      rpmPackage := fun path =>
        if path = "/srv/top.rpm" then .ok (some ⟨"top", "3"⟩)
        else if path = "/srv/jq.rpm" then .ok (some ⟨"jq", "1"⟩)
        else .ok none }
  files := .shell .none
  providers := .none

/-- The session of that host at the start, with some packages. -/
def toolSession (packages : Inventory) : Session := .start "web1" packages .empty

/-- The file of one package, wanted or not. -/
def topFile (present : Bool) : RpmGoal := ⟨"/srv/top.rpm", present, "dnf"⟩

/-- The file of the other package. -/
def jqFile : RpmGoal := ⟨"/srv/jq.rpm", true, "dnf"⟩

/-- The file of the one package is where it should be, and is known to hold the package. -/
theorem resolves_topFile (present : Bool) (session : Session) :
    (topFile present).Resolves (session.rpmPath (topFile present).source) toolCollaborators.facts
      toolCollaborators.files .empty "/srv/top.rpm" ⟨"top", "3"⟩ where
  fetch := by
    have isPath : Url.isUrl "/srv/top.rpm" = false := by decide
    simp only [topFile, RpmGoal.fetch, isPath]
    rfl
  holds := rfl

/-- Work on the other package and on a repository. -/
def otherWork : List Operation :=
  [.rpm jqFile, .packages ["jq", "vim=9"] false false PackageManager.dnf.verbs,
    .repository (.ofIdentifier "epel")]

/-- The other work spares the package. -/
theorem spares_otherWork (session : Session) :
    ∀ operation ∈ otherWork, operation.Spares toolCollaborators session "top" := by
  simp only [otherWork, List.forall_mem_cons]
  refine ⟨?_, ?_, trivial, fun _ member => absurd member List.not_mem_nil⟩
  · intro fetched path info resolves
    have fetch : jqFile.fetch (session.rpmPath jqFile.source) toolCollaborators.files =
        .ok (.empty, jqFile.source) := rfl
    obtain ⟨-, rfl⟩ := Prod.mk.inj (Except.ok.inj (fetch.symm.trans resolves.fetch))
    have holds : toolCollaborators.facts.rpmPackage jqFile.source = .ok (some ⟨"jq", "1"⟩) := rfl
    cases holds.symm.trans resolves.holds
    decide
  · have names : ∀ entry ∈ ["jq", "vim=9"], ∀ identity ∈ (Package.ofEntry
        PackageManager.dnf.verbs.separator entry).identities Providers.none,
        identity.name ≠ "top" := by decide
    exact names

/-- The package is removed by its name and by its version after other work, and then installed again
from its file; where its file was removed instead, the package is installed by its name. -/
theorem agrees_with_packages_top :
    let withTop := toolSession (.ofList [("top", ["3"])])
    let reconcile (present : Bool) (packages : List Package) (session : Session) :=
      (PackageGoal.mk packages present false).reconcile PackageManager.dnf.verbs .none
        session.packages
    let installed := (planSteps toolCollaborators (.rpm (topFile true) :: otherWork)
      (toolSession .empty)).2
    let removal := reconcile false [⟨"top", some "3"⟩, ⟨"top", none⟩] installed
    let again := (planSteps toolCollaborators otherWork
      { installed with packages := removal.2 }).2
    let removed := (planSteps toolCollaborators (.rpm (topFile false) :: otherWork)
      withTop).2
    (reconcile true [⟨"top", some "3"⟩, ⟨"top", none⟩] installed).1.commands = [] ∧
      removal.1.commands = ["dnf remove -y top=3 top"] ∧
      (∃ outcome left, (topFile true).reconcile (again.rpmPath (topFile true).source)
          toolCollaborators.facts toolCollaborators.files again.packages = .ok (outcome, left) ∧
        outcome.commands = ["rpm -i /srv/top.rpm"]) ∧
      (reconcile true [⟨"top", none⟩] removed).1.commands = ["dnf install -y top"] ∧
      (reconcile false [⟨"top", none⟩] removed).1.commands = [] := by
  intro withTop reconcile installed removal again removed
  have present := resolves_topFile true (toolSession .empty)
  have unwanted := resolves_topFile false withTop
  have requested : [⟨"top", some "3"⟩, ⟨"top", none⟩] ⊆ (RpmInfo.mk "top" "3").packages := by
    decide
  obtain ⟨whereWanted, -⟩ := RpmGoal.agrees_with_packages present rfl
    (present.reconcile _) (spares_otherWork (toolSession .empty))
    PackageManager.dnf.verbs false [⟨"top", some "3"⟩, ⟨"top", none⟩]
  obtain ⟨quiet, removes⟩ := whereWanted rfl requested
  obtain ⟨removalCommands, installsAgain⟩ := removes (List.cons_ne_nil _ _)
  obtain ⟨-, whereUnwanted⟩ := RpmGoal.agrees_with_packages unwanted rfl
    (unwanted.reconcile _) (spares_otherWork withTop)
    PackageManager.dnf.verbs false [⟨"top", none⟩]
  obtain ⟨installs, nothing⟩ := whereUnwanted rfl (by decide) (by decide)
  refine ⟨quiet, ?_, ?_, ?_, nothing⟩
  · exact removalCommands.trans (by decide)
  · exact installsAgain otherWork (spares_otherWork _)
  · exact (installs (List.cons_ne_nil _ _)).trans (by decide)

end FleetPlan
