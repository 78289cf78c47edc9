import FleetPlan.Proofs.Repository.Planned
import FleetPlan.Report

/-!
# The last request for a file

All repositories of a plan look at the same facts, which are those from before the
run, while the commands of one change the files that another is about. The last
repository for a path has its file as it is asked for, unless it was planned
without a command by facts that an earlier repository of the plan makes untrue
(`Repository.isMet_run_iff`).
-/

namespace FleetPlan

namespace Repository

variable (repository : Repository) (facts : Facts)

/-- The command that is planned for a repository, if there is one. -/
def command? : Option FileCommand :=
  match repository.reconcile facts (.shell facts) with
  | .ok outcome => outcome.commands.head?.bind FileCommand.ofLine?
  | .error _ => none

/-- Whether a command is planned for a repository that changes what is at a path. -/
def Changes (path : String) : Prop :=
  ∃ command, repository.command? facts = some command ∧ command.path = path

/-- Whether a repository can be planned, and is about a path. -/
def IsAbout (path : String) : Prop :=
  ∃ file outcome, target repository.identifier repository.directory = .ok file ∧
    repository.reconcile facts (.shell facts) = .ok outcome ∧ file.path = path

/-- Whether a repository is planned without a command although the last one before it that changes what
is at its path leaves something else there: one of the two wants a file and the other none, or the
repository wants its own contents. -/
def IsOverlooked (file : Target) (before : List Repository) : Prop :=
  repository.command? facts = none ∧
    ∃ front change back, before = front ++ change :: back ∧
      change.Changes facts file.path ∧ (∀ later ∈ back, ¬ later.Changes facts file.path) ∧
      ¬ (change.present = true ∧ repository.present = true ∧ file.url.isSome = true)

variable {repository facts}

/-- A repository that is planned has its command, and nothing else is run for it. -/
theorem plans_command? {outcome : Outcome}
    (planned : repository.reconcile facts (.shell facts) = .ok outcome) :
    ∃ file, target repository.identifier repository.directory = .ok file ∧
      repository.Plans file facts (repository.command? facts) ∧
      outcome.commands = ((repository.command? facts).map FileCommand.line).toList := by
  obtain ⟨file, command, located, plans, commands⟩ := exists_plans_of_reconcile planned
  have same : repository.command? facts = command := by
    unfold command?
    rw [planned]
    cases command with
    | none => simp [commands]
    | some command => simp [commands, FileCommand.ofLine?_line]
  rw [same]
  exact ⟨file, located, plans, commands⟩

/-- A repository for which a command is planned has this command. -/
theorem command?_of_command {command : FileCommand}
    (planned : repository.reconcile facts (.shell facts) = .ok (.ofCommand command.line)) :
    repository.command? facts = some command := by
  rw [command?, planned]
  exact command.ofLine?_line

/-- A repository for which something is observed has no command. -/
theorem command?_of_observation {observation : Observation}
    (planned : repository.reconcile facts (.shell facts) = .ok (.ofObservation observation)) :
    repository.command? facts = none := by
  rw [command?, planned]
  rfl

/-- A repository with a command can be planned, and plans this command for its file. -/
theorem exists_plans_of_command? {command : FileCommand}
    (acts : repository.command? facts = some command) :
    ∃ file outcome, target repository.identifier repository.directory = .ok file ∧
      repository.reconcile facts (.shell facts) = .ok outcome ∧
      repository.Plans file facts (some command) := by
  cases planned : repository.reconcile facts (.shell facts) with
  | error failure => simp [command?, planned] at acts
  | ok outcome =>
    obtain ⟨file, located, plans, -⟩ := plans_command? planned
    exact ⟨file, outcome, located, rfl, acts ▸ plans⟩

/-- What a repository changes it is about. -/
theorem Changes.isAbout {path : String} (changes : repository.Changes facts path) :
    repository.IsAbout facts path := by
  obtain ⟨command, acts, here⟩ := changes
  obtain ⟨file, outcome, located, planned, plans⟩ := exists_plans_of_command? acts
  exact ⟨file, outcome, located, planned, plans.path.symm.trans here⟩

/-- The step of a repository has its command. -/
theorem commands_report (repository : Repository) (facts : Facts) :
    ((Operation.repository repository).report
        (repository.reconcile facts (.shell facts))).outcome.commands =
      ((repository.command? facts).map FileCommand.line).toList := by
  cases planned : repository.reconcile facts (.shell facts) with
  | error failure =>
    unfold command?
    rw [planned]
    rfl
  | ok outcome =>
    obtain ⟨_, _, _, commands⟩ := plans_command? planned
    exact commands

end Repository

/-- The commands of a plan of repositories are those of the repositories, in their order. -/
theorem commands_runOn_repositories (repositories : List Repository) (facts : Facts)
    (providers : Providers) (session : Session) :
    ((Plan.mk (repositories.map .repository)).runOn
        ⟨session, ⟨facts, .shell facts, providers⟩⟩).1.commands =
      (repositories.filterMap (·.command? facts)).map FileCommand.line := by
  change (planSteps ⟨facts, .shell facts, providers⟩ (repositories.map .repository)
    session).1.flatMap (fun step => step.outcome.commands) = _
  induction repositories with
  | nil => rfl
  | cons repository repositories inductionHypothesis =>
    rw [List.map_cons, planSteps, Operation.attempt_repository, List.flatMap_cons,
      Repository.commands_report, inductionHypothesis]
    cases command : repository.command? facts <;> simp [command]

namespace Repository

variable {facts : Facts} {files : FileSystem} (remote : String → String)

/-- Repositories that change nothing at a path leave it as it is. -/
theorem afterAll_of_spared {repositories : List Repository} {path : String}
    (spared : ∀ repository ∈ repositories, ¬ repository.Changes facts path) (files : FileSystem) :
    files.afterAll remote (repositories.filterMap (·.command? facts)) path = files path := by
  apply FileSystem.afterAll_of_spared
  intro command member here
  obtain ⟨repository, declared, acts⟩ := List.mem_filterMap.mp member
  exact spared repository declared ⟨command, acts, here⟩

/-- What is at a path after repositories is what the command of the last one that changes it leaves
there. -/
theorem afterAll_of_last (files : FileSystem) (front : List Repository) {change : Repository}
    {command : FileCommand} (acts : change.command? facts = some command) {back : List Repository}
    (spared : ∀ later ∈ back, ¬ later.Changes facts command.path) :
    files.afterAll remote ((front ++ change :: back).filterMap (·.command? facts)) command.path =
      command.leaves remote := by
  simp only [List.filterMap_append, List.filterMap_cons, acts]
  apply FileSystem.afterAll_of_last
  intro other member here
  obtain ⟨repository, declared, actsToo⟩ := List.mem_filterMap.mp member
  exact spared repository declared ⟨other, actsToo, here⟩

/-- There is a last repository that changes what is at a path, or there is none. -/
theorem exists_last_change (facts : Facts) (path : String) (repositories : List Repository) :
    (∀ repository ∈ repositories, ¬ repository.Changes facts path) ∨
      ∃ front change back, repositories = front ++ change :: back ∧ change.Changes facts path ∧
        ∀ later ∈ back, ¬ later.Changes facts path := by
  induction repositories with
  | nil => exact .inl fun _ member => absurd member List.not_mem_nil
  | cons repository repositories inductionHypothesis =>
    rcases inductionHypothesis with spared | ⟨front, change, back, rfl, changes, spared⟩
    · by_cases here : repository.Changes facts path
      · exact .inr ⟨[], repository, repositories, rfl, here, spared⟩
      · exact .inl (List.forall_mem_cons.mpr ⟨here, spared⟩)
    · exact .inr ⟨repository :: front, change, back, rfl, changes, spared⟩

/-- Where the last repository for a path has no command, the last one before it that changes what is
at the path decides whether its file is as it is asked for. -/
theorem isMet_afterAll_iff_of_change (truthful : facts.AreTruthful files)
    {repository : Repository} {file : Target} (plans : repository.Plans file facts none)
    {before front back : List Repository} {change : Repository}
    (parts : before = front ++ change :: back) (changes : change.Changes facts file.path)
    (spared : ∀ later ∈ back, ¬ later.Changes facts file.path) :
    repository.IsMet file (files.afterAll remote (before.filterMap (·.command? facts)) file.path) ↔
      change.present = true ∧ repository.present = true ∧ file.url.isSome = true := by
  obtain ⟨command, acts, here⟩ := changes
  obtain ⟨other, -, -, -, plansToo⟩ := exists_plans_of_command? acts
  have samePath : other.path = file.path := plansToo.path.symm.trans here
  rw [← here] at spared ⊢
  rw [parts, afterAll_of_last remote files front acts spared]
  exact plans.isMet_leaves_iff plansToo samePath truthful remote

/-- Where the last repository for a path has no command, its file is as it is asked for unless the
repository is overlooked. -/
theorem isMet_afterAll_iff_of_idle (truthful : facts.AreTruthful files) {repository : Repository}
    {file : Target} (plans : repository.Plans file facts none)
    (idle : repository.command? facts = none) (ownDigest : repository.HasOwnDigest file files)
    (before : List Repository) :
    repository.IsMet file (files.afterAll remote (before.filterMap (·.command? facts)) file.path) ↔
      ¬ repository.IsOverlooked facts file before := by
  constructor
  · rintro met ⟨-, front, change, back, parts, changes, spared, differ⟩
    exact differ ((isMet_afterAll_iff_of_change remote truthful plans parts changes spared).mp met)
  · intro seen
    rcases exists_last_change facts file.path before with
      spared | ⟨front, change, back, parts, changes, spared⟩
    · rw [afterAll_of_spared remote spared]
      exact plans.isMet truthful ownDigest
    · rw [isMet_afterAll_iff_of_change remote truthful plans parts changes spared]
      by_contra differ
      exact seen ⟨idle, front, change, back, parts, changes, spared, differ⟩

/-- All commands of a plan of repositories can be run, on whatever files the facts are truthful about,
and leave the file of the last repository about a path as it is asked for, exactly unless that
repository is overlooked. -/
theorem isMet_run_iff (truthful : facts.AreTruthful files) (before : List Repository)
    {last : Repository} {file : Target} {outcome : Outcome}
    (located : target last.identifier last.directory = .ok file)
    (planned : last.reconcile facts (.shell facts) = .ok outcome)
    (ownDigest : last.HasOwnDigest file files) {after : List Repository}
    (isLast : ∀ later ∈ after, ¬ later.IsAbout facts file.path) (providers : Providers)
    (session : Session) :
    ∃ final,
      files.run? remote ((Plan.mk ((before ++ last :: after).map .repository)).runOn
        ⟨session, ⟨facts, .shell facts, providers⟩⟩).1.commands = some final ∧
      (last.IsMet file (final file.path) ↔ ¬ last.IsOverlooked facts file before) := by
  rw [commands_runOn_repositories, FileSystem.run?_map_line]
  refine ⟨_, rfl, ?_⟩
  have sparedAfter : ∀ later ∈ after, ¬ later.Changes facts file.path :=
    fun later declared changes => isLast later declared changes.isAbout
  obtain ⟨file', located', plans, -⟩ := plans_command? planned
  obtain rfl : file = file' := Except.ok.inj (located.symm.trans located')
  cases command : last.command? facts with
  | none =>
    -- Nothing is run for the file from here on, so it is as the repositories before leave it.
    rw [command] at plans
    have spared : ∀ later ∈ last :: after, ¬ later.Changes facts file.path := by
      refine List.forall_mem_cons.mpr ⟨?_, sparedAfter⟩
      rintro ⟨_, acts, -⟩
      rw [command] at acts
      cases acts
    rw [List.filterMap_append, FileSystem.afterAll_append, afterAll_of_spared remote spared]
    exact isMet_afterAll_iff_of_idle remote truthful plans command ownDigest before
  | some act =>
    -- This command is the last one about the file, whatever was run before.
    rw [command] at plans
    have atPath := afterAll_of_last remote files before command (plans.path ▸ sparedAfter)
    rw [plans.path] at atPath
    rw [atPath]
    refine iff_of_true (plans.isMet_leaves remote) ?_
    rintro ⟨idle, -⟩
    rw [command] at idle
    cases idle

end Repository

/-- A repository that is to be added. -/
def addedEpel : Repository :=
  { Repository.ofIdentifier "epel" with baseUrl := some "https://mirror/epel" }

/-- The same repository, to be removed. -/
def removedEpel : Repository := { Repository.ofIdentifier "epel" with present := false }

/-- The file of that repository. -/
def epelFile : Repository.Target := ⟨"epel", none, "/etc/yum.repos.d/epel.repo"⟩

/-- A host without files. -/
def noFiles : FileSystem := fun _ => none

/-- That nothing is known of files is truthful where there are none. -/
theorem areTruthful_noFiles : Facts.none.AreTruthful noFiles := ⟨fun _ => rfl, fun _ => .inl rfl⟩

/-- The command that writes the repository. -/
def writeEpel : FileCommand :=
  .write (addedEpel.contents "epel" "https://mirror/epel") epelFile.path

/-- The repository is written where nothing is known of files. -/
theorem reconcile_addedEpel :
    addedEpel.reconcile .none (.shell .none) = .ok (.ofCommand writeEpel.line) := by
  have putting : addedEpel.reconcile .none (.shell .none) =
    (FileWork.shell .none).put (addedEpel.contents "epel" "https://mirror/epel") epelFile.path := rfl
  have written : ∀ contents path, (FileWork.shell .none).put contents path =
      .ok (.ofCommand (FileCommand.write contents path).line) := fun _ _ => rfl
  exact putting.trans (written _ _)

/-- The repository is taken to be absent where nothing is known of files. -/
theorem reconcile_removedEpel :
    removedEpel.reconcile .none (.shell .none) =
      .ok (.ofObservation (.fileAbsent epelFile.path)) := rfl

/-- A repository that is added and then removed on a host without files stays there: its removal is
planned by facts from before, when there was no file. -/
theorem not_isMet_addedThenRemoved :
    Facts.none.AreTruthful noFiles ∧
      Repository.target removedEpel.identifier removedEpel.directory = .ok epelFile ∧
      removedEpel.reconcile .none (.shell .none) =
        .ok (.ofObservation (.fileAbsent epelFile.path)) ∧
      ∃ final,
        noFiles.run? id ((Plan.mk ([addedEpel, removedEpel].map .repository)).runOn
          ⟨.start "web1" .empty .empty, ⟨.none, .shell .none, .none⟩⟩).1.commands = some final ∧
        final epelFile.path = some (addedEpel.contents "epel" "https://mirror/epel") ∧
        ¬ removedEpel.IsMet epelFile (final epelFile.path) := by
  have writes := Repository.command?_of_command reconcile_addedEpel
  have idle := Repository.command?_of_observation reconcile_removedEpel
  have stays : noFiles.afterAll id [writeEpel] epelFile.path =
      some (addedEpel.contents "epel" "https://mirror/epel") :=
    FileSystem.afterAll_of_last id noFiles [] writeEpel fun _ member =>
      absurd member List.not_mem_nil
  refine ⟨areTruthful_noFiles, rfl, reconcile_removedEpel, ?_⟩
  rw [commands_runOn_repositories, FileSystem.run?_map_line]
  simp only [List.filterMap_cons, writes, idle, List.filterMap_nil]
  refine ⟨_, rfl, stays, ?_⟩
  rw [stays, Repository.isMet_iff_of_unwanted rfl]
  exact Option.some_ne_none _

/-- A repository that is removed and then added on a host without files is written. -/
theorem isMet_run_iff_removedThenAdded :
    Facts.none.AreTruthful noFiles ∧
      ∃ final,
        noFiles.run? id ((Plan.mk ([removedEpel, addedEpel].map .repository)).runOn
          ⟨.start "web1" .empty .empty, ⟨.none, .shell .none, .none⟩⟩).1.commands = some final ∧
        (addedEpel.IsMet epelFile (final epelFile.path) ↔
          ¬ addedEpel.IsOverlooked .none epelFile [removedEpel]) ∧
        final epelFile.path = some (addedEpel.contents "epel" "https://mirror/epel") := by
  have located : Repository.target addedEpel.identifier addedEpel.directory = .ok epelFile := rfl
  have ownDigest : addedEpel.HasOwnDigest epelFile noFiles :=
    fun _ _ _ held => absurd held.symm (Option.some_ne_none _)
  obtain ⟨final, run, met⟩ := Repository.isMet_run_iff id areTruthful_noFiles [removedEpel] located
    reconcile_addedEpel ownDigest (fun later member => absurd member List.not_mem_nil) .none
    (.start "web1" .empty .empty)
  have seen : ¬ addedEpel.IsOverlooked .none epelFile [removedEpel] := by
    rintro ⟨idle, -⟩
    rw [Repository.command?_of_command reconcile_addedEpel] at idle
    cases idle
  have based : addedEpel.baseUrl = some "https://mirror/epel" := rfl
  have written := (Repository.isMet_iff_of_name rfl rfl based).mp (met.mpr seen)
  exact ⟨areTruthful_noFiles, final, run, met, written⟩

end FleetPlan
