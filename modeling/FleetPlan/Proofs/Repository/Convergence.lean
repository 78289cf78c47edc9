import FleetPlan.Proofs.Repository.Planned

/-!
# One application of a repository

A single repository is carried out by the commands that are planned for it: its
file is then as it is asked for and nothing else on the host has changed. If the
host is looked at again, nothing is left to do (`Repository.reconcile_converges`).
The facts may leave out what a file holds; after the run they have to tell it
(`Facts.AreComplete`), since a file with unknown contents is written again.
-/

namespace FleetPlan

/-- Truthful facts that also tell the contents of every file by their digest. -/
structure Facts.AreComplete (facts : Facts) (files : FileSystem) : Prop extends
    facts.AreTruthful files where
  digestKnown : ∀ path contents, files path = some contents →
    facts.fileDigest path = .ok (some (contentDigest contents))

/-- The facts that are gathered by looking at every file of a host. -/
def Facts.gathered (files : FileSystem) : Facts where
  fileExists path := .ok (files path).isSome
  fileDigest path := .ok ((files path).map contentDigest)
  rpmPackage _ := .ok .none

/-- Facts that were gathered from all files are complete. -/
theorem Facts.areComplete_gathered (files : FileSystem) :
    (Facts.gathered files).AreComplete files where
  fileExists _ := rfl
  fileDigest path := by
    cases held : files path with
    | none =>
      left
      simp [gathered, held]
    | some contents =>
      right
      exact ⟨contents, rfl, by simp [gathered, held]⟩
  digestKnown path contents held := by simp [gathered, held]

/-- A record tells what the files of a host are: it lists those that exist, and the digests in it are
those of their contents. -/
structure HostRecord.Describes (record : HostRecord) (files : FileSystem) : Prop where
  lists : ∀ path,
    (record.files.contains path || record.fileDigests.contains path) = (files path).isSome
  digests : ∀ path digest, record.fileDigests.get? path = some digest →
    ∃ contents, files path = some contents ∧ contentDigest contents = digest

/-- The facts of a record are truthful exactly if the record tells what the files are. -/
theorem Facts.areTruthful_ofRecord_iff {record : HostRecord} {files : FileSystem} :
    (Facts.ofRecord record).AreTruthful files ↔ record.Describes files := by
  constructor
  · intro truthful
    refine ⟨fun path => Except.ok.inj (truthful.fileExists path), ?_⟩
    intro path digest recorded
    have known : (Facts.ofRecord record).fileDigest path = .ok (some digest) :=
      congrArg Except.ok recorded
    exact truthful.exists_contents known
  · intro describes
    refine ⟨fun path => congrArg Except.ok (describes.lists path), ?_⟩
    intro path
    cases recorded : record.fileDigests.get? path with
    | none =>
      left
      exact congrArg Except.ok recorded
    | some digest =>
      right
      obtain ⟨contents, held, same⟩ := describes.digests path digest recorded
      exact ⟨contents, held, congrArg Except.ok (recorded.trans (congrArg some same.symm))⟩

namespace Repository

variable {repository : Repository} {file : Target} {facts : Facts} {files : FileSystem}

/-- What is planned once the file of a repository is found to be as it is asked for. -/
theorem reconcile_of_isMet (located : target repository.identifier repository.directory = .ok file)
    (complete : facts.AreComplete files) (met : repository.IsMet file (files file.path)) :
    ∃ observation,
      repository.reconcile facts (.shell facts) = .ok (.ofObservation observation) := by
  have told := complete.fileExists file.path
  cases wanted : repository.present with
  | false =>
    have absent := (isMet_iff_of_unwanted wanted).mp met
    rw [absent] at told
    refine ⟨.fileAbsent file.path, ?_⟩
    simp [reconcile, located, wanted, FileWork.shell, told, bind, Except.bind, pure, Except.pure]
  | true =>
    cases byUrl : file.url with
    | some url =>
      have there := (isMet_iff_of_url wanted byUrl).mp met
      rw [there] at told
      refine ⟨.fileExists file.path, ?_⟩
      simp [reconcile, located, wanted, byUrl, told, bind, Except.bind, pure, Except.pure]
    | none =>
      cases based : repository.baseUrl with
      | none => simp [IsMet, wanted, byUrl, based] at met
      | some baseUrl =>
        have held := (isMet_iff_of_name wanted byUrl based).mp met
        have known := complete.digestKnown file.path _ held
        refine ⟨.fileUpToDate file.path, ?_⟩
        simp [reconcile, located, wanted, byUrl, based, FileWork.shell, known, bind, Except.bind,
          pure, Except.pure]

/-- At most one command is run for a repository, and it changes nothing but its file. -/
theorem Plans.afterAll_of_ne {command : Option FileCommand}
    (plans : repository.Plans file facts command) (remote : String → String) {path : String}
    (other : path ≠ file.path) : files.afterAll remote command.toList path = files path := by
  apply FileSystem.afterAll_of_spared
  intro act member
  have planned : command = some act := Option.mem_toList.mp member
  rw [planned] at plans
  rw [plans.path]
  exact other.symm

/-- The file of a repository is as it is asked for once its commands were run. -/
theorem Plans.isMet_afterAll {command : Option FileCommand}
    (plans : repository.Plans file facts command) (truthful : facts.AreTruthful files)
    (ownDigest : repository.HasOwnDigest file files) (remote : String → String) :
    repository.IsMet file (files.afterAll remote command.toList file.path) := by
  cases command with
  | none => exact plans.isMet truthful ownDigest
  | some act =>
    have written : files.afterAll remote [act] act.path = act.leaves remote :=
      FileSystem.afterAll_of_last remote files [] act
        fun _ member => absurd member List.not_mem_nil
    rw [plans.path] at written
    rw [Option.toList_some, written]
    exact plans.isMet_leaves remote

/-- A repository that can be planned is carried out by one run of its commands.

A shell can run them on whatever files the facts are truthful about. The file of the repository is
then absent, there, or holds exactly its contents, as it is asked for, and every other path is as it
was. Where there is no command this was so from the start. With facts that are gathered afresh and
tell the contents of all files, the repository can be planned again, and needs no command. -/
theorem reconcile_converges (truthful : facts.AreTruthful files)
    (ownDigest : ∀ file, target repository.identifier repository.directory = .ok file →
      repository.HasOwnDigest file files)
    {outcome : Outcome} (planned : repository.reconcile facts (.shell facts) = .ok outcome)
    (remote : String → String) :
    ∃ file final, target repository.identifier repository.directory = .ok file ∧
      files.run? remote outcome.commands = some final ∧
      repository.IsMet file (final file.path) ∧
      (∀ path, path ≠ file.path → final path = files path) ∧
      (outcome.commands = [] → repository.IsMet file (files file.path)) ∧
      ∀ fresh : Facts, fresh.AreComplete final →
        ∃ again, repository.reconcile fresh (.shell fresh) = .ok again ∧ again.commands = [] := by
  obtain ⟨file, command, located, plans, commands⟩ := exists_plans_of_reconcile planned
  have own := ownDigest file located
  have met := plans.isMet_afterAll truthful own remote
  have lines : outcome.commands = command.toList.map FileCommand.line := by
    rw [commands]
    cases command <;> rfl
  refine ⟨file, files.afterAll remote command.toList, located, ?_, met, ?_, ?_, ?_⟩
  · rw [lines, FileSystem.run?_map_line]
  · intro path other
    exact plans.afterAll_of_ne remote other
  · intro quiet
    rw [lines, List.map_eq_nil_iff] at quiet
    rw [quiet] at met
    exact met
  · intro fresh complete
    obtain ⟨observation, again⟩ := reconcile_of_isMet located complete met
    exact ⟨_, again, rfl⟩

end Repository

/-- A repository with a quote in its name and a description of two lines, in a directory with a blank
in its name. -/
def quotedRepository : Repository :=
  { Repository.ofIdentifier "it's" with
    baseUrl := some "https://mirror/its"
    description := some "one\ntwo"
    directory := "/srv/my repos//" }

/-- The file of that repository. -/
def quotedFile : Repository.Target := ⟨"it's", none, "/srv/my repos/it's.repo"⟩

/-- The files of a host that has another file only. -/
def motdFiles : FileSystem := fun path => if path = "/etc/motd" then some "hello\n" else none

/-- The record of that host, which does not tell what the file holds. -/
def motdRecord : HostRecord := { HostRecord.empty with files := .ofList ["/etc/motd"] }

/-- The record tells what the files of the host are. -/
theorem describes_motdRecord : motdRecord.Describes motdFiles where
  lists path := by
    have listed : motdRecord.files.contains path = decide (path = "/etc/motd") := by
      simp [motdRecord, SortedSet.contains]
    have noDigest : motdRecord.fileDigests.contains path = false := rfl
    rw [listed, noDigest, Bool.or_false, motdFiles]
    by_cases here : path = "/etc/motd" <;> simp [here]
  digests path digest recorded := by cases recorded

/-- The repository is written with its quote and both lines, the other file stays as it is, and
nothing is left to do. -/
theorem reconcile_converges_quoted :
    motdRecord.Describes motdFiles ∧
      ∃ final, motdFiles.run? id [FileWork.putCommand
          (quotedRepository.contents "it's" "https://mirror/its") quotedFile.path] = some final ∧
        final quotedFile.path =
          some "[it's]\nname=one\ntwo\nbaseurl=https://mirror/its\nenabled=1\ngpgcheck=1\n" ∧
        final "/etc/motd" = some "hello\n" ∧
        ∃ again, quotedRepository.reconcile (.gathered final) (.shell (.gathered final)) =
          .ok again ∧ again.commands = [] := by
  have truthful := Facts.areTruthful_ofRecord_iff.mpr describes_motdRecord
  have located : Repository.target quotedRepository.identifier quotedRepository.directory =
      .ok quotedFile := rfl
  have ownDigest : ∀ file, Repository.target quotedRepository.identifier
      quotedRepository.directory = .ok file → quotedRepository.HasOwnDigest file motdFiles := by
    intro file there baseUrl contents based held
    rw [located] at there
    cases there
    cases held
  have planned : quotedRepository.reconcile (.ofRecord motdRecord)
      (.shell (.ofRecord motdRecord)) = .ok (.ofCommand (FileWork.putCommand
        (quotedRepository.contents "it's" "https://mirror/its") quotedFile.path)) := rfl
  obtain ⟨file, final, there, run, met, kept, -, quiet⟩ :=
    Repository.reconcile_converges truthful ownDigest planned id
  rw [located] at there
  cases there
  have written := (Repository.isMet_iff_of_name rfl rfl rfl).mp met
  have other := kept "/etc/motd" (by decide)
  refine ⟨describes_motdRecord, final, run, ?_, other, ?_⟩
  · rw [written]
    decide
  · exact quiet (.gathered final) (Facts.areComplete_gathered final)

end FleetPlan
