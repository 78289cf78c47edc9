import FleetPlan.Proofs.Host.FileCommands
import FleetPlan.Repository

/-!
# What is planned for the file of a repository

A repository that is planned with shell commands needs at most one
(`Repository.exists_plans_of_reconcile`), and `Repository.Plans` tells by which
facts it needs that one. With truthful facts its file is as it is asked for after
the command (`Repository.Plans.isMet_leaves`), or already so where there is none
(`Repository.Plans.isMet`).
-/

namespace FleetPlan

namespace Repository

variable (repository : Repository) (file : Target) (facts : Facts)

/-- Whether what is at the path of its file is what a repository asks for: nothing, some file, or a
file with exactly the contents that are written for it. -/
def IsMet (held : Option String) : Prop :=
  match repository.present, file.url with
  | false, _ => held = none
  | true, some _ => held.isSome = true
  | true, none => ∃ baseUrl, repository.baseUrl = some baseUrl ∧
      held = some (repository.contents file.name baseUrl)

/-- What is at the path of its file is not taken for the contents that are written for a repository
only because it has their digest. -/
def HasOwnDigest (files : FileSystem) : Prop :=
  ∀ baseUrl held, repository.baseUrl = some baseUrl → files file.path = some held →
    contentDigest held = contentDigest (repository.contents file.name baseUrl) →
      held = repository.contents file.name baseUrl

/-- Which command the facts call for, if any. -/
inductive Plans : Option FileCommand → Prop where
  | removal (unwanted : repository.present = false)
      (there : facts.fileExists file.path = .ok true) :
      Plans (some (.remove file.path))
  | alreadyAbsent (unwanted : repository.present = false)
      (missing : facts.fileExists file.path = .ok false) : Plans none
  | download {url : String} (wanted : repository.present = true) (byUrl : file.url = some url)
      (missing : facts.fileExists file.path = .ok false) :
      Plans (some (.fetch url file.path))
  | alreadyThere {url : String} (wanted : repository.present = true) (byUrl : file.url = some url)
      (there : facts.fileExists file.path = .ok true) : Plans none
  | writing {baseUrl : String} {digest : Option String} (wanted : repository.present = true)
      (byName : file.url = none) (located : repository.baseUrl = some baseUrl)
      (known : facts.fileDigest file.path = .ok digest)
      (differs : digest ≠ some (contentDigest (repository.contents file.name baseUrl))) :
      Plans (some (.write (repository.contents file.name baseUrl) file.path))
  | alreadyWritten {baseUrl : String} (wanted : repository.present = true)
      (byName : file.url = none) (located : repository.baseUrl = some baseUrl)
      (known : facts.fileDigest file.path =
        .ok (some (contentDigest (repository.contents file.name baseUrl)))) : Plans none

variable {repository file facts}

/-- A repository that should be absent asks for no file. -/
theorem isMet_iff_of_unwanted (unwanted : repository.present = false) {held : Option String} :
    repository.IsMet file held ↔ held = none := by
  rw [IsMet, unwanted]

/-- A repository that is declared by URL asks for some file. -/
theorem isMet_iff_of_url {url : String} (wanted : repository.present = true)
    (byUrl : file.url = some url) {held : Option String} :
    repository.IsMet file held ↔ held.isSome = true := by
  rw [IsMet, wanted, byUrl]

/-- A repository that is declared by name asks for its contents. -/
theorem isMet_iff_of_name {baseUrl : String} (wanted : repository.present = true)
    (byName : file.url = none) (located : repository.baseUrl = some baseUrl)
    {held : Option String} :
    repository.IsMet file held ↔ held = some (repository.contents file.name baseUrl) := by
  rw [IsMet, wanted, byName, located]
  constructor
  · rintro ⟨same, based, asked⟩
    cases based
    exact asked
  · exact fun asked => ⟨baseUrl, rfl, asked⟩

/-- A repository that can be planned has a file, and plans what the facts call for. -/
theorem exists_plans_of_reconcile {outcome : Outcome}
    (planned : repository.reconcile facts (.shell facts) = .ok outcome) :
    ∃ file command?, target repository.identifier repository.directory = .ok file ∧
      repository.Plans file facts command? ∧
      outcome.commands = (command?.map FileCommand.line).toList := by
  obtain ⟨file, located, planned⟩ := exists_of_bind_eq_ok planned
  cases wanted : repository.present with
  | false =>
    rw [wanted] at planned
    obtain ⟨there, known, planned⟩ := exists_of_bind_eq_ok planned
    cases there with
    | false =>
      cases planned
      exact ⟨file, none, located, .alreadyAbsent wanted known, rfl⟩
    | true =>
      cases planned
      exact ⟨file, some (.remove file.path), located, .removal wanted known, rfl⟩
  | true =>
    rw [wanted] at planned
    cases byUrl : file.url with
    | some url =>
      rw [byUrl] at planned
      obtain ⟨there, known, planned⟩ := exists_of_bind_eq_ok planned
      cases there with
      | false =>
        cases planned
        exact ⟨file, some (.fetch url file.path), located, .download wanted byUrl known, rfl⟩
      | true =>
        cases planned
        exact ⟨file, none, located, .alreadyThere wanted byUrl known, rfl⟩
    | none =>
      rw [byUrl] at planned
      cases based : repository.baseUrl with
      | none =>
        rw [based] at planned
        cases planned
      | some baseUrl =>
        rw [based] at planned
        obtain ⟨digest, known, planned⟩ := exists_of_bind_eq_ok planned
        by_cases same : digest = some (contentDigest (repository.contents file.name baseUrl))
        · rw [if_pos same] at planned
          cases planned
          exact ⟨file, none, located, .alreadyWritten wanted byUrl based (same ▸ known), rfl⟩
        · rw [if_neg same] at planned
          cases planned
          exact ⟨file, some (.write _ file.path), located,
            .writing wanted byUrl based known same, rfl⟩

/-- The command of a repository is about its file. -/
theorem Plans.path {command : FileCommand} (plans : repository.Plans file facts (some command)) :
    command.path = file.path := by
  cases plans <;> rfl

/-- After the command of a repository its file is as it is asked for. -/
theorem Plans.isMet_leaves {command : FileCommand}
    (plans : repository.Plans file facts (some command)) (remote : String → String) :
    repository.IsMet file (command.leaves remote) := by
  cases plans with
  | removal unwanted => exact (isMet_iff_of_unwanted unwanted).mpr rfl
  | download wanted byUrl => exact (isMet_iff_of_url wanted byUrl).mpr rfl
  | writing wanted byName located => exact (isMet_iff_of_name wanted byName located).mpr rfl

variable {files : FileSystem}

/-- A repository that needs no command has its file as it is asked for. -/
theorem Plans.isMet (plans : repository.Plans file facts none)
    (truthful : facts.AreTruthful files) (ownDigest : repository.HasOwnDigest file files) :
    repository.IsMet file (files file.path) := by
  cases plans with
  | alreadyAbsent unwanted missing =>
    exact (isMet_iff_of_unwanted unwanted).mpr (by simpa using truthful.isSome missing)
  | alreadyThere wanted byUrl there =>
    exact (isMet_iff_of_url wanted byUrl).mpr (truthful.isSome there)
  | alreadyWritten wanted byName located known =>
    obtain ⟨contents, held, sameDigest⟩ := truthful.exists_contents known
    rw [isMet_iff_of_name wanted byName located, held, ownDigest _ contents located held sameDigest]

/-- Where a repository needs no command by the facts, but another one plans a command on the same
file, that command leaves what the first one asks for only if both want a file and the first one does
not care for its contents. -/
theorem Plans.isMet_leaves_iff {change : Repository} {other : Target} {command : FileCommand}
    (idle : repository.Plans file facts none) (acts : change.Plans other facts (some command))
    (samePath : other.path = file.path) (truthful : facts.AreTruthful files)
    (remote : String → String) :
    repository.IsMet file (command.leaves remote) ↔
      change.present = true ∧ repository.present = true ∧ file.url.isSome = true := by
  cases idle with
  | alreadyAbsent unwanted missing =>
    rw [isMet_iff_of_unwanted unwanted, unwanted]
    cases acts with
    | removal _ there =>
      rw [samePath, missing] at there
      cases there
    | download => simp [FileCommand.leaves]
    | writing => simp [FileCommand.leaves]
  | alreadyThere wanted byUrl there =>
    rw [isMet_iff_of_url wanted byUrl, wanted, byUrl]
    cases acts with
    | removal unwanted => simp [FileCommand.leaves, unwanted]
    | download _ _ missing =>
      rw [samePath, there] at missing
      cases missing
    | writing wantedToo => simp [FileCommand.leaves, wantedToo]
  | alreadyWritten wanted byName located known =>
    rw [isMet_iff_of_name wanted byName located, byName]
    cases acts with
    | removal => simp [FileCommand.leaves]
    | download _ _ missing =>
      -- A file whose digest is known exists, and is not downloaded.
      obtain ⟨contents, held, -⟩ := truthful.exists_contents known
      have none := truthful.isSome missing
      rw [samePath, held] at none
      cases none
    | writing _ _ _ knownToo differs =>
      -- Both digests are compared with the same recorded one, so the contents are not the same.
      rw [samePath, known] at knownToo
      cases knownToo
      have others : change.contents other.name _ ≠ repository.contents file.name _ :=
        fun same => differs (by rw [same])
      simpa [FileCommand.leaves] using others

end Repository

end FleetPlan
