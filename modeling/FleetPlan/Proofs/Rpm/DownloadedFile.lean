import FleetPlan.Proofs.Rpm.Settled
import FleetPlan.Proofs.Shell.Lines
import FleetPlan.Session

/-!
# Package files that are downloaded

A package file at a URL is downloaded into the directory of the session, under a name
that comes from its address. The download quotes the path and the installation does
not. So a shell finds the file where it was downloaded if the directory has only
characters that stay in a word, and no other path of the host fits the path as a
pattern; a directory with any other character, unless the host comes into it, is
divided or shortened (`RpmGoal.reads_download_iff`).
-/

namespace FleetPlan

open Shell

/-- The digits of a byte stand for themselves. -/
theorem Blake3.all_isSafe_byteDigits (byte : UInt8) :
    (byteDigits byte).all isSafe = true := by
  have digits : ∀ digit < 16, isSafe (Nat.digitChar digit) = true := by decide
  have small := byte.toNat_lt
  simp [byteDigits, digits (byte.toNat / 16) (by omega), digits (byte.toNat % 16) (by omega)]

/-- The characters of a digest stand for themselves. -/
theorem all_isSafe_contentDigest (contents : String) :
    (contentDigest contents).toList.all isSafe = true := by
  simp [contentDigest, Blake3.hex, Blake3.wordDigits, List.all_flatMap,
    Blake3.all_isSafe_byteDigits, -List.all_eq_true]

namespace Session

/-- What is trimmed of a directory are the slashes at its end. -/
theorem exists_slashes (directory : List Char) :
    ∃ slashes, directory = Text.trimEnd '/' directory ++ List.replicate slashes '/' ∧
      (Text.trimEnd '/' directory).getLast? ≠ some '/' := by
  obtain ⟨slashes, whole⟩ := Text.exists_eq_trimEnd_append '/' directory
  exact ⟨slashes, whole, Text.getLast?_trimEnd '/' directory⟩

/-- The path that a package file is downloaded to lies in the directory, and has a name of its own. -/
theorem rpmPath_eq {directory stem : String}
    (trimmed : Text.trimEnd '/' directory.toList = stem.toList) (session : Session)
    (source : String) :
    (session.withTemporaryDirectory directory).rpmPath source =
      stem ++ "/converge-" ++ contentDigest source ++ ".rpm" := by
  rw [rpmPath, temporaryPath, withTemporaryDirectory, trimmed, String.ofList_toList]

/-- A session for which no directory was set has one all the same. -/
example (host : String) (packages : Inventory) (services : ServiceStates) :
    (start host packages services).withTemporaryDirectory plainTemporaryDirectory =
      start host packages services := by
  rfl

/-- The path that a package file is downloaded to is not empty. -/
theorem append_name_ne_nil (stem source : String) :
    (stem ++ "/converge-" ++ contentDigest source ++ ".rpm").toList ≠ [] := by
  simp

/-- The name that a package file is downloaded to is safe. -/
theorem all_isSafe_name (source : String) :
    ("/converge-" ++ contentDigest source ++ ".rpm").toList.all isSafe = true := by
  have front : "/converge-".toList.all isSafe = true := by decide
  have back : ".rpm".toList.all isSafe = true := by decide
  rw [String.toList_append, String.toList_append, List.all_append, List.all_append, front,
    all_isSafe_contentDigest, back]
  rfl

/-- The characters of the path that a package file is downloaded to. -/
theorem toList_append_name (stem source : String) :
    (stem ++ "/converge-" ++ contentDigest source ++ ".rpm").toList =
      stem.toList ++ ("/converge-" ++ contentDigest source ++ ".rpm").toList := by
  simp only [String.toList_append, List.append_assoc]

/-- The path that a package file is downloaded to is a bare word exactly if the directory is. -/
theorem isBareWord_append_name (stem source : String) :
    isBareWord (stem ++ "/converge-" ++ contentDigest source ++ ".rpm").toList =
      isBareWord stem.toList := by
  rw [toList_append_name, isBareWord_append_of_isSafe _ (all_isSafe_name source)]

/-- The path that a package file is downloaded to is a pattern exactly if the directory is. -/
theorem isPattern_append_name (stem source : String) :
    isPattern (stem ++ "/converge-" ++ contentDigest source ++ ".rpm").toList =
      isPattern stem.toList := by
  rw [toList_append_name, isPattern_append_of_isSafe _ (all_isSafe_name source)]

end Session

namespace RpmGoal

/-- What a shell reads where package files are installed. -/
def installParts (files : List String) : List Part :=
  [.word "rpm", .word "-i"] ++ files.map .word

/-- What a shell reads where package files are installed unless their packages are. -/
def guardedParts (files : List String) : List Part :=
  [.word "rpm", .word "-q", .backquote, .word "rpm", .word "-qp"] ++ files.map .word ++
    [.backquote, .errorsInto, .word "/dev/null", .orElse] ++ installParts files

variable {path : String}

/-- A download is read as the address and the file, each as it is given, on every host. -/
theorem partsOn?_downloadCommand (matching : String → List String) (source destination : String) :
    partsOn? matching (FileWork.downloadCommand source destination) =
      some [.word "curl", .word "-sSLf", .word source, .word "-o", .word destination] := by
  have parts : FileWork.downloadCommand source destination =
      "curl -sSLf" ++ " " ++ quote source ++ " " ++ ("-o" ++ " " ++ quote destination) := by
    apply String.toList_injective
    simp [FileWork.downloadCommand]
  have front : parts? "curl -sSLf" = some [.word "curl", .word "-sSLf"] := by decide
  have option : parts? "-o" = some [.word "-o"] := by decide
  rw [partsOn?, parts, parts?_append_space (parts?_append_space front (parts?_quote source))
    (parts?_append_space option (parts?_quote destination))]
  rfl

/-- A command in which a path stands without quotes, and what a shell reads of it where the path means
some files. -/
structure NamesFile (line path : String) (parts : List String → List Part) : Prop where
  readsBare : isBareWord path.toList = true →
    ∀ matching, partsOn? matching line = some (parts (meant matching path))
  isBare : parts? line = some (parts [path]) → isBareWord path.toList = true
  isPattern_eq : isPattern line.toList = isPattern path.toList
  isInjective : ∀ files, parts files = parts [path] → files = [path]

/-- The file that a command names is read as it is given if it is a bare word that nothing else on the
host fits, and it is not if it is neither a bare word nor a pattern. -/
theorem NamesFile.reads_iff {line : String} {parts : List String → List Part}
    (names : NamesFile line path parts) (matching : String → List String) :
    (isBareWord path.toList = true →
      (partsOn? matching line = some (parts [path]) ↔
        (isPattern path.toList = true → matching path = [] ∨ matching path = [path]))) ∧
      (isBareWord path.toList = false → isPattern path.toList = false →
        partsOn? matching line ≠ some (parts [path])) := by
  constructor
  · intro bare
    rw [names.readsBare bare, Option.some.injEq, ← meant_eq_singleton_iff]
    exact ⟨names.isInjective _, congrArg parts⟩
  · intro notBare plain reads
    rw [partsOn?_of_plain (names.isPattern_eq.trans plain)] at reads
    rw [names.isBare reads] at notBare
    cases notBare

/-- What is read in front of the path that is installed. -/
theorem read_installFront :
    read false .apart "rpm -i ".toList = some ⟨[.word "rpm", .word "-i"], false, .apart⟩ := by
  decide

/-- The command that installs a package file names it. -/
theorem namesFile_installCommand (nonempty : path.toList ≠ []) :
    NamesFile (installCommand path) path installParts where
  readsBare bare matching := by
    rw [partsOn?, installCommand, parts?_append_of_isBareWord read_installFront bare nonempty,
      Option.map_some, List.flatMap_append, List.flatMap_singleton, Part.expand_ofWord,
      flatMap_expand_of_plain (by decide)]
    rfl
  isBare := isBareWord_of_parts?_append read_installFront
  isPattern_eq := by
    have front : "rpm -i ".toList.any isPatternMark = false := by decide
    simp only [installCommand, isPattern, String.toList_append, List.any_append, front,
      Bool.false_or]
  isInjective files same := by simpa [installParts, List.map_eq_singleton_iff] using same

/-- What is read in front of the path that is checked. -/
theorem read_checkFront :
    read false .apart "rpm -q `rpm -qp ".toList =
      some ⟨[.word "rpm", .word "-q", .backquote, .word "rpm", .word "-qp"], true, .apart⟩ := by
  decide

/-- What is read between the path that is checked and the one that is installed. -/
theorem read_checkBack (text : List Char) :
    read true (.behind text) ('`' :: " 2> /dev/null || rpm -i ".toList) =
      some ⟨[.ofWord false text, .backquote, .errorsInto, .word "/dev/null", .orElse,
        .word "rpm", .word "-i"], false, .apart⟩ := by
  unfold Place.behind
  split
  · next two => rw [two]; rfl
  · rfl

/-- The characters of the command that installs a package file unless its package is installed. -/
theorem toList_guardedCommand (path : String) :
    (guardedCommand path).toList = "rpm -q `rpm -qp ".toList ++
      (path.toList ++ (('`' :: " 2> /dev/null || rpm -i ".toList) ++ path.toList)) := by
  have parts (front middle : String) : (front ++ path ++ middle ++ path).toList =
      front.toList ++ (path.toList ++ (middle.toList ++ path.toList)) := by
    simp only [String.toList_append, List.append_assoc]
  have middle : '`' :: " 2> /dev/null || rpm -i ".toList = "` 2> /dev/null || rpm -i ".toList := by
    decide
  rw [middle]
  exact parts _ _

/-- Whatever is read of a path, it is read in both places where the path stands in the command. -/
theorem partsOn?_guardedCommand {matching : String → List String} {before : List Part}
    {last : List Char} {files : List String}
    (own : ∀ inside, read inside .apart path.toList = some ⟨before, inside, .behind last⟩)
    (found : (before ++ [Part.ofWord false last]).flatMap (Part.expand matching) =
      files.map .word) :
    partsOn? matching (guardedCommand path) = some (guardedParts files) := by
  have line := read_append_of_read read_checkFront (read_append_of_read (own true)
    (read_append_of_read (read_checkBack last) (own false)))
  rw [← toList_guardedCommand] at line
  have whole : parts? (guardedCommand path) =
      some ([.word "rpm", .word "-q", .backquote, .word "rpm", .word "-qp"] ++
        (before ++ [.ofWord false last]) ++
        [.backquote, .errorsInto, .word "/dev/null", .orElse, .word "rpm", .word "-i"] ++
        (before ++ [.ofWord false last])) := by
    refine parts?_eq_some_iff.mpr ⟨_, _, _, line, Place.finish?_behind last, ?_⟩
    simp [Reading.andThen]
  rw [partsOn?, whole, Option.map_some, List.flatMap_append, List.flatMap_append,
    List.flatMap_append, found, flatMap_expand_of_plain (by decide),
    flatMap_expand_of_plain (by decide)]
  simp [guardedParts, installParts]

/-- If the file that is checked is read as it is given, its path is a bare word. -/
theorem isBareWord_of_parts?_guardedCommand
    (whole : parts? (guardedCommand path) = some (guardedParts [path])) :
    isBareWord path.toList = true := by
  obtain ⟨completed, place, ending, readLine, ends, same⟩ := parts?_eq_some_iff.mp whole
  rw [toList_guardedCommand] at readLine
  obtain ⟨later, readLater, both⟩ := exists_of_read_append_of_read read_checkFront readLine
  obtain ⟨own, back, readOwn, readBack, rfl⟩ := exists_of_read_append readLater
  obtain ⟨rfl, -, rfl⟩ := Reading.mk.inj both
  -- Behind what stands in front, the first part is the path, and a backquote ends it.
  have rest : Part.word path :: _ = (own.andThen back).completed ++ ending :=
    congrArg (List.drop 5) same
  refine isBareWord_of_first? readOwn (first?_of_backquote
    (fun nothing => inside_of_read readOwn nothing) readBack ?_)
  rw [first?_of_finish? ends, String.ofList_toList, ← rest]
  rfl

/-- The files can be told from what is read. -/
theorem eq_of_guardedParts {files : List String} (same : guardedParts files = guardedParts [path]) :
    files = [path] := by
  have count := congrArg List.length same
  simp only [guardedParts, installParts, List.length_append, List.length_cons, List.length_map,
    List.length_nil] at count
  obtain ⟨file, rfl⟩ := List.length_eq_one_iff.mp (show files.length = 1 by omega)
  simpa [guardedParts, installParts] using same

/-- The command that installs a package file unless its package is installed names the file. -/
theorem namesFile_guardedCommand (nonempty : path.toList ≠ []) :
    NamesFile (guardedCommand path) path guardedParts where
  readsBare bare matching := by
    refine partsOn?_guardedCommand (fun _ => read_of_isBareWord bare nonempty) ?_
    rw [List.nil_append, List.flatMap_singleton, Part.expand_ofWord]
  isBare := isBareWord_of_parts?_guardedCommand
  isPattern_eq := by
    have front : "rpm -q `rpm -qp ".toList.any isPatternMark = false := by decide
    have middle : ('`' :: " 2> /dev/null || rpm -i ".toList).any isPatternMark = false := by decide
    simp only [toList_guardedCommand, isPattern, List.any_append, front, middle, Bool.false_or,
      Bool.or_self]
  isInjective _ := eq_of_guardedParts

/-- The command that checks first is another one. -/
theorem guardedCommand_ne_installCommand (path other : String) :
    guardedCommand path ≠ installCommand other := by
  intro same
  have letter := congrArg (fun line => line.toList[5]?) same
  simp only [toList_guardedCommand, installCommand, String.toList_append] at letter
  rw [List.getElem?_append_left (by decide), List.getElem?_append_left (by decide)] at letter
  revert letter
  decide

/-- Where the path of a file holds a space, two texts are read for it. -/
theorem partsOn?_guardedCommand_of_space (matching : String → List String) (first second : String)
    (bareFirst : isBareWord first.toList = true) (nonemptyFirst : first.toList ≠ [])
    (bareSecond : isBareWord second.toList = true) (nonemptySecond : second.toList ≠ []) :
    partsOn? matching (guardedCommand (first ++ " " ++ second)) =
      some (guardedParts (meant matching first ++ meant matching second)) := by
  have own (inside : Bool) : read inside .apart (first ++ " " ++ second).toList =
      some ⟨[.ofWord false first.toList], inside, .behind second.toList⟩ := by
    have characters : (first ++ " " ++ second).toList = first.toList ++ ' ' :: second.toList := by
      simp
    have blank : readChar inside (.behind first.toList) ' ' =
        some ⟨[.ofWord false first.toList], inside, .apart⟩ :=
      readChar_of_isBlank rfl (Place.finish?_behind first.toList)
    rw [characters]
    exact read_append_of_read (read_of_isBareWord bareFirst nonemptyFirst)
      (read_cons blank (read_of_isBareWord bareSecond nonemptySecond))
  refine partsOn?_guardedCommand own ?_
  rw [List.flatMap_append, List.flatMap_singleton, List.flatMap_singleton, Part.expand_ofWord,
    Part.expand_ofWord, List.map_append]

/-- A package file at a URL is downloaded. -/
theorem fetch_shell {goal : RpmGoal} (remote : Url.isUrl goal.source = true) (temporaryPath : String)
    (facts : Facts) :
    goal.fetch temporaryPath (.shell facts) =
      .ok (.ofCommand (FileWork.downloadCommand goal.source temporaryPath), temporaryPath) := by
  rw [fetch, if_pos remote]
  rfl

/-- What is planned for a file that should be installed, besides its download. -/
theorem commands_settle_of_present {goal : RpmGoal} (wanted : goal.present = true) (path : String)
    (info : Option RpmInfo) (inventory : Inventory) {command : String}
    (planned : command ∈ (goal.settle path info inventory).1.commands) :
    command = installCommand path ∨ command = guardedCommand path := by
  cases info with
  | none =>
    simp only [settle, wanted, if_true, Outcome.ofCommand, List.mem_singleton] at planned
    exact Or.inr planned
  | some info =>
    cases installed : inventory.has info.name (some info.version) with
    | true => simp [settle, wanted, installed, Outcome.ofObservation] at planned
    | false =>
      simp only [settle, wanted, installed, Outcome.ofCommand, List.mem_singleton] at planned
      exact Or.inl planned

/-- A file at a URL of which nothing is known is downloaded, and checked and installed by the host. -/
theorem reconcile_of_unknown {goal : RpmGoal} (remote : Url.isUrl goal.source = true)
    (wanted : goal.present = true) (temporaryPath : String) (inventory : Inventory) :
    goal.reconcile temporaryPath .none (.shell .none) inventory =
      .ok (⟨[FileWork.downloadCommand goal.source temporaryPath, guardedCommand temporaryPath], []⟩,
        inventory) := by
  refine (goal.reconcile_eq_ok_iff temporaryPath .none (.shell .none)).mpr
    ⟨_, temporaryPath, none, fetch_shell remote temporaryPath .none, rfl, ?_, ?_⟩
  · simp only [settle, wanted]
    rfl
  · rw [inventory_settle_none]

/-- The download of a package file at a URL always goes to one path in the directory, less the slashes at
its end. If all characters of the directory stay in a word, the installation is from this path exactly if
no other path of the host fits it as a pattern; with any other character it is not, unless the host has a
say in what is read. -/
theorem reads_download_iff (session : Session) (directory : String)
    (matching : String → List String) {goal : RpmGoal} {facts fileFacts : Facts}
    {inventory after : Inventory} {outcome : Outcome} {fetch install : String}
    (remote : Url.isUrl goal.source = true) (wanted : goal.present = true)
    (planned : goal.reconcile ((session.withTemporaryDirectory directory).rpmPath goal.source)
      facts (.shell fileFacts) inventory = .ok (outcome, after))
    (commands : outcome.commands = [fetch, install]) :
    let stem := Text.trimEnd '/' directory.toList
    let path := String.ofList stem ++ "/converge-" ++ contentDigest goal.source ++ ".rpm"
    (∃ slashes, directory.toList = stem ++ List.replicate slashes '/' ∧
      stem.getLast? ≠ some '/') ∧
    partsOn? matching fetch =
      some [.word "curl", .word "-sSLf", .word goal.source, .word "-o", .word path] ∧
    ∃ expected,
      (install = installCommand path ∧ expected = installParts [path] ∨
        install = guardedCommand path ∧ expected = guardedParts [path]) ∧
      (isBareWord stem = true →
        (partsOn? matching install = some expected ↔
          (isPattern stem = true → matching path = [] ∨ matching path = [path]))) ∧
      (isBareWord stem = false → dependsOnHost stem = false →
        partsOn? matching install ≠ some expected) := by
  intro stem path
  have isPath : (session.withTemporaryDirectory directory).rpmPath goal.source = path := rfl
  rw [isPath] at planned
  have nonempty : path.toList ≠ [] := Session.append_name_ne_nil _ _
  have sameBare : isBareWord path.toList = isBareWord stem := by
    rw [Session.isBareWord_append_name, String.toList_ofList]
  have samePattern : isPattern path.toList = isPattern stem := by
    rw [Session.isPattern_append_name, String.toList_ofList]
  obtain ⟨_, _, info, fetching, -, rfl, -⟩ := (goal.reconcile_eq_ok_iff path facts _).mp planned
  rw [fetch_shell remote] at fetching
  obtain ⟨rfl, rfl⟩ := Prod.mk.inj (Except.ok.inj fetching)
  obtain ⟨rfl, installs⟩ : FileWork.downloadCommand goal.source path = fetch ∧
      (goal.settle path info inventory).1.commands = [install] := List.cons.inj commands
  have member : install ∈ (goal.settle path info inventory).1.commands := by
    rw [installs]
    exact .head _
  refine ⟨Session.exists_slashes directory.toList, partsOn?_downloadCommand .., ?_⟩
  rcases commands_settle_of_present wanted path info inventory member with rfl | rfl
  · have reads := (namesFile_installCommand nonempty).reads_iff matching
    rw [sameBare, samePattern] at reads
    exact ⟨_, Or.inl ⟨rfl, rfl⟩, reads.1, fun other alone =>
      reads.2 other (isPattern_of_not_dependsOnHost alone)⟩
  · have reads := (namesFile_guardedCommand nonempty).reads_iff matching
    rw [sameBare, samePattern] at reads
    exact ⟨_, Or.inr ⟨rfl, rfl⟩, reads.1, fun other alone =>
      reads.2 other (isPattern_of_not_dependsOnHost alone)⟩

/-- A bracket that is never closed does no harm where nothing else fits the path, and neither do the
slashes at the end of the directory. -/
theorem reads_download_iff_bracket :
    let goal : RpmGoal := ⟨"sftp://mirror/a.rpm", true, "dnf"⟩
    let session := (Session.start "web" .empty .empty).withTemporaryDirectory "/srv/a[b//"
    let matching : String → List String := fun text => [text]
    let path := "/srv/a[b" ++ "/converge-" ++ contentDigest goal.source ++ ".rpm"
    let fetch := FileWork.downloadCommand goal.source path
    let install := guardedCommand path
    Url.isUrl goal.source = true ∧ goal.present = true ∧
      goal.reconcile (session.rpmPath goal.source) .none (.shell .none) session.packages =
        .ok (⟨[fetch, install], []⟩, session.packages) ∧
      partsOn? matching fetch =
        some [.word "curl", .word "-sSLf", .word goal.source, .word "-o", .word path] ∧
      partsOn? matching install = some (guardedParts [path]) := by
  intro goal session matching path fetch install
  have remote : Url.isUrl goal.source = true := by decide
  have trimmed : Text.trimEnd '/' "/srv/a[b//".toList = "/srv/a[b".toList := by decide
  have planned := reconcile_of_unknown remote rfl (session.rpmPath goal.source) session.packages
  rw [Session.rpmPath_eq trimmed] at planned
  obtain ⟨-, fetches, expected, installs, ifBare, -⟩ :=
    reads_download_iff (Session.start "web" .empty .empty) "/srv/a[b//" matching remote rfl
      ((Session.rpmPath_eq trimmed ..).symm ▸ planned) rfl
  rw [trimmed, String.ofList_toList] at fetches installs ifBare
  refine ⟨remote, rfl, ?_, fetches, ?_⟩
  · rw [Session.rpmPath_eq trimmed]
    exact planned
  · rcases installs with ⟨impossible, -⟩ | ⟨-, rfl⟩
    · exact absurd impossible (guardedCommand_ne_installCommand path path)
    · exact (ifBare (by decide)).mpr fun _ => Or.inr rfl

/-- A directory with a space in its name is downloaded into, but every host is asked to check and to
install two other files. -/
theorem not_reads_download_spaced :
    let goal : RpmGoal := ⟨"sftp://mirror/a.rpm", true, "dnf"⟩
    let session := (Session.start "web" .empty .empty).withTemporaryDirectory "/var/tmp dir"
    let path := "/var/tmp dir" ++ "/converge-" ++ contentDigest goal.source ++ ".rpm"
    let fetch := FileWork.downloadCommand goal.source path
    let install := guardedCommand path
    Url.isUrl goal.source = true ∧
      goal.reconcile (session.rpmPath goal.source) .none (.shell .none) session.packages =
        .ok (⟨[fetch, install], []⟩, session.packages) ∧
      ∃ second, second ≠ path ∧ ∀ matching,
        partsOn? matching fetch =
          some [.word "curl", .word "-sSLf", .word goal.source, .word "-o", .word path] ∧
        partsOn? matching install = some (guardedParts ["/var/tmp", second]) ∧
        partsOn? matching install ≠ some (guardedParts [path]) ∧
        partsOn? matching install ≠ some (installParts [path]) := by
  intro goal session path fetch install
  have remote : Url.isUrl goal.source = true := by decide
  have trimmed : Text.trimEnd '/' "/var/tmp dir".toList = "/var/tmp dir".toList := by decide
  have planned := reconcile_of_unknown remote rfl path session.packages
  let second := "dir" ++ "/converge-" ++ contentDigest goal.source ++ ".rpm"
  have spaced : path = "/var/tmp" ++ " " ++ second := by
    have front : "/var/tmp dir" = "/var/tmp" ++ " " ++ "dir" := by decide
    simp only [path, second, front, String.append_assoc]
  have bare : isBareWord second.toList = true := by
    rw [Session.isBareWord_append_name]
    decide
  have plain : isPattern second.toList = false := by
    rw [Session.isPattern_append_name]
    decide
  have reads (matching : String → List String) :
      partsOn? matching install = some (guardedParts ["/var/tmp", second]) := by
    have found := partsOn?_guardedCommand_of_space matching "/var/tmp" second (by decide)
      (by decide) bare (Session.append_name_ne_nil _ _)
    rwa [← spaced, meant_of_plain (by decide), meant_of_plain plain] at found
  refine ⟨remote, ?_, second, ?_, fun matching =>
    ⟨partsOn?_downloadCommand .., reads matching, ?_, ?_⟩⟩
  · rw [Session.rpmPath_eq trimmed]
    exact planned
  · intro same
    have count := congrArg String.length (same.trans spaced)
    simp at count
  · rw [reads]
    simp [guardedParts, installParts]
  · rw [reads]
    simp [guardedParts, installParts]

end RpmGoal

end FleetPlan
