import FleetPlan.Deploy.Reading
import FleetPlan.Proofs.Document.ReadingBack
import FleetPlan.Proofs.Report.Encoding

/-!
# Deploys and reports survive being written

A deploy is written with all its fields in one order. People write deploys with
the fields in any order, the `type` of an item among them, and leave out what goes
without saying. `Deploy.rewriting` describes all these texts of a deploy, and what
is read from each of them is the deploy itself (`Deploy.survives_writing`). A
report is read back as it was written.
-/

namespace FleetPlan

open Value

/-! ### What may be written instead -/

/-- Settings, either of which may be left out. -/
def Settings.rules : FieldRules := [
  ("temp_dir", .omittable .null),
  ("jobs", .omittable .null)]

/-- Records of hosts: what there is nothing of may be left out, and what is listed by paths or names
stands in any order. -/
def HostRecord.rules : FieldRules := [
  ("files", .omittable (.array [])),
  ("file_hashes", ⟨some (.table []), .entries .exact⟩),
  ("packages", ⟨some (.table []), .entries .exact⟩),
  ("services", ⟨some (.table []), .entries .exact⟩),
  ("rpms", ⟨some (.table []), .entries (.record [])⟩),
  ("provides", ⟨some (.table []), .entries .exact⟩)]

/-- Declared packages are present and not the latest unless it is said. -/
def PackagesDeclaration.rules : FieldRules := [
  ("present", .omittable (.bool true)),
  ("latest", .omittable (.bool false)),
  ("manager", .omittable .null),
  ("install", .omittable .null),
  ("uninstall", .omittable .null),
  ("upgrade", .omittable .null),
  ("version_join", .omittable .null)]

/-- A declared service is neither restarted nor reloaded unless it is said. -/
def ServiceDeclaration.rules : FieldRules := [
  ("init", .omittable .null),
  ("template", .omittable .null),
  ("status_argument", .omittable .null),
  ("running", .omittable .null),
  ("restarted", .omittable (.bool false)),
  ("reloaded", .omittable (.bool false)),
  ("command", .omittable .null)]

/-- A declared package file is present unless it is said. -/
def RpmDeclaration.rules : FieldRules := [
  ("present", .omittable (.bool true)),
  ("manager", .omittable .null),
  ("manager_command", .omittable .null)]

/-- A declared repository is present, enabled and signed unless it is said. -/
def Repository.rules : FieldRules := [
  ("baseurl", .omittable .null),
  ("present", .omittable (.bool true)),
  ("description", .omittable .null),
  ("enabled", .omittable (.bool true)),
  ("gpgcheck", .omittable (.bool true)),
  ("gpgkey", .omittable .null),
  ("directory", .omittable (.text Repository.plainDirectory)),
  ("repo_type", .omittable .null)]

/-- What may be left out of a declared item depends on its type. -/
def Declaration.rules : Option String → FieldRules
  | some "packages" => PackagesDeclaration.rules
  | some "service" => ServiceDeclaration.rules
  | some "rpm" => RpmDeclaration.rules
  | some "repo" => Repository.rules
  | _ => []

/-- A deploy, each part of which may be left out. -/
def Deploy.rules : FieldRules := [
  ("settings", ⟨some (Settings.toValue ⟨none, none⟩), .record Settings.rules⟩),
  ("hosts", ⟨some (.table []), .entries (.record HostRecord.rules)⟩),
  ("operations", ⟨some (.array []), .items (.tagged "type" Declaration.rules)⟩)]

/-- All that may be written for a deploy. -/
def Deploy.rewriting : Rewriting := .record Deploy.rules

/-! ### Declared items -/

/-- A manager is found by its name. -/
@[simp] theorem PackageManager.ofName?_name (manager : PackageManager) :
    ofName? manager.name = some manager := by
  cases manager <;> rfl

/-- An init system is found by its name. -/
@[simp] theorem InitSystem.ofName?_name (init : InitSystem) : ofName? init.name = some init := by
  cases init <;> rfl

namespace FieldRule.Allows

variable {fields : Fields} {name : String}

/-- A manager that may be left out. -/
theorem optionalManager {manager : Option PackageManager} {strictness : Strictness}
    (allowed : (FieldRule.omittable .null).Allows
      (ofOptionalText (manager.map PackageManager.name)) (Value.entry? name fields)) :
    fields.optional name (PackageManager.ofValue? strictness) = some manager := by
  refine allowed.optional ?_
  cases manager with
  | none => rfl
  | some manager => exact congrArg (Option.map some) manager.ofName?_name

/-- An init system that may be left out. -/
theorem optionalInit {init : Option InitSystem} {strictness : Strictness}
    (allowed : (FieldRule.omittable .null).Allows
      (ofOptionalText (init.map InitSystem.name)) (Value.entry? name fields)) :
    fields.optional name (InitSystem.ofValue? strictness) = some init := by
  refine allowed.optional ?_
  cases init with
  | none => rfl
  | some init => exact congrArg (Option.map some) init.ofName?_name

end FieldRule.Allows

namespace Value

/-- The fields of a record that is written as a table. -/
def fields : Value → Fields
  | .table entries => entries
  | _ => []

end Value

/-- Declared packages are read from their fields, with those left out that may be. -/
theorem PackagesDeclaration.ofValue?_of_allows {declared : PackagesDeclaration} {others : Fields}
    (strictness : Strictness) (allows : rules.Allows declared.toValue.fields others) :
    ofValue? strictness (.table others) = some declared := by
  obtain ⟨known, read, found⟩ := allows.ofValue? strictness
  simp only [toValue, Value.fields, List.map_cons, List.map_nil, List.forall_mem_cons]
    at read found
  obtain ⟨packages, present, latest, manager, install, uninstall, upgrade, separator, -⟩ := found
  simp [ofValue?, read, packages.texts, present.truth, latest.truth, manager.optionalManager,
    install.optionalText, uninstall.optionalText, upgrade.optionalText, separator.optionalText]

/-- A declared service is read from its fields, with those left out that may be. -/
theorem ServiceDeclaration.ofValue?_of_allows {declared : ServiceDeclaration} {others : Fields}
    (strictness : Strictness) (allows : rules.Allows declared.toValue.fields others) :
    ofValue? strictness (.table others) = some declared := by
  obtain ⟨known, read, found⟩ := allows.ofValue? strictness
  simp only [toValue, Value.fields, List.map_cons, List.map_nil, List.forall_mem_cons]
    at read found
  obtain ⟨name, init, template, probe, running, restarted, reloaded, command, -⟩ := found
  simp [ofValue?, read, name.text, init.optionalInit, template.optionalText, probe.optionalText,
    running.optionalTruth, restarted.truth, reloaded.truth, command.optionalText]

/-- A declared package file is read from its fields, with those left out that may be. -/
theorem RpmDeclaration.ofValue?_of_allows {declared : RpmDeclaration} {others : Fields}
    (strictness : Strictness) (allows : rules.Allows declared.toValue.fields others) :
    ofValue? strictness (.table others) = some declared := by
  obtain ⟨known, read, found⟩ := allows.ofValue? strictness
  simp only [toValue, Value.fields, List.map_cons, List.map_nil, List.forall_mem_cons]
    at read found
  obtain ⟨source, present, manager, remover, -⟩ := found
  simp [ofValue?, read, source.text, present.truth, manager.optionalManager,
    remover.optionalText]

/-- A declared repository is read from its fields, with those left out that may be. -/
theorem Repository.ofValue?_of_allows {declared : Repository} {others : Fields}
    (strictness : Strictness) (allows : rules.Allows declared.toValue.fields others) :
    ofValue? strictness (.table others) = some declared := by
  obtain ⟨known, read, found⟩ := allows.ofValue? strictness
  simp only [toValue, Value.fields, List.map_cons, List.map_nil, List.forall_mem_cons]
    at read found
  obtain ⟨identifier, baseUrl, present, description, enabled, signed, key, directory, layout, -⟩ :=
    found
  simp [ofValue?, read, identifier.text, baseUrl.optionalText, present.truth,
    description.optionalText, enabled.truth, signed.truth, key.optionalText, directory.textOr,
    layout.optionalText]

namespace Declaration

/-- The fields of a declared item apart from its type. -/
def fields : Declaration → Fields
  | .packages declared => declared.toValue.fields
  | .service declared => declared.toValue.fields
  | .rpm declared => declared.toValue.fields
  | .repository declared => declared.toValue.fields

/-- A declared item is written with its type in front of its fields. -/
theorem toValue_eq (declaration : Declaration) :
    declaration.toValue = .table (("type", .text declaration.kind.name) :: declaration.fields) := by
  cases declaration <;> rfl

/-- What may be left out of a declared item. -/
def ownRules (declaration : Declaration) : FieldRules := rules (some declaration.kind.name)

/-- The type of a declared item decides what may be left out of it. -/
theorem relates_iff {declaration : Declaration} {other : Value} :
    (Rewriting.tagged "type" rules).relates declaration.toValue other ↔
      (Rewriting.record declaration.ownRules).relates declaration.toValue other := by
  rw [toValue_eq]
  rfl

/-- The type is not one of the other fields, and none of those stands twice. -/
theorem nodup_names (declaration : Declaration) :
    ("type" :: declaration.fields.map (·.1)).Nodup := by
  cases declaration <;> simp [fields, PackagesDeclaration.toValue, ServiceDeclaration.toValue,
    RpmDeclaration.toValue, Repository.toValue, Value.fields]

/-- A field of a declared item is left out or written in one way. -/
theorem rewriting_of_mem_ownRules (declaration : Declaration) :
    ∀ rule ∈ declaration.ownRules, rule.2.rewriting = .exact := by
  cases declaration with
  | packages declared =>
    change ∀ rule ∈ PackagesDeclaration.rules, _
    simp [PackagesDeclaration.rules, FieldRule.omittable]
  | service declared =>
    change ∀ rule ∈ ServiceDeclaration.rules, _
    simp [ServiceDeclaration.rules, FieldRule.omittable]
  | rpm declared =>
    change ∀ rule ∈ RpmDeclaration.rules, _
    simp [RpmDeclaration.rules, FieldRule.omittable]
  | repository declared =>
    change ∀ rule ∈ Repository.rules, _
    simp [Repository.rules, FieldRule.omittable]

/-- Every field of a declared item is plain. -/
theorem isPlain_fields (declaration : Declaration) :
    ∀ entry ∈ declaration.fields, entry.2.IsPlain := by
  cases declaration <;> simp [fields, PackagesDeclaration.toValue, ServiceDeclaration.toValue,
    RpmDeclaration.toValue, Repository.toValue, Value.fields]

/-- A declared item is read wherever its type stands. -/
theorem ofValue?_of_allows {declaration : Declaration} {others : Fields}
    (allows : declaration.ownRules.Allows
      (("type", .text declaration.kind.name) :: declaration.fields) others) :
    ofValue? (.table others) = some declaration := by
  have always : declaration.ownRules.of "type" = .fixed := by cases declaration <;> rfl
  obtain ⟨apart, -⟩ := List.nodup_cons.mp declaration.nodup_names
  -- What is left without the type is a record of its own, with the same rules.
  obtain ⟨rest, tagged, restAllows⟩ := allows.asTagged? always apart
  cases declaration with
  | packages declared =>
    simp [ofValue?, tagged, kind, OperationKind.name,
      PackagesDeclaration.ofValue?_of_allows .collected restAllows]
  | service declared =>
    simp [ofValue?, tagged, kind, OperationKind.name,
      ServiceDeclaration.ofValue?_of_allows .collected restAllows]
  | rpm declared =>
    simp [ofValue?, tagged, kind, OperationKind.name,
      RpmDeclaration.ofValue?_of_allows .collected restAllows]
  | repository declared =>
    simp [ofValue?, tagged, kind, OperationKind.name,
      Repository.ofValue?_of_allows .collected restAllows]

/-- A declared item is read back as an item of a deploy, for which all of it has to be readable. -/
theorem readsBack_item (declaration : Declaration) :
    (Rewriting.tagged "type" rules).ReadsBack (Deploy.item? (some Deploy.deepestItem))
      declaration.toValue declaration := by
  intro other related
  rw [relates_iff, toValue_eq] at related
  obtain ⟨rewritten, others, rfl, rewrites, order⟩ := related
  -- Nothing was added, so what could be read before still can.
  have plain : ∀ entry ∈ others, entry.2.IsPlain := by
    intro entry member
    have inside := rewrites.subset declaration.rewriting_of_mem_ownRules (order.subset member)
    rcases List.mem_cons.mp inside with rfl | field
    · exact isPlain_text _
    · exact declaration.isPlain_fields entry field
  have readable : (Value.table others).isReadable = true :=
    isReadable_table_iff.mpr fun entry member => (plain entry member).readable
  -- One of the levels is the item, and one an array of texts in it.
  have shallow : (Value.table others).nestsWithin Deploy.deepestItem = true :=
    nestsWithin_table_iff.mpr fun entry member => (plain entry member).shallow 123
  have allows := (rewrites.allows declaration.nodup_names).perm order
  simp [Deploy.item?, readable, shallow, ofValue?_of_allows allows]

end Declaration

/-! ### Hosts, settings and whole deploys -/

/-- The name and version in a package file are read from fields in any order. -/
theorem RpmInfo.readsBack (strictness : Strictness) (info : RpmInfo) :
    (Rewriting.record []).ReadsBack (ofValue? strictness) info.toValue info := by
  intro other related
  obtain ⟨known, read, found⟩ :=
    FieldRules.exists_fields_of_relates strictness (by simp) related
  simp only [List.map_cons, List.map_nil, List.forall_mem_cons] at read found
  obtain ⟨name, version, -⟩ := found
  simp [ofValue?, read, name.text, version.text]

/-- The record of a host is read back. -/
theorem HostRecord.readsBack (strictness : Strictness) (record : HostRecord) :
    (Rewriting.record rules).ReadsBack (ofValue? strictness) record.toValue record := by
  intro other related
  obtain ⟨known, read, found⟩ :=
    FieldRules.exists_fields_of_relates strictness (by simp) related
  simp only [List.map_cons, List.map_nil, List.forall_mem_cons] at read found
  obtain ⟨files, fileDigests, packages, services, rpms, provides, -⟩ := found
  have filesRead : known.withDefault "files" .empty asSet? = some record.files :=
    files.withDefault rfl (Rewriting.readsBack_exact_iff.mpr (asSet?_ofSet _))
  have digestsRead :
      known.withDefault "file_hashes" .empty (asMap? asText?) = some record.fileDigests :=
    fileDigests.withDefault rfl (readsBack_ofMap asText?_text _)
  have packagesRead :
      known.withDefault "packages" .empty (asMap? asSet?) = some record.packages :=
    packages.withDefault rfl (readsBack_ofMap asSet?_ofSet _)
  have servicesRead :
      known.withDefault "services" .empty (asMap? asBool?) = some record.services :=
    services.withDefault rfl (readsBack_ofMap asBool?_bool _)
  have rpmsRead :
      known.withDefault "rpms" .empty (asMap? (RpmInfo.ofValue? strictness)) = some record.rpms :=
    rpms.withDefault rfl (Rewriting.readsBack_entries (RpmInfo.readsBack strictness) _)
  have providesRead :
      known.withDefault "provides" .empty (asMap? (asList? asText?)) = some record.provides :=
    provides.withDefault rfl (readsBack_ofMap asList?_ofTexts _)
  simp [ofValue?, read, filesRead, digestsRead, packagesRead, servicesRead, rpmsRead,
    providesRead]

/-- The number of jobs fits into a word of the machine. -/
def Settings.FitsMachine (settings : Settings) : Prop :=
  ∀ jobs ∈ settings.jobs, jobs < UInt64.size

/-- Settings are read back. -/
theorem Settings.readsBack (strictness : Strictness) {settings : Settings}
    (fits : settings.FitsMachine) :
    (Rewriting.record rules).ReadsBack (ofValue? strictness) settings.toValue settings := by
  intro other related
  obtain ⟨known, read, found⟩ :=
    FieldRules.exists_fields_of_relates strictness (by simp) related
  simp only [List.map_cons, List.map_nil, List.forall_mem_cons] at read found
  obtain ⟨temporaryDirectory, jobs, -⟩ := found
  have jobsRead : known.optional "jobs" asCount? = some settings.jobs := by
    refine jobs.optional ?_
    cases given : settings.jobs with
    | none => rfl
    | some count =>
      simp [ofOptionalCount, asOptional?, asCount?_integer (fits count given)]
  simp [ofValue?, read, temporaryDirectory.optionalText, jobsRead]

/-- A deploy is read back from all that may be written for it. -/
theorem Deploy.readsBack (strictness : Strictness) {deploy : Deploy}
    (fits : deploy.settings.FitsMachine) :
    rewriting.ReadsBack (ofValue? strictness (some deepestItem)) deploy.toValue deploy := by
  intro other related
  obtain ⟨known, read, found⟩ :=
    FieldRules.exists_fields_of_relates strictness (by simp) related
  simp only [List.map_cons, List.map_nil, List.forall_mem_cons] at read found
  obtain ⟨settings, hosts, operations, -⟩ := found
  have settingsRead :
      known.withDefault "settings" ⟨none, none⟩ (Settings.ofValue? strictness) =
        some deploy.settings :=
    settings.withDefault rfl (Settings.readsBack strictness fits)
  have hostsRead :
      known.withDefault "hosts" .empty (asMap? (HostRecord.ofValue? strictness)) =
        some deploy.hosts :=
    hosts.withDefault rfl (Rewriting.readsBack_entries (HostRecord.readsBack strictness) _)
  have operationsRead :
      known.withDefault "operations" [] (asList? (item? (some deepestItem))) =
        some deploy.operations :=
    operations.withDefault rfl (Rewriting.readsBack_items Declaration.readsBack_item _)
  simp [ofValue?, read, settingsRead, hostsRead, operationsRead]

/-- Deploys and reports survive being written.

A deploy is read back from its own writing, and from all that this becomes when the entries of its
tables are put into any order, the `type` of an item like any other field, and fields with their
default as value are left out, anywhere and in any combination. The number of jobs fits into a word
of the machine, as it always does there. A report is read back as it was written. -/
theorem Deploy.survives_writing :
    (∀ (strictness : Strictness) (deploy : Deploy) (other : Value),
      deploy.settings.FitsMachine → rewriting.relates deploy.toValue other →
      ofValue? strictness (some deepestItem) other = some deploy) ∧
    ∀ (strictness : Strictness) (report : HostReport),
      HostReport.ofValue? strictness report.toValue = some report := by
  constructor
  · intro strictness deploy other fits related
    exact Deploy.readsBack strictness fits other related
  · intro strictness report
    exact report.ofValue?_toValue strictness

/-- A host with two services. -/
def serviceRecord : HostRecord :=
  { HostRecord.empty with services := .ofList [("cron", true), ("nginx", false)] }

/-- The newest editor for one host. -/
def editorDeploy : Deploy where
  settings := ⟨none, some 4⟩
  hosts := .ofList [("web1", serviceRecord)]
  operations := [.packages ⟨["vim"], true, true, some .apt, none, none, none, none⟩]

/-- How somebody may write what is recorded of the host. -/
def serviceText : Value := .table [
  ("services", .table [("nginx", .bool false), ("cron", .bool true)])]

/-- How somebody may write the item of the deploy. -/
def editorItemText : Value := .table [
  ("packages", .array [.text "vim"]),
  ("latest", .bool true),
  ("manager", .text "apt"),
  ("type", .text "packages")]

/-- How somebody may write the deploy. -/
def editorText : Value := .table [
  ("operations", .array [editorItemText]),
  ("settings", .table [("jobs", .integer 4)]),
  ("hosts", .table [("web1", serviceText)])]

/-- What somebody may write for a deploy is read as that deploy. -/
theorem survives_writing_editor :
    editorDeploy.settings.FitsMachine ∧
      Deploy.rewriting.relates editorDeploy.toValue editorText ∧
      Deploy.ofValue? .direct (some Deploy.deepestItem) editorText = some editorDeploy := by
  have fits : editorDeploy.settings.FitsMachine := by
    intro jobs given
    cases given
    decide
  have settings : (Rewriting.record Settings.rules).relates editorDeploy.settings.toValue
      (.table [("jobs", .integer 4)]) :=
    ⟨_, _, rfl, .leaveOut rfl (.keep rfl .nil), .refl _⟩
  have services : Rewriting.exact.entries.relates (ofMap .bool serviceRecord.services)
      (.table [("nginx", .bool false), ("cron", .bool true)]) :=
    ⟨[("cron", .bool true), ("nginx", .bool false)], _, rfl,
      .cons ⟨rfl, rfl⟩ (.cons ⟨rfl, rfl⟩ .nil), .swap ..⟩
  have record : (Rewriting.record HostRecord.rules).relates serviceRecord.toValue serviceText :=
    ⟨_, _, rfl, .leaveOut rfl (.leaveOut rfl (.leaveOut rfl (.keep services (.leaveOut rfl
      (.leaveOut rfl .nil))))), .refl _⟩
  have hosts : (Rewriting.record HostRecord.rules).entries.relates
      (ofMap HostRecord.toValue editorDeploy.hosts) (.table [("web1", serviceText)]) :=
    ⟨[("web1", serviceText)], _, rfl, .cons ⟨rfl, record⟩ .nil, .refl _⟩
  have item : (Rewriting.tagged "type" Declaration.rules).relates
      (Declaration.packages ⟨["vim"], true, true, some .apt, none, none, none, none⟩).toValue
      editorItemText :=
    ⟨_, _, rfl, .keep rfl (.keep rfl (.leaveOut rfl (.keep rfl (.keep rfl (.leaveOut rfl
      (.leaveOut rfl (.leaveOut rfl (.leaveOut rfl .nil)))))))),
      List.perm_append_singleton ("type", _) [("packages", _), ("latest", _), ("manager", _)]⟩
  have related : Deploy.rewriting.relates editorDeploy.toValue editorText :=
    ⟨[("settings", _), ("hosts", _), ("operations", _)], _, rfl,
      .keep settings (.keep hosts (.keep ⟨_, rfl, .cons item .nil⟩ .nil)),
      (List.perm_append_comm : ([("operations", _)] ++ [("settings", _), ("hosts", _)]).Perm _)⟩
  exact ⟨fits, related, Deploy.survives_writing.1 .direct _ _ fits related⟩

end FleetPlan
