import FleetPlan.Deploy
import FleetPlan.Document.Json.Reading
import FleetPlan.Document.Record
import FleetPlan.Document.Toml.Reading

/-!
# Reading deploys

Each part of a deploy is read from a value of a document. The functions here say
for every record which fields it has, in which order, and what is meant by a field
that is left out.
-/

namespace FleetPlan

open Value

/-- A package with its optional version. -/
def Package.ofValue? (strictness : Strictness) (value : Value) : Option Package := do
  let fields ← Fields.ofValue? strictness ["name", "version"] value
  let name ← fields.required "name" asText?
  let version ← fields.optional "version" asText?
  return ⟨name, version⟩

/-- Installed packages: for each name an array of versions. -/
def Inventory.ofValue? (value : Value) : Option Inventory :=
  (value.asMap? asSet?).map Inventory.mk

/-- Known services: for each name whether it runs. -/
def ServiceStates.ofValue? (value : Value) : Option ServiceStates :=
  (value.asMap? asBool?).map ServiceStates.mk

/-- The words of a package manager. -/
def PackageVerbs.ofValue? (strictness : Strictness) (value : Value) : Option PackageVerbs := do
  let fields ← Fields.ofValue? strictness ["install", "uninstall", "upgrade", "version_join"] value
  let install ← fields.required "install" asText?
  let uninstall ← fields.required "uninstall" asText?
  let upgrade ← fields.optional "upgrade" asText?
  let separator ← fields.optional "version_join" asText?
  return ⟨install, uninstall, upgrade, separator⟩

/-- A package manager by its name. -/
def PackageManager.ofValue? (strictness : Strictness) : Value → Option PackageManager :=
  asChoice? strictness PackageManager.ofName?

/-- An init system by its name. -/
def InitSystem.ofValue? (strictness : Strictness) : Value → Option InitSystem :=
  asChoice? strictness InitSystem.ofName?

/-- A repository. -/
def Repository.ofValue? (strictness : Strictness) (value : Value) : Option Repository := do
  let fields ← Fields.ofValue? strictness
    ["identifier", "baseurl", "present", "description", "enabled", "gpgcheck", "gpgkey",
      "directory", "repo_type"] value
  let identifier ← fields.required "identifier" asText?
  let baseUrl ← fields.optional "baseurl" asText?
  let present ← fields.withDefault "present" true asBool?
  let description ← fields.optional "description" asText?
  let enabled ← fields.withDefault "enabled" true asBool?
  let signed ← fields.withDefault "gpgcheck" true asBool?
  let key ← fields.optional "gpgkey" asText?
  let directory ← fields.withDefault "directory" Repository.plainDirectory asText?
  let layout ← fields.optional "repo_type" asText?
  return ⟨identifier, baseUrl, present, description, enabled, signed, key, directory, layout⟩

/-- The name and version of the package in a package file. -/
def RpmInfo.ofValue? (strictness : Strictness) (value : Value) : Option RpmInfo := do
  let fields ← Fields.ofValue? strictness ["name", "version"] value
  let name ← fields.required "name" asText?
  let version ← fields.required "version" asText?
  return ⟨name, version⟩

/-- What is recorded of a host. -/
def HostRecord.ofValue? (strictness : Strictness) (value : Value) : Option HostRecord := do
  let fields ← Fields.ofValue? strictness
    ["files", "file_hashes", "packages", "services", "rpms", "provides"] value
  let files ← fields.withDefault "files" .empty asSet?
  let fileDigests ← fields.withDefault "file_hashes" .empty (asMap? asText?)
  let packages ← fields.withDefault "packages" .empty (asMap? asSet?)
  let services ← fields.withDefault "services" .empty (asMap? asBool?)
  let rpms ← fields.withDefault "rpms" .empty (asMap? (RpmInfo.ofValue? strictness))
  let provides ← fields.withDefault "provides" .empty (asMap? (asList? asText?))
  return ⟨files, fileDigests, packages, services, rpms, provides⟩

/-- Declared packages. -/
def PackagesDeclaration.ofValue? (strictness : Strictness) (value : Value) :
    Option PackagesDeclaration := do
  let fields ← Fields.ofValue? strictness
    ["packages", "present", "latest", "manager", "install", "uninstall", "upgrade",
      "version_join"] value
  let packages ← fields.required "packages" (asList? asText?)
  let present ← fields.withDefault "present" true asBool?
  let latest ← fields.withDefault "latest" false asBool?
  let manager ← fields.optional "manager" (PackageManager.ofValue? strictness)
  let install ← fields.optional "install" asText?
  let uninstall ← fields.optional "uninstall" asText?
  let upgrade ← fields.optional "upgrade" asText?
  let separator ← fields.optional "version_join" asText?
  return ⟨packages, present, latest, manager, install, uninstall, upgrade, separator⟩

/-- A declared service. -/
def ServiceDeclaration.ofValue? (strictness : Strictness) (value : Value) :
    Option ServiceDeclaration := do
  let fields ← Fields.ofValue? strictness
    ["name", "init", "template", "status_argument", "running", "restarted", "reloaded",
      "command"] value
  let name ← fields.required "name" asText?
  let init ← fields.optional "init" (InitSystem.ofValue? strictness)
  let template ← fields.optional "template" asText?
  let probe ← fields.optional "status_argument" asText?
  let running ← fields.optional "running" asBool?
  let restarted ← fields.withDefault "restarted" false asBool?
  let reloaded ← fields.withDefault "reloaded" false asBool?
  let command ← fields.optional "command" asText?
  return ⟨name, init, template, probe, running, restarted, reloaded, command⟩

/-- A declared package file. -/
def RpmDeclaration.ofValue? (strictness : Strictness) (value : Value) :
    Option RpmDeclaration := do
  let fields ← Fields.ofValue? strictness ["source", "present", "manager", "manager_command"] value
  let source ← fields.required "source" asText?
  let present ← fields.withDefault "present" true asBool?
  let manager ← fields.optional "manager" (PackageManager.ofValue? strictness)
  let remover ← fields.optional "manager_command" asText?
  return ⟨source, present, manager, remover⟩

/-- A declared item, which its `type` tells. -/
def Declaration.ofValue? (value : Value) : Option Declaration := do
  let (tag, rest) ← value.asTagged? "type"
  match tag with
  | "packages" => (PackagesDeclaration.ofValue? .collected rest).map .packages
  | "service" => (ServiceDeclaration.ofValue? .collected rest).map .service
  | "rpm" => (RpmDeclaration.ofValue? .collected rest).map .rpm
  | "repo" => (Repository.ofValue? .collected rest).map .repository
  | _ => none

/-- Settings of a deploy. -/
def Settings.ofValue? (strictness : Strictness) (value : Value) : Option Settings := do
  let fields ← Fields.ofValue? strictness ["temp_dir", "jobs"] value
  let temporaryDirectory ← fields.optional "temp_dir" asText?
  let jobs ← fields.optional "jobs" asCount?
  return ⟨temporaryDirectory, jobs⟩

namespace Deploy

/-- How many arrays and tables a declared item may have inside each other, in a format that limits
them. -/
def deepestItem : Nat := 125

/-- A declared item of a deploy. It is collected as a whole before its type is known, so every part
of it has to be readable. -/
def item? (deepest : Option Nat) (value : Value) : Option Declaration :=
  if value.isReadable && deepest.all value.nestsWithin then Declaration.ofValue? value else none

/-- A deploy; each of its parts may be left out. -/
def ofValue? (strictness : Strictness) (deepest : Option Nat) (value : Value) :
    Option Deploy := do
  let fields ← Fields.ofValue? strictness ["settings", "hosts", "operations"] value
  let settings ← fields.withDefault "settings" ⟨none, none⟩ (Settings.ofValue? strictness)
  let hosts ← fields.withDefault "hosts" .empty (asMap? (HostRecord.ofValue? strictness))
  let operations ← fields.withDefault "operations" [] (asList? (item? deepest))
  return ⟨settings, hosts, operations⟩

/-- The formats of deploy files. -/
inductive Format where
  | json
  | toml
  deriving DecidableEq, Repr

/-- The deploy that a file holds. -/
def ofText? (format : Format) (text : String) : Option Deploy :=
  match format with
  | .json => (Json.parse? text).bind (ofValue? .direct (some deepestItem))
  | .toml => (Toml.parse? text).bind (ofValue? .tolerant none)

end Deploy

end FleetPlan
