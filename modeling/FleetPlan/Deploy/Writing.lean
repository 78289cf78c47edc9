import FleetPlan.Deploy
import FleetPlan.Document.Value

/-!
# Writing deploys

Each part of a deploy is written as a table with all its fields, under the names
that they are read by. A field without a value is written as nothing.
-/

namespace FleetPlan

namespace Value

/-- A text, or nothing. -/
def ofOptionalText (text : Option String) : Value := (text.map Value.text).getD .null

/-- A truth value, or nothing. -/
def ofOptionalBool (truth : Option Bool) : Value := (truth.map Value.bool).getD .null

/-- A count, or nothing. -/
def ofOptionalCount (count : Option Nat) : Value :=
  (count.map fun count => Value.integer count).getD .null

/-- An array of texts. -/
def ofTexts (texts : List String) : Value := .array (texts.map .text)

/-- A table of the values of a map, in ascending order of the keys. -/
def ofMap {α : Type} (write : α → Value) (map : SortedMap α) : Value :=
  .table (map.entries.map fun entry => (entry.1, write entry.2))

/-- An array of the elements of a set in ascending order. -/
def ofSet (set : SortedSet) : Value := ofTexts set.elements

/-- A table with one more entry, in front of the others. -/
def withTag (tagName tag : String) : Value → Value
  | .table entries => .table ((tagName, .text tag) :: entries)
  | value => value

end Value

open Value

/-- A package with its optional version. -/
def Package.toValue (package : Package) : Value :=
  .table [("name", .text package.name), ("version", ofOptionalText package.version)]

/-- Installed packages: for each name an array of versions. -/
def Inventory.toValue (inventory : Inventory) : Value := ofMap ofSet inventory.versions

/-- Known services: for each name whether it runs. -/
def ServiceStates.toValue (states : ServiceStates) : Value := ofMap .bool states.known

/-- The words of a package manager. -/
def PackageVerbs.toValue (verbs : PackageVerbs) : Value :=
  .table [
    ("install", .text verbs.install),
    ("uninstall", .text verbs.uninstall),
    ("upgrade", ofOptionalText verbs.upgrade),
    ("version_join", ofOptionalText verbs.separator)]

/-- A repository. -/
def Repository.toValue (repository : Repository) : Value :=
  .table [
    ("identifier", .text repository.identifier),
    ("baseurl", ofOptionalText repository.baseUrl),
    ("present", .bool repository.present),
    ("description", ofOptionalText repository.description),
    ("enabled", .bool repository.enabled),
    ("gpgcheck", .bool repository.signed),
    ("gpgkey", ofOptionalText repository.key),
    ("directory", .text repository.directory),
    ("repo_type", ofOptionalText repository.layout)]

/-- The name and version of the package in a package file. -/
def RpmInfo.toValue (info : RpmInfo) : Value :=
  .table [("name", .text info.name), ("version", .text info.version)]

/-- What is recorded of a host. -/
def HostRecord.toValue (record : HostRecord) : Value :=
  .table [
    ("files", ofSet record.files),
    ("file_hashes", ofMap .text record.fileDigests),
    ("packages", ofMap ofSet record.packages),
    ("services", ofMap .bool record.services),
    ("rpms", ofMap RpmInfo.toValue record.rpms),
    ("provides", ofMap ofTexts record.provides)]

/-- Declared packages. -/
def PackagesDeclaration.toValue (declaration : PackagesDeclaration) : Value :=
  .table [
    ("packages", ofTexts declaration.packages),
    ("present", .bool declaration.present),
    ("latest", .bool declaration.latest),
    ("manager", ofOptionalText (declaration.manager.map PackageManager.name)),
    ("install", ofOptionalText declaration.install),
    ("uninstall", ofOptionalText declaration.uninstall),
    ("upgrade", ofOptionalText declaration.upgrade),
    ("version_join", ofOptionalText declaration.separator)]

/-- A declared service. -/
def ServiceDeclaration.toValue (declaration : ServiceDeclaration) : Value :=
  .table [
    ("name", .text declaration.name),
    ("init", ofOptionalText (declaration.init.map InitSystem.name)),
    ("template", ofOptionalText declaration.template),
    ("status_argument", ofOptionalText declaration.probe),
    ("running", ofOptionalBool declaration.running),
    ("restarted", .bool declaration.restarted),
    ("reloaded", .bool declaration.reloaded),
    ("command", ofOptionalText declaration.command)]

/-- A declared package file. -/
def RpmDeclaration.toValue (declaration : RpmDeclaration) : Value :=
  .table [
    ("source", .text declaration.source),
    ("present", .bool declaration.present),
    ("manager", ofOptionalText (declaration.manager.map PackageManager.name)),
    ("manager_command", ofOptionalText declaration.remover)]

/-- A declared item, with the `type` that tells which one it is. -/
def Declaration.toValue (declaration : Declaration) : Value :=
  withTag "type" declaration.kind.name <|
    match declaration with
    | .packages declared => declared.toValue
    | .service declared => declared.toValue
    | .rpm declared => declared.toValue
    | .repository declared => declared.toValue

/-- Settings of a deploy. -/
def Settings.toValue (settings : Settings) : Value :=
  .table [
    ("temp_dir", ofOptionalText settings.temporaryDirectory),
    ("jobs", ofOptionalCount settings.jobs)]

/-- A deploy. -/
def Deploy.toValue (deploy : Deploy) : Value :=
  .table [
    ("settings", deploy.settings.toValue),
    ("hosts", ofMap HostRecord.toValue deploy.hosts),
    ("operations", .array (deploy.operations.map Declaration.toValue))]

end FleetPlan
