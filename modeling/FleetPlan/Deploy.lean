import FleetPlan.Plan

/-!
# Deploys

A deploy declares hosts with what is recorded of them, and items that every host
should have. Its declarations become the operations of a plan; a declaration that
cannot be used makes the whole deploy unusable, and the error says which it was.
-/

namespace FleetPlan

/-- Packages as they are declared. -/
structure PackagesDeclaration where
  packages : List String
  present : Bool
  latest : Bool
  manager : Option PackageManager
  install : Option String
  uninstall : Option String
  upgrade : Option String
  separator : Option String
  deriving DecidableEq, Repr, Inhabited

/-- A service as it is declared. -/
structure ServiceDeclaration where
  name : String
  init : Option InitSystem
  template : Option String
  probe : Option String
  running : Option Bool
  restarted : Bool
  reloaded : Bool
  command : Option String
  deriving DecidableEq, Repr, Inhabited

/-- A package file as it is declared. -/
structure RpmDeclaration where
  source : String
  present : Bool
  manager : Option PackageManager
  /-- The program that removes packages. -/
  remover : Option String
  deriving DecidableEq, Repr, Inhabited

/-- An item that every host should have. -/
inductive Declaration where
  | packages (declaration : PackagesDeclaration)
  | service (declaration : ServiceDeclaration)
  | rpm (declaration : RpmDeclaration)
  | repository (repository : Repository)
  deriving DecidableEq, Repr

/-- Settings of a deploy. -/
structure Settings where
  /-- The directory on the hosts for downloads. -/
  temporaryDirectory : Option String
  /-- How many hosts are planned at the same time. -/
  jobs : Option Nat
  deriving DecidableEq, Repr, Inhabited

/-- Hosts and the items that they should have. -/
structure Deploy where
  settings : Settings
  hosts : SortedMap HostRecord
  operations : List Declaration
  deriving DecidableEq, Inhabited

/-- Why a declaration cannot be used. -/
inductive DeclarationError where
  /-- Packages without the words to install and remove them. -/
  | noPackageVerbs (packages : List String)
  /-- A package manager that does not remove package files. -/
  | noRpmRemover (source : String) (manager : PackageManager)
  /-- A service whose template cannot be used. -/
  | template (error : ReconcileError)
  deriving DecidableEq, Repr

/-- The sentence that reports an unusable declaration. -/
def DeclarationError.message : DeclarationError → String
  | .noPackageVerbs packages =>
    "packages " ++ Text.quotedList packages ++
      ": set `manager` or both `install` and `uninstall`"
  | .noRpmRemover source manager =>
    "rpm " ++ source ++ ": " ++ manager.title ++ " cannot remove RPMs"
  | .template error => error.message

namespace PackagesDeclaration

/-- The words of the manager, or those to install and remove. -/
def presetVerbs (declaration : PackagesDeclaration) : Except DeclarationError PackageVerbs :=
  match declaration.manager, declaration.install, declaration.uninstall with
  | some manager, _, _ => .ok manager.verbs
  | none, some install, some uninstall => .ok ⟨install, uninstall, none, none⟩
  | none, _, _ => .error (.noPackageVerbs declaration.packages)

/-- The words that the declaration is carried out with: those it gives, before those of the
manager. -/
def verbs (declaration : PackagesDeclaration) : Except DeclarationError PackageVerbs :=
  declaration.presetVerbs.map fun preset =>
    { install := declaration.install.getD preset.install
      uninstall := declaration.uninstall.getD preset.uninstall
      upgrade := declaration.upgrade <|> preset.upgrade
      separator := declaration.separator <|> preset.separator }

end PackagesDeclaration

namespace ServiceDeclaration

/-- The template and the probe of a service. A template of its own comes before that of an init
system, and where neither is given the init system is systemd. -/
def controls (declaration : ServiceDeclaration) :
    Except DeclarationError (ActionTemplate × String) :=
  match declaration.template with
  | some text =>
    match ActionTemplate.ofText text with
    | .ok template => .ok (template, declaration.probe.getD InitSystem.plainProbe)
    | .error error => .error (.template error)
  | none =>
    let init := declaration.init.getD .systemd
    .ok (init.template, declaration.probe.getD init.probe)

/-- A declared service is controlled with a usable template. -/
theorem isUsable_of_controls {declaration : ServiceDeclaration} {template : ActionTemplate}
    {probe : String} (controls : declaration.controls = .ok (template, probe)) :
    template.IsUsable := by
  unfold ServiceDeclaration.controls at controls
  cases given : declaration.template with
  | some text =>
    simp only [given] at controls
    cases read : ActionTemplate.ofText text with
    | error error =>
      rw [read] at controls
      cases controls
    | ok found =>
      rw [read] at controls
      cases controls
      exact ActionTemplate.isUsable_of_ofText read
  | none =>
    simp only [given] at controls
    cases controls
    exact (declaration.init.getD .systemd).isUsable_template

end ServiceDeclaration

namespace RpmDeclaration

/-- The program that removes packages where neither it nor a manager is given. -/
def plainRemover : String := "yum"

/-- The program that removes packages: the given one, or that of the manager. -/
def removalProgram (declaration : RpmDeclaration) : Except DeclarationError String :=
  match declaration.remover, declaration.manager with
  | some remover, _ => .ok remover
  | none, none => .ok plainRemover
  | none, some manager =>
    match manager.rpmRemover? with
    | some remover => .ok remover
    | none => .error (.noRpmRemover declaration.source manager)

end RpmDeclaration

namespace Declaration

/-- The kind of item that is declared. -/
def kind : Declaration → OperationKind
  | .packages _ => .packages
  | .service _ => .service
  | .rpm _ => .rpm
  | .repository _ => .repository

/-- The operation that a declaration asks for. -/
def operation : Declaration → Except DeclarationError Operation
  | .packages declared =>
    declared.verbs.map (.packages declared.packages declared.present declared.latest ·)
  | .service declared =>
    declared.controls.map fun controls =>
      .service declared.name controls.1
        ⟨declared.running, declared.restarted, declared.reloaded, declared.command, controls.2⟩
  | .rpm declared =>
    declared.removalProgram.map fun remover => .rpm ⟨declared.source, declared.present, remover⟩
  | .repository declared => .ok (.repository declared)

end Declaration

/-- A declaration that cannot be used, with its position counted from one. -/
structure InvalidDeclaration where
  position : Nat
  error : DeclarationError
  deriving DecidableEq, Repr

/-- What the position of an unusable declaration is reported by. -/
def InvalidDeclaration.context (invalid : InvalidDeclaration) : String :=
  s!"operation #{invalid.position} is invalid"

/-- The operations of declarations, the first of which has a position. -/
def operationsFrom (position : Nat) :
    List Declaration → Except InvalidDeclaration (List Operation)
  | [] => .ok []
  | declaration :: declarations =>
    match declaration.operation with
    | .error error => .error ⟨position, error⟩
    | .ok operation => (operationsFrom (position + 1) declarations).map (operation :: ·)

/-- The plan that declarations ask for, or the first one that cannot be used. -/
def Plan.ofDeclarations (declarations : List Declaration) : Except InvalidDeclaration Plan :=
  (operationsFrom 1 declarations).map Plan.mk

end FleetPlan
