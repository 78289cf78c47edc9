import FleetPlan.Deploy.Loading
import Mathlib.Data.List.Forall2

/-!
# Which deploys are accepted

A declaration is carried out by one operation (`Declaration.CarriedOutBy`), or it has
one fault (`Declaration.HasFault`), and it is valid exactly if it is carried out by an
operation (`Declaration.isValid_iff`). Declarations make a plan exactly if all of them
are valid, and otherwise the first one that is not is reported with its position,
whatever of the deploy is asked for (`Plan.ofDeclarations_exactly`).
-/

namespace FleetPlan

section Results

variable {ε α β : Type} {request : Except ε α} {next : α → β}

/-- What is made from a result is there exactly if the result is. -/
theorem map_eq_ok_iff {made : β} :
    request.map next = .ok made ↔ ∃ result, request = .ok result ∧ next result = made := by
  cases request <;> simp [Except.map]

/-- Making something from a result fails exactly as the result does. -/
theorem map_eq_error_iff {error : ε} :
    request.map next = .error error ↔ request = .error error := by
  cases request <;> simp [Except.map]

end Results

/-- The managers of systems whose packages come as RPM files. -/
def PackageManager.rpmManagers : List PackageManager := [.yum, .dnf, .zypper]

/-- Packages from files are removed by a manager of an RPM system, which is called by its name. -/
theorem PackageManager.rpmRemover?_eq_some_iff {manager : PackageManager} {remover : String} :
    manager.rpmRemover? = some remover ↔ manager ∈ rpmManagers ∧ remover = manager.name := by
  cases manager <;> simp [rpmRemover?, rpmManagers, name, eq_comm]

/-- Only managers of RPM systems remove packages from files. -/
theorem PackageManager.rpmRemover?_eq_none_iff {manager : PackageManager} :
    manager.rpmRemover? = none ↔ manager ∉ rpmManagers := by
  cases manager <;> simp [rpmRemover?, rpmManagers]

namespace PackagesDeclaration

variable {declared : PackagesDeclaration}

/-- The words that packages are handled with: each is the one that is declared, and that of the
declared manager where none is. -/
structure HasVerbs (declared : PackagesDeclaration) (verbs : PackageVerbs) : Prop where
  install : some verbs.install = (declared.install <|> declared.manager.map (·.verbs.install))
  uninstall :
    some verbs.uninstall = (declared.uninstall <|> declared.manager.map (·.verbs.uninstall))
  upgrade : verbs.upgrade = (declared.upgrade <|> declared.manager.bind (·.verbs.upgrade))
  separator : verbs.separator = (declared.separator <|> declared.manager.bind (·.verbs.separator))

/-- Packages have words to install and to remove them. -/
def IsValid (declared : PackagesDeclaration) : Prop :=
  declared.manager.isSome ∨ (declared.install.isSome ∧ declared.uninstall.isSome)

/-- A declaration of packages is carried out with the words that it has. -/
theorem verbs_eq_ok_iff {verbs : PackageVerbs} :
    declared.verbs = .ok verbs ↔ declared.HasVerbs verbs := by
  obtain ⟨packages, present, latest, manager, install, uninstall, upgrade, separator⟩ := declared
  obtain ⟨installWord, uninstallWord, upgradeWord, separatorWord⟩ := verbs
  -- Which preset there is depends on these three; the words beside it are the same in each case.
  constructor
  · intro made
    cases manager <;> cases install <;> cases uninstall <;> cases made <;> constructor <;> simp
  · rintro ⟨installs, uninstalls, upgrades, separates⟩
    cases manager <;> cases install <;> cases uninstall <;>
      simp_all [PackagesDeclaration.verbs, presetVerbs, Except.map]

/-- The only fault of packages is that words are missing. -/
theorem verbs_eq_error_iff {error : DeclarationError} :
    declared.verbs = .error error ↔
      ¬ declared.IsValid ∧ error = .noPackageVerbs declared.packages := by
  obtain ⟨packages, present, latest, manager, install, uninstall, upgrade, separator⟩ := declared
  cases manager <;> cases install <;> cases uninstall <;>
    simp [PackagesDeclaration.verbs, presetVerbs, Except.map, IsValid, eq_comm]

end PackagesDeclaration

namespace ServiceDeclaration

variable {declared : ServiceDeclaration}

/-- The template and the probe that a service is controlled with: each is the declared one. Where no
template is declared it is that of the init system, which is systemd where none is declared; where
no probe is declared it is that of the init system, or the plain one beside a declared template. -/
structure HasControls (declared : ServiceDeclaration) (template : ActionTemplate)
    (probe : String) : Prop where
  text : template.text = declared.template.getD (declared.init.getD .systemd).template.text
  places : ∀ placeholder, ActionTemplate.hasPlace template.text placeholder = true
  probe : probe = declared.probe.getD
    (if declared.template.isSome then InitSystem.plainProbe
      else (declared.init.getD .systemd).probe)

/-- A template, where one is declared, has a place for each placeholder. -/
def IsValid (declared : ServiceDeclaration) : Prop :=
  ∀ text, declared.template = some text → ∀ placeholder : Placeholder,
    ∃ front rest, text = front ++ placeholder.text ++ rest

/-- A service is controlled with the template and the probe that its declaration has. -/
theorem controls_eq_ok_iff {template : ActionTemplate} {probe : String} :
    declared.controls = .ok (template, probe) ↔ declared.HasControls template probe := by
  cases given : declared.template with
  | none =>
    simp only [controls, given]
    constructor
    · rintro ⟨⟩
      exact ⟨by simp [given], (declared.init.getD .systemd).isUsable_template.hasPlace,
        by simp [given]⟩
    · rintro ⟨same, -, rfl⟩
      obtain ⟨text⟩ := template
      obtain rfl : text = _ := same
      simp [given]
  | some text =>
    simp only [controls, given]
    constructor
    · intro made
      cases read : ActionTemplate.ofText text with
      | error error => simp [read] at made
      | ok found =>
        obtain ⟨rfl, places⟩ := ActionTemplate.ofText_eq_ok_iff.mp read
        rw [read] at made
        cases made
        exact ⟨by simp [given], places, by simp [given]⟩
    · rintro ⟨same, places, rfl⟩
      have read : ActionTemplate.ofText text = .ok template := by
        obtain ⟨found⟩ := template
        obtain rfl : found = text := by simpa [given] using same
        exact ActionTemplate.ofText_eq_ok_iff.mpr ⟨rfl, places⟩
      simp [given, read]

/-- The only fault of a service is that its template lacks a placeholder. -/
theorem controls_eq_error_iff {error : DeclarationError} :
    declared.controls = .error error ↔
      ∃ text refusal, declared.template = some text ∧
        ActionTemplate.ofText text = .error refusal ∧ error = .template refusal := by
  cases given : declared.template with
  | none => simp [controls, given]
  | some text =>
    cases read : ActionTemplate.ofText text <;> simp [controls, given, read, eq_comm]

end ServiceDeclaration

namespace RpmDeclaration

variable {declared : RpmDeclaration}

/-- The program that removes a package from a file: the declared one, or the declared manager of an
RPM system, which is yum where none is declared. -/
inductive HasRemover (declared : RpmDeclaration) : String → Prop
  | given {remover : String} (given : declared.remover = some remover) : HasRemover declared remover
  | preset {manager : PackageManager} (absent : declared.remover = none)
      (managed : declared.manager.getD .yum = manager)
      (rpm : manager ∈ PackageManager.rpmManagers) : HasRemover declared manager.name

/-- A package file has a program that removes it, or no manager, or that of an RPM system. -/
def IsValid (declared : RpmDeclaration) : Prop :=
  declared.remover.isSome ∨ declared.manager = none ∨
    ∃ manager ∈ PackageManager.rpmManagers, declared.manager = some manager

/-- A package file's package is removed by the program that its declaration has. -/
theorem removalProgram_eq_ok_iff {remover : String} :
    declared.removalProgram = .ok remover ↔ declared.HasRemover remover := by
  constructor
  · intro made
    cases given : declared.remover with
    | some program =>
      simp only [removalProgram, given] at made
      cases made
      exact .given given
    | none =>
      cases managed : declared.manager with
      | none =>
        simp only [removalProgram, given, managed] at made
        cases made
        have usual : declared.HasRemover PackageManager.yum.name :=
          .preset given (by simp [managed]) (by decide)
        exact usual
      | some manager =>
        cases program : manager.rpmRemover? with
        | none => simp [removalProgram, given, managed, program] at made
        | some program' =>
          simp only [removalProgram, given, managed, program] at made
          cases made
          obtain ⟨rpm, rfl⟩ := PackageManager.rpmRemover?_eq_some_iff.mp program
          exact .preset given (by simp [managed]) rpm
  · rintro (given | ⟨absent, rfl, rpm⟩)
    · simp [removalProgram, given]
    · cases managed : declared.manager with
      | none => simp only [removalProgram, absent, managed]; rfl
      | some manager =>
        have program := PackageManager.rpmRemover?_eq_some_iff.mpr
          ⟨by simpa [managed] using rpm, rfl⟩
        simp [removalProgram, absent, managed, program]

/-- The only fault of a package file is that its manager does not remove package files. -/
theorem removalProgram_eq_error_iff {error : DeclarationError} :
    declared.removalProgram = .error error ↔
      declared.remover = none ∧ ∃ manager, declared.manager = some manager ∧
        manager ∉ PackageManager.rpmManagers ∧ error = .noRpmRemover declared.source manager := by
  cases given : declared.remover with
  | some program => simp [removalProgram, given]
  | none =>
    cases managed : declared.manager with
    | none => simp [removalProgram, given, managed]
    | some manager =>
      cases program : manager.rpmRemover? with
      | none =>
        have other : manager ∉ PackageManager.rpmManagers :=
          PackageManager.rpmRemover?_eq_none_iff.mp program
        simp [removalProgram, given, managed, program, other, eq_comm]
      | some remover =>
        have rpm : manager ∈ PackageManager.rpmManagers :=
          (PackageManager.rpmRemover?_eq_some_iff.mp program).1
        simp [removalProgram, given, managed, program, rpm]

end RpmDeclaration

namespace Declaration

/-- What tells a declaration from others of its kind. -/
def identifier : Declaration → String
  | .packages declared => ",".intercalate declared.packages
  | .service declared => declared.name
  | .rpm declared => declared.source
  | .repository declared => declared.identifier

/-- Whether a declaration says what its operation needs. -/
def IsValid : Declaration → Prop
  | .packages declared => declared.IsValid
  | .service declared => declared.IsValid
  | .rpm declared => declared.IsValid
  | .repository _ => True

/-- The operation that a declaration asks for, with the settings that it makes and those that are
preset where it makes none. -/
inductive CarriedOutBy : Declaration → Operation → Prop
  | packages {declared : PackagesDeclaration} {verbs : PackageVerbs}
      (hasVerbs : declared.HasVerbs verbs) :
      CarriedOutBy (.packages declared)
        (.packages declared.packages declared.present declared.latest verbs)
  | service {declared : ServiceDeclaration} {template : ActionTemplate} {probe : String}
      (hasControls : declared.HasControls template probe) :
      CarriedOutBy (.service declared)
        (.service declared.name template
          ⟨declared.running, declared.restarted, declared.reloaded, declared.command, probe⟩)
  | rpm {declared : RpmDeclaration} {remover : String} (hasRemover : declared.HasRemover remover) :
      CarriedOutBy (.rpm declared) (.rpm ⟨declared.source, declared.present, remover⟩)
  | repository (declared : Repository) : CarriedOutBy (.repository declared) (.repository declared)

/-- What makes a declaration useless, and what is told of it. -/
inductive HasFault : Declaration → DeclarationError → Prop
  /-- Packages have no manager and not both words. -/
  | wordless {declared : PackagesDeclaration} (invalid : ¬ declared.IsValid) :
      HasFault (.packages declared) (.noPackageVerbs declared.packages)
  /-- The template of a service has no place for its name. -/
  | nameless {declared : ServiceDeclaration} {text : String}
      (given : declared.template = some text)
      (missing : ActionTemplate.hasPlace text .name = false) :
      HasFault (.service declared) (.template (.invalidTemplate text .name))
  /-- The template of a service has a place for its name but none for the action. -/
  | actionless {declared : ServiceDeclaration} {text : String}
      (given : declared.template = some text)
      (named : ActionTemplate.hasPlace text .name = true)
      (missing : ActionTemplate.hasPlace text .action = false) :
      HasFault (.service declared) (.template (.invalidTemplate text .action))
  /-- A package file has a manager that is not for RPM systems, and no program of its own. -/
  | unremovable {declared : RpmDeclaration} {manager : PackageManager}
      (absent : declared.remover = none) (managed : declared.manager = some manager)
      (other : manager ∉ PackageManager.rpmManagers) :
      HasFault (.rpm declared) (.noRpmRemover declared.source manager)

variable {declaration : Declaration}

/-- A declaration makes the operation that carries it out. -/
theorem operation_eq_ok_iff {operation : Operation} :
    declaration.operation = .ok operation ↔ declaration.CarriedOutBy operation := by
  constructor
  · intro made
    cases declaration with
    | packages declared =>
      obtain ⟨verbs, words, rfl⟩ := map_eq_ok_iff.mp made
      exact .packages (PackagesDeclaration.verbs_eq_ok_iff.mp words)
    | service declared =>
      obtain ⟨⟨template, probe⟩, controls, rfl⟩ := map_eq_ok_iff.mp made
      exact .service (ServiceDeclaration.controls_eq_ok_iff.mp controls)
    | rpm declared =>
      obtain ⟨remover, program, rfl⟩ := map_eq_ok_iff.mp made
      exact .rpm (RpmDeclaration.removalProgram_eq_ok_iff.mp program)
    | repository declared =>
      cases made
      exact .repository declared
  · rintro (hasVerbs | hasControls | hasRemover | declared)
    · exact map_eq_ok_iff.mpr ⟨_, PackagesDeclaration.verbs_eq_ok_iff.mpr hasVerbs, rfl⟩
    · exact map_eq_ok_iff.mpr ⟨_, ServiceDeclaration.controls_eq_ok_iff.mpr hasControls, rfl⟩
    · exact map_eq_ok_iff.mpr ⟨_, RpmDeclaration.removalProgram_eq_ok_iff.mpr hasRemover, rfl⟩
    · rfl

/-- A declaration makes no operation where it has a fault, and this is what is told. -/
theorem operation_eq_error_iff {error : DeclarationError} :
    declaration.operation = .error error ↔ declaration.HasFault error := by
  constructor
  · intro failed
    cases declaration with
    | packages declared =>
      obtain ⟨invalid, rfl⟩ :=
        PackagesDeclaration.verbs_eq_error_iff.mp (map_eq_error_iff.mp failed)
      exact .wordless invalid
    | service declared =>
      obtain ⟨text, refusal, given, refused, rfl⟩ :=
        ServiceDeclaration.controls_eq_error_iff.mp (map_eq_error_iff.mp failed)
      rcases ActionTemplate.ofText_eq_error_iff.mp refused with
        ⟨missing, rfl⟩ | ⟨named, missing, rfl⟩
      · exact .nameless given missing
      · exact .actionless given named missing
    | rpm declared =>
      obtain ⟨absent, manager, managed, other, rfl⟩ :=
        RpmDeclaration.removalProgram_eq_error_iff.mp (map_eq_error_iff.mp failed)
      exact .unremovable absent managed other
    | repository declared => cases failed
  · rintro (invalid | ⟨given, missing⟩ | ⟨given, named, missing⟩ | ⟨absent, managed, other⟩)
    · exact map_eq_error_iff.mpr (PackagesDeclaration.verbs_eq_error_iff.mpr ⟨invalid, rfl⟩)
    · exact map_eq_error_iff.mpr (ServiceDeclaration.controls_eq_error_iff.mpr ⟨_, _, given,
        ActionTemplate.ofText_eq_error_iff.mpr (.inl ⟨missing, rfl⟩), rfl⟩)
    · exact map_eq_error_iff.mpr (ServiceDeclaration.controls_eq_error_iff.mpr ⟨_, _, given,
        ActionTemplate.ofText_eq_error_iff.mpr (.inr ⟨named, missing, rfl⟩), rfl⟩)
    · exact map_eq_error_iff.mpr
        (RpmDeclaration.removalProgram_eq_error_iff.mpr ⟨absent, _, managed, other, rfl⟩)

/-- A valid declaration has no fault. -/
theorem HasFault.not_isValid {error : DeclarationError} (fault : declaration.HasFault error) :
    ¬ declaration.IsValid := by
  intro valid
  rcases fault with invalid | ⟨given, missing⟩ | ⟨given, -, missing⟩ | ⟨absent, managed, other⟩
  · exact invalid valid
  · have place := ActionTemplate.hasPlace_iff.mpr (valid _ given .name)
    simp [missing] at place
  · have place := ActionTemplate.hasPlace_iff.mpr (valid _ given .action)
    simp [missing] at place
  · rcases valid with remover | unmanaged | ⟨manager, rpm, same⟩
    · simp [absent] at remover
    · simp [managed] at unmanaged
    · obtain rfl : manager = _ := Option.some.inj (same.symm.trans managed)
      exact other rpm

/-- A declaration that is not valid has a fault. -/
theorem exists_hasFault (invalid : ¬ declaration.IsValid) :
    ∃ error, declaration.HasFault error := by
  cases declaration with
  | packages declared => exact ⟨_, .wordless invalid⟩
  | service declared =>
    simp only [IsValid, ServiceDeclaration.IsValid, not_forall] at invalid
    obtain ⟨text, given, placeholder, missing⟩ := invalid
    rw [← ActionTemplate.hasPlace_iff, Bool.not_eq_true] at missing
    cases named : ActionTemplate.hasPlace text .name with
    | false => exact ⟨_, .nameless given named⟩
    | true =>
      cases placeholder with
      | name => simp [missing] at named
      | action => exact ⟨_, .actionless given named missing⟩
  | rpm declared =>
    simp only [IsValid, RpmDeclaration.IsValid, not_or, not_exists, not_and] at invalid
    obtain ⟨absent, managed, other⟩ := invalid
    obtain ⟨manager, given⟩ := Option.ne_none_iff_exists'.mp managed
    exact ⟨_, .unremovable (by simpa using absent) given fun rpm => other manager rpm given⟩
  | repository declared => exact absurd trivial invalid

/-- A declaration is valid exactly if an operation carries it out. -/
theorem isValid_iff : declaration.IsValid ↔ ∃ operation, declaration.CarriedOutBy operation := by
  constructor
  · intro valid
    cases made : declaration.operation with
    | error error => exact absurd valid (operation_eq_error_iff.mp made).not_isValid
    | ok operation => exact ⟨operation, operation_eq_ok_iff.mp made⟩
  · rintro ⟨operation, carriedOut⟩
    by_contra invalid
    obtain ⟨error, fault⟩ := exists_hasFault invalid
    have failed := operation_eq_error_iff.mpr fault
    rw [operation_eq_ok_iff.mpr carriedOut] at failed
    cases failed

/-- The operation that carries out a declaration is of its kind and has its identifier. -/
theorem CarriedOutBy.names {operation : Operation}
    (carriedOut : declaration.CarriedOutBy operation) :
    operation.kind = declaration.kind ∧ operation.identifier = declaration.identifier := by
  cases carriedOut <;> exact ⟨rfl, rfl⟩

end Declaration

/-- Declarations make operations exactly if each is carried out by the one at its place. -/
theorem operationsFrom_eq_ok_iff {position : Nat} {declarations : List Declaration}
    {operations : List Operation} :
    operationsFrom position declarations = .ok operations ↔
      List.Forall₂ Declaration.CarriedOutBy declarations operations := by
  induction declarations generalizing position operations with
  | nil => simp [operationsFrom, eq_comm]
  | cons declaration declarations hypothesis =>
    rw [List.forall₂_cons_left_iff]
    cases made : declaration.operation with
    | error error =>
      have fault := (Declaration.operation_eq_error_iff.mp made).not_isValid
      rw [Declaration.isValid_iff, not_exists] at fault
      simp [operationsFrom, made, fault]
    | ok operation =>
      simp only [operationsFrom, made, map_eq_ok_iff, hypothesis]
      constructor
      · rintro ⟨rest, carriedOut, rfl⟩
        exact ⟨operation, rest, Declaration.operation_eq_ok_iff.mp made, carriedOut, rfl⟩
      · rintro ⟨other, rest, first, carriedOut, rfl⟩
        have same := made.symm.trans (Declaration.operation_eq_ok_iff.mpr first)
        exact ⟨rest, carriedOut, congrArg (· :: rest) (Except.ok.inj same)⟩

/-- Declarations fail with the fault and the position of the first that is not valid. -/
theorem operationsFrom_eq_error_iff {position : Nat} {declarations : List Declaration}
    {invalid : InvalidDeclaration} :
    operationsFrom position declarations = .error invalid ↔
      ∃ before declaration after, declarations = before ++ declaration :: after ∧
        (∀ earlier ∈ before, earlier.IsValid) ∧ declaration.HasFault invalid.error ∧
        invalid.position = position + before.length := by
  induction declarations generalizing position with
  | nil => simp [operationsFrom]
  | cons declaration declarations hypothesis =>
    cases made : declaration.operation with
    | error error =>
      simp only [operationsFrom, made, Except.error.injEq]
      constructor
      · rintro rfl
        exact ⟨[], declaration, declarations, rfl, List.forall_mem_nil _,
          Declaration.operation_eq_error_iff.mp made, rfl⟩
      · rintro ⟨before, first, after, whole, valid, fault, counted⟩
        cases before with
        | nil =>
          cases whole
          obtain ⟨place, other⟩ := invalid
          have same := made.symm.trans (Declaration.operation_eq_error_iff.mpr fault)
          obtain rfl : error = other := Except.error.inj same
          obtain rfl : place = position := counted
          rfl
        | cons earlier before =>
          cases whole
          exact absurd (valid _ (List.mem_cons_self ..))
            (Declaration.operation_eq_error_iff.mp made).not_isValid
    | ok operation =>
      have isValid : declaration.IsValid :=
        Declaration.isValid_iff.mpr ⟨operation, Declaration.operation_eq_ok_iff.mp made⟩
      simp only [operationsFrom, made, map_eq_error_iff, hypothesis]
      constructor
      · rintro ⟨before, first, after, rfl, valid, fault, counted⟩
        refine ⟨declaration :: before, first, after, rfl, ?_, fault, ?_⟩
        · exact List.forall_mem_cons.mpr ⟨isValid, valid⟩
        · rw [counted, List.length_cons]
          omega
      · rintro ⟨before, first, after, whole, valid, fault, counted⟩
        cases before with
        | nil =>
          cases whole
          exact absurd isValid fault.not_isValid
        | cons earlier before =>
          cases whole
          refine ⟨before, first, after, rfl, (List.forall_mem_cons.mp valid).2, fault, ?_⟩
          rw [counted, List.length_cons]
          omega

namespace Plan

variable {declarations : List Declaration}

/-- A plan is made from declarations by the operations that carry them out. -/
theorem ofDeclarations_eq_ok_iff {plan : Plan} :
    ofDeclarations declarations = .ok plan ↔
      List.Forall₂ Declaration.CarriedOutBy declarations plan.operations := by
  rw [ofDeclarations, map_eq_ok_iff]
  constructor
  · rintro ⟨operations, made, rfl⟩
    exact operationsFrom_eq_ok_iff.mp made
  · intro carriedOut
    exact ⟨plan.operations, operationsFrom_eq_ok_iff.mpr carriedOut, rfl⟩

/-- Declarations make a plan exactly if all of them are valid. -/
theorem exists_ofDeclarations_iff :
    (∃ plan, ofDeclarations declarations = .ok plan) ↔
      ∀ declaration ∈ declarations, declaration.IsValid := by
  constructor
  · rintro ⟨plan, made⟩
    have carriedOut := (ofDeclarations_eq_ok_iff.mp made).imp fun declaration operation first =>
      And.intro (Declaration.isValid_iff.mpr ⟨operation, first⟩) first
    exact (List.forall₂_and_left declarations plan.operations).mp carriedOut |>.1
  · intro valid
    cases made : ofDeclarations declarations with
    | ok plan => exact ⟨plan, rfl⟩
    | error invalid =>
      obtain ⟨before, declaration, after, rfl, -, fault, -⟩ :=
        operationsFrom_eq_error_iff.mp (map_eq_error_iff.mp made)
      exact absurd (valid declaration (by simp)) fault.not_isValid

end Plan

namespace Deploy

/-- What of a deploy is asked for narrows the plan once it is made, and nothing else. -/
theorem narrow_eq_map (deploy : Deploy) (path : String) (target host : Option String) :
    deploy.narrow path ⟨target, host⟩ =
      (deploy.narrow path ⟨none, host⟩).map fun all =>
        { all with plan := all.plan.select target } := by
  unfold narrow
  cases Plan.ofDeclarations deploy.operations with
  | error invalid => rfl
  | ok plan =>
    simp only
    split <;> rfl

/-- A deploy is refused for a declaration exactly if its declarations make no plan. -/
theorem narrow_eq_invalidDeclaration_iff {deploy : Deploy} {path : String}
    {selection : Selection} {invalid : InvalidDeclaration} :
    deploy.narrow path selection = .error (.invalidDeclaration invalid) ↔
      Plan.ofDeclarations deploy.operations = .error invalid := by
  unfold narrow
  cases Plan.ofDeclarations deploy.operations with
  | error other => simp
  | ok plan =>
    simp only
    split <;> simp

end Deploy

/-- A deploy is accepted as a whole or not at all.

Its declarations make a plan exactly if all of them are valid. The plan has one operation for each
declaration at its place, of its kind and with its identifier, which carries it out with what is
declared before what is preset. Otherwise what is reported is the fault of the first declaration
that is not valid, with its position counted from one. What of the deploy is asked for does not
matter for that: a target only narrows the plan that was made. -/
theorem Plan.ofDeclarations_exactly (declarations : List Declaration) :
    ((∃ plan, ofDeclarations declarations = .ok plan) ↔
        ∀ declaration ∈ declarations, declaration.IsValid) ∧
      (∀ plan, ofDeclarations declarations = .ok plan ↔
        List.Forall₂ (fun declaration operation =>
          operation.kind = declaration.kind ∧ operation.identifier = declaration.identifier ∧
            declaration.CarriedOutBy operation) declarations plan.operations) ∧
      (∀ invalid, ofDeclarations declarations = .error invalid ↔
        ∃ before declaration after, declarations = before ++ declaration :: after ∧
          (∀ earlier ∈ before, earlier.IsValid) ∧ declaration.HasFault invalid.error ∧
          invalid.position = before.length + 1 ∧
          (LoadError.invalidDeclaration invalid).chain =
            [s!"operation #{before.length + 1} is invalid", invalid.error.message]) ∧
      ∀ settings hosts path target host,
        (∀ invalid, (Deploy.mk settings hosts declarations).narrow path ⟨target, host⟩ =
          .error (.invalidDeclaration invalid) ↔ ofDeclarations declarations = .error invalid) ∧
        (Deploy.mk settings hosts declarations).narrow path ⟨target, host⟩ =
          ((Deploy.mk settings hosts declarations).narrow path ⟨none, host⟩).map fun all =>
            { all with plan := all.plan.select target } := by
  refine ⟨exists_ofDeclarations_iff, ?_, ?_, ?_⟩
  · intro plan
    rw [ofDeclarations_eq_ok_iff]
    constructor
    · intro carriedOut
      exact carriedOut.imp fun declaration operation first =>
        ⟨first.names.1, first.names.2, first⟩
    · intro carriedOut
      exact carriedOut.imp fun declaration operation first => first.2.2
  · intro invalid
    rw [ofDeclarations, map_eq_error_iff, operationsFrom_eq_error_iff]
    constructor
    · rintro ⟨before, declaration, after, whole, valid, fault, counted⟩
      rw [Nat.add_comm] at counted
      refine ⟨before, declaration, after, whole, valid, fault, counted, ?_⟩
      rw [LoadError.chain, InvalidDeclaration.context, counted]
    · rintro ⟨before, declaration, after, whole, valid, fault, counted, -⟩
      exact ⟨before, declaration, after, whole, valid, fault, by omega⟩
  · intro settings hosts path target host
    exact ⟨fun invalid => Deploy.narrow_eq_invalidDeclaration_iff,
      Deploy.narrow_eq_map _ path target host⟩

/-- Declarations that say more than they have to, beside the presets that they have. -/
def outspokenDeclarations : List Declaration :=
  [.packages ⟨["vim==9", "git"], true, true, some .apt, some "apt-get install", none, none,
      some "=="⟩,
    .service ⟨"app", some .openrc, some "supervisorctl {action} {name}", some "pid", some true,
      false, false, none⟩,
    .rpm ⟨"/srv/app.rpm", false, some .apt, some "dnf"⟩,
    .repository (.ofIdentifier "epel")]

/-- The plan in which only what is not declared is preset. -/
def outspokenPlan : Plan where
  operations :=
    [.packages ["vim==9", "git"] true true
        ⟨"apt-get install", PackageManager.apt.verbs.uninstall, PackageManager.apt.verbs.upgrade,
          some "=="⟩,
      .service "app" ⟨"supervisorctl {action} {name}"⟩ ⟨some true, false, false, none, "pid"⟩,
      .rpm ⟨"/srv/app.rpm", false, "dnf"⟩,
      .repository (.ofIdentifier "epel")]

/-- Two declarations that cannot be carried out. -/
def uselessDeclarations : List Declaration :=
  [.service ⟨"db", some .systemd, some "service db {action}", none, none, true, false, none⟩,
    .rpm ⟨"/srv/db.rpm", false, some .apt, none⟩]

/-- Declarations are accepted with what they say themselves, and of two that cannot be carried out
the first is reported, at its place behind the others. -/
theorem Plan.ofDeclarations_exactly_outspoken :
    (∀ declaration ∈ outspokenDeclarations, declaration.IsValid) ∧
      ofDeclarations outspokenDeclarations = .ok outspokenPlan ∧
      ofDeclarations (outspokenDeclarations ++ uselessDeclarations) =
        .error ⟨5, .template (.invalidTemplate "service db {action}" .name)⟩ := by
  obtain ⟨accepted, made, -, -⟩ := ofDeclarations_exactly outspokenDeclarations
  obtain ⟨-, -, refused, -⟩ := ofDeclarations_exactly (outspokenDeclarations ++ uselessDeclarations)
  have plan : ofDeclarations outspokenDeclarations = .ok outspokenPlan := by
    refine (made outspokenPlan).mpr (.cons ⟨rfl, rfl, ?_⟩ (.cons ⟨rfl, rfl, ?_⟩
      (.cons ⟨rfl, rfl, ?_⟩ (.cons ⟨rfl, rfl, ?_⟩ .nil))))
    · exact .packages ⟨rfl, rfl, rfl, rfl⟩
    · exact .service ⟨rfl, fun placeholder => by cases placeholder <;> decide, rfl⟩
    · exact .rpm (.given rfl)
    · exact .repository _
  have valid := accepted.mp ⟨outspokenPlan, plan⟩
  have missing : ActionTemplate.hasPlace "service db {action}" .name = false := by decide
  refine ⟨valid, plan, (refused _).mpr ?_⟩
  exact ⟨outspokenDeclarations, _, _, rfl, valid, .nameless rfl missing, rfl, rfl⟩

end FleetPlan
