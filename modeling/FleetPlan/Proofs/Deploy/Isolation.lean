import FleetPlan.Deploy.Loading
import FleetPlan.Proofs.Plan.Interleaving

/-!
# Hosts are planned apart from each other

What is planned for a host depends on the plan and on that host only: not on the
other hosts, not on how many are planned at a time or in which order they take
turns, and not on whether the deploy was narrowed to the host when it was loaded
(`planHosts_isolated`). A deploy that is narrowed to a declared host is the whole
deploy with the other hosts left out (`Deploy.narrow_of_declared`).
-/

namespace FleetPlan

namespace Plan

variable (plan : Plan)

/-- What is planned for several hosts, and what is told meanwhile. -/
theorem planHosts_eq_map (hosts : List HostInput) (jobs : Nat)
    (order : Interleaving hosts.length plan.size) :
    plan.planHosts hosts jobs order =
      (hosts.map plan.reportFor,
        .start hosts.length ::
          hosts.map (fun input => .host input.session.host
            (decide ((plan.reportFor input).commands ≠ []))) ++
          [.finish]) := by
  have told : (fun report : HostReport => Progress.host report.host report.hasChanges) ∘
      plan.reportFor = fun input => Progress.host input.session.host
        (decide ((plan.reportFor input).commands ≠ [])) := by
    funext input
    exact congrArg (Progress.host input.session.host) (plan.reportFor input).hasChanges_eq
  rw [planHosts_eq, Progress.ofReports, reports, List.length_map, List.map_map, told]

/-- The report at a place depends on the host at that place. -/
theorem getElem?_planHosts {hosts others : List HostInput} {position : Nat}
    (sameHost : hosts[position]? = others[position]?) (jobs otherJobs : Nat)
    (order : Interleaving hosts.length plan.size)
    (otherOrder : Interleaving others.length plan.size) :
    (plan.planHosts hosts jobs order).1[position]? =
      (plan.planHosts others otherJobs otherOrder).1[position]? := by
  rw [planHosts_eq_map, planHosts_eq_map, List.getElem?_map, List.getElem?_map, sameHost]

end Plan

namespace Deploy

variable {deploy : Deploy} {host : String} {record : HostRecord}

/-- A deploy narrowed to a declared host is the whole deploy with that host only. -/
theorem narrow_of_declared (declared : deploy.hosts.get? host = some record) (path : String)
    (target : Option String) :
    deploy.narrow path ⟨target, some host⟩ =
      (deploy.narrow path ⟨target, none⟩).map fun all =>
        { all with hosts := [(host, record)] } := by
  have narrowed : deploy.hostsFor (some host) = [(host, record)] :=
    SortedMap.filter_entries_of_get? declared
  unfold narrow
  cases Plan.ofDeclarations deploy.operations with
  | error invalid => rfl
  | ok plan =>
    simp only [narrowed]
    rfl

/-- A deploy that is not narrowed to a host has all declared hosts. -/
theorem hosts_of_narrow {all : LoadedDeploy} {path : String} {target : Option String}
    (loaded : deploy.narrow path ⟨target, none⟩ = .ok all) : all.hosts = deploy.hosts.entries := by
  unfold narrow at loaded
  cases valid : Plan.ofDeclarations deploy.operations with
  | error invalid =>
    rw [valid] at loaded
    cases loaded
  | ok plan =>
    rw [valid] at loaded
    cases loaded
    rfl

end Deploy

namespace LoadedDeploy

/-- Plan the hosts of a deploy: their reports, and what is told. -/
def planHosts (deploy : LoadedDeploy) (jobs : Nat)
    (order : Interleaving deploy.inputs.length deploy.plan.size) :
    List HostReport × List Progress :=
  deploy.plan.planHosts deploy.inputs jobs order

/-- The reports of a deploy are made host by host. -/
theorem planHosts_fst (deploy : LoadedDeploy) (jobs : Nat)
    (order : Interleaving deploy.inputs.length deploy.plan.size) :
    (deploy.planHosts jobs order).1 = deploy.reports :=
  congrArg Prod.fst (deploy.plan.planHosts_eq deploy.inputs jobs order)

/-- The report of one host of a deploy. -/
def reportOf (deploy : LoadedDeploy) (entry : String × HostRecord) : HostReport :=
  deploy.plan.reportFor (.ofRecord deploy.temporaryDirectory entry.1 entry.2)

/-- The reports of a deploy with the name of one host are those of the entries with that name. -/
theorem filter_reports (deploy : LoadedDeploy) (host : String) :
    (deploy.reports.filter fun report => report.host = host) =
      (deploy.hosts.filter fun entry => entry.1 = host).map deploy.reportOf := by
  have reportsOf : deploy.reports = deploy.hosts.map deploy.reportOf := by
    rw [reports, inputs, Plan.reports, List.map_map]
    rfl
  rw [reportsOf, List.filter_map]
  rfl

end LoadedDeploy

/-- Hosts are planned apart from each other.

The reports are those of the hosts on their own, in their order. What is told is the number of
hosts, then for each host in its order whether its report has a command, and then the end. The
report at a place stays the same whatever the other hosts, the jobs and the order of turns are. A
deploy that is loaded for one declared host fails as the whole deploy does, or has the one report
that the host has when all hosts are planned. -/
theorem planHosts_isolated :
    (∀ (plan : Plan) (hosts : List HostInput) (jobs : Nat)
      (order : Interleaving hosts.length plan.size),
      plan.planHosts hosts jobs order =
        (hosts.map plan.reportFor,
          .start hosts.length ::
            hosts.map (fun input => .host input.session.host
              (decide ((plan.reportFor input).commands ≠ []))) ++
            [.finish])) ∧
    (∀ (plan : Plan) (hosts others : List HostInput) (position jobs otherJobs : Nat)
      (order : Interleaving hosts.length plan.size)
      (otherOrder : Interleaving others.length plan.size),
      hosts[position]? = others[position]? →
      (plan.planHosts hosts jobs order).1[position]? =
        (plan.planHosts others otherJobs otherOrder).1[position]?) ∧
    ∀ (deploy : Deploy) (path : String) (target : Option String) (host : String)
      (record : HostRecord), deploy.hosts.get? host = some record →
      (∀ error, deploy.narrow path ⟨target, none⟩ = .error error →
        deploy.narrow path ⟨target, some host⟩ = .error error) ∧
      ∀ all, deploy.narrow path ⟨target, none⟩ = .ok all →
        ∃ one report, deploy.narrow path ⟨target, some host⟩ = .ok one ∧
          (∀ jobs order, (one.planHosts jobs order).1 = [report]) ∧
          ∀ jobs order,
            ((all.planHosts jobs order).1.filter fun report => report.host = host) =
              [report] := by
  refine ⟨Plan.planHosts_eq_map, ?_, ?_⟩
  · intro plan hosts others position jobs otherJobs order otherOrder sameHost
    exact plan.getElem?_planHosts sameHost jobs otherJobs order otherOrder
  · intro deploy path target host record declared
    rw [Deploy.narrow_of_declared declared]
    constructor
    · intro error failed
      rw [failed]
      rfl
    · intro all loaded
      refine ⟨{ all with hosts := [(host, record)] }, all.reportOf (host, record), ?_, ?_, ?_⟩
      · rw [loaded]
        rfl
      · intro jobs order
        rw [LoadedDeploy.planHosts_fst]
        rfl
      · intro jobs order
        rw [LoadedDeploy.planHosts_fst, LoadedDeploy.filter_reports,
          Deploy.hosts_of_narrow loaded, SortedMap.filter_entries_of_get? declared]
        rfl

/-- A host that has a web server already. -/
def shopRecord : HostRecord :=
  { HostRecord.empty with services := SortedMap.empty.insert "nginx" true }

/-- A deploy of two hosts, only one of which has the web server. -/
def shopDeploy : Deploy where
  settings := ⟨some "/var/tmp/", some 3⟩
  hosts := (SortedMap.empty.insert "shop1" shopRecord).insert "shop2" .empty
  operations :=
    [.packages ⟨["nginx"], true, false, some .apt, none, none, none, none⟩,
      .service ⟨"nginx", none, none, none, some true, false, false, none⟩]

/-- The hosts with a declaration that cannot be used. -/
def brokenShop : Deploy :=
  { shopDeploy with operations := [.rpm ⟨"/srv/shop.rpm", false, some .apt, none⟩] }

/-- The deploy of two hosts with its plan. -/
def loadedShop : LoadedDeploy where
  path := "shop.toml"
  settings := shopDeploy.settings
  plan := ⟨[.packages ["nginx"] true false PackageManager.apt.verbs,
    .service "nginx" InitSystem.systemd.template ⟨some true, false, false, none, "is-active"⟩]⟩
  hosts := shopDeploy.hosts.entries

/-- Two hosts that take turns with two operations each. -/
def shopTurns : Interleaving 2 2 where
  turns := [1, 0, 0, 1]
  complete host := by
    match host with
    | 0 => rfl
    | 1 => rfl
    | host + 2 => simp

/-- What is planned for the first of two hosts that take turns is what is planned for it alone, and
a deploy with a declaration that cannot be used fails for it as for all. -/
theorem planHosts_isolated_shop :
    shopDeploy.hosts.get? "shop1" = some shopRecord ∧
      loadedShop.inputs[0]? = (loadedShop.inputs.take 1)[0]? ∧
      (loadedShop.planHosts 3 shopTurns).1[0]? =
        (loadedShop.plan.planHosts (loadedShop.inputs.take 1) 1 default).1[0]? ∧
      brokenShop.narrow "shop.toml" ⟨none, some "shop1"⟩ =
        .error (.invalidDeclaration ⟨1, .noRpmRemover "/srv/shop.rpm" .apt⟩) ∧
      ∃ one report, shopDeploy.narrow "shop.toml" ⟨none, some "shop1"⟩ = .ok one ∧
        (∀ jobs order, (one.planHosts jobs order).1 = [report]) ∧
        ((loadedShop.planHosts 3 shopTurns).1.filter fun report => report.host = "shop1") =
          [report] := by
  have declared : shopDeploy.hosts.get? "shop1" = some shopRecord := by
    simp [shopDeploy]
  have loaded : shopDeploy.narrow "shop.toml" ⟨none, none⟩ = .ok loadedShop := rfl
  have sameHost : loadedShop.inputs[0]? = (loadedShop.inputs.take 1)[0]? := rfl
  obtain ⟨-, eachApart, narrowed⟩ := planHosts_isolated
  have broken := (narrowed brokenShop "shop.toml" none "shop1" shopRecord declared).1
    (.invalidDeclaration ⟨1, .noRpmRemover "/srv/shop.rpm" .apt⟩) rfl
  obtain ⟨one, report, narrowedOne, alone, together⟩ :=
    (narrowed shopDeploy "shop.toml" none "shop1" shopRecord declared).2 loadedShop loaded
  have apart := eachApart loadedShop.plan loadedShop.inputs (loadedShop.inputs.take 1) 0 3 1
    shopTurns default sameHost
  exact ⟨declared, sameHost, apart, broken, one, report, narrowedOne, alone,
    together 3 shopTurns⟩

end FleetPlan
