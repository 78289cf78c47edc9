import FleetPlan.Report

/-!
# Operations that do not interfere

Packages and package files share what is known of packages, services of one name
share one state, and repositories share nothing. `Operation.concern` names what an
operation looks at, and it changes nothing else (`Operation.alike_attempt`). The
invariant of two runs, of a plan and of a part of it, is that their sessions look
alike to every operation that still waits in the part. So an operation has the
same step in both, as long as the part has whatever comes before it with the same
concern (`Plan.steps_of_part`), and this is so for every target of
services or repositories.
-/

namespace FleetPlan

/-- The part of a session that an operation looks at. -/
inductive Concern where
  /-- What is known of packages. -/
  | packages
  /-- What is known of one service. -/
  | service (name : String)
  deriving DecidableEq, Repr

/-- What an operation looks at; a repository looks at nothing in the session. -/
def Operation.concern : Operation → Option Concern
  | .packages .. | .rpm _ => some .packages
  | .service name .. => some (.service name)
  | .repository _ => none

/-- Two sessions are the same as far as a concern goes. -/
def Session.Alike (first second : Session) : Option Concern → Prop
  | some .packages => first.packages = second.packages
  | some (.service name) => first.services.get name = second.services.get name
  | none => True

namespace Session.Alike

variable {first second third : Session} {concern : Option Concern}

/-- A session is the same as itself. -/
theorem refl (session : Session) (concern : Option Concern) : session.Alike session concern := by
  rcases concern with _ | _ | name
  · exact trivial
  · exact Eq.refl session.packages
  · exact Eq.refl (session.services.get name)

/-- Sessions are alike in either order. -/
theorem symm (alike : first.Alike second concern) : second.Alike first concern := by
  rcases concern with _ | _ | name
  · exact trivial
  · exact Eq.symm alike
  · exact Eq.symm alike

/-- Sessions that are alike to a third one are alike. -/
theorem trans (alike : first.Alike second concern) (next : second.Alike third concern) :
    first.Alike third concern := by
  rcases concern with _ | _ | name
  · exact trivial
  · exact Eq.trans alike next
  · exact Eq.trans alike next

end Session.Alike

/-- What is planned for a service depends on what is known of this service only. -/
theorem ServiceGoal.outcome_reconcile_congr {name : String} {states others : ServiceStates}
    (same : states.get name = others.get name) (goal : ServiceGoal) (template : ActionTemplate) :
    (goal.reconcile template name states).1 = (goal.reconcile template name others).1 := by
  unfold reconcile
  rw [same]
  cases others.get name <;> rfl

namespace Operation

/-- An operation changes nothing but its concern. -/
theorem alike_attempt (operation : Operation) (collaborators : Collaborators) (session : Session)
    {concern : Option Concern}
    (other : operation.concern ≠ concern) :
    session.Alike (operation.attempt collaborators session).2 concern := by
  cases operation with
  | packages entries present latest verbs =>
    rcases concern with _ | _ | name
    · exact trivial
    · exact absurd rfl other
    · exact Eq.refl (session.services.get name)
  | service changed template goal =>
    rcases concern with _ | _ | name
    · exact trivial
    · exact Eq.refl session.packages
    · have different : changed ≠ name := fun same => other (same ▸ rfl)
      have kept := goal.get_reconcile template changed name session.services
      rw [if_neg fun here => different here.1] at kept
      exact kept.symm
  | rpm goal =>
    rcases concern with _ | _ | name
    · exact trivial
    · exact absurd rfl other
    · cases planned : goal.reconcile (session.rpmPath goal.source) collaborators.facts
          collaborators.files session.packages with
      | error failure =>
        rw [attempt_rpm_of_error planned]
        exact Eq.refl (session.services.get name)
      | ok result =>
        rw [attempt_rpm_of_ok planned]
        exact Eq.refl (session.services.get name)
  | repository declared =>
    rw [session_attempt_repository]
    exact .refl session concern

/-- On sessions that are the same as far as its concern goes, an operation has the same result, and
the sessions stay the same as far as that goes. -/
theorem attempt_congr {operation : Operation} {first second : Session}
    (collaborators : Collaborators) (alike : first.Alike second operation.concern)
    (sameDirectory : first.temporaryDirectory = second.temporaryDirectory) :
    (operation.attempt collaborators first).1 = (operation.attempt collaborators second).1 ∧
      (operation.attempt collaborators first).2.Alike
        (operation.attempt collaborators second).2 operation.concern := by
  cases operation with
  | packages entries present latest verbs =>
    have same : first.packages = second.packages := alike
    rw [attempt_packages, attempt_packages, same]
    exact ⟨rfl, rfl⟩
  | service name template goal =>
    have same : first.services.get name = second.services.get name := alike
    rw [attempt_service, attempt_service]
    refine ⟨congrArg Except.ok (goal.outcome_reconcile_congr same template), ?_⟩
    change (goal.reconcile template name first.services).2.get name =
      (goal.reconcile template name second.services).2.get name
    rw [ServiceGoal.get_reconcile, ServiceGoal.get_reconcile, same]
  | rpm goal =>
    have same : first.packages = second.packages := alike
    have samePath : first.rpmPath goal.source = second.rpmPath goal.source := by
      rw [Session.rpmPath, Session.rpmPath, Session.temporaryPath, Session.temporaryPath,
        sameDirectory]
    cases planned : goal.reconcile (second.rpmPath goal.source) collaborators.facts
        collaborators.files second.packages with
    | error failure =>
      rw [attempt_rpm_of_error planned]
      rw [← samePath, ← same] at planned
      rw [attempt_rpm_of_error planned]
      exact ⟨rfl, same⟩
    | ok result =>
      rw [attempt_rpm_of_ok planned]
      rw [← samePath, ← same] at planned
      rw [attempt_rpm_of_ok planned]
      exact ⟨rfl, rfl⟩
  | repository declared =>
    rw [attempt_repository, attempt_repository]
    exact ⟨rfl, trivial⟩

end Operation

/-- The elements at the positions that are kept, in their order. -/
def keepAt {α : Type} (kept : Nat → Bool) : List α → List α
  | [] => []
  | first :: rest =>
    let others := keepAt (fun position => kept (position + 1)) rest
    if kept 0 then first :: others else others

/-- Whatever comes before a kept operation with the same concern is kept as well. -/
def IsClosed (kept : Nat → Bool) (operations : List Operation) : Prop :=
  ∀ earlier later first second, earlier < later →
    operations[earlier]? = some first → operations[later]? = some second →
      first.concern = second.concern → second.concern ≠ none →
        kept later = true → kept earlier = true

section Runs

variable (collaborators : Collaborators)

/-- Planning kept operations alone gives the steps that they have among all operations, when the two
sessions look alike to each kept operation. -/
theorem planSteps_keepAt {operations : List Operation} {kept : Nat → Bool}
    (closed : IsClosed kept operations) {whole part : Session}
    (sameDirectory : whole.temporaryDirectory = part.temporaryDirectory)
    (alike : ∀ position operation, operations[position]? = some operation →
      kept position = true → whole.Alike part operation.concern) :
    (planSteps collaborators (keepAt kept operations) part).1 =
      keepAt kept (planSteps collaborators operations whole).1 := by
  induction operations generalizing kept whole part with
  | nil => rfl
  | cons first rest inductionHypothesis =>
    have closedRest : IsClosed (fun position => kept (position + 1)) rest :=
      fun earlier later one two before atEarlier atLater =>
        closed (earlier + 1) (later + 1) one two (Nat.succ_lt_succ before) atEarlier atLater
    have wholeDirectory := first.temporaryDirectory_attempt collaborators whole
    simp only [keepAt, planSteps]
    cases keepsFirst : kept 0 with
    | true =>
      -- Both runs plan the operation, and each changes its concern in the same way.
      obtain ⟨sameResult, alikeFirst⟩ := Operation.attempt_congr collaborators
        (alike 0 first rfl keepsFirst) sameDirectory
      have partDirectory := first.temporaryDirectory_attempt collaborators part
      have restAlike : ∀ position operation, rest[position]? = some operation →
          kept (position + 1) = true →
            (first.attempt collaborators whole).2.Alike (first.attempt collaborators part).2
              operation.concern := by
        intro position operation here keeps
        by_cases same : first.concern = operation.concern
        · rwa [← same]
        · have before := alike (position + 1) operation here keeps
          exact (first.alike_attempt collaborators whole same).symm.trans
            (before.trans (first.alike_attempt collaborators part same))
      have others := inductionHypothesis closedRest
        (wholeDirectory.trans (sameDirectory.trans partDirectory.symm)) restAlike
      simp only [if_true, planSteps, sameResult, others]
    | false =>
      -- Only the whole run plans the operation, and it changes nothing that is looked at later.
      have restAlike : ∀ position operation, rest[position]? = some operation →
          kept (position + 1) = true →
            (first.attempt collaborators whole).2.Alike part operation.concern := by
        intro position operation here keeps
        by_cases looks : operation.concern = none
        · rw [looks]
          exact trivial
        · have other : first.concern ≠ operation.concern := by
            intro same
            have keptToo := closed 0 (position + 1) first operation (Nat.succ_pos position) rfl
              here same looks keeps
            rw [keepsFirst] at keptToo
            cases keptToo
          exact (first.alike_attempt collaborators whole other).symm.trans
            (alike (position + 1) operation here keeps)
      exact inductionHypothesis closedRest (wholeDirectory.trans sameDirectory) restAlike

end Runs

/-- Where no position is kept, nothing is. -/
theorem keepAt_of_none {α : Type} (list : List α) : keepAt (fun _ => false) list = [] := by
  induction list with
  | nil => rfl
  | cons first rest inductionHypothesis => exact inductionHypothesis

/-- Where the kept positions are those of the elements with a property, what is kept of a list goes
with those elements. -/
theorem keepAt_any {α β : Type} (property : α → Bool) (list : List α) (others : List β) :
    keepAt (fun position => list[position]?.any property) others =
      ((list.zip others).filter fun pair => property pair.1).map (·.2) := by
  induction list generalizing others with
  | nil => exact keepAt_of_none others
  | cons first rest inductionHypothesis =>
    cases others with
    | nil => rfl
    | cons other others =>
      have restKept := inductionHypothesis others
      cases holds : property first <;> simp [keepAt, holds, restKept]

/-- What is kept of a list by a property of its elements are the elements with the property. -/
theorem keepAt_any_self {α : Type} (property : α → Bool) (list : List α) :
    keepAt (fun position => list[position]?.any property) list = list.filter property := by
  induction list with
  | nil => rfl
  | cons first rest inductionHypothesis =>
    cases holds : property first <;> simp [keepAt, holds, inductionHypothesis]

namespace Target

/-- The words for services and for repositories. -/
def selfContainedKinds : List String := ["service", "services", "repo", "repos", "repositories"]

variable {target : Target}

/-- A target selects operations of its kind. -/
theorem kind?_of_selects {operation : Operation} (selected : target.selects operation = true) :
    kind? target.kind = some operation.kind := by
  have both := (Bool.and_eq_true_iff.mp selected).1
  exact of_decide_eq_true both

/-- A target of services or of repositories selects neither packages nor package files. -/
theorem concern_ne_packages (selfContained : target.kind ∈ selfContainedKinds)
    {operation : Operation} (selected : target.selects operation = true) :
    operation.concern ≠ some .packages := by
  have kind := kind?_of_selects selected
  have kinds : kind? target.kind = some .service ∨ kind? target.kind = some .repository := by
    simp only [selfContainedKinds, List.mem_cons, List.not_mem_nil, or_false] at selfContained
    rcases selfContained with word | word | word | word | word <;> rw [word] <;> decide
  rw [kind] at kinds
  cases operation with
  | packages entries present latest verbs => exact absurd kinds (by simp [Operation.kind])
  | service name template goal => exact nofun
  | rpm goal => exact absurd kinds (by simp [Operation.kind])
  | repository declared => exact nofun

/-- A target selects all operations on a service or none of them. -/
theorem selects_of_concern_eq {first second : Operation} {name : String}
    (ofFirst : first.concern = some (.service name))
    (ofSecond : second.concern = some (.service name)) :
    target.selects first = target.selects second := by
  cases first with
  | service firstName firstTemplate firstGoal =>
    cases second with
    | service secondName secondTemplate secondGoal =>
      obtain rfl : firstName = name := Concern.service.inj (Option.some.inj ofFirst)
      obtain rfl : secondName = firstName := Concern.service.inj (Option.some.inj ofSecond)
      rfl
    | _ => cases ofSecond
  | _ => cases ofFirst

/-- A target of services or of repositories selects with an operation whatever comes before it with
the same concern. -/
theorem isClosed_selects (selfContained : target.kind ∈ selfContainedKinds)
    (operations : List Operation) :
    IsClosed (fun position => operations[position]?.any target.selects) operations := by
  intro earlier later first second before atEarlier atLater same looks selected
  simp only [atEarlier, atLater, Option.any_some] at selected ⊢
  cases ofSecond : second.concern with
  | none => exact absurd ofSecond looks
  | some concern =>
    cases concern with
    | packages => exact absurd ofSecond (concern_ne_packages selfContained selected)
    | service name =>
      rw [selects_of_concern_eq (same.trans ofSecond) ofSecond]
      exact selected

end Target

namespace Plan

variable (plan : Plan) (input : HostInput)

/-- The part of a plan with the operations at the kept positions. -/
def keep (kept : Nat → Bool) : Plan := ⟨keepAt kept plan.operations⟩

/-- Operations of different concerns do not interfere.

Where a part of a plan has, with an operation on packages or a package file, all earlier ones of
these kinds, and with an operation on a service all earlier ones on this service, its steps are those
that the whole plan has for its operations. In particular this is so for the operations that a
target of services or of repositories selects. -/
theorem steps_of_part :
    (∀ kept, IsClosed kept plan.operations →
      ((plan.keep kept).runOn input).1.steps = keepAt kept (plan.runOn input).1.steps) ∧
    ∀ text, (Target.ofText text).kind ∈ Target.selfContainedKinds →
      ((plan.select (some text)).runOn input).1.steps =
        ((plan.operations.zip (plan.runOn input).1.steps).filter fun pair =>
          (Target.ofText text).selects pair.1).map (·.2) := by
  have kept : ∀ kept, IsClosed kept plan.operations →
      ((plan.keep kept).runOn input).1.steps = keepAt kept (plan.runOn input).1.steps := by
    intro kept closed
    exact planSteps_keepAt input.collaborators closed rfl
      fun position operation here keeps => .refl input.session operation.concern
  refine ⟨kept, ?_⟩
  intro text selfContained
  have selected := kept _ (Target.isClosed_selects selfContained plan.operations)
  rw [keepAt_any] at selected
  have part : plan.keep (fun position =>
      plan.operations[position]?.any (Target.ofText text).selects) = plan.select (some text) := by
    rw [keep, keepAt_any_self]
    rfl
  rw [← part]
  exact selected

end Plan

/-- A plan for a web server, with packages and a package file between its services. -/
def webPlan : Plan where
  operations :=
    [.packages ["nginx"] true false PackageManager.dnf.verbs,
      .service "nginx" InitSystem.systemd.template ⟨some true, false, false, none, "is-active"⟩,
      .rpm ⟨"/srv/shop.rpm", true, "dnf"⟩,
      .service "cron" InitSystem.systemd.template ⟨some false, false, false, none, "is-active"⟩,
      .repository (.ofIdentifier "epel"),
      .service "nginx" InitSystem.systemd.template ⟨none, true, false, none, "is-active"⟩]

/-- The positions of the web server's service, and of the repository. -/
def ofWebServer (position : Nat) : Bool := [1, 4, 5].contains position

/-- A host of which nothing is known. -/
def freshHost : HostInput where
  session := .start "web1" .empty .empty
  collaborators := ⟨.none, .shell .none, .none⟩

/-- The second operation on the web server finds it as the first one left it, with and without the
packages and the other service. -/
theorem steps_of_part_webServer :
    IsClosed ofWebServer webPlan.operations ∧
      ((webPlan.keep ofWebServer).runOn freshHost).1.steps =
        keepAt ofWebServer (webPlan.runOn freshHost).1.steps ∧
      (Target.ofText "services.nginx").kind ∈ Target.selfContainedKinds ∧
      ((webPlan.select (some "services.nginx")).runOn freshHost).1.steps =
        ((webPlan.operations.zip (webPlan.runOn freshHost).1.steps).filter fun pair =>
          (Target.ofText "services.nginx").selects pair.1).map (·.2) := by
  have closed : IsClosed ofWebServer webPlan.operations := by
    intro earlier later first second before atEarlier atLater same looks keeps
    have kept : later = 1 ∨ later = 4 ∨ later = 5 := by simpa [ofWebServer] using keeps
    rcases kept with rfl | rfl | rfl
    · obtain rfl : earlier = 0 := by omega
      cases atEarlier
      cases atLater
      cases same
    · cases atLater
      exact absurd rfl looks
    · cases atLater
      have earlier : earlier = 0 ∨ earlier = 1 ∨ earlier = 2 ∨ earlier = 3 ∨ earlier = 4 := by
        omega
      rcases earlier with rfl | rfl | rfl | rfl | rfl
      · cases atEarlier
        cases same
      · rfl
      · cases atEarlier
        cases same
      · cases atEarlier
        exact absurd same (by decide)
      · rfl
  have selfContained : (Target.ofText "services.nginx").kind ∈ Target.selfContainedKinds := by
    decide
  obtain ⟨part, selected⟩ := Plan.steps_of_part webPlan freshHost
  exact ⟨closed, part ofWebServer closed, selfContained, selected "services.nginx" selfContained⟩

end FleetPlan
