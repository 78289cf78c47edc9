import FleetPlan.Report

/-!
# Journals

A journal tells how plans are made: what is looked at, which commands come of it,
and what fails. Each line has a level and a topic, and a reader sees the lines
from a level on. A journal only tells what the plans say, so it is made from a
plan and a session beside the report.
-/

namespace FleetPlan

/-- How much a line matters, most first. -/
inductive JournalLevel where
  | error
  | warning
  | info
  | debug
  | trace
  deriving DecidableEq, Repr

/-- The place of a level, counted from the one that matters most. -/
def JournalLevel.rank : JournalLevel → Nat
  | .error => 0
  | .warning => 1
  | .info => 2
  | .debug => 3
  | .trace => 4

/-- The word for a level. -/
def JournalLevel.name : JournalLevel → String
  | .error => "ERROR"
  | .warning => "WARN"
  | .info => "INFO"
  | .debug => "DEBUG"
  | .trace => "TRACE"

/-- What part of the work a line is about. -/
inductive JournalTopic where
  | loading
  | session
  | packages
  | service
  | planning
  deriving DecidableEq, Repr

/-- The word for a topic. -/
def JournalTopic.name : JournalTopic → String
  | .loading => "converge::config"
  | .session => "declarative::session"
  | .packages => "declarative::packages"
  | .service => "declarative::service"
  | .planning => "declarative::executor"

/-- A line of a journal. -/
structure JournalLine where
  level : JournalLevel
  topic : JournalTopic
  text : String
  deriving DecidableEq, Repr

/-- Whether a journal that is read from a level on shows a line. -/
def JournalLine.isShown (threshold : JournalLevel) (line : JournalLine) : Bool :=
  line.level.rank ≤ threshold.rank

namespace Operation

/-- A line about a session. -/
def sessionLine (text : String) : JournalLine := ⟨.debug, .session, text⟩

/-- What is told of an operation before its result. -/
def workLines (operation : Operation) (collaborators : Collaborators) (session : Session) :
    List JournalLine :=
  let host := session.host
  match operation with
  | .packages entries present latest verbs =>
    let goal := packageGoal entries present latest verbs
    let command := goal.command? verbs session.packages collaborators.providers
    sessionLine s!"{host}: ensure {entries.length} package(s) present={present}" ::
      (command.map fun command =>
        (⟨.debug, .packages, "package command: " ++ command⟩ : JournalLine)).toList
  | .service name template goal =>
    let (outcome, after) := goal.reconcile template name session.services
    let before := (session.services.get name).title
    let state := (after.get name).title
    [sessionLine s!"{host}: control service {name}",
      ⟨.debug, .service,
        s!"service {name}: {before} -> {state}, {outcome.commands.length} command(s)"⟩]
  | .rpm goal => [sessionLine s!"{host}: ensure rpm {goal.source}"]
  | .repository declared => [sessionLine s!"{host}: ensure repo {declared.identifier}"]

/-- A line about planning. -/
def planningLine (level : JournalLevel) (text : String) : JournalLine :=
  ⟨level, .planning, text⟩

/-- What is told of an operation on a session. -/
def journal (operation : Operation) (collaborators : Collaborators) (session : Session) :
    List JournalLine :=
  operation.workLines collaborators session ++
    match (operation.attempt collaborators session).1 with
    | .ok _ => []
    | .error error =>
      [planningLine .warning
        (session.host ++ ": " ++ operation.identifier ++ " failed: " ++ error.message)]

end Operation

/-- What is told of operations planned one after the other. -/
def journalSteps (collaborators : Collaborators) :
    List Operation → Session → List JournalLine
  | [], _ => []
  | operation :: operations, session =>
    operation.journal collaborators session ++
      journalSteps collaborators operations (operation.attempt collaborators session).2

/-- What is told of planning one host. -/
def Plan.journalFor (plan : Plan) (input : HostInput) : List JournalLine :=
  Operation.planningLine .info
      s!"planning {plan.size} operation(s) for {input.session.host}" ::
    journalSteps input.collaborators plan.operations input.session

/-- What is told of planning several hosts, one host after the other. -/
def Plan.journal (plan : Plan) (hosts : List HostInput) : List JournalLine :=
  hosts.flatMap plan.journalFor

end FleetPlan
