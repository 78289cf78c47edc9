import FleetPlan.Deploy.Loading

/-!
# Environments

What a command line means depends on variables around it: where the home and the
configuration are, which deploy file to use, and whether styles are shown.
-/

namespace FleetPlan.CommandLine

/-- What the environment says. A variable that is not set has no text. -/
structure Environment where
  /-- The home directory. -/
  home : Option String
  /-- The directory for configuration, where it is not the plain one of the home directory. -/
  configuration : Option String
  /-- The deploy file to use where the arguments name none. -/
  deploy : Option String
  /-- Whether styles are shown, whatever the output goes to. -/
  forceColor : Option String
  /-- Whether styles are left out. -/
  noColor : Option String
  deriving DecidableEq, Repr, Inhabited

namespace Environment

/-- The home directory. Where none is named, it is the one of the administrator. -/
def homeDirectory (environment : Environment) : String :=
  (environment.home.filter (· != "")).getD "/root"

/-- The directory for configuration: the one that is named, if it is named from the root on, and
else the plain one. -/
def configurationDirectory (environment : Environment) : String :=
  match environment.configuration.filter (·.startsWith "/") with
  | some directory => directory
  | none => Deploy.joinPath environment.homeDirectory ".config"

/-- The file that is loaded where no deploy file is named. -/
def plainDeploy (environment : Environment) : String :=
  Deploy.plainPath environment.configurationDirectory

/-- The file that is loaded where a deploy file may be named. -/
def deployPath (environment : Environment) (named : Option String) : String :=
  match named with
  | some path => Deploy.expandHome environment.homeDirectory path
  | none => environment.plainDeploy

/-- Whether messages show styles, which only `0` forbids once the variable is set. -/
def stylesMessages (environment : Environment) : Bool :=
  environment.forceColor.any (· != "0")

/-- Whether the journal shows styles. Unlike the messages it can be told not to, and a variable
without a text counts as not set. -/
def stylesJournal (environment : Environment) : Bool :=
  environment.forceColor.any (· != "") && !environment.noColor.any (· != "")

end Environment

end FleetPlan.CommandLine
