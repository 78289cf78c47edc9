import FleetPlan.Service.Template

/-!
# Init systems

The programs that control services, with the shape of their commands.
-/

namespace FleetPlan

/-- Init systems with known command shapes. -/
inductive InitSystem where
  | systemd
  | sysvinit
  | openrc
  | upstart
  | bsdinit
  deriving DecidableEq, Repr

namespace InitSystem

/-- Every known init system. -/
def all : List InitSystem := [.systemd, .sysvinit, .openrc, .upstart, .bsdinit]

/-- The name an init system is declared by. -/
def name : InitSystem → String
  | .systemd => "systemd"
  | .sysvinit => "sysvinit"
  | .openrc => "openrc"
  | .upstart => "upstart"
  | .bsdinit => "bsdinit"

/-- The init system with a declared name. -/
def ofName? (name : String) : Option InitSystem :=
  all.find? fun init => init.name = name

/-- How an action is written as a command. -/
def template : InitSystem → ActionTemplate
  | .systemd => ⟨"systemctl {action} {name}"⟩
  | .sysvinit => ⟨"/etc/init.d/{name} {action}"⟩
  | .openrc => ⟨"rc-service {name} {action}"⟩
  | .upstart => ⟨"initctl {action} {name}"⟩
  | .bsdinit => ⟨"/etc/rc.d/{name} {action}"⟩

/-- Every init system has a usable template. -/
theorem isUsable_template (init : InitSystem) : init.template.IsUsable := by
  cases init <;> rfl

/-- The action that asks for the state of a service where nothing else is said. -/
def plainProbe : String := "status"

/-- The action that succeeds exactly when the service runs. -/
def probe : InitSystem → String
  | .systemd => "is-active"
  | _ => plainProbe

end InitSystem

end FleetPlan
