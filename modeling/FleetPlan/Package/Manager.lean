/-!
# Package managers

The command words of a package manager, and the managers whose words are known.
-/

namespace FleetPlan

/-- The words that a package manager is driven with. -/
structure PackageVerbs where
  /-- What goes before the packages to install. -/
  install : String
  /-- What goes before the packages to remove. -/
  uninstall : String
  /-- What goes before installed packages to bring up to date, if the manager can. -/
  upgrade : Option String
  /-- What stands between a name and a version, if the manager takes versions. -/
  separator : Option String
  deriving DecidableEq, Repr, Inhabited

/-- Package managers with known command words. -/
inductive PackageManager where
  | apt
  | yum
  | dnf
  | zypper
  | apk
  | pacman
  | pkg
  | brew
  | pip
  deriving DecidableEq, Repr

namespace PackageManager

/-- Every known manager. -/
def all : List PackageManager := [.apt, .yum, .dnf, .zypper, .apk, .pacman, .pkg, .brew, .pip]

/-- The name a manager is declared by. -/
def name : PackageManager → String
  | .apt => "apt"
  | .yum => "yum"
  | .dnf => "dnf"
  | .zypper => "zypper"
  | .apk => "apk"
  | .pacman => "pacman"
  | .pkg => "pkg"
  | .brew => "brew"
  | .pip => "pip"

/-- The name a manager is called by in messages. -/
def title : PackageManager → String
  | .apt => "Apt"
  | .yum => "Yum"
  | .dnf => "Dnf"
  | .zypper => "Zypper"
  | .apk => "Apk"
  | .pacman => "Pacman"
  | .pkg => "Pkg"
  | .brew => "Brew"
  | .pip => "Pip"

/-- The manager with a declared name. -/
def ofName? (name : String) : Option PackageManager :=
  all.find? fun manager => manager.name = name

/-- The words a manager is driven with. -/
def verbs : PackageManager → PackageVerbs
  | .apt =>
    ⟨"DEBIAN_FRONTEND=noninteractive apt-get -y install",
      "DEBIAN_FRONTEND=noninteractive apt-get -y remove",
      some "DEBIAN_FRONTEND=noninteractive apt-get -y install --only-upgrade", some "="⟩
  | .yum => ⟨"yum install -y", "yum remove -y", some "yum update -y", some "="⟩
  | .dnf => ⟨"dnf install -y", "dnf remove -y", some "dnf update -y", some "="⟩
  | .zypper =>
    ⟨"zypper --non-interactive install -y", "zypper --non-interactive remove -y",
      some "zypper --non-interactive update -y", some "="⟩
  | .apk => ⟨"apk add", "apk del", some "apk upgrade", some "="⟩
  | .pacman =>
    ⟨"pacman --noconfirm -S", "pacman --noconfirm -R", some "pacman --noconfirm -S", none⟩
  | .pkg => ⟨"pkg install -y", "pkg delete -y", none, none⟩
  | .brew => ⟨"brew install", "brew uninstall", some "brew upgrade", some "@"⟩
  | .pip => ⟨"pip install", "pip uninstall --yes", some "pip install --upgrade", some "=="⟩

/-- The program that removes installed package files, for the managers of RPM systems. -/
def rpmRemover? : PackageManager → Option String
  | .yum => some "yum"
  | .dnf => some "dnf"
  | .zypper => some "zypper"
  | _ => none

end PackageManager

end FleetPlan
