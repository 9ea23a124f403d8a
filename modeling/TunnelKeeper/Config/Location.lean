/-!
Where the settings file lies: in a directory of its own below the user's directory for settings.
-/

namespace TunnelKeeper.Config

/-- What the user's environment says about directories. -/
structure Environment where
  /-- The directory for settings; it counts only if it is an absolute path. -/
  configHome : Option String := none
  /-- The home directory; it counts only if it is not empty. -/
  home : Option String := none
  /-- The home directory of the account. -/
  accountHome : String := "/root"

/-- A path below another. -/
def join (path name : String) : String :=
  if path = "" then name
  else if path.toList.getLast? = some '/' then path ++ name
  else path ++ "/" ++ name

def isAbsolute (path : String) : Bool := path.toList.head? = some '/'

namespace Environment

def homeDirectory (env : Environment) : String :=
  match env.home with
  | some home => if home = "" then env.accountHome else home
  | none => env.accountHome

/-- The user's directory for settings. -/
def configDirectory (env : Environment) : String :=
  match env.configHome with
  | some path => if isAbsolute path then path else join env.homeDirectory ".config"
  | none => join env.homeDirectory ".config"

/-- The directory of the settings file. -/
def directory (env : Environment) : String := join env.configDirectory "homelink"

def path (env : Environment) : String := join env.directory "remote.toml"

end Environment

end TunnelKeeper.Config
