import TunnelKeeper.Config.Basic
import TunnelKeeper.Toml.Decode
import TunnelKeeper.Toml.Writer

/-!
What can go wrong with the settings file.
-/

namespace TunnelKeeper

/-- What the file system refuses. -/
inductive FileFault where
  | noEntry
  | exists
  | notDirectory
  | isDirectory
  | nameTooLong
  | nulInName
  | notUtf8
  deriving DecidableEq, Repr

def FileFault.message : FileFault → String
  | noEntry => "No such file or directory (os error 2)"
  | «exists» => "File exists (os error 17)"
  | notDirectory => "Not a directory (os error 20)"
  | isDirectory => "Is a directory (os error 21)"
  | nameTooLong => "File name too long (os error 36)"
  | nulInName => "file name contained an unexpected NUL byte"
  | notUtf8 => "stream did not contain valid UTF-8"

/-- Why settings are invalid. -/
inductive InvalidConfig where
  | conflict (conflict : Config.Conflict)
  | file (path : String) (fault : FileFault)
  | other (reason : String)

def InvalidConfig.message : InvalidConfig → String
  | .conflict c => c.message
  | file path fault => path ++ ": " ++ fault.message
  | other reason => reason

inductive ConfigError where
  | notFound (path : String)
  | invalid (reason : InvalidConfig)
  | parse (fault : Toml.DecodeFault)
  | serialize (fault : Toml.EncodeFault)

namespace ConfigError

def message : ConfigError → String
  | notFound path => "Config file not found: " ++ path
  | invalid reason => "Invalid config: " ++ reason.message
  | parse fault => "TOML parse error: " ++ fault.message
  | serialize fault => "TOML serialize error: " ++ fault.message

def sources : ConfigError → List String
  | parse fault => [fault.message]
  | serialize fault => [fault.message]
  | _ => []

end ConfigError

namespace Config

/-- Conflicting settings are refused. -/
def validate (c : Config) : Except ConfigError Unit :=
  match c.conflict? with
  | some conflict => .error (.invalid (.conflict conflict))
  | none => .ok ()

end Config

end TunnelKeeper
