import TunnelKeeper.Config.Files

/-!
Settings in a file: loading checks them, and saving refuses what would not load back.
-/

namespace TunnelKeeper.Config

/-- The settings in a text. -/
def ofText (text : String) : Except ConfigError Config := do
  match Toml.decode Config text with
  | .error fault => .error (.parse fault)
  | .ok config => do
    config.validate
    return config

/-- The settings in the file of a path. -/
def load (files : Files) (path : String) : Except ConfigError Config :=
  match files.read path with
  | .error .noEntry => .error (.notFound path)
  | .error fault => .error (.invalid (.file path fault))
  | .ok bytes =>
    match String.fromUTF8? bytes with
    | none => .error (.invalid (.file path .notUtf8))
    | some text => ofText text

/-- The text of the settings, if they are usable. -/
def toText (config : Config) : Except ConfigError String := do
  config.validate
  match Toml.encode config with
  | .ok text => return text
  | .error fault => .error (.serialize fault)

/-- A file with a text, and the directories above it. -/
def writeText (files : Files) (path text : String) : Except FileFault Files := do
  let files ← files.makeDirectories (Files.parentNames path).reverse
  files.write path text.toUTF8

/-- The settings in the file of a path, in place of what was there. -/
def save (files : Files) (path : String) (config : Config) : Except ConfigError Files := do
  let text ← config.toText
  match writeText files path text with
  | .ok files => return files
  | .error fault => .error (.invalid (.file path fault))

end TunnelKeeper.Config
