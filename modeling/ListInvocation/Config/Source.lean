import ListInvocation.Config.Document
import ListInvocation.Config.Validation
import ListInvocation.FileStore

/-!
Contract: where a configuration is loaded from.

A path given by the caller comes first, then one from the environment unless it is
blank, then the default file in the working directory.

Owns: the choice of the path and the loading of a checked configuration.

Does not own: the files themselves.
-/

namespace ListInvocation

structure ConfigSource where
  path : String
  label : String
deriving Repr, DecidableEq

namespace ConfigSource

/-- The environment variable that may name a configuration. -/
def environmentVariable : String := "FITSLIM_CONFIG"

def defaultFile : String := "fitslim.toml"

def resolve (flag? environment? : Option String) : ConfigSource :=
  match flag?, environment? with
  | some path, _ => ⟨path, "--config"⟩
  | none, some path =>
      if (Text.trimmed path).isEmpty then ⟨defaultFile, defaultFile⟩
      else ⟨path, environmentVariable⟩
  | none, none => ⟨defaultFile, defaultFile⟩

end ConfigSource

namespace Config

variable [Pattern.Library]

def ofBytes (bytes : List UInt8) : Except ConfigError Config := do
  let size := bytes.length
  ConfigError.unless (size ≤ Limits.configFileBytes)
    s!"config file exceeds size limit ({size} bytes, limit is {Limits.configFileBytes})"
  match Wire.textOf? bytes with
  | none => throw (.invalid "config file must be utf-8")
  | some text =>
      let config ← Config.ofText text
      config.validate
      return config

/-- Loads and checks a configuration, where the system reads files. -/
def loadWith {m : Type → Type} [Monad m]
    (readFile : String → m (Except String (List UInt8))) (source : ConfigSource) :
    m (Except ConfigError Config) := do
  match checkPathLimits source.label source.path with
  | .error error => return .error error
  | .ok () =>
      match ← readFile source.path with
      | .error description => return .error (.io (source.path ++ ": " ++ description))
      | .ok bytes => return ofBytes bytes

/-- Loads and checks a configuration among the files of a store. -/
def load (store : FileStore) (source : ConfigSource) : Except ConfigError Config :=
  Id.run (loadWith (fun path => pure ((store.read path).mapError FileFault.message)) source)

end Config

end ListInvocation
