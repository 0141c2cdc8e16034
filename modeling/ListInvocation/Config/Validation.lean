import ListInvocation.Config.Exclusions
import ListInvocation.FileStore
import ListInvocation.Network.Address
import ListInvocation.Text.Blank

/-!
Contract: the checks that a configuration passes before it is used.

Owns: the limits, the order of the checks, and the address to listen on.

Does not own: where a configuration comes from.
-/

namespace ListInvocation

namespace Limits

def configFileBytes : Nat := 1024 * 1024

def pathComponentBytes : Nat := 255

def pathBytes : Nat := 4096

def messageBytes : Nat := 256 * 1024 * 1024

def protocolVersionBytes : Nat := 16

def exclusionPatterns : Nat := 256

def exclusionPatternBytes : Nat := 1024

end Limits

/-- A check that fails with a description unless a condition holds. -/
def ConfigError.unless (holds : Bool) (description : String) : Except ConfigError Unit :=
  if holds then .ok () else .error (.invalid description)

/-- Checks the length of a path and of its components; a failure names the setting. -/
def checkPathLimits (label path : String) : Except ConfigError Unit := do
  let total := path.utf8ByteSize
  ConfigError.unless (total ≤ Limits.pathBytes)
    s!"{label} path is {total} bytes, limit is {Limits.pathBytes}"
  let longest := ((FileStore.components path).map String.utf8ByteSize).foldl max 0
  ConfigError.unless (longest ≤ Limits.pathComponentBytes)
    s!"{label} has a {longest}-byte path component, limit is {Limits.pathComponentBytes}"

namespace ServerConfig

def isVersionCharacter (character : Char) : Bool :=
  character.isAlphanum || character == '.'

def checkProtocolVersion (version : String) : Except ConfigError Unit := do
  ConfigError.unless
    (0 < version.utf8ByteSize && version.utf8ByteSize ≤ Limits.protocolVersionBytes)
    "server.protocol_version must be 1-16 characters"
  ConfigError.unless (version.toList.all isVersionCharacter)
    "server.protocol_version must contain only letters, digits and dots"

def bindAddress (config : ServerConfig) : Except ConfigError Network.SocketAddress := do
  let bind := Text.trimmed (config.bind?.getD "")
  ConfigError.unless (!bind.isEmpty) "tcp transport requires bind address"
  match Network.SocketAddress.read? bind with
  | some address => return address
  | none => throw (.invalid "invalid bind address")

def validate (config : ServerConfig) : Except ConfigError Unit := do
  ConfigError.unless (0 < config.maxMessageBytes)
    "server.max_message_bytes must be greater than zero"
  ConfigError.unless (config.maxMessageBytes ≤ Limits.messageBytes)
    "server.max_message_bytes exceeds limit"
  checkProtocolVersion config.protocolVersion
  match config.transport with
  | .stdio => return ()
  | .tcp =>
      let socket ← config.bindAddress
      ConfigError.unless (socket.address.isLoopback || config.allowNonLoopback)
        "non-loopback bind requires server.allow_non_loopback"

end ServerConfig

namespace AuditConfig

/-- Checks a path for audit records, without the blanks around it. -/
def checkPath (path : String) : Except ConfigError Unit := do
  let trimmed := Text.trimmed path
  ConfigError.unless (!trimmed.isEmpty) "audit.path must be non-empty"
  checkPathLimits "audit.path" trimmed

def pathMissing : String := "audit.sink=file requires audit.path"

/-- Checks the settings of the audit trail; a path is checked even if it is not used. -/
def validate (config : AuditConfig) : Except ConfigError Unit := do
  match config.path? with
  | some path => checkPath path
  | none => ConfigError.unless (config.target != .file) pathMissing

end AuditConfig

namespace Config

def checkExclusionLength (pattern : String) : Except ConfigError Unit := do
  ConfigError.unless (!pattern.isEmpty) "exclusions.patterns entries must be non-empty"
  ConfigError.unless (pattern.utf8ByteSize ≤ Limits.exclusionPatternBytes)
    "exclusions.patterns entry exceeds max length"

variable [Pattern.Library]

def validateExclusions (patterns : List String) : Except ConfigError Unit := do
  ConfigError.unless (patterns.length ≤ Limits.exclusionPatterns)
    "exclusions.patterns exceeds max entries"
  patterns.forM checkExclusionLength
  let _ ← Exclusions.compile patterns

/-- Checks all settings; the first failure counts. -/
def validate (config : Config) : Except ConfigError Unit := do
  config.server.validate
  config.audit.validate
  validateExclusions config.exclusions

def compiledExclusions (config : Config) : Except ConfigError Exclusions :=
  Exclusions.compile config.exclusions

end Config

end ListInvocation
