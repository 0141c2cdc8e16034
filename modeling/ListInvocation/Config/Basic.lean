/-!
Contract: the configuration of a server.

Owns: the settings with their defaults, and the ways in which a configuration fails.

Does not own: how settings are read or checked.
-/

namespace ListInvocation

inductive Transport where
  | tcp
  | stdio
deriving Repr, DecidableEq, Inhabited

def Transport.name : Transport → String
  | .tcp => "tcp"
  | .stdio => "stdio"

inductive AuditTarget where
  | stderr
  | file
  | none
deriving Repr, DecidableEq, Inhabited

def AuditTarget.name : AuditTarget → String
  | .stderr => "stderr"
  | .file => "file"
  | .none => "none"

structure ServerConfig where
  transport : Transport
  bind? : Option String
  allowNonLoopback : Bool
  maxMessageBytes : Nat
  protocolVersion : String
deriving Repr, DecidableEq

def ServerConfig.standard : ServerConfig where
  transport := .tcp
  bind? := some "127.0.0.1:8085"
  allowNonLoopback := false
  maxMessageBytes := 1024 * 1024
  protocolVersion := "0.3"

structure AuditConfig where
  target : AuditTarget
  path? : Option String
deriving Repr, DecidableEq

def AuditConfig.standard : AuditConfig := ⟨.stderr, none⟩

/-- All settings. The exclusions are the patterns of names to leave out. -/
structure Config where
  server : ServerConfig
  audit : AuditConfig
  exclusions : List String
deriving Repr, DecidableEq

def Config.standard : Config := ⟨.standard, .standard, []⟩

inductive ConfigError where
  | io (description : String)
  | parse (description : String)
  | invalid (description : String)
deriving Repr, DecidableEq

def ConfigError.message : ConfigError → String
  | .io description => "config io error: " ++ description
  | .parse description => "config parse error: " ++ description
  | .invalid description => "invalid config: " ++ description

end ListInvocation
