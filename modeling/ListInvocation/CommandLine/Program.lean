import ListInvocation.CommandLine.Command
import ListInvocation.Config.Source
import ListInvocation.Fixture.Demo
import ListInvocation.Server.Host

/-!
Contract: what the program does, on any system.

The program asks its system for one thing after another and decides by the answers. It is
the same on the files and streams of a machine and on a record of them.

Owns: what is asked of a system, the texts of the program, and its exit codes.

Does not own: any system.
-/

namespace ListInvocation.CommandLine

def versionLine : String := "fitslim 0.1.0\n"

def helpText : String :=
  "Usage: fitslim <COMMAND>\n\nCommands:\n"
    ++ "  serve [--config PATH] [--bind ADDR]\n"
    ++ "  config validate [--config PATH]\n"
    ++ "  exclusions check [--config PATH] NAME...\n\nOptions:\n"
    ++ "  -h, --help     Print help\n"
    ++ "  -V, --version  Print version\n"

def exitSuccess : Nat := 0

def exitFailure : Nat := 1

/-- The exit code after wrong arguments. -/
def exitMisuse : Nat := 2

def servingLine (bind : String) : String :=
  "fitslim: serving Slim over tcp at " ++ bind ++ "\n"

def loadFailure (error : ConfigError) : String :=
  "failed to load config: " ++ error.message

def startFailure (error : ServerError) : String :=
  "failed to start server: " ++ error.message

def serveFailure (error : ServerError) : String :=
  "server stopped: " ++ error.message

def validLine : String := "config ok\n"

def exclusionLine (exclusions : Exclusions) (name : String) : String :=
  match exclusions.matching? name with
  | some pattern => "excluded " ++ name ++ " (" ++ pattern ++ ")\n"
  | none => "included " ++ name ++ "\n"

def exclusionReport (exclusions : Exclusions) (names : List String) : String :=
  String.join (names.map (exclusionLine exclusions))

def overrideBind (config : Config) (bind? : Option String) : Config :=
  match bind? with
  | none => config
  | some bind =>
      { config with server := { config.server with transport := .tcp, bind? := some bind } }

def announcement (config : Config) : String :=
  match config.server.transport with
  | .stdio => ""
  | .tcp => servingLine (config.server.bind?.getD "")

/-- What the program asks of its system. Failures come in the words of the system. -/
structure System (m : Type → Type) where
  /-- The environment variable that may name a configuration. -/
  environment? : m (Option String)
  readFile : String → m (Except String (List UInt8))
  /-- Opens a file for audit records. -/
  openFile : String → m (Except String AuditSink)
  /-- Serves one session on the standard streams. -/
  converse : Server → m (Except ServerError Unit)
  /-- Starts to listen on an address, unless the host refuses it. -/
  refusal? : Network.SocketAddress → m (Option String)
  /-- Serves the connections to the address that it listens on. -/
  acceptAll : Server → m Unit
  print : String → m Unit
  warn : String → m Unit

namespace System

variable [Pattern.Library] {m : Type → Type} [Monad m] (system : System m)

def succeed (output : String) : m (Option Nat) := do
  system.print output
  return some exitSuccess

def fail (description : String) : m (Option Nat) := do
  system.warn (description ++ "\n")
  return some exitFailure

def load (config? : Option String) : m (Except ConfigError Config) := do
  Config.loadWith system.readFile (.resolve config? (← system.environment?))

def listen (server : Server) : m (Except ServerError Unit) := do
  match server.listenAddress with
  | .error error => return .error error
  | .ok address => return Server.listened (← system.refusal? address)

/-- Serves as a configuration says. There is no exit code while the program goes on. -/
def serve (config : Config) : m (Option Nat) := do
  system.warn (announcement config)
  match ← Server.openWith system.openFile config Demo.registry with
  | .error error => system.fail (startFailure error)
  | .ok server =>
      match config.server.transport with
      | .stdio =>
          match ← system.converse server with
          | .error error => system.fail (serveFailure error)
          | .ok () => return some exitSuccess
      | .tcp =>
          match ← system.listen server with
          | .error error => system.fail (serveFailure error)
          | .ok () =>
              system.acceptAll server
              return none

def perform : Command → m (Option Nat)
  | .serve config? bind? => do
      match ← system.load config? with
      | .error error => system.fail (loadFailure error)
      | .ok config => system.serve (overrideBind config bind?)
  | .validate config? => do
      match ← system.load config? with
      | .error error => system.fail (loadFailure error)
      | .ok _ => system.succeed validLine
  | .checkExclusions config? names => do
      match (← system.load config?) >>= Config.compiledExclusions with
      | .error error => system.fail (loadFailure error)
      | .ok exclusions => system.succeed (exclusionReport exclusions names)

def turnAway : Detour → m (Option Nat)
  | .version => system.succeed versionLine
  | .help => system.succeed helpText
  | .misuse misuse => do
      system.warn ("error: " ++ misuse.message ++ "\n\n" ++ helpText)
      return some exitMisuse

def run (arguments : List Argument) : m (Option Nat) :=
  match readCommand arguments with
  | .ok command => system.perform command
  | .error detour => system.turnAway detour

end System

end ListInvocation.CommandLine
