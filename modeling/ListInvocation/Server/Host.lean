import ListInvocation.Config.Validation
import ListInvocation.FileStore
import ListInvocation.Server.Conversation

/-!
Contract: a server that opens sessions one after another.

A server is made from a configuration that passes its checks and whose audit sink can
be opened. Its sessions are numbered from one; number zero is the listener's own.

Owns: the audit sink and what becomes of a record, the making of a server, the opening
of sessions, and the labels of accept failures.

Does not own: the network, or the threads that sessions run on.
-/

namespace ListInvocation

inductive AuditSink where
  | stderr
  /-- The file with the given components. -/
  | file (path : List String)
  | none
deriving Repr, DecidableEq

namespace AuditSink

/-- Opens the sink that a configuration asks for, where the system opens files as sinks. -/
def openWith {m : Type → Type} [Monad m] (openFile : String → m (Except String AuditSink))
    (config : AuditConfig) : m (Except String AuditSink) :=
  match config.target, config.path? with
  | .stderr, _ => pure (.ok .stderr)
  | .none, _ => pure (.ok .none)
  | .file, Option.none => pure (.error AuditConfig.pathMissing)
  | .file, some path => openFile path

/-- Opens the file at a path as a sink. The file is created if it is missing. -/
def openFile (store : FileStore) (path : String) : Except String (AuditSink × FileStore) :=
  match store.openAppend path with
  | .ok (opened, store) => .ok (.file opened, store)
  | .error fault => .error fault.message

def openStored (path : String) : StateM FileStore (Except String AuditSink) :=
  FileStore.attempt fun store => openFile store path

/-- Opens the sink that a configuration asks for among the files of a store. -/
def ofConfig (config : AuditConfig) (store : FileStore) :
    Except String (AuditSink × FileStore) :=
  FileStore.resultOf (openWith openStored config) store

/-- Writes a record to a file sink; other sinks leave the files alone. -/
def record (sink : AuditSink) (timestamp : Nat) (store : FileStore) (entry : AuditRecord) :
    FileStore :=
  match sink with
  | .file path => store.appendAt path (Wire.bytesOf (entry.line timestamp ++ "\n"))
  | .stderr | .none => store

end AuditSink

/-- A server between two sessions. -/
structure Server where
  config : Config
  registry : Registry
  dialect : Dialect
  sink : AuditSink
  /-- The number of the next session, which wraps around behind the greatest one. -/
  nextSession : UInt64

namespace Server

variable [Text.Alphabet] [Pattern.Library]

/-- The session number of the listener. -/
def listenerSession : Nat := 0

/-- Makes a server of a checked configuration, where the system opens files as sinks. -/
def openWith {m : Type → Type} [Monad m] (openFile : String → m (Except String AuditSink))
    (config : Config) (registry : Registry) : m (Except ServerError Server) := do
  match config.validate with
  | .error error => return .error (.config error.message)
  | .ok () =>
      match ← AuditSink.openWith openFile config.audit with
      | .error description => return .error (.init description)
      | .ok sink => return .ok ⟨config, registry, .standard, sink, 1⟩

/-- Makes a server; the files are those after its audit sink was opened. -/
def ofConfig (config : Config) (registry : Registry) (store : FileStore) :
    Except ServerError (Server × FileStore) :=
  FileStore.resultOf (openWith AuditSink.openStored config registry) store

def withDialect (server : Server) (dialect : Dialect) : Server :=
  { server with dialect := dialect }

def greeting (server : Server) : String :=
  Wire.greeting server.config.server.protocolVersion

def openSession (server : Server) (transport : Transport) (peer? : Option String) :
    Conversation × AuditRecord × Server :=
  let context : AuditContext := ⟨server.nextSession.toNat, transport, peer?⟩
  let (conversation, opened) :=
    Conversation.start (.start server.registry server.dialect) context
  (conversation, opened, { server with nextSession := server.nextSession + 1 })

def serveStream {σ : Type} (server : Server) (interruption : Wire.Interruption)
    (transport : Transport) (peer? : Option String) (limit : Nat) (writer : Wire.Writer σ)
    (sink : σ) (events : List Wire.StreamEvent) :
    Except ServerError Unit × Conversation.Exchange σ × Server :=
  let (conversation, opened, server) := server.openSession transport peer?
  let (result, exchange) :=
    Conversation.serve interruption writer server.greeting limit
      ⟨conversation, [opened], sink⟩ events
  (result, exchange, server)

def listenAddress (server : Server) : Except ServerError Network.SocketAddress :=
  match server.config.server.bindAddress with
  | .error error => .error (.config error.message)
  | .ok address => .ok address

def listenFailure (description : String) : ServerError :=
  .transport ("bind failed: " ++ description)

/-- Whether a server comes to listen, with the host's word if it refused the address. -/
def listened : (refusal? : Option String) → Except ServerError Unit
  | some description => .error (listenFailure description)
  | none => .ok ()

/-- Whether a server comes to listen, on a host that refuses some addresses. -/
def listenOn (server : Server) (refusal? : Network.SocketAddress → Option String) :
    Except ServerError Unit := do
  let address ← server.listenAddress
  listened (refusal? address)

end Server

inductive AcceptFailure where
  | connectionRefused
  | connectionAborted
  | connectionReset
  | interrupted
  | other
deriving Repr, DecidableEq

namespace AcceptFailure

def ofErrorNumber : Nat → AcceptFailure
  | 111 => .connectionRefused
  | 103 => .connectionAborted
  | 104 => .connectionReset
  | 4 => .interrupted
  | _ => .other

/-- Whose fault a failure is: one connection's, after which the next can be accepted at
once, or the listener's. -/
def label : AcceptFailure → String
  | .connectionRefused | .connectionAborted | .connectionReset | .interrupted => "connection"
  | .other => "listener"

end AcceptFailure

end ListInvocation
