import ListInvocation.CommandLine.Program
import ListInvocation.Network.Host
import ListInvocation.Platform

/-!
Contract: what the program prints and how it ends, from what it sees.

Owns: the record of what the program does, the system that keeps it, and the outcome of the
program from its arguments, its files, its environment and its input.

Does not own: sessions over a network.
-/

namespace ListInvocation.CommandLine

/-- What the program sees when it starts. -/
structure Surroundings where
  files : FileStore
  /-- The environment variable that may name a configuration. -/
  environment? : Option String
  input : List Wire.StreamEvent

structure Record where
  output : List UInt8
  errors : String
  files : FileStore

namespace Record

variable [Text.Alphabet]

def start (files : FileStore) : Record := ⟨[], "", files⟩

def print (record : Record) (text : String) : Record :=
  { record with output := record.output ++ Wire.bytesOf text }

def warn (record : Record) (text : String) : Record :=
  { record with errors := record.errors ++ text }

def note (record : Record) (sink : AuditSink) (entries : List AuditRecord) : Record :=
  match sink with
  | .stderr => record.warn (String.join (entries.map fun entry => entry.line 0 ++ "\n"))
  | .file _ | .none => { record with files := entries.foldl (sink.record 0) record.files }

def converse (record : Record) (server : Server) (input : List Wire.StreamEvent) :
    Except ServerError Unit × Record :=
  let (result, exchange, _) :=
    server.serveStream .retried .stdio none server.config.server.maxMessageBytes
      Wire.BoundedSink.writer .unlimited input
  (result, { record with output := record.output ++ exchange.sink.accepted }.note
    server.sink exchange.records)

end Record

/-- The system that keeps a record, on a host that refuses some addresses. -/
def recorded [Text.Alphabet] (refusal? : Network.SocketAddress → Option String)
    (surroundings : Surroundings) : System (StateM Record) where
  environment? := pure surroundings.environment?
  readFile path record := ((record.files.read path).mapError FileFault.message, record)
  openFile path record :=
    let (opened, files) := AuditSink.openStored path record.files
    (opened, { record with files := files })
  converse server record := record.converse server surroundings.input
  refusal? address := pure (refusal? address)
  acceptAll _ := pure ()
  print text := modify fun record => record.print text
  warn text := modify fun record => record.warn text

/-- What the program leaves behind, and its exit code unless it goes on serving. -/
structure Outcome extends Record where
  code? : Option Nat

def Outcome.of (program : StateM Record (Option Nat)) (surroundings : Surroundings) : Outcome :=
  let (code?, record) := program (.start surroundings.files)
  ⟨record, code?⟩

/-- Serves as a configuration says, on a host that refuses some addresses. -/
def serve [Text.Alphabet] [Pattern.Library]
    (refusal? : Network.SocketAddress → Option String) (config : Config)
    (surroundings : Surroundings) : Outcome :=
  .of ((recorded refusal? surroundings).serve config) surroundings

/-- The outcome of the program with the alphabet and the patterns of its platform, on a host
without interfaces. -/
def run (surroundings : Surroundings) (arguments : List Argument) : Outcome :=
  .of ((recorded Network.refusal? surroundings).run arguments) surroundings

end ListInvocation.CommandLine
