import ListInvocation.CommandLine.Program
import ListInvocation.Platform
import Std.Async.TCP

/-!
Contract: the program on the system of its machine.

Owns: files, standard streams, connections, and the clock.

Does not own: what the program does with them, or how sessions answer.
-/

namespace ListInvocation.Main

open CommandLine
open Std.Async.TCP

/-- A stream to a caller. Receiving yields nothing at the end of the stream. -/
structure Endpoint where
  receive : IO (Option (List UInt8))
  send : List UInt8 → IO Unit

/-- The audit file, once it is open. -/
abbrev Trail := IO.Ref (Option IO.FS.Stream)

/-- A server at work: its sessions so far, and where its records are written. -/
structure Host where
  server : IO.Ref Server
  trail? : Option IO.FS.Stream

/-- The number of a system error, which may come with a sign. -/
def errorNumber (code : UInt32) : Nat := code.toInt32.toInt.natAbs

def failureText : IO.Error → String
  | .noFileOrDirectory _ code _ => s!"No such file or directory (os error {errorNumber code})"
  | .permissionDenied _ code _ => s!"Permission denied (os error {errorNumber code})"
  | .inappropriateType _ code details => s!"{details} (os error {errorNumber code})"
  | .resourceBusy code details => s!"{details} (os error {errorNumber code})"
  | .noSuchThing _ code details => s!"{details} (os error {errorNumber code})"
  | .otherError code details => s!"{details} (os error {errorNumber code})"
  | error => toString error

/-- What the system answers, or its wording of why it cannot. -/
def attempt {α : Type} (action : IO α) : IO (Except String α) := do
  try return .ok (← action)
  catch error => return .error (failureText error)

def openFile (file : Trail) (path : String) : IO (Except String AuditSink) :=
  attempt do
    file.set (some (.ofHandle (← IO.FS.Handle.mk path .append)))
    return .file (FileStore.components path)

/-- Puts a server to work, with its records at its sink. -/
def Host.start (file : Trail) (server : Server) : IO Host := do
  let trail? ← match server.sink with
    | .stderr => some <$> IO.getStderr
    | .file _ => file.get
    | .none => pure none
  return ⟨← IO.mkRef server, trail?⟩

/-- Writes records with the time of the clock. A failure to write is no failure of the
session. -/
def Host.record (host : Host) (records : List AuditRecord) : IO Unit := do
  let some trail := host.trail? | return
  let now ← Std.Time.Timestamp.now
  let milliseconds := now.toMillisecondsSinceUnixEpoch.val.toNat
  try
    for record in records do
      trail.putStr (record.line milliseconds ++ "\n")
    trail.flush
  catch _ => return

/-- The exchange of a session, with what it has still to write. -/
abbrev Pending := Conversation.Exchange Wire.BoundedSink

def deliver (host : Host) (endpoint : Endpoint) (exchange : Pending) :
    IO (Except ServerError Unit × Pending) := do
  host.record exchange.records
  let rest := { exchange with records := [], sink := .unlimited }
  try
    unless exchange.sink.accepted.isEmpty do
      endpoint.send exchange.sink.accepted
    return (.ok (), rest)
  catch error => return (.error (.ofWire (.stream (failureText error))), rest)

partial def converse (host : Host) (endpoint : Endpoint) (limit : Nat)
    (reader : Wire.FrameReader) (exchange : Pending) :
    IO (Conversation.Ending × Pending) := do
  let events? ← try
      pure ((← endpoint.receive).map fun bytes => bytes.map Wire.StreamEvent.byte)
    catch error => pure (some [.failure ⟨.other, failureText error⟩])
  match events? with
  | none => return Conversation.meetEnd reader exchange
  | some events =>
      let (ending?, reader, exchange) :=
        Conversation.feed .retried Wire.BoundedSink.writer limit reader exchange events
      let (written, exchange) ← deliver host endpoint exchange
      match ending?, written with
      | some ending, _ => return (ending, exchange)
      | none, .error error => return (.failed error, exchange)
      | none, .ok () => converse host endpoint limit reader exchange

def serveSession (host : Host) (transport : Transport) (peer? : Option String)
    (endpoint : Endpoint) : IO (Except ServerError Unit) := do
  let (conversation, opened, server) ← host.server.modifyGet fun server =>
    let (conversation, opened, next) := server.openSession transport peer?
    ((conversation, opened, server), next)
  let greeted : Pending :=
    ⟨conversation, [opened], ⟨Wire.bytesOf server.greeting, none, false⟩⟩
  let limit := server.config.server.maxMessageBytes
  let (written, exchange) ← deliver host endpoint greeted
  let (ending, exchange) ← match written with
    | .error error => pure (.failed error, exchange)
    | .ok () => converse host endpoint limit .start exchange
  let (result, exchange) := Conversation.conclude ending exchange
  host.record exchange.records
  return result

def standardEndpoint : IO Endpoint := do
  let input ← IO.getStdin
  let output ← IO.getStdout
  return {
    receive := do
      let bytes ← input.read 1
      return if bytes.isEmpty then none else some bytes.toList
    send := fun bytes => do
      output.write ⟨bytes.toArray⟩
      output.flush }

def connectionEndpoint (client : Socket.Client) : Endpoint where
  receive := do
    let bytes? ← (client.recv? 4096).block
    return bytes?.map ByteArray.toList
  send := fun bytes => (client.send ⟨bytes.toArray⟩).block

def systemAddress (socket : Network.SocketAddress) : Std.Net.SocketAddress :=
  let port := UInt16.ofNat socket.port
  match socket.address with
  | .octets octets =>
      let octet (index : Nat) : UInt8 := UInt8.ofNat (octets.getD index 0)
      .v4 ⟨.ofParts (octet 0) (octet 1) (octet 2) (octet 3), port⟩
  | .groups groups =>
      let group (index : Nat) : UInt16 := UInt16.ofNat (groups.getD index 0)
      .v6 ⟨.ofParts (group 0) (group 1) (group 2) (group 3) (group 4) (group 5) (group 6)
        (group 7), port⟩

def addressText : Std.Net.SocketAddress → String
  | .v4 address => toString address
  | .v6 address => toString address

/-- Accepts connections for as long as the program runs, each with a session of its own. -/
partial def acceptAll (host : Host) (listener : Socket.Server) : IO Unit := do
  try
    let client ← listener.accept.block
    client.noDelay
    let peer := addressText (← client.getPeerName)
    discard <| IO.asTask (serveSession host .tcp (some peer) (connectionEndpoint client))
      .dedicated
  catch error =>
    let context : AuditContext :=
      ⟨Server.listenerSession, .tcp, some (addressText (← listener.getSockName))⟩
    let failure := AcceptFailure.other
    host.record [⟨context, .acceptFailed failure.label (failureText error)⟩]
    IO.sleep 100
  acceptAll host listener

/-- Starts to listen on an address, unless the host refuses it. -/
def listen (listener : IO.Ref (Option Socket.Server)) (address : Network.SocketAddress) :
    IO (Option String) := do
  let bound ← attempt do
    let server ← Socket.Server.mk
    server.bind (systemAddress address)
    server.listen 1024
    listener.set (some server)
  match bound with
  | .ok () => return none
  | .error description => return some description

def machine : IO (System IO) := do
  let file : Trail ← IO.mkRef none
  let listener ← IO.mkRef none
  return {
    environment? := IO.getEnv ConfigSource.environmentVariable
    readFile := fun path => attempt do return (← IO.FS.readBinFile path).toList
    openFile := openFile file
    converse := fun server => do
      serveSession (← Host.start file server) .stdio none (← standardEndpoint)
    refusal? := listen listener
    acceptAll := fun server => do
      let host ← Host.start file server
      (← listener.get).forM (acceptAll host)
    print := fun text => do (← IO.getStdout).putStr text
    warn := fun text => do (← IO.getStderr).putStr text }

end ListInvocation.Main

open ListInvocation in
def main (arguments : List String) : IO UInt32 := do
  let code? ← (← Main.machine).run (arguments.map fun text => ⟨text, true⟩)
  return UInt32.ofNat (code?.getD CommandLine.exitSuccess)
