import ListInvocation.Proofs.Wire.Device
import ListInvocation.Server.Conversation

/-!
Contract: a session on a device.

A library reads frames from the device and writes texts to it, whole buffers at a time.

Owns: the loop over the frames of a device, and the session around it.

Does not own: the library, or what single reads and writes do.
-/

namespace ListInvocation.Conversation

open ListInvocation.Wire

variable [Text.Alphabet] {σ : Type} {device : Device σ}

/-- Reads frames from a device and answers them until the session ends. Each frame leaves
fewer events on the device. -/
def converseOn (port : Port device) (interruption : Interruption) (limit : Nat)
    (exchange : Exchange σ) (chunks : List Chunk) : Ending × Exchange σ :=
  match _ : port.readFrame interruption limit chunks with
  | (.ok none, _) => (.closed, exchange)
  | (.error error, _) => breakOff error exchange
  | (.ok (some payload), rest) =>
      match answer port.writer payload exchange with
      | (some ending, exchange) => (ending, exchange)
      | (none, exchange) => converseOn port interruption limit exchange rest
termination_by (eventsOf chunks).length
decreasing_by exact BufferReader.length_lt_of_readFrame ‹_›

/-- Runs a whole session on a device: the greeting, then the frames of its stream. -/
def serveOn (port : Port device) (interruption : Interruption) (greeting : String)
    (limit : Nat) (exchange : Exchange σ) (chunks : List Chunk) :
    Except ServerError Unit × Exchange σ :=
  match sendText port.writer greeting exchange with
  | (some ending, exchange) => conclude ending exchange
  | (none, exchange) =>
      let (ending, exchange) := converseOn port interruption limit exchange chunks
      conclude ending exchange

end ListInvocation.Conversation
