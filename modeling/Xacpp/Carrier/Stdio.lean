import Xacpp.Carrier.Socket
/-!
# The stdio transport

`StdioTransport` over the two halves of a pipe, parked until `connect`. Its
flags, its slots and the tasks of a connection are those of the socket
transport, the accept loop in the dispatch task's place. It keeps a handle
of the frame reader beside the accept loop's: `connect` stores both, one
after the other, and `disconnect` aborts both.
-/

namespace Xacpp

namespace Carrier

structure StdioTransport where
  /-- What it has as the socket transport has it; the handle in there is the
  frame reader's. -/
  shared : SocketTransport
  acceptHandle : Option ℕ
  /-- The operation under the lock has dealt with the reader's handle and
  comes to the accept loop's. -/
  atAccept : Bool

namespace StdioTransport

open SocketTransport (Action)

def new : StdioTransport where
  shared := .new
  acceptHandle := none
  atAccept := false

variable (t : StdioTransport)

/-- Abort the frame reader of connection `n`: the hooks stay. -/
def abortReader (n : ℕ) : SocketTransport :=
  { t.shared with readers := t.shared.readers.modify n fun r => { r with pc := .ended } }

/-- One stretch of the operation under the connect lock. -/
def advance (reachable : Bool) : Op → StdioTransport
  | .connect (.storeHandle n) =>
    if t.atAccept then
      { shared := t.shared.returns (.connectReturned (.ok ()))
        acceptHandle := some n
        atAccept := false }
    else { t with shared := { t.shared with readerHandle := some n }, atAccept := true }
  | .disconnect .takeHandle =>
    if t.atAccept then
      let shared := match t.acceptHandle with
        | none => t.shared
        | some n => t.shared.abortDispatch n
      { shared := { shared with op := some (.disconnect .clearPending) }
        acceptHandle := none
        atAccept := false }
    else
      let shared := match t.shared.readerHandle with
        | none => t.shared
        | some n => t.abortReader n
      { t with shared := { shared with readerHandle := none }, atAccept := true }
  | .connect pc => { t with shared := t.shared.advanceConnect reachable pc }
  | .disconnect pc => { t with shared := t.shared.advanceDisconnect pc }

def step (t : StdioTransport) : Action → Option StdioTransport
  | .advance reachable => t.shared.op.map (t.advance reachable)
  | a => (t.shared.step a).map fun shared => { t with shared := shared }

end StdioTransport

end Carrier

end Xacpp
