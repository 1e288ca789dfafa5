import BuckyP2p.Tcp.Lease

/-!
# BuckyP2p.ControlStream.Frame — the frames of `networks/control_stream.rs`

The virtual streams of a tunnel share its control channel.  A frame names its stream; it is sent as
one payload of at most `maxControlDataFrameSize` bytes.
-/

namespace BuckyP2p.ControlStream

open Tcp (TunnelPurpose)

abbrev StreamId : Type := U32

def maxControlDataFrameSize : Nat := 64 * 1024
def controlStreamWriteChunk : Nat := 60 * 1024
def controlStreamQueueCapacity : Nat := 1024
def controlStreamQueueTerminalReserve : Nat := 1

/-- The digit `k` of a hexadecimal number. -/
def hexDigit (k : Nat) : Char := "0123456789abcdef".toList.getD k '0'

/-- `Display for TunnelPurpose`. -/
def purposeText (purpose : TunnelPurpose) : String :=
  "0x" ++ String.ofList (purpose.flatMap fun b => [hexDigit (b.val / 16), hexDigit (b.val % 16)])

inductive TunnelCommandResult
  | success | portNotListen | listenerClosed | acceptQueueFull | conflictLost | leaseMismatch
  | retired | protocolError | timeout | interrupted | invalidParam | internalError
  deriving DecidableEq, Repr

def TunnelCommandResult.intoP2pError (r : TunnelCommandResult) (context : String) : P2pError :=
  match r with
  | .success => ⟨.ok, context⟩
  | .portNotListen => ⟨.portNotListen, context⟩
  | .listenerClosed => ⟨.interrupted, context⟩
  | .acceptQueueFull => ⟨.reject, context⟩
  | .conflictLost => ⟨.conflict, context⟩
  | .leaseMismatch => ⟨.reject, context⟩
  | .retired => ⟨.interrupted, context⟩
  | .protocolError => ⟨.invalidData, context⟩
  | .timeout => ⟨.timeout, context⟩
  | .interrupted => ⟨.interrupted, context⟩
  | .invalidParam => ⟨.invalidParam, context⟩
  | .internalError => ⟨.unknown, context⟩

inductive ControlStreamFrame
  | openStream (streamId : StreamId) (purpose : TunnelPurpose)
  | openResp (streamId : StreamId) (result : TunnelCommandResult)
  | data (streamId : StreamId) (bytes : List U8)
  | fin (streamId : StreamId)
  | reset (streamId : StreamId) (reason : TunnelCommandResult)
  | window (streamId : StreamId) (credit : U32)
  deriving DecidableEq, Repr

/-- The bytes that a frame carries for the reader of its stream. -/
def ControlStreamFrame.payload : ControlStreamFrame → List U8
  | .data _ bytes => bytes
  | _ => []

end BuckyP2p.ControlStream
