import TypedChannel.Channel.Basic
import TypedChannel.Transport.Socket
/-!
# TypedChannel.Channel.Describe

Channels and their parts as they show themselves. Descriptor numbers are shown
as `#`, so the text of a channel does not depend on what else is open.
-/

namespace TypedChannel

namespace Describe

/-- A type with named fields. -/
def shownRecord (name : String) (fields : List (String × String)) : String :=
  name ++ " \x7b " ++ ", ".intercalate (fields.map fun (field, value) => field ++ ": " ++ value)
    ++ " \x7d"

/-- A value that may be missing. -/
def optional (shown : α → String) : Option α → String
  | none => "None"
  | some a => "Some(" ++ shown a ++ ")"

end Describe

open Describe

def SocketKind.describe : SocketKind → String
  | .stream => "Stream"
  | .datagram => "Datagram"

def Handle.describe (handle : Handle) : Action Host Empty String := do
  match handle with
  | .link .. => return "Mem"
  | .pipe _ .reader _ => return shownRecord "PipeReader" [("fd", "#")]
  | .pipe _ .writer _ => return shownRecord "PipeWriter" [("fd", "#")]
  | .stream .. | .datagram .. =>
    let kind := match handle with
      | .datagram .. => SocketKind.datagram
      | _ => .stream
    let peer ← Socket.peerAddress handle
    return shownRecord "SocketChannel"
      [("kind", kind.describe), ("role", handle.role.describe), ("fd", "#"),
        ("peer", optional SocketAddress.text peer)]

/-- A transport under `n` layers of buffers; `inner` is the text of the innermost one. -/
def Layered.describe {σ : Type} (inner : String) : (n : Nat) → Layered σ n → String
  | 0, _ => inner
  | n + 1, (b : Buffered (Layered σ n)) =>
    shownRecord "Buffered"
      [("inner", Layered.describe inner n b.inner), ("buffered", toString b.unread.length),
        ("pending_write", toString b.pending.length)]

def ChannelConfig.describe (config : ChannelConfig) (store : Diagnostics.Store) : String :=
  shownRecord "ChannelConfig"
    [("errors_fatal", toString config.errorsFatal),
      ("suppress_messages", toString config.suppressMessages),
      ("max_string_len", toString config.maxStringLength),
      ("terminated_buffer_size", toString config.terminatedBufferSize),
      ("diagnostics", store.describe config.diagnostics)]

/-- A channel over a transport that shows itself as `transport`. -/
def Channel.describe {σ : Type} (channel : Channel σ) (transport : String)
    (store : Diagnostics.Store) : String :=
  shownRecord "Channel"
    [("transport", transport), ("config", channel.config.describe store),
      ("role", channel.role.describe), ("bytes_sent", toString channel.bytesSent),
      ("bytes_received", toString channel.bytesReceived),
      ("last_error", optional Text.quoted channel.lastError),
      ("peer_gone_reported", toString channel.peerGoneReported)]

end TypedChannel
