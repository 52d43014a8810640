import Redelivery.Settings

/-!
# Failures

Why an operation on a stream failed. The first six are for applications to act on; the others say
that something could not be written, which does not happen with valid settings.

## Main definitions

* `Failure`: the causes.
* `Failure.message`: the cause in words.
* `Failure.isClosed`, `Failure.isTimeout`: two causes that applications often ask for.
-/

namespace Redelivery

/-- Why an operation failed. -/
inductive Failure where
  /-- There was no room in the send window for too long. -/
  | writeTimeout
  /-- The stream is closed. -/
  | streamClosed
  /-- The peer did not answer a handshake in time. -/
  | handshakeTimeout
  /-- A message is longer than the settings allow. -/
  | messageTooLarge (length maximum : Nat)
  /-- The reader's buffer is too small for the next message. -/
  | readBufferTooSmall (required available : Nat)
  /-- The socket failed, for a reason of its own. -/
  | socket (reason : String)
  /-- The settings are not valid. -/
  | settings (error : SettingsError)
  /-- A header could not be written. -/
  | header (error : HeaderError)
  /-- A segment could not be written. -/
  | segment (error : SegmentError)
  /-- A checksum could not be written. -/
  | stamp (error : Frame.StampError)
  /-- A segment that was just added to the send window is not there. -/
  | missing (seq : Serial)
  /-- A failure of some other part of an application. -/
  | other (text : String)
deriving DecidableEq, Repr

namespace Failure

/-- The cause in words. -/
def message : Failure → String
  | writeTimeout => "write timed out waiting for room in the send window"
  | streamClosed => "stream is closed"
  | handshakeTimeout => "handshake timed out: no DialAck received"
  | messageTooLarge length maximum =>
    s!"message of length {length} exceeds the maximum of {maximum}"
  | readBufferTooSmall required available =>
    s!"read buffer of length {available} is too small for a message of length {required}"
  | socket reason => s!"socket error: {reason}"
  | settings error => error.message
  | header error => error.message
  | segment error => error.message
  | stamp error => error.message
  | missing seq => s!"segment #{seq} is not in the send window"
  | other text => text

/-- Whether the cause is that the stream is closed. -/
def isClosed : Failure → Bool
  | streamClosed => true
  | _ => false

/-- Whether the cause is that a write took too long. -/
def isTimeout : Failure → Bool
  | writeTimeout => true
  | _ => false

end Failure

end Redelivery
