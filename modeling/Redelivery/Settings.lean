import Redelivery.Frame
import Redelivery.Header
import Redelivery.Segment

/-!
# Settings

What both ends of a stream agree on, and what each of them may choose. Times are in milliseconds.

## Main definitions

* `Settings`: the settings, with their defaults.
* `Settings.fault?`: the first thing that is wrong with them.
* `ValidSettings`: settings with which nothing is wrong.
-/

namespace Redelivery

/-- The settings of a stream. -/
structure Settings where
  /-- The greatest length of a datagram, checksum included. -/
  mtu : Nat := 1200
  /-- The number of segments that each of the two windows can hold. -/
  windowSize : Nat := 256
  /-- The greatest number of earlier segments that are sent again with every new one. -/
  redundancy : Nat := 3
  /-- How long a write waits for room in the send window, for each of its segments. -/
  writeTimeout : Nat := 5000
  /-- How long a blocked writer waits before it looks at the send window again. -/
  writePoll : Nat := 100
  /-- The time between two flushes. -/
  flushInterval : Nat := 10
  /-- The time between two requests of a handshake. -/
  dialInterval : Nat := 50
  /-- How long a handshake may take, if that is limited. -/
  dialTimeout : Option Nat := some 15000
  /-- The greatest length of a message. -/
  maxMessage : Nat := 2 * 1024 * 1024
  /-- The number of buffers of each capacity that are kept for reuse. -/
  poolSize : Nat := 1024
  /-- The serial number of a stream's first segment. -/
  initialSerial : Serial := ⟨0⟩
deriving DecidableEq, Repr

/-- What can be wrong with settings. -/
inductive SettingsError where
  /-- A datagram has no room for a segment with a body. -/
  | noRoomForData (mtu : Nat)
  /-- A datagram has no room for an acknowledgement. -/
  | noRoomForAck (mtu : Nat)
  /-- A segment could be larger than its size field can tell. -/
  | segmentTooLarge (mtu : Nat)
  /-- The windows hold nothing. -/
  | windowEmpty
  /-- The windows are so wide that the order of serial numbers has no meaning within them. -/
  | windowTooWide
  /-- The places in the windows would not be consistent where serial numbers wrap around. -/
  | windowNotPowerOfTwo (size : Nat)
  /-- A timer would be due all the time. -/
  | timerZero
deriving DecidableEq, Repr

namespace SettingsError

/-- The error in words. -/
def message : SettingsError → String
  | noRoomForData mtu => s!"MTU of {mtu} is too small to carry any data"
  | noRoomForAck mtu => s!"MTU of {mtu} is too small for an ACK datagram"
  | segmentTooLarge mtu => s!"MTU of {mtu} is too big: segment size must fit in 16 bits"
  | windowEmpty => "window size must be positive"
  | windowTooWide => "window size must be less than half the sequence number range"
  | windowNotPowerOfTwo size => s!"window size must be a power of two, is {size}"
  | timerZero => "timer intervals must be positive"

end SettingsError

namespace Settings

/-- The greatest body of a segment: a datagram has room for a header, one such segment and the
checksum. -/
def maxSegment (s : Settings) : Nat :=
  s.mtu - (Header.plainSize + Segment.overhead + Frame.checksumLength)

/-- The room for segments in a datagram, between header and checksum. -/
def segmentRoom (s : Settings) : Nat :=
  s.mtu - (Header.plainSize + Frame.checksumLength)

/-- The first thing that is wrong with the settings, if anything is. -/
def fault? (s : Settings) : Option SettingsError :=
  if s.maxSegment = 0 then some (.noRoomForData s.mtu)
  else if s.mtu < Header.ackSize + Frame.checksumLength then some (.noRoomForAck s.mtu)
  else if UInt16.size ≤ s.maxSegment then some (.segmentTooLarge s.mtu)
  else if s.windowSize = 0 then some .windowEmpty
  else if 1 <<< 31 ≤ s.windowSize then some .windowTooWide
  else if 1 <<< s.windowSize.log2 ≠ s.windowSize then some (.windowNotPowerOfTwo s.windowSize)
  else if s.flushInterval = 0 ∨ s.dialInterval = 0 then some .timerZero
  else none

end Settings

/-- Settings with which nothing is wrong. -/
structure ValidSettings extends Settings where
  /-- Nothing is wrong. -/
  fault?_eq_none : toSettings.fault? = none

namespace ValidSettings

/-- Valid settings with the given values, or what is wrong with these. -/
def ofSettings (s : Settings) : Except SettingsError ValidSettings :=
  match h : s.fault? with
  | none => .ok { toSettings := s, fault?_eq_none := h }
  | some e => .error e

theorem windowSize_pos (s : ValidSettings) : 0 < s.windowSize := by
  have h := s.fault?_eq_none
  simp only [Settings.fault?] at h
  repeat' split at h
  all_goals first | contradiction | omega

/-- The default settings are valid. -/
instance : Inhabited ValidSettings where
  default := { toSettings := {}, fault?_eq_none := by decide }

end ValidSettings

end Redelivery
