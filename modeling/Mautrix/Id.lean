import Mathlib.Data.List.Basic

/-!
# Mautrix.Id — Matrix identifiers, event types and durations

The values of Go's `id`, `event` and `time` packages that the bridge, the client and the
command code all pass around. String newtypes are one-field structures, so that the model
cannot mix them up; their zero value is the empty string, as in Go.
-/

namespace Mautrix

/-- `id.UserID`: a Matrix user. -/
structure UserID where
  val : String
deriving DecidableEq, Repr, Inhabited

/-- `id.EventID`; the empty ID is what a Go map lookup of a missing key returns. -/
structure EventID where
  val : String
deriving DecidableEq, Repr, Inhabited

/-- `id.RoomID`. -/
structure RoomID where
  val : String
deriving DecidableEq, Repr, Inhabited

/-- `event.TypeClass`; the zero value is `UnknownEventType`. -/
inductive TypeClass where
  | unknownEventType
  | stateEventType
  | messageEventType
  | toDeviceEventType
  | ephemeralEventType
  | accountDataEventType
deriving DecidableEq, Repr, Inhabited

/-- `event.Type`: the type string and its class. Go compares two types field by field, so a
type string with another class is another type. -/
structure EventType where
  type : String
  typeClass : TypeClass
deriving DecidableEq, Repr, Inhabited

/-- `time.Duration`: a signed count of nanoseconds. -/
structure Duration where
  ns : Int
deriving DecidableEq, Repr, Inhabited

end Mautrix
