import Mautrix.Id

/-!
# Mautrix.Backfill.Types — the data `bridgev2/portalbackfill.go` moves

The records the backfill code reads and builds, with the fields it touches:

* the remote messages a network connector hands over (`BackfillMessage`, which embeds a
  `ConvertedMessage` of `ConvertedMessagePart`s, as the Go struct embeds it);
* what the backfill writes: Matrix events (`Event`) inside a `ReqBeeperBatchSend`, database
  rows (`Message`) and disappearing-message timers (`DisappearingMessage`);
* `Deps`, the functions of the rest of the bridge the file calls but does not define.

Go's string newtypes of `networkid` (`MessageID`, `PartID`, ...) are one-field structures,
as those of `id` in `Mautrix.Id`.

`time.Time` is an instant counted in nanoseconds from Go's zero time (January 1, year 1,
UTC). The location and the monotonic clock reading are dropped: timestamps that come from a
remote network or from the database carry no monotonic reading, so `Before` compares the
wall clock. `Add` does not saturate at the `int64` second range, which is some 292 billion
years away; `UnixMilli` does wrap around as Go's `int64` does, some 292 million years from
1970.
-/

namespace Mautrix.Backfill

/-! ## Identifiers -/

/-- `networkid.MessageID`. -/
structure MessageID where
  val : String
deriving DecidableEq, Repr, Inhabited

/-- `networkid.PartID`. -/
structure PartID where
  val : String
deriving DecidableEq, Repr, Inhabited

/-- `networkid.UserID`: a user of the remote network. -/
structure NetworkUserID where
  val : String
deriving DecidableEq, Repr, Inhabited

/-- `networkid.UserLoginID`. -/
structure UserLoginID where
  val : String
deriving DecidableEq, Repr, Inhabited

/-- `networkid.PortalKey`. -/
structure PortalKey where
  id : String
  receiver : UserLoginID
deriving DecidableEq, Repr, Inhabited

/-- `networkid.MessageOptionalPartID`: what a reply points at. -/
structure MessageOptionalPartID where
  messageID : MessageID
  partID : Option PartID
deriving DecidableEq, Repr, Inhabited

/-- A payload the backfill only carries from one record to the next (message content, the
raw extra fields of an event, a part's database metadata), kept as its JSON text. -/
structure Json where
  text : String
deriving DecidableEq, Repr, Inhabited

/-! ## Time -/

/-- `time.Time`, in nanoseconds from Go's zero time. -/
structure Time where
  ns : Int
deriving DecidableEq, Repr, Inhabited

/-- Seconds from Go's zero time to the Unix epoch (`unixToInternal` in package `time`). -/
def unixToInternal : Int := 62135596800

namespace Time

/-- `t.Before(u)`. -/
def before (t u : Time) : Bool := decide (t.ns < u.ns)

/-- `t.IsZero()`: the zero time, which is what an unset `time.Time` field holds. -/
def isZero (t : Time) : Bool := decide (t.ns = 0)

/-- `t.Add(d)`. -/
def add (t : Time) (d : Duration) : Time := ⟨t.ns + d.ns⟩

/-- `t.UnixMilli()`, which computes `t.unixSec()*1e3 + int64(t.nsec())/1e6` in `int64`: the
milliseconds since the Unix epoch, rounded down, modulo `2^64` (18446744073709551616) into
the `int64` range. -/
def unixMilli (t : Time) : Int :=
  Int.bmod ((t.ns - unixToInternal * 1000000000) / 1000000) 18446744073709551616

@[simp] theorem add_ns (t : Time) (d : Duration) : (t.add d).ns = t.ns + d.ns := rfl

@[simp] theorem isZero_eq_true {t : Time} : t.isZero = true ↔ t.ns = 0 := by
  simp [isZero]

@[simp] theorem before_eq_true {t u : Time} : t.before u = true ↔ t.ns < u.ns := by
  simp [before]

end Time

/-! ## Database records -/

/-- `database.DisappearingType`, a string newtype of the database package. -/
structure DisappearingType where
  val : String
deriving DecidableEq, Repr, Inhabited

/-- `database.DisappearingSetting`. -/
structure DisappearingSetting where
  type : DisappearingType
  timer : Duration
  disappearAt : Time
deriving DecidableEq, Repr, Inhabited

/-- `database.Message`, one row per message part. `senderMXID` and `extra` are the two
fields of its `Metadata` the backfill sets. -/
structure Message where
  id : MessageID
  partID : PartID
  mxid : EventID
  room : PortalKey
  senderID : NetworkUserID
  timestamp : Time
  threadRoot : MessageID
  replyTo : MessageOptionalPartID
  senderMXID : UserID
  extra : Json
deriving DecidableEq, Repr, Inhabited

/-- `database.DisappearingMessage`: a timer handed to the disappearing-message loop. -/
structure DisappearingMessage where
  roomID : RoomID
  eventID : EventID
  setting : DisappearingSetting
deriving DecidableEq, Repr, Inhabited

/-! ## Remote messages -/

/-- `EventSender`: who sent a remote message. -/
structure EventSender where
  isFromMe : Bool
  senderLogin : UserLoginID
  sender : NetworkUserID
deriving DecidableEq, Repr, Inhabited

/-- `ConvertedMessagePart`: one Matrix event of a converted message. -/
structure ConvertedMessagePart where
  id : PartID
  type : EventType
  content : Json
  extra : Json
  dbMetadata : Json
deriving DecidableEq, Repr, Inhabited

/-- `ConvertedMessage`. -/
structure ConvertedMessage where
  replyTo : Option MessageOptionalPartID
  threadRoot : Option MessageID
  parts : List ConvertedMessagePart
  disappear : DisappearingSetting
deriving DecidableEq, Repr, Inhabited

/-- `BackfillMessage`, which embeds its `*ConvertedMessage` (never nil from a connector).
Its `Reactions` are not read: their handling is a TODO in the source. -/
structure BackfillMessage extends ConvertedMessage where
  sender : EventSender
  id : MessageID
  timestamp : Time
deriving DecidableEq, Repr, Inhabited

/-! ## What the backfill builds -/

/-- `event.Event`, with `Content.Parsed` as `content` and `Content.Raw` as `raw`. -/
structure Event where
  sender : UserID
  type : EventType
  timestamp : Int
  id : EventID
  roomID : RoomID
  content : Json
  raw : Json
deriving DecidableEq, Repr, Inhabited

/-- `mautrix.ReqBeeperBatchSend`. -/
structure ReqBeeperBatchSend where
  forwardIfNoMessages : Bool
  forward : Bool
  sendNotification : Bool
  markReadBy : UserID
  events : List Event
deriving DecidableEq, Repr, Inhabited

/-! ## The rest of the bridge -/

/-- The portal the backfill runs in: its room and its key. -/
structure Portal where
  mxid : RoomID
  portalKey : PortalKey
deriving DecidableEq, Repr, Inhabited

/-- The login the backfill runs as: its Matrix user, and the MXID of that user's double
puppet (`source.User.DoublePuppet(ctx)`), `none` when there is none. -/
structure UserLogin where
  userMXID : UserID
  doublePuppet : Option UserID
deriving DecidableEq, Repr, Inhabited

/-- The three records `portal.getRelationMeta` returns. -/
structure RelationMeta where
  replyTo : Option Message
  threadRoot : Option Message
  prevThreadEvent : Option Message
deriving DecidableEq, Repr, Inhabited

/-- What `portalbackfill.go` calls and the rest of the bridge defines. The legacy path's
`sendConvertedMessage` sends to Matrix and writes the database, so it threads a state `σ`
of both; every other call is a function of its arguments. -/
structure Deps (σ : Type) where
  /-- `portal.GetIntentFor(ctx, sender, source, RemoteEventMessage).GetMXID()`. -/
  getIntentFor : EventSender → UserLogin → UserID
  /-- `portal.getRelationMeta(ctx, replyTo, threadRoot, true)`. -/
  getRelationMeta : Option MessageOptionalPartID → Option MessageID → RelationMeta
  /-- `portal.applyRelationMeta(content, replyTo, threadRoot, prevThreadEvent)`, which
  rewrites the content in place; here it returns the rewritten content. -/
  applyRelationMeta : Json → Option Message → Option Message → Option Message → Json
  /-- `portal.Bridge.Matrix.GenerateDeterministicEventID`. -/
  generateDeterministicEventID : RoomID → PortalKey → MessageID → PartID → EventID
  /-- `portal.Bridge.Matrix.GetCapabilities().BatchSending`. -/
  batchSending : Bool
  /-- `portal.sendConvertedMessage(ctx, id, intent, sender, converted, ts, ...)`: the
  database rows of the parts it managed to send. -/
  sendConvertedMessage : σ → MessageID → UserID → EventSender → ConvertedMessage → Time →
    List Message × σ
  /-- `database.DisappearingTypeNone`. -/
  disappearingTypeNone : DisappearingType
  /-- `database.DisappearingTypeAfterSend`. -/
  disappearingTypeAfterSend : DisappearingType

end Mautrix.Backfill
