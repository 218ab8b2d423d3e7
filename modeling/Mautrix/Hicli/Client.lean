import Mautrix.Id

/-!
# Mautrix.Hicli.Client — the client's data, its errors, and the calls it makes

`hicli` is a Matrix client. The functions of it modelled here compose a message, encrypt it
when the room is encrypted, store a local echo and send it, mark rooms read, and share the
room key of an encrypted room with the members allowed to read it.

They call the client's database, the homeserver and the crypto machine, none of which is
defined where they are. These calls are the fields of `HiClient`, each a function of the
state `σ` of the world outside: it returns Go's `(value, error)` pair and the state after
the call. The package-level values of other packages the code compares against (event
types, receipt types, history visibilities, sentinel errors) are fields as well.

A run of client code is a `Go` computation: from a `World` (that state, and the calls made so
far) it panics (`none`) or returns an error or a value, with the world after it. Every call
out is appended to `World.calls` with its arguments and what it returned, so that a property
can say which calls a function makes, in which order, and with what.

Go's `error` is `GoError`: a package-level sentinel, a fresh error with a text, or an error
wrapped with `%w`; `GoError.is` is `errors.Is`.
-/

namespace Mautrix.Hicli

/-! ## Errors -/

/-- A Go `error`, as `Error()` and `errors.Is` see it. -/
inductive GoError where
  /-- a package-level error value, such as `crypto.SessionExpired`, with its text -/
  | sentinel (text : String)
  /-- a fresh error with a text: `errors.New`, or `fmt.Errorf` without `%w` -/
  | new (text : String)
  /-- `fmt.Errorf(pre + "%w", err)` -/
  | wrap (pre : String) (err : GoError)
deriving DecidableEq, Repr

namespace GoError

/-- `err.Error()`. -/
def error : GoError → String
  | sentinel text => text
  | new text => text
  | wrap pre err => pre ++ err.error

/-- `errors.Is(err, target)` for errors without an `Is` method: `target` is `err` or an
error `err` wraps. -/
def is (err target : GoError) : Bool :=
  err == target || match err with
    | wrap _ inner => inner.is target
    | _ => false

end GoError

/-! ## Data -/

/-- `json.RawMessage`, by its text. -/
structure RawJSON where
  text : String
deriving DecidableEq, Repr, Inhabited

/-- `id.SessionID`: a Megolm session. -/
structure SessionID where
  val : String
deriving DecidableEq, Repr, Inhabited

/-- `database.EventRowID`. -/
structure EventRowID where
  val : Int
deriving DecidableEq, Repr, Inhabited

/-- `event.ReceiptType`. -/
structure ReceiptType where
  val : String
deriving DecidableEq, Repr, Inhabited

/-- `event.HistoryVisibility`. -/
structure HistoryVisibility where
  val : String
deriving DecidableEq, Repr, Inhabited

/-- `event.Membership`. -/
structure Membership where
  val : String
deriving DecidableEq, Repr, Inhabited

/-- `database.Room`, with the fields read and written here: the room, the content of its
`m.room.encryption` event (nil when the room is not encrypted), and whether its member list
is loaded. -/
structure Room where
  id : RoomID
  encryptionEvent : Option RawJSON
  hasMemberList : Bool
deriving DecidableEq, Repr, Inhabited

/-- `database.Event`, a row of the event table, with the fields `Send` sets; `timestamp` is
in milliseconds, and `decrypted` is nil for an event sent in clear. -/
structure DBEvent where
  rowID : EventRowID
  roomID : RoomID
  id : EventID
  sender : UserID
  type : String
  timestamp : Int
  content : RawJSON
  decrypted : Option RawJSON
  decryptedType : String
  unsigned : RawJSON
  transactionID : String
  relatesTo : EventID
  relationType : String
  megolmSessionID : SessionID
  decryptionError : String
  sendError : String
  reactions : List (String × Int)
  lastEditRowID : Option EventRowID
deriving DecidableEq, Repr, Inhabited

/-- `database.CurrentStateEntry`. -/
structure CurrentStateEntry where
  eventType : EventType
  stateKey : String
  eventRowID : EventRowID
  membership : Membership
deriving DecidableEq, Repr, Inhabited

/-- A JSON value of an event's raw content, as a type assertion to `string` sees it. -/
inductive RawValue where
  | string (s : String)
  | other
deriving DecidableEq, Repr, Inhabited

/-- An event of a room's member list (`*event.Event`): its type, its state key (a pointer,
nil on an event that is not state), the `membership` entry of its raw content, if any, and
the event as JSON. -/
structure MemberEvent where
  type : EventType
  stateKey : Option String
  membership : Option RawValue
  raw : RawJSON
deriving DecidableEq, Repr, Inhabited

/-- The parsed content of an event, as far as a type assertion to
`*event.HistoryVisibilityEventContent` sees it. -/
inductive ParsedContent where
  | historyVisibility (hv : HistoryVisibility)
  | other
deriving DecidableEq, Repr, Inhabited

/-- `crypto.OutboundGroupSession`: whether it is shared, and what `Expired()` says. -/
structure OutboundGroupSession where
  shared : Bool
  expired : Bool
deriving DecidableEq, Repr, Inhabited

/-- `event.Mentions`. -/
structure Mentions where
  userIDs : List UserID
  room : Bool
deriving DecidableEq, Repr, Inhabited

/-- `event.RelatesTo`. -/
structure RelatesTo where
  type : String
  eventID : EventID
  inReplyTo : Option EventID
  isFallingBack : Bool
deriving DecidableEq, Repr, Inhabited

/-- `event.MessageEventContent`, with the fields rendering fills in and `SendMessage` sets. -/
structure MessageEventContent where
  msgType : String
  body : String
  format : String
  formattedBody : String
  mentions : Option Mentions
  relatesTo : Option RelatesTo
deriving DecidableEq, Repr, Inhabited

/-- `event.EncryptedEventContent`, with its session and ciphertext. -/
structure EncryptedEventContent where
  sessionID : SessionID
  megolmCiphertext : String
deriving DecidableEq, Repr, Inhabited

/-- The `content any` of `Send` and `Encrypt`: a message `SendMessage` composed, the encrypted
content `Encrypt` made, or the content of another caller, by its JSON. -/
inductive AnyContent where
  | message (c : MessageEventContent)
  | encrypted (c : EncryptedEventContent)
  | other (c : RawJSON)
deriving DecidableEq, Repr, Inhabited

/-- `mautrix.ReqSetReadMarkers`. -/
structure ReqSetReadMarkers where
  read : EventID
  readPrivate : EventID
  fullyRead : EventID
deriving DecidableEq, Repr, Inhabited

/-- `mautrix.ReqSendEvent`, with the fields `Send` sets. -/
structure ReqSendEvent where
  timestamp : Int
  transactionID : String
  dontEncrypt : Bool
deriving DecidableEq, Repr, Inhabited

/-- `mautrix.RespSendEvent`. -/
structure RespSendEvent where
  eventID : EventID
deriving DecidableEq, Repr, Inhabited

/-- `hicli.SendComplete`, the event the send goroutine hands to the event handler. -/
structure SendComplete where
  event : DBEvent
  error : Option GoError
deriving DecidableEq, Repr

/-! ## Calls out -/

/-- A call out, with its arguments and what it returned. -/
inductive Call where
  | dbRoomGet (roomID : RoomID) (r : Except GoError (Option Room))
  | dbRoomUpsert (room : Room) (r : Except GoError Unit)
  | dbEventInsert (evt : DBEvent) (r : Except GoError DBEvent)
  | dbEventUpdateSendError (rowID : EventRowID) (sendError : String) (r : Except GoError Unit)
  | dbEventUpdateID (rowID : EventRowID) (eventID : EventID) (r : Except GoError Unit)
  | dbCurrentStateGet (roomID : RoomID) (evtType : EventType) (stateKey : String)
      (r : Except GoError (Option DBEvent))
  | dbCurrentStateAddMany (roomID : RoomID) (replace : Bool) (entries : List CurrentStateEntry)
      (r : Except GoError Unit)
  | clientMembers (roomID : RoomID) (r : Except GoError (List MemberEvent))
  | processEvent (evt : MemberEvent) (r : Except GoError DBEvent)
  | clientStoreGetRoomJoinedOrInvitedMembers (roomID : RoomID) (r : Except GoError (List UserID))
  | clientStoreGetRoomJoinedMembers (roomID : RoomID) (r : Except GoError (List UserID))
  | cryptoShareGroupSession (roomID : RoomID) (users : List UserID) (r : Except GoError Unit)
  | cryptoEncryptMegolmEvent (roomID : RoomID) (evtType : EventType) (content : AnyContent)
      (r : Except GoError EncryptedEventContent)
  | cryptoStoreGetOutboundGroupSession (roomID : RoomID)
      (r : Except GoError (Option OutboundGroupSession))
  | clientTxnID (r : String)
  | clientSetReadMarkers (roomID : RoomID) (content : ReqSetReadMarkers) (r : Except GoError Unit)
  | clientUserTyping (roomID : RoomID) (typing : Bool) (timeout : Duration)
      (r : Except GoError Unit)
  | clientSendMessageEvent (roomID : RoomID) (evtType : EventType) (content : AnyContent)
      (req : ReqSendEvent) (r : Except GoError RespSendEvent)
  | eventHandler (evt : SendComplete)

/-- The world outside the client code, and the calls made into it so far. -/
structure World (σ : Type) where
  state : σ
  calls : List Call

/-- A run of client code: from a world, a panic (`none`), or Go's result (an error or a
value) with the world after it. -/
abbrev Go (σ α : Type) := ExceptT GoError (StateT (World σ) Option) α

variable {σ α β : Type}

/-- A call out that returns a value and an error: `f` runs on the state, and the call, with
what it returned, is appended to the log. -/
def call (c : Except GoError α → Call) (f : σ → Except GoError α × σ) : Go σ α :=
  ExceptT.mk fun w => some ((f w.state).1, ⟨(f w.state).2, w.calls ++ [c (f w.state).1]⟩)

/-- A call out that cannot fail. -/
def callValue (c : α → Call) (f : σ → α × σ) : Go σ α :=
  ExceptT.mk fun w => some (.ok (f w.state).1, ⟨(f w.state).2, w.calls ++ [c (f w.state).1]⟩)

/-- Go's `x, err := f()`: the error as a value, for an `if err != nil` after it. -/
def attempt (x : Go σ α) : Go σ (Except GoError α) :=
  ExceptT.mk (x.run.map .ok)

/-- A panic: a nil pointer dereference, or a failed type assertion. -/
def goPanic : Go σ α :=
  ExceptT.mk fun _ => none

/-- A Go pointer dereference: the value, or a panic at nil. -/
def deref : Option α → Go σ α
  | some a => pure a
  | none => goPanic

/-! ## Running -/

@[simp] theorem run_pure (a : α) (w : World σ) :
    (pure a : Go σ α).run.run w = some (.ok a, w) := rfl

@[simp] theorem run_throw (e : GoError) (w : World σ) :
    (throw e : Go σ α).run.run w = some (.error e, w) := rfl

@[simp] theorem run_throw_bind (e : GoError) (g : α → Go σ β) (w : World σ) :
    (throw e >>= g).run.run w = some (.error e, w) := rfl

@[simp] theorem run_goPanic (w : World σ) : (goPanic : Go σ α).run.run w = none := rfl

@[simp] theorem run_goPanic_bind (g : α → Go σ β) (w : World σ) :
    (goPanic >>= g).run.run w = none := rfl

/-- A run of `x >>= g`: a panic of `x`, its error, or `g` on its value. -/
theorem run_bind (x : Go σ α) (g : α → Go σ β) (w : World σ) :
    (x >>= g).run.run w = (x.run.run w).bind fun p => match p.1 with
      | .ok a => (g a).run.run p.2
      | .error e => some (.error e, p.2) := by
  simp only [bind, ExceptT.bind, ExceptT.run, ExceptT.mk, StateT.run, StateT.bind, Option.bind]
  rcases x w with _ | ⟨_ | _, _⟩ <;> rfl

/-- A successful run of `x >>= g` is a successful run of `x`, then of `g` on its value. -/
theorem run_bind_ok {x : Go σ α} {g : α → Go σ β} {w w' : World σ} {b : β}
    (h : (x >>= g).run.run w = some (.ok b, w')) :
    ∃ a w₁, x.run.run w = some (.ok a, w₁) ∧ (g a).run.run w₁ = some (.ok b, w') := by
  rw [run_bind] at h
  obtain ⟨⟨r, w₁⟩, hx, hg⟩ := Option.bind_eq_some.1 h
  cases r with
  | error e => simp at hg
  | ok a => exact ⟨a, w₁, hx, hg⟩

theorem run_attempt_bind (x : Go σ α) (g : Except GoError α → Go σ β) (w : World σ) :
    (attempt x >>= g).run.run w = (x.run.run w).bind fun p => (g p.1).run.run p.2 := by
  simp only [attempt, bind, ExceptT.bind, ExceptT.run, ExceptT.mk, StateT.run, StateT.bind,
    Option.bind, Functor.map, StateT.map]
  rcases x w with _ | ⟨_ | _, _⟩ <;> rfl

@[simp] theorem run_call (c : Except GoError α → Call) (f : σ → Except GoError α × σ)
    (w : World σ) :
    (call c f).run.run w = some ((f w.state).1, ⟨(f w.state).2, w.calls ++ [c (f w.state).1]⟩) :=
  rfl

@[simp] theorem run_call_bind (c : Except GoError α → Call) (f : σ → Except GoError α × σ)
    (g : α → Go σ β) (w : World σ) :
    (call c f >>= g).run.run w = match (f w.state).1 with
      | .ok a => (g a).run.run ⟨(f w.state).2, w.calls ++ [c (f w.state).1]⟩
      | .error e => some (.error e, ⟨(f w.state).2, w.calls ++ [c (f w.state).1]⟩) := by
  rw [run_bind]; rfl

@[simp] theorem run_attempt_call_bind (c : Except GoError α → Call) (f : σ → Except GoError α × σ)
    (g : Except GoError α → Go σ β) (w : World σ) :
    (attempt (call c f) >>= g).run.run w =
      (g (f w.state).1).run.run ⟨(f w.state).2, w.calls ++ [c (f w.state).1]⟩ := rfl

@[simp] theorem run_callValue (c : α → Call) (f : σ → α × σ) (w : World σ) :
    (callValue c f).run.run w =
      some (.ok (f w.state).1, ⟨(f w.state).2, w.calls ++ [c (f w.state).1]⟩) := rfl

@[simp] theorem run_deref_some_bind (a : α) (g : α → Go σ β) (w : World σ) :
    (deref (some a) >>= g).run.run w = (g a).run.run w := rfl

@[simp] theorem run_deref_none_bind (g : α → Go σ β) (w : World σ) :
    (deref (none : Option α) >>= g).run.run w = none := rfl

/-! ## The client -/

/-- What the client code calls but does not define: the database (`h.DB`), the homeserver
client and its store (`h.Client`, `h.ClientStore`), the crypto machine and its store
(`h.Crypto`, `h.CryptoStore`), the event handler, the library functions it uses, and the
package-level values it compares against. -/
structure HiClient (σ : Type) where
  /-- `h.Account.UserID` -/
  accountUserID : UserID
  dbRoomGet : RoomID → σ → Except GoError (Option Room) × σ
  dbRoomUpsert : Room → σ → Except GoError Unit × σ
  /-- `h.DB.Event.Insert`, which takes the event by pointer: the event as it leaves it -/
  dbEventInsert : DBEvent → σ → Except GoError DBEvent × σ
  dbEventUpdateSendError : EventRowID → String → σ → Except GoError Unit × σ
  dbEventUpdateID : EventRowID → EventID → σ → Except GoError Unit × σ
  dbCurrentStateGet : RoomID → EventType → String → σ → Except GoError (Option DBEvent) × σ
  dbCurrentStateAddMany : RoomID → Bool → List CurrentStateEntry → σ → Except GoError Unit × σ
  /-- `h.DB.DoTxn(ctx, nil, fn)`: `fn` in a database transaction -/
  dbDoTxn : Go σ Unit → Go σ Unit
  clientMembers : RoomID → σ → Except GoError (List MemberEvent) × σ
  /-- `h.processEvent(ctx, evt, nil, true)` -/
  processEvent : MemberEvent → σ → Except GoError DBEvent × σ
  clientStoreGetRoomJoinedOrInvitedMembers : RoomID → σ → Except GoError (List UserID) × σ
  clientStoreGetRoomJoinedMembers : RoomID → σ → Except GoError (List UserID) × σ
  cryptoShareGroupSession : RoomID → List UserID → σ → Except GoError Unit × σ
  cryptoEncryptMegolmEvent : RoomID → EventType → AnyContent → σ →
    Except GoError EncryptedEventContent × σ
  cryptoStoreGetOutboundGroupSession : RoomID → σ →
    Except GoError (Option OutboundGroupSession) × σ
  clientTxnID : σ → String × σ
  clientSetReadMarkers : RoomID → ReqSetReadMarkers → σ → Except GoError Unit × σ
  clientUserTyping : RoomID → Bool → Duration → σ → Except GoError Unit × σ
  clientSendMessageEvent : RoomID → EventType → AnyContent → ReqSendEvent → σ →
    Except GoError RespSendEvent × σ
  /-- `h.EventHandler` -/
  eventHandler : SendComplete → σ → σ
  /-- `jsontime.UnixMilliNow()`, in milliseconds -/
  unixMilliNow : σ → Int
  /-- `json.Marshal` -/
  marshal : AnyContent → Except GoError RawJSON
  /-- `database.GetRelatesToFromBytes`: the event a content relates to, and the relation -/
  getRelatesToFromBytes : RawJSON → EventID × String
  /-- `evt.AsRawMautrix()`, then `Content.ParseRaw(Type)` on it: the error `ParseRaw`
  returns, and the parsed content it leaves -/
  parseRaw : DBEvent → Option GoError × Option ParsedContent
  /-- `format.RenderMarkdown(text, allowMarkdown, allowHTML)` -/
  renderMarkdown : String → Bool → Bool → MessageEventContent
  /-- `format.RenderMarkdownCustom(text, rainbowWithHTML)` -/
  renderMarkdownRainbow : String → MessageEventContent
  /-- `rainbow.ApplyColor` -/
  applyColor : String → String
  /-- `m.Add(userID)` on `event.Mentions` -/
  mentionsAdd : Mentions → UserID → Mentions
  /-- `rel.SetReplyTo(eventID)` on `event.RelatesTo` -/
  setReplyTo : RelatesTo → EventID → RelatesTo
  sessionExpired : GoError
  noGroupSession : GoError
  sessionNotShared : GoError
  errContentAlreadyParsed : GoError
  eventMessage : EventType
  eventReaction : EventType
  eventEncrypted : EventType
  stateHistoryVisibility : EventType
  receiptTypeRead : ReceiptType
  receiptTypeReadPrivate : ReceiptType
  historyVisibilityInvited : HistoryVisibility
  historyVisibilityShared : HistoryVisibility
  historyVisibilityWorldReadable : HistoryVisibility

/-- A client to run the model on, over any state it leaves alone: every call succeeds, rooms
are unencrypted and have their member list, the crypto machine has a shared session, history
is `shared`, and rendering keeps the text; the package-level values are those of the Matrix
protocol. -/
def sampleClientOn (σ : Type) : HiClient σ where
  accountUserID := ⟨"@me:example.org"⟩
  dbRoomGet := fun roomID s => (.ok (some ⟨roomID, none, true⟩), s)
  dbRoomUpsert := fun _ s => (.ok (), s)
  dbEventInsert := fun evt s => (.ok evt, s)
  dbEventUpdateSendError := fun _ _ s => (.ok (), s)
  dbEventUpdateID := fun _ _ s => (.ok (), s)
  dbCurrentStateGet := fun _ _ _ s => (.ok (some default), s)
  dbCurrentStateAddMany := fun _ _ _ s => (.ok (), s)
  dbDoTxn := id
  clientMembers := fun _ s => (.ok [], s)
  processEvent := fun _ s => (.ok default, s)
  clientStoreGetRoomJoinedOrInvitedMembers := fun _ s => (.ok [⟨"@me:example.org"⟩], s)
  clientStoreGetRoomJoinedMembers := fun _ s => (.ok [⟨"@me:example.org"⟩], s)
  cryptoShareGroupSession := fun _ _ s => (.ok (), s)
  cryptoEncryptMegolmEvent := fun _ _ _ s => (.ok ⟨⟨"session"⟩, "ciphertext"⟩, s)
  cryptoStoreGetOutboundGroupSession := fun _ s => (.ok (some ⟨true, false⟩), s)
  clientTxnID := fun s => ("1", s)
  clientSetReadMarkers := fun _ _ s => (.ok (), s)
  clientUserTyping := fun _ _ _ s => (.ok (), s)
  clientSendMessageEvent := fun _ _ _ _ s => (.ok ⟨⟨"$sent"⟩⟩, s)
  eventHandler := fun _ s => s
  unixMilliNow := fun _ => 0
  marshal := fun _ => .ok default
  getRelatesToFromBytes := fun _ => (default, "")
  parseRaw := fun _ => (none, some (.historyVisibility ⟨"shared"⟩))
  renderMarkdown := fun text _ _ => { (default : MessageEventContent) with
    body := text, mentions := some default }
  renderMarkdownRainbow := fun text => { (default : MessageEventContent) with
    body := text, mentions := some default }
  applyColor := id
  mentionsAdd := fun m userID => { m with userIDs := m.userIDs ++ [userID] }
  setReplyTo := fun rel eventID => { rel with inReplyTo := some eventID }
  sessionExpired := .sentinel "session has expired"
  noGroupSession := .sentinel "no group session created"
  sessionNotShared := .sentinel "session has not been shared"
  errContentAlreadyParsed := .sentinel "content is already parsed"
  eventMessage := ⟨"m.room.message", .messageEventType⟩
  eventReaction := ⟨"m.reaction", .messageEventType⟩
  eventEncrypted := ⟨"m.room.encrypted", .messageEventType⟩
  stateHistoryVisibility := ⟨"m.room.history_visibility", .stateEventType⟩
  receiptTypeRead := ⟨"m.read"⟩
  receiptTypeReadPrivate := ⟨"m.read.private"⟩
  historyVisibilityInvited := ⟨"invited"⟩
  historyVisibilityShared := ⟨"shared"⟩
  historyVisibilityWorldReadable := ⟨"world_readable"⟩

/-- `sampleClientOn` with no state. -/
def sampleClient : HiClient Unit := sampleClientOn Unit

end Mautrix.Hicli
