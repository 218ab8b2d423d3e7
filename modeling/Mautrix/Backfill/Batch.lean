import Mautrix.Backfill.Types

/-!
# Mautrix.Backfill.Batch — `sendBatch`, the batch-send path

`sendBatch` walks the messages, and the parts of each, building three lists in step: the
events of one `ReqBeeperBatchSend`, the database rows of the parts, and the timers of the
parts that disappear. A map `prevThreadEvents` chains the parts of one thread: each thread
part's relation points at the part of that thread sent just before it.

The two loops are written as steps on an explicit `BatchState`:

* `startMessage` — the head of the message loop (intent, `getRelationMeta`, and the
  override of the previous thread event from `prevThreadEvents`);
* `sendPart` — the body of the part loop, split as in the source into building the event and
  the row, `chainThread` (the `prevThreadEvent != nil` block) and `scheduleDisappear` (the
  `msg.Disappear.Type != None` block).

Go's nil dereferences are `none`: of `msg.ThreadRoot` when `getRelationMeta` resolved a
thread root for a message that names none, and of `prevThreadEvent` when it resolved a
thread root without a previous event. `RelationMetaContract` rules both out, and
`sendBatch_isSome` shows that then the call always completes.

`batchStateAt` names the state after any number of messages and parts, so that invariants
can be stated after each part, not only at the end.
-/

namespace Mautrix.Backfill

variable {σ : Type}

/-- The variables `sendBatch` keeps across its loops. The first four live for the whole call
(`req.Events`, `dbMessages`, `disappearingMessages`, `prevThreadEvents`); the others are the
locals of the message being sent, `disappear` standing for `msg.Disappear`, which the part
loop updates in place. -/
structure BatchState where
  events : List Event
  dbMessages : List Message
  disappearingMessages : List DisappearingMessage
  prevThreadEvents : MessageID → EventID
  intent : UserID
  replyTo : Option Message
  threadRoot : Option Message
  prevThreadEvent : Option Message
  disappear : DisappearingSetting

/-- The state before the first message: empty lists, an empty map. -/
def BatchState.init : BatchState where
  events := []
  dbMessages := []
  disappearingMessages := []
  prevThreadEvents := fun _ => ⟨""⟩
  intent := default
  replyTo := none
  threadRoot := none
  prevThreadEvent := none
  disappear := default

/-! ## The head of the message loop -/

/-- `if threadRoot != nil && prevThreadEvents[*msg.ThreadRoot] != "" { prevThreadEvent.MXID =
prevThreadEvents[*msg.ThreadRoot] }`: the previous thread event the parts of `msg` start
from. -/
def overridePrevThreadEvent (prevThreadEvents : MessageID → EventID) (msg : BackfillMessage)
    (rel : RelationMeta) : Option (Option Message) :=
  if rel.threadRoot.isSome then do
    let t ← msg.threadRoot
    if prevThreadEvents t ≠ ⟨""⟩ then do
      let prev ← rel.prevThreadEvent
      pure (some { prev with mxid := prevThreadEvents t })
    else pure rel.prevThreadEvent
  else pure rel.prevThreadEvent

/-- Lines 109–113 of `sendBatch`: the intent and the relation metadata of `msg`. -/
def startMessage (d : Deps σ) (source : UserLogin) (st : BatchState) (msg : BackfillMessage) :
    Option BatchState :=
  let rel := d.getRelationMeta msg.replyTo msg.threadRoot
  (overridePrevThreadEvent st.prevThreadEvents msg rel).map fun prevThreadEvent =>
    { st with
      intent := d.getIntentFor msg.sender source
      replyTo := rel.replyTo
      threadRoot := rel.threadRoot
      prevThreadEvent := prevThreadEvent
      disappear := msg.disappear }

/-! ## The body of the part loop -/

/-- The event ID of a part: `GenerateDeterministicEventID(portal.MXID, portal.PortalKey,
msg.ID, part.ID)`. -/
def partEventID (d : Deps σ) (portal : Portal) (msg : BackfillMessage)
    (part : ConvertedMessagePart) : EventID :=
  d.generateDeterministicEventID portal.mxid portal.portalKey msg.id part.id

/-- The event a part is sent as, with its content already rewritten. -/
def partEvent (portal : Portal) (msg : BackfillMessage) (part : ConvertedMessagePart)
    (intent : UserID) (evtID : EventID) (content : Json) : Event where
  sender := intent
  type := part.type
  timestamp := msg.timestamp.unixMilli
  id := evtID
  roomID := portal.mxid
  content := content
  raw := part.extra

/-- The database row of a part. -/
def partMessage (portal : Portal) (msg : BackfillMessage) (part : ConvertedMessagePart)
    (intent : UserID) (evtID : EventID) : Message where
  id := msg.id
  partID := part.id
  mxid := evtID
  room := portal.portalKey
  senderID := msg.sender.sender
  timestamp := msg.timestamp
  threadRoot := msg.threadRoot.getD default
  replyTo := msg.replyTo.getD default
  senderMXID := intent
  extra := part.dbMetadata

/-- `if prevThreadEvent != nil { prevThreadEvent.MXID = evtID;
prevThreadEvents[*msg.ThreadRoot] = evtID }`. -/
def chainThread (msg : BackfillMessage) (evtID : EventID) (st : BatchState) :
    Option BatchState :=
  match st.prevThreadEvent with
  | none => some st
  | some prev => msg.threadRoot.map fun t =>
      { st with
        prevThreadEvent := some { prev with mxid := evtID }
        prevThreadEvents := Function.update st.prevThreadEvents t evtID }

/-- `if msg.Disappear.Type == AfterSend && msg.Disappear.DisappearAt.IsZero() {
msg.Disappear.DisappearAt = msg.Timestamp.Add(msg.Disappear.Timer) }`. -/
def startTimer (d : Deps σ) (ts : Time) (s : DisappearingSetting) : DisappearingSetting :=
  if s.type = d.disappearingTypeAfterSend ∧ s.disappearAt.isZero then
    { s with disappearAt := ts.add s.timer }
  else s

/-- `if msg.Disappear.Type != DisappearingTypeNone { ... }`: start the timer if needed and
queue the part's disappearing message. -/
def scheduleDisappear (d : Deps σ) (portal : Portal) (msg : BackfillMessage) (evtID : EventID)
    (st : BatchState) : BatchState :=
  if st.disappear.type ≠ d.disappearingTypeNone then
    let disappear := startTimer d msg.timestamp st.disappear
    { st with
      disappear := disappear
      disappearingMessages := st.disappearingMessages ++ [⟨portal.mxid, evtID, disappear⟩] }
  else st

/-- Lines 115–157 of `sendBatch`: one part of `msg`. -/
def sendPart (d : Deps σ) (portal : Portal) (msg : BackfillMessage) (st : BatchState)
    (part : ConvertedMessagePart) : Option BatchState :=
  let evtID := partEventID d portal msg part
  let content := d.applyRelationMeta part.content st.replyTo st.threadRoot st.prevThreadEvent
  let st := { st with
    events := st.events ++ [partEvent portal msg part st.intent evtID content]
    dbMessages := st.dbMessages ++ [partMessage portal msg part st.intent evtID] }
  (chainThread msg evtID st).map (scheduleDisappear d portal msg evtID)

/-! ## The loops -/

/-- One turn of the message loop: its head, then all its parts. -/
def sendBatchMessage (d : Deps σ) (portal : Portal) (source : UserLogin) (st : BatchState)
    (msg : BackfillMessage) : Option BatchState :=
  (startMessage d source st msg).bind fun st => msg.parts.foldlM (sendPart d portal msg) st

/-- The message loop of `sendBatch`. -/
def sendBatchLoop (d : Deps σ) (portal : Portal) (source : UserLogin)
    (messages : List BackfillMessage) : Option BatchState :=
  messages.foldlM (sendBatchMessage d portal source) BatchState.init

/-- The (message, part) pairs of a batch, in the order `sendBatch` visits them. -/
def partsOf (messages : List BackfillMessage) : List (BackfillMessage × ConvertedMessagePart) :=
  messages.flatMap fun m => m.parts.map (m, ·)

/-- The loop state once the messages `pre` are sent and, of the next message `msg`, the
parts `ps`. -/
def batchStateAt (d : Deps σ) (portal : Portal) (source : UserLogin)
    (pre : List BackfillMessage) (msg : BackfillMessage) (ps : List ConvertedMessagePart) :
    Option BatchState :=
  ((sendBatchLoop d portal source pre).bind fun st => startMessage d source st msg).bind
    fun st => ps.foldlM (sendPart d portal msg) st

/-- What `sendBatch` does: the request it batch-sends to the portal room, the timers it hands
to the disappearing-message loop, and the rows it inserts. Errors of these calls are only
logged, so they change none of it. -/
structure BatchSend where
  roomID : RoomID
  req : ReqBeeperBatchSend
  disappearingMessages : List DisappearingMessage
  dbMessages : List Message

/-- `portal.sendBatch(ctx, source, messages, forceForward, markRead)`. -/
def sendBatch (d : Deps σ) (portal : Portal) (source : UserLogin)
    (messages : List BackfillMessage) (forceForward markRead : Bool) : Option BatchSend :=
  (sendBatchLoop d portal source messages).map fun st =>
    { roomID := portal.mxid
      req :=
        { forwardIfNoMessages := !forceForward
          forward := forceForward
          markReadBy := if markRead then source.userMXID else default
          sendNotification := if markRead then false else forceForward
          events := st.events }
      disappearingMessages := st.disappearingMessages
      dbMessages := st.dbMessages }

/-! ## Runs of the loops

Both loops are `foldlM` in `Option`. An invariant indexed by the elements folded so far, kept
by each step that succeeds, holds of every run that succeeds; if the step moreover always
succeeds from the invariant, so does the run. -/

theorem foldlM_invariant {α β : Type} {f : β → α → Option β} (I : List α → β → Prop)
    (hstep : ∀ done a b b', I done b → f b a = some b' → I (done ++ [a]) b') :
    ∀ (l done : List α) (b b' : β), I done b → l.foldlM f b = some b' → I (done ++ l) b'
  | [], done, b, b', hI, h => by
    obtain rfl : b = b' := Option.some.inj h
    simpa using hI
  | a :: l, done, b, b', hI, h => by
    obtain ⟨b₁, h₁, h₂⟩ := Option.bind_eq_some.1 h
    simpa using foldlM_invariant I hstep l (done ++ [a]) b₁ b' (hstep done a b b₁ hI h₁) h₂

theorem foldlM_total {α β : Type} {f : β → α → Option β} (I : List α → β → Prop)
    (hstep : ∀ done a b, I done b → ∃ b', f b a = some b' ∧ I (done ++ [a]) b') :
    ∀ (l done : List α) (b : β), I done b → ∃ b', l.foldlM f b = some b' ∧ I (done ++ l) b'
  | [], done, b, hI => ⟨b, rfl, by simpa using hI⟩
  | a :: l, done, b, hI => by
    obtain ⟨b₁, h₁, hI₁⟩ := hstep done a b hI
    obtain ⟨b', h, hI'⟩ := foldlM_total I hstep l (done ++ [a]) b₁ hI₁
    exact ⟨b', by simp [List.foldlM_cons, h₁, h], by simpa using hI'⟩

@[simp] theorem partsOf_nil : partsOf [] = [] := rfl

@[simp] theorem partsOf_append (l₁ l₂ : List BackfillMessage) :
    partsOf (l₁ ++ l₂) = partsOf l₁ ++ partsOf l₂ := by
  simp [partsOf]

@[simp] theorem partsOf_singleton (msg : BackfillMessage) :
    partsOf [msg] = msg.parts.map (msg, ·) := by
  simp [partsOf]

/-- The state after all the parts of the last message is the state at the end of the loop. -/
theorem sendBatchLoop_append_singleton (d : Deps σ) (portal : Portal) (source : UserLogin)
    (pre : List BackfillMessage) (msg : BackfillMessage) :
    sendBatchLoop d portal source (pre ++ [msg]) = batchStateAt d portal source pre msg msg.parts := by
  simp [sendBatchLoop, batchStateAt, sendBatchMessage, List.foldlM_append, Option.bind_assoc]

/-! ## Step lemmas -/

theorem startMessage_eq_some {d : Deps σ} {source : UserLogin} {st st' : BatchState}
    {msg : BackfillMessage} :
    startMessage d source st msg = some st' ↔
      ∃ prev, overridePrevThreadEvent st.prevThreadEvents msg
          (d.getRelationMeta msg.replyTo msg.threadRoot) = some prev ∧
        { st with
          intent := d.getIntentFor msg.sender source
          replyTo := (d.getRelationMeta msg.replyTo msg.threadRoot).replyTo
          threadRoot := (d.getRelationMeta msg.replyTo msg.threadRoot).threadRoot
          prevThreadEvent := prev
          disappear := msg.disappear } = st' :=
  Option.map_eq_some'

theorem chainThread_eq_some {msg : BackfillMessage} {e : EventID} {st st' : BatchState} :
    chainThread msg e st = some st' ↔
      (st.prevThreadEvent = none ∧ st = st') ∨
      ∃ p t, st.prevThreadEvent = some p ∧ msg.threadRoot = some t ∧
        { st with prevThreadEvent := some { p with mxid := e },
                  prevThreadEvents := Function.update st.prevThreadEvents t e } = st' := by
  unfold chainThread
  split <;> simp_all

/-- `scheduleDisappear` touches two fields. -/
theorem scheduleDisappear_eq (d : Deps σ) (portal : Portal) (msg : BackfillMessage)
    (e : EventID) (st : BatchState) :
    scheduleDisappear d portal msg e st =
      { st with
        disappear := if st.disappear.type ≠ d.disappearingTypeNone then
          startTimer d msg.timestamp st.disappear else st.disappear
        disappearingMessages := st.disappearingMessages ++
          if st.disappear.type ≠ d.disappearingTypeNone then
            [⟨portal.mxid, e, startTimer d msg.timestamp st.disappear⟩] else [] } := by
  unfold scheduleDisappear
  split <;> simp_all

@[simp] theorem startTimer_type (d : Deps σ) (ts : Time) (s : DisappearingSetting) :
    (startTimer d ts s).type = s.type := by
  unfold startTimer; split <;> rfl

/-- Starting a started timer changes nothing: when `DisappearAt` is still zero it is
recomputed to the same instant. -/
@[simp] theorem startTimer_startTimer (d : Deps σ) (ts : Time) (s : DisappearingSetting) :
    startTimer d ts (startTimer d ts s) = startTimer d ts s := by
  unfold startTimer
  split <;> simp_all

/-! ## Totality -/

/-- What `sendBatch` needs of `getRelationMeta` not to dereference nil: a thread root only for
a message that names one, and a previous thread event exactly when there is a thread root.
The batch-send mode of `getRelationMeta` returns a clone of the thread root as the previous
thread event, which meets both. -/
def RelationMetaContract (d : Deps σ) : Prop :=
  ∀ replyTo threadRoot,
    ((d.getRelationMeta replyTo threadRoot).threadRoot.isSome → threadRoot.isSome) ∧
    ((d.getRelationMeta replyTo threadRoot).prevThreadEvent.isSome ↔
      (d.getRelationMeta replyTo threadRoot).threadRoot.isSome)

/-- Collaborators to run the model on: `getRelationMeta` resolves a named thread root to a row
and clones it as the previous thread event, as the batch-send mode does; event IDs are `$`
followed by the message and part IDs; intents and contents pass through. -/
def sampleDeps : Deps Unit where
  getIntentFor := fun s _ => ⟨s.sender.val⟩
  getRelationMeta := fun _ t => match t with
    | none => ⟨none, none, none⟩
    | some _ => ⟨none, some default, some default⟩
  applyRelationMeta := fun c _ _ _ => c
  generateDeterministicEventID := fun _ _ m p => ⟨"$" ++ m.val ++ "." ++ p.val⟩
  batchSending := true
  sendConvertedMessage := fun s _ _ _ _ _ => ([], s)
  disappearingTypeNone := ⟨""⟩
  disappearingTypeAfterSend := ⟨"after_send"⟩

theorem sampleDeps_contract : RelationMetaContract sampleDeps := by
  intro _ t
  cases t <;> simp [sampleDeps]

/-- Inside the parts of `msg`, a previous thread event only stands with a thread ID to store
it under. -/
def ThreadNamed (msg : BackfillMessage) (st : BatchState) : Prop :=
  st.prevThreadEvent.isSome → msg.threadRoot.isSome

theorem overridePrevThreadEvent_total (prevThreadEvents : MessageID → EventID)
    {msg : BackfillMessage} {rel : RelationMeta}
    (hroot : rel.threadRoot.isSome → msg.threadRoot.isSome)
    (hprev : rel.prevThreadEvent.isSome ↔ rel.threadRoot.isSome) :
    ∃ prev, overridePrevThreadEvent prevThreadEvents msg rel = some prev ∧
      (prev.isSome → msg.threadRoot.isSome) := by
  cases hr : rel.threadRoot with
  | none => simp_all [overridePrevThreadEvent]
  | some r =>
    obtain ⟨t, ht⟩ := Option.isSome_iff_exists.1 (hroot (by simp [hr]))
    obtain ⟨p, hp⟩ := Option.isSome_iff_exists.1 (hprev.2 (by simp [hr]))
    by_cases hm : prevThreadEvents t = ⟨""⟩ <;>
      simp [overridePrevThreadEvent, hr, ht, hp, hm]

theorem startMessage_total {d : Deps σ} (hc : RelationMetaContract d) (source : UserLogin)
    (st : BatchState) (msg : BackfillMessage) :
    ∃ st', startMessage d source st msg = some st' ∧ ThreadNamed msg st' := by
  obtain ⟨hroot, hprev⟩ := hc msg.replyTo msg.threadRoot
  obtain ⟨prev, h, hn⟩ := overridePrevThreadEvent_total st.prevThreadEvents hroot hprev
  exact ⟨_, startMessage_eq_some.2 ⟨prev, h, rfl⟩, hn⟩

theorem sendPart_total (d : Deps σ) (portal : Portal) {msg : BackfillMessage}
    {st : BatchState} (hst : ThreadNamed msg st) (part : ConvertedMessagePart) :
    ∃ st', sendPart d portal msg st part = some st' ∧ ThreadNamed msg st' := by
  simp only [sendPart, Option.map_eq_some', ThreadNamed, chainThread] at hst ⊢
  cases hp : st.prevThreadEvent with
  | none => simp [hp, scheduleDisappear_eq]
  | some p =>
    obtain ⟨t, ht⟩ := Option.isSome_iff_exists.1 (hst (by simp [hp]))
    simp [ht, scheduleDisappear_eq]

theorem sendBatchMessage_total {d : Deps σ} (hc : RelationMetaContract d) (portal : Portal)
    (source : UserLogin) (st : BatchState) (msg : BackfillMessage) :
    ∃ st', sendBatchMessage d portal source st msg = some st' := by
  obtain ⟨st₁, h₁, hn⟩ := startMessage_total hc source st msg
  obtain ⟨st', h, -⟩ := foldlM_total (fun _ st => ThreadNamed msg st)
    (fun _ part st hst => sendPart_total d portal hst part) msg.parts [] st₁ hn
  exact ⟨st', by simp [sendBatchMessage, h₁, h]⟩

/-- Under the contract of `getRelationMeta`, `sendBatch` always completes. -/
theorem sendBatch_isSome {d : Deps σ} (hc : RelationMetaContract d) (portal : Portal)
    (source : UserLogin) (messages : List BackfillMessage) (forceForward markRead : Bool) :
    (sendBatch d portal source messages forceForward markRead).isSome := by
  obtain ⟨st, h, -⟩ := foldlM_total (fun _ _ => True)
    (fun _ msg st _ => (sendBatchMessage_total hc portal source st msg).imp fun _ h => ⟨h, trivial⟩)
    messages [] BatchState.init trivial
  simp [sendBatch, sendBatchLoop, h]

end Mautrix.Backfill
