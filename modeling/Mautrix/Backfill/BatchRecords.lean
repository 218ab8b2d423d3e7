import Mautrix.Backfill.Batch

/-!
# Mautrix.Backfill.BatchRecords — one event, one row and one timer per part

The three lists `sendBatch` builds are an image of the batch's (message, part) pairs, whatever
the shape of the batch (messages without parts, several parts, mixed disappearing
settings):

* `RecordsInv` — after any number of parts, the events (content aside) and the rows are the
  pairs sent so far, mapped part by part, and the timers are those of the pairs whose message
  disappears, with `msg.Disappear` started once and reused for the later parts;
* `sendBatchLoop_records` — the invariant holds at the end of every completed run;
* `sendBatch_one_record_per_part` — with `getRelationMeta` keeping its contract, `sendBatch`
  completes and its request, rows and timers line up pair by pair (`BatchRecords`).
-/

namespace Mautrix.Backfill

variable {σ : Type} (d : Deps σ) (portal : Portal) (source : UserLogin)

/-- An event with its content blanked: what does not depend on the thread chain. -/
def Event.frame (e : Event) : Event := { e with content := default }

@[simp] theorem Event.frame_id (e : Event) : e.frame.id = e.id := rfl
@[simp] theorem Event.frame_timestamp (e : Event) : e.frame.timestamp = e.timestamp := rfl
@[simp] theorem Event.frame_sender (e : Event) : e.frame.sender = e.sender := rfl

/-- Whether the parts of `msg` disappear: `msg.Disappear.Type != DisappearingTypeNone`. -/
def disappears (msg : BackfillMessage) : Bool := msg.disappear.type ≠ d.disappearingTypeNone

/-- The disappearing message queued for a part of `msg`. -/
def partTimer (msg : BackfillMessage) (part : ConvertedMessagePart) : DisappearingMessage :=
  ⟨portal.mxid, partEventID d portal msg part, startTimer d msg.timestamp msg.disappear⟩

/-- The records built once the pairs `done` are sent. -/
structure RecordsInv (done : List (BackfillMessage × ConvertedMessagePart)) (st : BatchState) :
    Prop where
  events : st.events.map Event.frame = done.map fun o =>
    partEvent portal o.1 o.2 (d.getIntentFor o.1.sender source) (partEventID d portal o.1 o.2)
      default
  dbMessages : st.dbMessages = done.map fun o =>
    partMessage portal o.1 o.2 (d.getIntentFor o.1.sender source) (partEventID d portal o.1 o.2)
  disappearing : st.disappearingMessages =
    (done.filter fun o => disappears d o.1).map fun o => partTimer d portal o.1 o.2

/-- Inside the parts of `msg`: the records, the intent of `msg`, and `msg.Disappear` as it
came or with its timer started. -/
structure RecordsMsgInv (msg : BackfillMessage)
    (done : List (BackfillMessage × ConvertedMessagePart)) (st : BatchState)
    extends RecordsInv d portal source done st : Prop where
  intent : st.intent = d.getIntentFor msg.sender source
  disappear : st.disappear = msg.disappear ∨ st.disappear = startTimer d msg.timestamp msg.disappear

/-! ## Step lemmas -/

theorem RecordsInv.init : RecordsInv d portal source [] BatchState.init := ⟨rfl, rfl, rfl⟩

theorem startMessage_records {done : List (BackfillMessage × ConvertedMessagePart)}
    {st st' : BatchState} {msg : BackfillMessage} (hI : RecordsInv d portal source done st)
    (h : startMessage d source st msg = some st') : RecordsMsgInv d portal source msg done st' := by
  obtain ⟨-, -, rfl⟩ := startMessage_eq_some.1 h
  exact ⟨⟨hI.events, hI.dbMessages, hI.disappearing⟩, rfl, .inl rfl⟩

/-- `chainThread` only moves the thread fields. -/
theorem chainThread_frame {msg : BackfillMessage} {e : EventID} {st st' : BatchState}
    (h : chainThread msg e st = some st') :
    ∃ x y, st' = { st with prevThreadEvent := x, prevThreadEvents := y } := by
  rcases chainThread_eq_some.1 h with ⟨-, rfl⟩ | ⟨p, t, -, -, rfl⟩
  · exact ⟨_, _, rfl⟩
  · exact ⟨_, _, rfl⟩

theorem sendPart_records {msg : BackfillMessage}
    {done : List (BackfillMessage × ConvertedMessagePart)} {st st' : BatchState}
    {part : ConvertedMessagePart} (hI : RecordsMsgInv d portal source msg done st)
    (h : sendPart d portal msg st part = some st') :
    RecordsMsgInv d portal source msg (done ++ [(msg, part)]) st' := by
  obtain ⟨st₁, h₁, rfl⟩ := Option.map_eq_some'.1 h
  obtain ⟨x, y, rfl⟩ := chainThread_frame h₁
  -- `msg.Disappear` keeps its type, and starting its timer again changes nothing
  have hty : st.disappear.type = msg.disappear.type := by
    rcases hI.disappear with h | h <;> simp [h]
  have hst :
      startTimer d msg.timestamp st.disappear = startTimer d msg.timestamp msg.disappear := by
    rcases hI.disappear with h | h <;> simp [h]
  refine ⟨⟨?_, ?_, ?_⟩, ?_, ?_⟩
  · simp [scheduleDisappear_eq, hI.events, hI.intent, Event.frame, partEvent]
  · simp [scheduleDisappear_eq, hI.dbMessages, hI.intent]
  · simp only [scheduleDisappear_eq, hI.disappearing, hty, hst, List.filter_append,
      List.map_append, disappears]
    split <;> simp_all [partTimer]
  · simp [scheduleDisappear_eq, hI.intent]
  · simp only [scheduleDisappear_eq, hst]
    split
    · exact .inr rfl
    · exact hI.disappear

/-! ## Runs -/

theorem sendBatchMessage_records {done : List (BackfillMessage × ConvertedMessagePart)}
    {st st' : BatchState} {msg : BackfillMessage} (hI : RecordsInv d portal source done st)
    (h : sendBatchMessage d portal source st msg = some st') :
    RecordsInv d portal source (done ++ msg.parts.map (msg, ·)) st' := by
  obtain ⟨st₁, h₁, h₂⟩ := Option.bind_eq_some.1 h
  have hrun := foldlM_invariant
    (fun ps st => RecordsMsgInv d portal source msg (done ++ ps.map (msg, ·)) st)
    (fun ps part st st' hI h => by simpa using sendPart_records d portal source hI h)
    msg.parts [] st₁ st' (by simpa using startMessage_records d portal source hI h₁) h₂
  simpa using hrun.toRecordsInv

/-- The records of every completed run of the message loop. -/
theorem sendBatchLoop_records {messages : List BackfillMessage} {st : BatchState}
    (h : sendBatchLoop d portal source messages = some st) :
    RecordsInv d portal source (partsOf messages) st := by
  simpa using foldlM_invariant (fun pre st => RecordsInv d portal source (partsOf pre) st)
    (fun pre msg st st' hI h => by simpa using sendBatchMessage_records d portal source hI h)
    messages [] _ st (RecordsInv.init d portal source) h

/-! ## The request, the rows and the timers -/

theorem startTimer_disappearAt {s : DisappearingSetting} (ts : Time)
    (hty : s.type = d.disappearingTypeAfterSend) (hz : s.disappearAt.ns = 0) :
    (startTimer d ts s).disappearAt.ns = ts.ns + s.timer.ns := by
  simp [startTimer, hty, hz]

/-- How the outcome of `sendBatch` lines up with the (message, part) pairs of the batch. -/
structure BatchRecords (messages : List BackfillMessage) (r : BatchSend) : Prop where
  events_length : r.req.events.length = (partsOf messages).length
  dbMessages_length : r.dbMessages.length = (partsOf messages).length
  dbMessages_ids : r.dbMessages.map (fun m => (m.id, m.partID)) =
    (partsOf messages).map fun o => (o.1.id, o.2.id)
  mxids : r.dbMessages.map (·.mxid) = r.req.events.map (·.id)
  eventIDs : r.req.events.map (·.id) = (partsOf messages).map fun o =>
    d.generateDeterministicEventID portal.mxid portal.portalKey o.1.id o.2.id
  timestamps : r.req.events.map (·.timestamp) = r.dbMessages.map (·.timestamp.unixMilli)
  senders : r.req.events.map (·.sender) = r.dbMessages.map (·.senderMXID)
  disappearing_ids : r.disappearingMessages.map (·.eventID) =
    ((partsOf messages).filter fun o => o.1.disappear.type ≠ d.disappearingTypeNone).map
      fun o => d.generateDeterministicEventID portal.mxid portal.portalKey o.1.id o.2.id
  disappearAt : ∀ x ∈ ((partsOf messages).filter fun o =>
      o.1.disappear.type ≠ d.disappearingTypeNone).zip r.disappearingMessages,
    x.1.1.disappear.type = d.disappearingTypeAfterSend →
      x.1.1.disappear.disappearAt.ns = 0 →
      x.2.setting.disappearAt.ns = x.1.1.timestamp.ns + x.1.1.disappear.timer.ns

theorem batchRecords_of_loop {messages : List BackfillMessage} {st : BatchState}
    (h : sendBatchLoop d portal source messages = some st) (forceForward markRead : Bool) :
    BatchRecords d portal messages
      { roomID := portal.mxid
        req := { forwardIfNoMessages := !forceForward, forward := forceForward
                 markReadBy := if markRead then source.userMXID else default
                 sendNotification := if markRead then false else forceForward
                 events := st.events }
        disappearingMessages := st.disappearingMessages
        dbMessages := st.dbMessages } := by
  have hI := sendBatchLoop_records d portal source h
  have hlen := congrArg List.length hI.events
  have hid := congrArg (List.map (·.id)) hI.events
  have hts := congrArg (List.map (·.timestamp)) hI.events
  have hsd := congrArg (List.map (·.sender)) hI.events
  simp only [List.length_map, List.map_map, Function.comp_def, Event.frame_id,
    Event.frame_timestamp, Event.frame_sender, partEvent] at hlen hid hts hsd
  have hdis := hI.disappearing
  simp only [disappears] at hdis
  refine ⟨hlen, by simp [hI.dbMessages], by simp [hI.dbMessages, partMessage], ?_, ?_, ?_, ?_, ?_,
    ?_⟩
  · simp [hI.dbMessages, hid, partMessage]
  · simp [hid, partEventID]
  · simp [hI.dbMessages, hts, partMessage]
  · simp [hI.dbMessages, hsd, partMessage]
  · simp [hdis, partTimer, partEventID]
  · intro x hx hty hz
    rw [hdis, show ∀ (l : List (BackfillMessage × ConvertedMessagePart)),
        l.zip (l.map fun o => partTimer d portal o.1 o.2) =
          l.map fun o => (o, partTimer d portal o.1 o.2) from
        fun l => by simpa using List.zip_map' id (fun o => partTimer d portal o.1 o.2) l] at hx
    obtain ⟨o, -, rfl⟩ := List.mem_map.1 hx
    exact startTimer_disappearAt d _ hty hz

/-- Under the contract of `getRelationMeta`, `sendBatch` completes, with one event and one row
per (message, part) pair in batch order, sharing the pair's deterministic event ID, timestamp
and sender, and one timer per part of a disappearing message, started from the message's
timestamp when it disappears after sending and had no deadline. -/
theorem sendBatch_one_record_per_part {d : Deps σ} (hc : RelationMetaContract d)
    (portal : Portal) (source : UserLogin) (messages : List BackfillMessage)
    (forceForward markRead : Bool) :
    ∃ r, sendBatch d portal source messages forceForward markRead = some r ∧
      BatchRecords d portal messages r := by
  obtain ⟨r, hr⟩ := Option.isSome_iff_exists.1
    (sendBatch_isSome hc portal source messages forceForward markRead)
  obtain ⟨st, hst, rfl⟩ := Option.map_eq_some'.1 hr
  exact ⟨_, hr, batchRecords_of_loop d portal source hst forceForward markRead⟩

theorem sendBatch_one_record_per_part_sample :
    RelationMetaContract sampleDeps ∧
    ∃ r, sendBatch sampleDeps default default
        [{ (default : BackfillMessage) with
            parts := [{ (default : ConvertedMessagePart) with id := ⟨"a"⟩ },
                      { (default : ConvertedMessagePart) with id := ⟨"b"⟩ }]
            disappear := { type := ⟨"after_send"⟩, timer := ⟨60⟩, disappearAt := ⟨0⟩ } }]
        true false = some r ∧
      BatchRecords sampleDeps default
        [{ (default : BackfillMessage) with
            parts := [{ (default : ConvertedMessagePart) with id := ⟨"a"⟩ },
                      { (default : ConvertedMessagePart) with id := ⟨"b"⟩ }]
            disappear := { type := ⟨"after_send"⟩, timer := ⟨60⟩, disappearAt := ⟨0⟩ } }] r :=
  ⟨sampleDeps_contract, sendBatch_one_record_per_part sampleDeps_contract _ _ _ _ _⟩

end Mautrix.Backfill
