import Mautrix.Backfill.Cutoff
import Mautrix.Backfill.BatchRecords
import Mautrix.Backfill.Legacy

/-!
# Mautrix.Backfill.Backfill — `sendBackfill` and `doForwardBackfill`

`doForwardBackfill` fetches up to 100 messages after the last bridged one and hands them to
`sendBackfill`, which cuts the older ones (`forwardMessages`) and sends the rest through the
batch path when the homeserver supports it, and one by one otherwise.

* `sendBackfill_batch` — through the batch path, `sendBackfill` completes (under the
  contract of `getRelationMeta`) and sends one event and one row per part of the messages the
  cut keeps, as a forward or backward batch according to `forceForward`;
* `doForwardBackfill_sends_newer` — end to end: when the fetch returns the messages in
  chronological order, every part of every fetched message that is not older than the last
  bridged one is sent, in order, at the end of the batch.
-/

namespace Mautrix.Backfill

variable {σ : Type} (d : Deps σ) (portal : Portal) (source : UserLogin)

/-- Where `sendBackfill` sends the messages it keeps. -/
inductive BackfillOutcome (σ : Type) where
  | batch (r : BatchSend)
  | legacy (r : LegacyBackfill σ)

/-- `portal.sendBackfill(ctx, source, messages, forceForward, markRead, lastMessage)`; `s` is
the bridge state the legacy path sends through. -/
def sendBackfill (s : σ) (messages : List BackfillMessage) (forceForward markRead : Bool)
    (lastMessage : Message) : Option (BackfillOutcome σ) :=
  let messages := forwardMessages messages forceForward lastMessage
  if d.batchSending then (sendBatch d portal source messages forceForward markRead).map .batch
  else some (.legacy (sendLegacyBackfill d portal source s messages markRead))

/-- `FetchMessagesParams`. -/
structure FetchMessagesParams where
  portal : Portal
  threadRoot : MessageID
  forward : Bool
  anchorMessage : Message
  count : Nat

/-- `FetchMessagesResponse`, with the fields the backfill reads. -/
structure FetchMessagesResponse where
  messages : List BackfillMessage
  markRead : Bool

/-- What one call of `doForwardBackfill` ends in. -/
inductive ForwardBackfill (σ : Type) where
  /-- the login's client is no `BackfillingNetworkAPI` -/
  | unsupported
  | fetchFailed (err : String)
  | sent (outcome : BackfillOutcome σ)

/-- The request `doForwardBackfill` fetches with. -/
def forwardFetchParams (lastMessage : Message) : FetchMessagesParams where
  portal := portal
  threadRoot := ⟨""⟩
  forward := true
  anchorMessage := lastMessage
  count := 100

/-- `portal.doForwardBackfill(ctx, source, lastMessage)`; `api` is `FetchMessages` of the
login's client when it is a `BackfillingNetworkAPI`. -/
def doForwardBackfill (api : Option (FetchMessagesParams → Except String FetchMessagesResponse))
    (s : σ) (lastMessage : Message) : Option (ForwardBackfill σ) :=
  match api with
  | none => some .unsupported
  | some fetchMessages =>
    match fetchMessages (forwardFetchParams portal lastMessage) with
    | .error err => some (.fetchFailed err)
    | .ok resp =>
      (sendBackfill d portal source s resp.messages true resp.markRead lastMessage).map .sent

/-! ## The batch path -/

/-- Through the batch path `sendBackfill` completes, with a request forward exactly when
`forceForward`, and one event and one row per part of the messages the cut keeps. -/
theorem sendBackfill_batch {d : Deps σ} (hc : RelationMetaContract d)
    (hb : d.batchSending = true) (s : σ) (messages : List BackfillMessage)
    (forceForward markRead : Bool) (lastMessage : Message) :
    ∃ r, sendBackfill d portal source s messages forceForward markRead lastMessage =
        some (.batch r) ∧
      r.req.forward = forceForward ∧ r.req.forwardIfNoMessages = !forceForward ∧
      BatchRecords d portal (forwardMessages messages forceForward lastMessage) r := by
  obtain ⟨r, hr⟩ := Option.isSome_iff_exists.1 (sendBatch_isSome hc portal source
    (forwardMessages messages forceForward lastMessage) forceForward markRead)
  obtain ⟨st, hst, rfl⟩ := Option.map_eq_some'.1 hr
  exact ⟨_, by simp [sendBackfill, hb, hr], rfl, rfl,
    batchRecords_of_loop d portal source hst forceForward markRead⟩

theorem sendBackfill_batch_sample :
    RelationMetaContract sampleDeps ∧ sampleDeps.batchSending = true ∧
    ∃ r, sendBackfill sampleDeps default default ()
        [{ (default : BackfillMessage) with parts := [default] }] true false default =
        some (.batch r) ∧
      r.req.forward = true ∧ r.req.forwardIfNoMessages = !true ∧
      BatchRecords sampleDeps default
        (forwardMessages [{ (default : BackfillMessage) with parts := [default] }] true default) r :=
  ⟨sampleDeps_contract, rfl, sendBackfill_batch default default sampleDeps_contract rfl () _ _ _ _⟩

/-- On a chronological list, the messages the cut keeps end with all the messages that are
not older, in order. -/
theorem forwardMessages_suffix (l : List BackfillMessage) (lastMessage : Message)
    (hs : Chronological l) :
    l.filter (fun m => !m.timestamp.before lastMessage.timestamp) <:+
      forwardMessages l true lastMessage := by
  conv_lhs => rw [← List.take_append_drop (cutoffIndex l lastMessage.timestamp) l]
  rw [List.filter_append, filter_take_cutoff l _ hs, List.nil_append, forwardMessages_true]
  cases h : l.drop (cutoffIndex l lastMessage.timestamp) with
  | nil => simp
  | cons x rest =>
    -- after the cutoff only its own message can be older
    have hrest : rest.filter (fun m => !m.timestamp.before lastMessage.timestamp) = rest :=
      List.filter_eq_self.2 fun m hm => by
        simp [not_before_of_mem_drop (by rw [← List.tail_drop, h]; exact hm)]
    rw [List.filter_cons, hrest]
    split
    · exact List.suffix_refl _
    · exact List.suffix_cons x rest

/-- End to end, through the batch path: when the fetch succeeds with messages in
chronological order, the forward batch carries an event for every part of every fetched
message not older than the last bridged one, in batch order, at its end. -/
theorem doForwardBackfill_sends_newer {d : Deps σ} (hc : RelationMetaContract d)
    (hb : d.batchSending = true)
    (fetchMessages : FetchMessagesParams → Except String FetchMessagesResponse) (s : σ)
    (lastMessage : Message) (resp : FetchMessagesResponse)
    (hf : fetchMessages (forwardFetchParams portal lastMessage) = .ok resp)
    (hs : Chronological resp.messages) :
    ∃ r, doForwardBackfill d portal source (some fetchMessages) s lastMessage =
        some (.sent (.batch r)) ∧ r.req.forward = true ∧
      (partsOf (resp.messages.filter fun m => !m.timestamp.before lastMessage.timestamp)).map
        (fun o => d.generateDeterministicEventID portal.mxid portal.portalKey o.1.id o.2.id) <:+
        r.req.events.map (·.id) := by
  obtain ⟨r, hr⟩ := Option.isSome_iff_exists.1 (sendBatch_isSome hc portal source
    (forwardMessages resp.messages true lastMessage) true resp.markRead)
  obtain ⟨st, hst, hrst⟩ := Option.map_eq_some'.1 hr
  have hrec := batchRecords_of_loop d portal source hst true resp.markRead
  rw [hrst] at hrec
  refine ⟨r, by simp [doForwardBackfill, sendBackfill, hb, hf, hr], by rw [← hrst], ?_⟩
  rw [hrec.eventIDs]
  obtain ⟨pre, hpre⟩ := forwardMessages_suffix resp.messages lastMessage hs
  exact ⟨(partsOf pre).map _, by rw [← hpre, partsOf_append, List.map_append]⟩

theorem doForwardBackfill_sends_newer_sample :
    RelationMetaContract sampleDeps ∧ sampleDeps.batchSending = true ∧
    (fun _ => .ok ⟨[{ (default : BackfillMessage) with timestamp := ⟨-1⟩, parts := [default] },
        { (default : BackfillMessage) with timestamp := ⟨1⟩, parts := [default] }], false⟩ :
      FetchMessagesParams → Except String FetchMessagesResponse)
        (forwardFetchParams default default) =
      .ok ⟨[{ (default : BackfillMessage) with timestamp := ⟨-1⟩, parts := [default] },
        { (default : BackfillMessage) with timestamp := ⟨1⟩, parts := [default] }], false⟩ ∧
    Chronological [{ (default : BackfillMessage) with timestamp := ⟨-1⟩, parts := [default] },
        { (default : BackfillMessage) with timestamp := ⟨1⟩, parts := [default] }] ∧
    ∃ r, doForwardBackfill sampleDeps default default
        (some fun _ => .ok
          ⟨[{ (default : BackfillMessage) with timestamp := ⟨-1⟩, parts := [default] },
            { (default : BackfillMessage) with timestamp := ⟨1⟩, parts := [default] }], false⟩)
        () default = some (.sent (.batch r)) ∧
      r.req.forward = true ∧
      (partsOf ([{ (default : BackfillMessage) with timestamp := ⟨-1⟩, parts := [default] },
          { (default : BackfillMessage) with timestamp := ⟨1⟩, parts := [default] }].filter
          fun m => !m.timestamp.before (default : Message).timestamp)).map
        (fun o => sampleDeps.generateDeterministicEventID (default : Portal).mxid
          (default : Portal).portalKey o.1.id o.2.id) <:+
        r.req.events.map (·.id) :=
  have hs : Chronological
      [{ (default : BackfillMessage) with timestamp := ⟨-1⟩, parts := [default] },
        { (default : BackfillMessage) with timestamp := ⟨1⟩, parts := [default] }] := by decide
  ⟨sampleDeps_contract, rfl, rfl, hs,
    doForwardBackfill_sends_newer default default sampleDeps_contract rfl _ () default
      ⟨[{ (default : BackfillMessage) with timestamp := ⟨-1⟩, parts := [default] },
        { (default : BackfillMessage) with timestamp := ⟨1⟩, parts := [default] }], false⟩ rfl hs⟩

end Mautrix.Backfill
