import Mautrix.Backfill.BatchRecords
import Mautrix.Backfill.ThreadChain

/-!
# Mautrix.Backfill.BatchSpec — what a batch should be, and `sendBatch` against it

`sendBatch` threads nine variables through two nested loops. What it should compute is said
here with no loop state at all: `batchSpec` builds the request, the rows and the timers from
the (message, part) pairs of the batch, each pair on its own, the thread chain coming from
`threadContents`. The two invariants of the loops, `RecordsInv` and `ThreadInv`, together
pin the loop's outcome down to it:

* `eq_zipWith_frame_content` — an event list is its frames with the contents put back;
* `sendBatch_refines` — when `getRelationMeta` keeps its contract and generated event IDs are
  never empty, `sendBatch` returns exactly `batchSpec`, for every batch.
-/

namespace Mautrix.Backfill

variable {σ : Type} (d : Deps σ) (portal : Portal) (source : UserLogin)

/-- What `sendBatch` should send for `messages`: for each (message, part) pair its event, with
the content the thread chain gives it, and its row, and a timer for each pair whose message
disappears. -/
def batchSpec (messages : List BackfillMessage) (forceForward markRead : Bool) : BatchSend where
  roomID := portal.mxid
  req :=
    { forwardIfNoMessages := !forceForward
      forward := forceForward
      markReadBy := if markRead then source.userMXID else default
      sendNotification := if markRead then false else forceForward
      events := List.zipWith
        (fun o c => partEvent portal o.1 o.2 (d.getIntentFor o.1.sender source)
          (partEventID d portal o.1 o.2) c)
        (partsOf messages) (threadContents d portal [] (partsOf messages)) }
  disappearingMessages :=
    ((partsOf messages).filter fun o => disappears d o.1).map fun o => partTimer d portal o.1 o.2
  dbMessages := (partsOf messages).map fun o =>
    partMessage portal o.1 o.2 (d.getIntentFor o.1.sender source) (partEventID d portal o.1 o.2)

/-- An event list is its frames with the contents put back. -/
theorem eq_zipWith_frame_content (l : List Event) :
    l = List.zipWith (fun e c => { e with content := c }) (l.map Event.frame) (l.map (·.content)) := by
  induction l with
  | nil => rfl
  | cons e l ih =>
    rw [List.map_cons, List.map_cons, List.zipWith_cons_cons, ← ih]
    rfl

/-- The events of a completed run of the message loop are those of `batchSpec`. -/
theorem sendBatchLoop_events (hprev : PrevWithRoot d) (hid : NonEmptyEventIDs d)
    {messages : List BackfillMessage} {st : BatchState}
    (h : sendBatchLoop d portal source messages = some st) :
    st.events = List.zipWith
      (fun o c => partEvent portal o.1 o.2 (d.getIntentFor o.1.sender source)
        (partEventID d portal o.1 o.2) c)
      (partsOf messages) (threadContents d portal [] (partsOf messages)) := by
  rw [eq_zipWith_frame_content st.events, (sendBatchLoop_records d portal source h).events,
    (sendBatchLoop_thread d portal source hprev hid h).contents, List.zipWith_map_left]
  rfl

/-- For every batch, when `getRelationMeta` keeps its contract and generated event IDs are
never empty, `sendBatch` completes and returns exactly `batchSpec`: the loops add nothing,
drop nothing and reorder nothing. -/
theorem sendBatch_refines {d : Deps σ} (hc : RelationMetaContract d) (hid : NonEmptyEventIDs d)
    (portal : Portal) (source : UserLogin) (messages : List BackfillMessage)
    (forceForward markRead : Bool) :
    sendBatch d portal source messages forceForward markRead =
      some (batchSpec d portal source messages forceForward markRead) := by
  obtain ⟨r, hr⟩ := Option.isSome_iff_exists.1
    (sendBatch_isSome hc portal source messages forceForward markRead)
  obtain ⟨st, hst, rfl⟩ := Option.map_eq_some'.1 hr
  have hR := sendBatchLoop_records d portal source hst
  rw [hr, sendBatchLoop_events d portal source (fun r t => (hc r t).2) hid hst, hR.dbMessages,
    hR.disappearing]
  rfl

theorem sendBatch_refines_sample :
    RelationMetaContract sampleDeps ∧ NonEmptyEventIDs sampleDeps ∧
    sendBatch sampleDeps default default
        [{ (default : BackfillMessage) with threadRoot := some ⟨"root"⟩, parts := [default] }]
        true false =
      some (batchSpec sampleDeps default default
        [{ (default : BackfillMessage) with threadRoot := some ⟨"root"⟩, parts := [default] }]
        true false) :=
  ⟨sampleDeps_contract, nonEmptyEventIDs_sampleDeps,
    sendBatch_refines sampleDeps_contract nonEmptyEventIDs_sampleDeps _ _ _ _ _⟩

end Mautrix.Backfill
