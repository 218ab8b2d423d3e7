import Mautrix.Backfill.Types

/-!
# Mautrix.Backfill.Legacy — `sendLegacyBackfill`, one message at a time

Without batch sending, each message goes through `sendConvertedMessage`, which returns the
database rows of the parts it managed to send. `lastPart` follows the last of those rows, and
at the end the user's double puppet marks the room read there.

* `sendLegacyLoop_eq` — the loop's `lastPart` is the last row of all the rows the sends
  returned (`legacyOutcomes`), or the empty event ID when there is none;
* `sendLegacyBackfill_readReceipt` — so, with `markRead` and a double puppet, the receipt is
  at the last part sent, for every list and every pattern of failed sends;
* `sendLegacyBackfill_marks_empty` — and when nothing was sent the receipt is still issued,
  at the empty event ID: no `lastPart != ""` guard stands before `MarkRead`.
-/

namespace Mautrix.Backfill

variable {σ : Type} (d : Deps σ) (portal : Portal) (source : UserLogin)

/-- `dp.MarkRead(ctx, portal.MXID, lastPart, time.Now())`: the double puppet that marks, the
room and the event (the time is not modelled). -/
structure ReadReceipt where
  doublePuppet : UserID
  roomID : RoomID
  eventID : EventID
deriving DecidableEq, Repr

/-- What `sendLegacyBackfill` does: the state of the bridge after every send, and the read
receipt, if one is sent. -/
structure LegacyBackfill (σ : Type) where
  state : σ
  readReceipt : Option ReadReceipt

/-- One turn of the message loop: send `msg`, and move `lastPart` to the last row returned. -/
def sendLegacyMessage (acc : σ × EventID) (msg : BackfillMessage) : σ × EventID :=
  let intent := d.getIntentFor msg.sender source
  let (dbMessages, s) := d.sendConvertedMessage acc.1 msg.id intent msg.sender
    msg.toConvertedMessage msg.timestamp
  (s, if h : 0 < dbMessages.length then
        (dbMessages.get ⟨dbMessages.length - 1, Nat.sub_lt h Nat.one_pos⟩).mxid
      else acc.2)

/-- The message loop of `sendLegacyBackfill`, from `var lastPart id.EventID`. -/
def sendLegacyLoop (s : σ) (messages : List BackfillMessage) : σ × EventID :=
  messages.foldl (sendLegacyMessage d source) (s, ⟨""⟩)

/-- `portal.sendLegacyBackfill(ctx, source, messages, markRead)`. -/
def sendLegacyBackfill (s : σ) (messages : List BackfillMessage) (markRead : Bool) :
    LegacyBackfill σ :=
  let (s, lastPart) := sendLegacyLoop d source s messages
  { state := s
    readReceipt := if markRead then
      source.doublePuppet.map fun dp => ⟨dp, portal.mxid, lastPart⟩ else none }

/-- The rows each send returns, message by message, and the state after the last send. -/
def legacyOutcomes (s : σ) : List BackfillMessage → List (List Message) × σ
  | [] => ([], s)
  | msg :: rest =>
    let (dbMessages, s) := d.sendConvertedMessage s msg.id (d.getIntentFor msg.sender source)
      msg.sender msg.toConvertedMessage msg.timestamp
    let (outs, s) := legacyOutcomes s rest
    (dbMessages :: outs, s)

/-- The event ID of the last row of all, or `last` when there is no row. -/
def lastRowID (rows : List Message) (last : EventID) : EventID :=
  (rows.getLast?.map (·.mxid)).getD last

/-! ## The loop -/

/-- `dbMessages[len(dbMessages)-1]` is the last row. -/
theorem lastRowID_eq (rows : List Message) (last : EventID) :
    lastRowID rows last = if h : 0 < rows.length then
      (rows.get ⟨rows.length - 1, Nat.sub_lt h Nat.one_pos⟩).mxid else last := by
  cases rows using List.reverseRecOn <;> simp [lastRowID]

theorem lastRowID_append (rows rest : List Message) (last : EventID) :
    lastRowID (rows ++ rest) last = lastRowID rest (lastRowID rows last) := by
  cases rest using List.reverseRecOn <;> simp [lastRowID, ← List.append_assoc]

/-- Run from any state and any `lastPart`, the loop ends in the state after the last send and
at the last row returned, if any. -/
theorem foldl_sendLegacyMessage (messages : List BackfillMessage) (s : σ) (last : EventID) :
    messages.foldl (sendLegacyMessage d source) (s, last) =
      ((legacyOutcomes d source s messages).2,
        lastRowID (legacyOutcomes d source s messages).1.flatten last) := by
  induction messages generalizing s last with
  | nil => rfl
  | cons msg rest ih =>
    simp only [List.foldl_cons, sendLegacyMessage, ← lastRowID_eq, ih, legacyOutcomes,
      List.flatten_cons, lastRowID_append]

theorem sendLegacyLoop_eq (s : σ) (messages : List BackfillMessage) :
    sendLegacyLoop d source s messages =
      ((legacyOutcomes d source s messages).2,
        lastRowID (legacyOutcomes d source s messages).1.flatten ⟨""⟩) :=
  foldl_sendLegacyMessage d source messages s ⟨""⟩

/-! ## The read receipt -/

/-- For every list of messages and every outcome of the sends: with `markRead` and a double
puppet, the room is marked read at the last row any send returned, that is the last part of
the last message that sent one; and at the empty event ID when no send returned a row. -/
theorem sendLegacyBackfill_readReceipt (s : σ) (messages : List BackfillMessage)
    (markRead : Bool) :
    (sendLegacyBackfill d portal source s messages markRead).readReceipt =
      if markRead then source.doublePuppet.map fun dp =>
        ⟨dp, portal.mxid, lastRowID (legacyOutcomes d source s messages).1.flatten ⟨""⟩⟩
      else none := by
  simp [sendLegacyBackfill, sendLegacyLoop_eq]

/-- With no message to send, the double puppet still marks the room read, at the empty event
ID. -/
theorem sendLegacyBackfill_marks_empty (s : σ) (userMXID dp : UserID) :
    (sendLegacyBackfill d portal ⟨userMXID, some dp⟩ s [] true).readReceipt =
      some ⟨dp, portal.mxid, ⟨""⟩⟩ := rfl

end Mautrix.Backfill
