import Mautrix.Backfill.Types

/-!
# Mautrix.Backfill.Cutoff — the forward cutoff of `sendBackfill`

With `forceForward`, `sendBackfill` first cuts the fetched messages that are older than the
last bridged message:

```
var cutoff int
for i, msg := range messages {
    if msg.Timestamp.Before(lastMessage.Timestamp) { cutoff = i }
}
if cutoff != 0 { messages = messages[cutoff:] }
```

`cutoff` ends as the index of the *last* older message, and `messages[cutoff:]` keeps that
message. So the cut never removes everything it is meant to:

* `forwardMessages_keeps_older` — at one older message followed by a newer one, nothing is
  cut and the older message is handed on;
* `forwardMessages_tail_not_older` — what does hold for every list: at most the first
  message handed on is older than the last bridged one;
* `forwardMessages_keeps_newer` — on a chronological list (as a forward fetch returns it)
  no message that is not older is dropped.
-/

namespace Mautrix.Backfill

/-- The `for i, msg := range messages` loop: the index of the last message older than
`lastTs`, or 0 when there is none. -/
def cutoffIndex (messages : List BackfillMessage) (lastTs : Time) : Nat :=
  messages.enum.foldl (fun cutoff ⟨i, msg⟩ => if msg.timestamp.before lastTs then i else cutoff) 0

/-- The messages `sendBackfill` hands on to `sendBatch` or `sendLegacyBackfill`. -/
def forwardMessages (messages : List BackfillMessage) (forceForward : Bool)
    (lastMessage : Message) : List BackfillMessage :=
  if forceForward then
    let cutoff := cutoffIndex messages lastMessage.timestamp
    if cutoff ≠ 0 then messages.drop cutoff else messages
  else messages

/-- Messages in non-decreasing timestamp order. -/
def Chronological (messages : List BackfillMessage) : Prop :=
  messages.Pairwise fun a b => a.timestamp.ns ≤ b.timestamp.ns

instance : DecidablePred Chronological := fun l =>
  inferInstanceAs (Decidable (l.Pairwise _))

/-! ## The cutoff index -/

@[simp] theorem cutoffIndex_nil (ts : Time) : cutoffIndex [] ts = 0 := rfl

@[simp] theorem cutoffIndex_append_singleton (l : List BackfillMessage) (m : BackfillMessage)
    (ts : Time) :
    cutoffIndex (l ++ [m]) ts = if m.timestamp.before ts then l.length else cutoffIndex l ts := by
  simp [cutoffIndex, List.enum_append]

/-- The cutoff is an index of the list (or 0 for the empty list). -/
theorem cutoffIndex_le (l : List BackfillMessage) (ts : Time) :
    cutoffIndex l ts ≤ l.length - 1 := by
  induction l using List.reverseRecOn with
  | nil => simp
  | append_singleton l m ih =>
    rw [cutoffIndex_append_singleton]
    split
    · simp
    · simp; omega

/-- No message after the cutoff is older. -/
theorem not_before_of_mem_drop {l : List BackfillMessage} {ts : Time} {m : BackfillMessage}
    (h : m ∈ l.drop (cutoffIndex l ts + 1)) : m.timestamp.before ts = false := by
  induction l using List.reverseRecOn with
  | nil => simp at h
  | append_singleton l a ih =>
    rw [cutoffIndex_append_singleton] at h
    split at h
    · simp at h
    · rw [List.drop_append_eq_append_drop] at h
      rcases List.mem_append.1 h with h | h
      · exact ih h
      · obtain rfl : m = a := by simpa using List.mem_of_mem_drop h
        exact Bool.eq_false_iff.2 ‹_›

/-- On a chronological list every message before the cutoff is older: the one at the
cutoff is, and nothing before it is newer. -/
theorem before_of_mem_take {l : List BackfillMessage} {ts : Time} {m : BackfillMessage}
    (hs : Chronological l) (h : m ∈ l.take (cutoffIndex l ts)) : m.timestamp.before ts = true := by
  induction l using List.reverseRecOn with
  | nil => simp at h
  | append_singleton l a ih =>
    rw [Chronological, List.pairwise_append] at hs
    rw [cutoffIndex_append_singleton] at h
    split at h
    · rw [List.take_left' rfl] at h
      have hma := hs.2.2 m h a (List.mem_singleton_self a)
      simp only [Time.before_eq_true] at *
      omega
    · rw [List.take_append_of_le_length ((cutoffIndex_le l ts).trans (Nat.sub_le _ _))] at h
      exact ih hs.1 h

/-! ## What is handed on -/

/-- With `forceForward` the cut is a `drop` at the cutoff (`messages[0:]` being no cut). -/
theorem forwardMessages_true (l : List BackfillMessage) (lastMessage : Message) :
    forwardMessages l true lastMessage = l.drop (cutoffIndex l lastMessage.timestamp) := by
  simp only [forwardMessages, if_true]
  split <;> simp_all

theorem forwardMessages_false (l : List BackfillMessage) (lastMessage : Message) :
    forwardMessages l false lastMessage = l := rfl

/-- Whatever the order of the fetched messages, every message handed on after the first one
is at or after the last bridged message. -/
theorem forwardMessages_tail_not_older (l : List BackfillMessage) (lastMessage : Message) :
    ∀ m ∈ (forwardMessages l true lastMessage).tail,
      m.timestamp.before lastMessage.timestamp = false := by
  intro m hm
  rw [forwardMessages_true, List.tail_drop] at hm
  exact not_before_of_mem_drop hm

theorem forwardMessages_tail_not_older_pair :
    { (default : BackfillMessage) with timestamp := ⟨3⟩ } ∈
      (forwardMessages [{ (default : BackfillMessage) with timestamp := ⟨1⟩ },
        { (default : BackfillMessage) with timestamp := ⟨3⟩ }] true
        { (default : Message) with timestamp := ⟨2⟩ }).tail ∧
    Time.before ⟨3⟩ ⟨2⟩ = false :=
  have hm : { (default : BackfillMessage) with timestamp := ⟨3⟩ } ∈
      (forwardMessages [{ (default : BackfillMessage) with timestamp := ⟨1⟩ },
        { (default : BackfillMessage) with timestamp := ⟨3⟩ }] true
        { (default : Message) with timestamp := ⟨2⟩ }).tail := by decide
  ⟨hm, forwardMessages_tail_not_older _ _ _ hm⟩

/-- On a chronological list no message before the cutoff is newer than the last bridged one. -/
theorem filter_take_cutoff (l : List BackfillMessage) (ts : Time) (hs : Chronological l) :
    (l.take (cutoffIndex l ts)).filter (fun m => !m.timestamp.before ts) = [] :=
  List.filter_eq_nil_iff.2 fun m hm => by simp [before_of_mem_take hs hm]

/-- On a chronological list the cut drops no message that is not older than the last
bridged one: those handed on are all of them, in their order. -/
theorem forwardMessages_keeps_newer (l : List BackfillMessage) (lastMessage : Message)
    (hs : Chronological l) :
    (forwardMessages l true lastMessage).filter (fun m => !m.timestamp.before lastMessage.timestamp) =
      l.filter (fun m => !m.timestamp.before lastMessage.timestamp) := by
  conv_rhs => rw [← List.take_append_drop (cutoffIndex l lastMessage.timestamp) l]
  rw [List.filter_append, filter_take_cutoff l _ hs, forwardMessages_true, List.nil_append]

theorem forwardMessages_keeps_newer_pair :
    Chronological [{ (default : BackfillMessage) with timestamp := ⟨1⟩ },
      { (default : BackfillMessage) with timestamp := ⟨3⟩ }] ∧
    (forwardMessages [{ (default : BackfillMessage) with timestamp := ⟨1⟩ },
        { (default : BackfillMessage) with timestamp := ⟨3⟩ }] true
        { (default : Message) with timestamp := ⟨2⟩ }).filter (fun m => !m.timestamp.before ⟨2⟩) =
      [{ (default : BackfillMessage) with timestamp := ⟨1⟩ },
        { (default : BackfillMessage) with timestamp := ⟨3⟩ }].filter
        (fun m => !m.timestamp.before ⟨2⟩) :=
  have hs : Chronological [{ (default : BackfillMessage) with timestamp := ⟨1⟩ },
      { (default : BackfillMessage) with timestamp := ⟨3⟩ }] := by decide
  ⟨hs, forwardMessages_keeps_newer _ { (default : Message) with timestamp := ⟨2⟩ } hs⟩

/-- The off-by-one at its smallest: one message older than the last bridged one, then a
newer one. The cutoff is 0, nothing is cut, and the older message is handed on. -/
theorem forwardMessages_keeps_older :
    forwardMessages [{ (default : BackfillMessage) with timestamp := ⟨1⟩ },
        { (default : BackfillMessage) with timestamp := ⟨3⟩ }] true
        { (default : Message) with timestamp := ⟨2⟩ } =
      [{ (default : BackfillMessage) with timestamp := ⟨1⟩ },
        { (default : BackfillMessage) with timestamp := ⟨3⟩ }] ∧
    Time.before ⟨1⟩ ⟨2⟩ = true := by
  decide

end Mautrix.Backfill
