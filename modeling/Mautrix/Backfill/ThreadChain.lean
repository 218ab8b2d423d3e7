import Mautrix.Backfill.Batch

/-!
# Mautrix.Backfill.ThreadChain — how `sendBatch` chains the parts of a thread

In one batch, each part of a thread must point at the part of that thread sent just before
it, which the server has not seen yet. `sendBatch` keeps a map `prevThreadEvents` from thread
root to the event ID of the thread's last part: a message of a thread starts from it, and
each part moves it on.

What the chain should be is stated here without the map, over the parts sent so far:

* `lastThreadPart` / `lastThreadEvent` — the last part of thread `t` with a resolved root,
  and its event ID (empty when there is none);
* `expectedPrevThreadEvent` — the previous thread event a part should be given: what
  `getRelationMeta` returned for the first part of its thread, that record pointed at the
  preceding part of the thread otherwise;
* `threadContents` — the contents `applyRelationMeta` should produce, part by part.

`sendBatch_thread_chain` proves that after every part of every batch the contents built so
far are `threadContents` and the map holds `lastThreadEvent` for every thread, assuming, as
the batch-send mode of `getRelationMeta` does, a previous thread event exactly when there is
a thread root, and non-empty generated event IDs.
-/

namespace Mautrix.Backfill

variable {σ : Type} (d : Deps σ) (portal : Portal) (source : UserLogin)

/-- A part of thread `t` whose thread root `getRelationMeta` resolved. -/
def inThread (t : MessageID) (o : BackfillMessage × ConvertedMessagePart) : Bool :=
  o.1.threadRoot = some t ∧ (d.getRelationMeta o.1.replyTo o.1.threadRoot).threadRoot.isSome

/-- The last part of thread `t` among `done`. -/
def lastThreadPart (t : MessageID) (done : List (BackfillMessage × ConvertedMessagePart)) :
    Option (BackfillMessage × ConvertedMessagePart) :=
  (done.filter (inThread d t)).getLast?

/-- The event ID of the last part of thread `t` among `done`, or the empty ID. -/
def lastThreadEvent (t : MessageID) (done : List (BackfillMessage × ConvertedMessagePart)) :
    EventID :=
  ((lastThreadPart d t done).map fun o => partEventID d portal o.1 o.2).getD ⟨""⟩

/-- The previous thread event for a part of a message with thread ID `threadRoot` and
relation metadata `rel`, once the parts `done` are sent. -/
def expectedPrevThreadEvent (done : List (BackfillMessage × ConvertedMessagePart))
    (threadRoot : Option MessageID) (rel : RelationMeta) : Option Message :=
  match threadRoot, rel.threadRoot with
  | some t, some _ =>
    match lastThreadPart d t done with
    | none => rel.prevThreadEvent
    | some o => rel.prevThreadEvent.map fun p => { p with mxid := partEventID d portal o.1 o.2 }
  | _, _ => rel.prevThreadEvent

/-- The content each part should be sent with; `before` are the parts sent before. -/
def threadContents : List (BackfillMessage × ConvertedMessagePart) →
    List (BackfillMessage × ConvertedMessagePart) → List Json
  | _, [] => []
  | before, o :: rest =>
    let rel := d.getRelationMeta o.1.replyTo o.1.threadRoot
    d.applyRelationMeta o.2.content rel.replyTo rel.threadRoot
        (expectedPrevThreadEvent d portal before o.1.threadRoot rel) ::
      threadContents (before ++ [o]) rest

theorem threadContents_append (before l₁ l₂ : List (BackfillMessage × ConvertedMessagePart)) :
    threadContents d portal before (l₁ ++ l₂) =
      threadContents d portal before l₁ ++ threadContents d portal (before ++ l₁) l₂ := by
  induction l₁ generalizing before with
  | nil => simp [threadContents]
  | cons o l₁ ih => simp [threadContents, ih]

/-! ## The last part of a thread -/

theorem lastThreadPart_append_of_inThread {t : MessageID}
    (done : List (BackfillMessage × ConvertedMessagePart))
    {o : BackfillMessage × ConvertedMessagePart} (h : inThread d t o = true) :
    lastThreadPart d t (done ++ [o]) = some o := by
  simp [lastThreadPart, List.filter_append, h]

/-- One more part moves the last event of its thread to it, and no other thread's. -/
theorem lastThreadEvent_append (t : MessageID)
    (done : List (BackfillMessage × ConvertedMessagePart))
    (o : BackfillMessage × ConvertedMessagePart) :
    lastThreadEvent d portal t (done ++ [o]) =
      if inThread d t o then partEventID d portal o.1 o.2 else lastThreadEvent d portal t done := by
  by_cases h : inThread d t o <;>
    simp [lastThreadEvent, lastThreadPart, List.filter_append, h]

/-- With non-empty event IDs, the map entry is empty exactly when no part of the thread was
sent. -/
theorem lastThreadEvent_eq_empty (t : MessageID)
    (done : List (BackfillMessage × ConvertedMessagePart))
    (hid : ∀ room key msgID partID, d.generateDeterministicEventID room key msgID partID ≠ ⟨""⟩) :
    lastThreadEvent d portal t done = ⟨""⟩ ↔ lastThreadPart d t done = none := by
  cases h : lastThreadPart d t done <;> simp [lastThreadEvent, h, partEventID, hid]

/-! ## The assumptions -/

/-- `getRelationMeta` returns a previous thread event exactly when it returns a thread root. -/
def PrevWithRoot : Prop :=
  ∀ replyTo threadRoot, (d.getRelationMeta replyTo threadRoot).prevThreadEvent.isSome ↔
    (d.getRelationMeta replyTo threadRoot).threadRoot.isSome

/-- `GenerateDeterministicEventID` never returns the empty ID. -/
def NonEmptyEventIDs : Prop :=
  ∀ room key msgID partID, d.generateDeterministicEventID room key msgID partID ≠ ⟨""⟩

/-- The expected previous thread event stands exactly when there is a thread root. -/
theorem expectedPrevThreadEvent_isSome (done : List (BackfillMessage × ConvertedMessagePart))
    (threadRoot : Option MessageID) {rel : RelationMeta}
    (hrel : rel.prevThreadEvent.isSome ↔ rel.threadRoot.isSome) :
    (expectedPrevThreadEvent d portal done threadRoot rel).isSome = rel.threadRoot.isSome := by
  unfold expectedPrevThreadEvent
  split
  · split <;> simp_all
  · simp_all

/-- Without a resolved thread root, a part is given what `getRelationMeta` returned. -/
theorem expectedPrevThreadEvent_of_root_none {done : List (BackfillMessage × ConvertedMessagePart)}
    {threadRoot : Option MessageID} {rel : RelationMeta} (hr : rel.threadRoot = none) :
    expectedPrevThreadEvent d portal done threadRoot rel = rel.prevThreadEvent := by
  unfold expectedPrevThreadEvent
  cases threadRoot <;> simp [hr]

/-- Once the last part of the thread is `o`, the expected previous thread event is the one
expected before, pointed at `o`. -/
theorem expectedPrevThreadEvent_repoint {done done' : List (BackfillMessage × ConvertedMessagePart)}
    {threadRoot : Option MessageID} {t : MessageID} {rel : RelationMeta} {p : Message}
    {o : BackfillMessage × ConvertedMessagePart} (ht : threadRoot = some t)
    (hr : rel.threadRoot.isSome) (h : expectedPrevThreadEvent d portal done threadRoot rel = some p)
    (hlast : lastThreadPart d t done' = some o) :
    expectedPrevThreadEvent d portal done' threadRoot rel =
      some { p with mxid := partEventID d portal o.1 o.2 } := by
  obtain ⟨r, hr⟩ := Option.isSome_iff_exists.1 hr
  subst ht
  unfold expectedPrevThreadEvent at h ⊢
  simp only [hr, hlast] at h ⊢
  cases hl : lastThreadPart d t done <;> cases hq : rel.prevThreadEvent <;>
    simp only [hl, hq, Option.map_some', Option.map_none', reduceCtorEq] at h ⊢ <;>
    cases h <;> rfl

/-! ## The invariant -/

/-- The thread chain once the parts `done` are sent: the contents so far, and for every
thread the event ID of its last part. -/
structure ThreadInv (done : List (BackfillMessage × ConvertedMessagePart)) (st : BatchState) :
    Prop where
  contents : st.events.map (·.content) = threadContents d portal [] done
  map : ∀ t, st.prevThreadEvents t = lastThreadEvent d portal t done

/-- Inside the parts of `msg`: also its relation metadata, and the previous thread event its
next part is given. -/
structure ThreadMsgInv (msg : BackfillMessage)
    (done : List (BackfillMessage × ConvertedMessagePart)) (st : BatchState)
    extends ThreadInv d portal done st : Prop where
  replyTo : st.replyTo = (d.getRelationMeta msg.replyTo msg.threadRoot).replyTo
  threadRoot : st.threadRoot = (d.getRelationMeta msg.replyTo msg.threadRoot).threadRoot
  prev : st.prevThreadEvent = expectedPrevThreadEvent d portal done msg.threadRoot
    (d.getRelationMeta msg.replyTo msg.threadRoot)

theorem ThreadInv.init : ThreadInv d portal [] BatchState.init :=
  ⟨rfl, fun _ => rfl⟩

/-- The override at the head of a message gives its first part the expected previous thread
event: the map entry is set exactly when a part of the thread was sent, and holds its ID. -/
theorem overridePrevThreadEvent_eq_expected {done : List (BackfillMessage × ConvertedMessagePart)}
    {m : MessageID → EventID} {msg : BackfillMessage} {rel : RelationMeta} {prev : Option Message}
    (hmap : ∀ t, m t = lastThreadEvent d portal t done)
    (hrel : rel.prevThreadEvent.isSome ↔ rel.threadRoot.isSome) (hid : NonEmptyEventIDs d)
    (h : overridePrevThreadEvent m msg rel = some prev) :
    prev = expectedPrevThreadEvent d portal done msg.threadRoot rel := by
  unfold overridePrevThreadEvent at h
  unfold expectedPrevThreadEvent
  cases hr : rel.threadRoot with
  | none =>
    simp only [hr, Option.isSome_none, Bool.false_eq_true, if_false] at h
    cases msg.threadRoot <;> exact (Option.some.inj h).symm
  | some r =>
    obtain ⟨q, hq⟩ := Option.isSome_iff_exists.1 (hrel.2 (by simp [hr]))
    cases ht : msg.threadRoot with
    | none => simp [hr, ht] at h
    | some t =>
      have hempty := lastThreadEvent_eq_empty d portal t done hid
      simp only [hr, ht, hmap t, hq, Option.isSome_some, if_true] at h ⊢
      cases hl : lastThreadPart d t done with
      | none => simp_all
      | some o => simp_all [lastThreadEvent]

theorem startMessage_thread (hprev : PrevWithRoot d) (hid : NonEmptyEventIDs d)
    {done : List (BackfillMessage × ConvertedMessagePart)} {st st' : BatchState}
    {msg : BackfillMessage} (hI : ThreadInv d portal done st)
    (h : startMessage d source st msg = some st') : ThreadMsgInv d portal msg done st' := by
  obtain ⟨prev, hp, rfl⟩ := startMessage_eq_some.1 h
  exact ⟨⟨hI.contents, hI.map⟩, rfl, rfl,
    overridePrevThreadEvent_eq_expected d portal hI.map (hprev _ _) hid hp⟩

theorem sendPart_thread (hprev : PrevWithRoot d) {msg : BackfillMessage}
    {done : List (BackfillMessage × ConvertedMessagePart)} {st st' : BatchState}
    {part : ConvertedMessagePart} (hI : ThreadMsgInv d portal msg done st)
    (h : sendPart d portal msg st part = some st') :
    ThreadMsgInv d portal msg (done ++ [(msg, part)]) st' := by
  obtain ⟨st₁, h₁, rfl⟩ := Option.map_eq_some'.1 h
  -- the part's content is rewritten with the expected previous thread event
  have hcontents : ∀ st₂ : BatchState, st₂.events = st.events ++
      [partEvent portal msg part st.intent (partEventID d portal msg part)
        (d.applyRelationMeta part.content st.replyTo st.threadRoot st.prevThreadEvent)] →
      st₂.events.map (·.content) = threadContents d portal [] (done ++ [(msg, part)]) := by
    intro st₂ h
    simp [h, threadContents_append, threadContents, hI.contents, hI.replyTo, hI.threadRoot,
      hI.prev, partEvent]
  have hsome := expectedPrevThreadEvent_isSome d portal done msg.threadRoot
    (hprev msg.replyTo msg.threadRoot)
  rcases chainThread_eq_some.1 h₁ with ⟨hnone, rfl⟩ | ⟨p, t₀, hp, ht, rfl⟩
  · -- no previous thread event: no resolved thread root, so the part is in no thread
    dsimp only at hnone
    have hroot : (d.getRelationMeta msg.replyTo msg.threadRoot).threadRoot = none := by
      simpa [← hI.prev, hnone] using hsome.symm
    have hout : ∀ t, inThread d t (msg, part) = false := by simp [inThread, hroot]
    refine ⟨⟨hcontents _ (by simp [scheduleDisappear_eq]), fun t => ?_⟩, ?_, ?_, ?_⟩
    · simp [scheduleDisappear_eq, hI.map t, lastThreadEvent_append, hout t]
    · simp [scheduleDisappear_eq, hI.replyTo]
    · simp [scheduleDisappear_eq, hI.threadRoot]
    · simpa [scheduleDisappear_eq, expectedPrevThreadEvent_of_root_none d portal hroot]
        using hI.prev
  · -- a previous thread event: the part is in thread `t₀` and moves its entry on
    dsimp only at hp
    have hroot : (d.getRelationMeta msg.replyTo msg.threadRoot).threadRoot.isSome := by
      simpa [← hI.prev, hp] using hsome.symm
    have hin : ∀ t, inThread d t (msg, part) = decide (t = t₀) := by
      intro t
      simp only [inThread, hroot, and_true]
      simp [ht, eq_comm]
    refine ⟨⟨hcontents _ (by simp [scheduleDisappear_eq]), fun t => ?_⟩, ?_, ?_, ?_⟩
    · simp [scheduleDisappear_eq, Function.update_apply, hI.map t, lastThreadEvent_append, hin t]
    · simp [scheduleDisappear_eq, hI.replyTo]
    · simp [scheduleDisappear_eq, hI.threadRoot]
    · simpa [scheduleDisappear_eq] using (expectedPrevThreadEvent_repoint d portal ht hroot
        (hp ▸ hI.prev).symm (lastThreadPart_append_of_inThread d done (by simpa using hin t₀))).symm

/-! ## Runs -/

theorem sendBatchMessage_thread (hprev : PrevWithRoot d) (hid : NonEmptyEventIDs d)
    {done : List (BackfillMessage × ConvertedMessagePart)} {st st' : BatchState}
    {msg : BackfillMessage} (hI : ThreadInv d portal done st)
    (h : sendBatchMessage d portal source st msg = some st') :
    ThreadInv d portal (done ++ msg.parts.map (msg, ·)) st' := by
  obtain ⟨st₁, h₁, h₂⟩ := Option.bind_eq_some.1 h
  have hrun := foldlM_invariant
    (fun ps st => ThreadMsgInv d portal msg (done ++ ps.map (msg, ·)) st)
    (fun ps part st st' hI h => by simpa using sendPart_thread d portal hprev hI h)
    msg.parts [] st₁ st' (by simpa using startMessage_thread d portal source hprev hid hI h₁) h₂
  simpa using hrun.toThreadInv

theorem sendBatchLoop_thread (hprev : PrevWithRoot d) (hid : NonEmptyEventIDs d)
    {messages : List BackfillMessage} {st : BatchState}
    (h : sendBatchLoop d portal source messages = some st) :
    ThreadInv d portal (partsOf messages) st := by
  simpa using foldlM_invariant (fun pre st => ThreadInv d portal (partsOf pre) st)
    (fun pre msg st st' hI h => by
      simpa using sendBatchMessage_thread d portal source hprev hid hI h)
    messages [] _ st (ThreadInv.init d portal) h

/-- After every part of every batch — the messages `pre` sent, then the parts `ps` of `msg` —
the contents built so far are those `applyRelationMeta` gives with the expected previous
thread events, the previous thread event the next part of `msg` is given is the expected
one, and for every thread `t` the map holds the event ID of the last part of `t` sent so far
(so parts of other threads, or of none, leave it alone). -/
theorem sendBatch_thread_chain (hprev : PrevWithRoot d) (hid : NonEmptyEventIDs d)
    (pre : List BackfillMessage) (msg : BackfillMessage) (ps : List ConvertedMessagePart)
    (st : BatchState) (h : batchStateAt d portal source pre msg ps = some st) :
    st.events.map (·.content) = threadContents d portal [] (partsOf pre ++ ps.map (msg, ·)) ∧
    st.prevThreadEvent = expectedPrevThreadEvent d portal (partsOf pre ++ ps.map (msg, ·))
      msg.threadRoot (d.getRelationMeta msg.replyTo msg.threadRoot) ∧
    ∀ t, st.prevThreadEvents t = lastThreadEvent d portal t (partsOf pre ++ ps.map (msg, ·)) := by
  obtain ⟨st₁, h₁, h₂⟩ := Option.bind_eq_some.1 h
  obtain ⟨st₀, h₀, h₁⟩ := Option.bind_eq_some.1 h₁
  have hstart := startMessage_thread d portal source hprev hid
    (sendBatchLoop_thread d portal source hprev hid h₀) h₁
  have hI := foldlM_invariant
    (fun ps st => ThreadMsgInv d portal msg (partsOf pre ++ ps.map (msg, ·)) st)
    (fun ps part st st' hI h => by simpa using sendPart_thread d portal hprev hI h)
    ps [] st₁ st (by simpa using hstart) h₂
  exact ⟨by simpa using hI.contents, by simpa using hI.prev, by simpa using hI.map⟩

theorem prevWithRoot_sampleDeps : PrevWithRoot sampleDeps := by
  intro _ t
  cases t <;> simp [sampleDeps]

theorem nonEmptyEventIDs_sampleDeps : NonEmptyEventIDs sampleDeps := by
  intro _ _ m p h
  have h1 : "$".length = 1 := by decide
  have := congrArg (String.length ∘ EventID.val) h
  simp [sampleDeps, String.length_append, h1] at this

theorem sendBatch_thread_chain_sample :
    PrevWithRoot sampleDeps ∧ NonEmptyEventIDs sampleDeps ∧
    ∃ st, batchStateAt sampleDeps default default
        [{ (default : BackfillMessage) with
            threadRoot := some ⟨"root"⟩, id := ⟨"m1"⟩, parts := [default] }]
        { (default : BackfillMessage) with threadRoot := some ⟨"root"⟩, id := ⟨"m2"⟩ }
        [default] = some st ∧
      st.events.map (·.content) = threadContents sampleDeps default []
        (partsOf [{ (default : BackfillMessage) with
            threadRoot := some ⟨"root"⟩, id := ⟨"m1"⟩, parts := [default] }] ++
          [default].map
            ({ (default : BackfillMessage) with threadRoot := some ⟨"root"⟩, id := ⟨"m2"⟩ }, ·)) ∧
      st.prevThreadEvent = expectedPrevThreadEvent sampleDeps default
        (partsOf [{ (default : BackfillMessage) with
            threadRoot := some ⟨"root"⟩, id := ⟨"m1"⟩, parts := [default] }] ++
          [default].map
            ({ (default : BackfillMessage) with threadRoot := some ⟨"root"⟩, id := ⟨"m2"⟩ }, ·))
        (some ⟨"root"⟩) (sampleDeps.getRelationMeta none (some ⟨"root"⟩)) ∧
      ∀ t, st.prevThreadEvents t = lastThreadEvent sampleDeps default t
        (partsOf [{ (default : BackfillMessage) with
            threadRoot := some ⟨"root"⟩, id := ⟨"m1"⟩, parts := [default] }] ++
          [default].map
            ({ (default : BackfillMessage) with threadRoot := some ⟨"root"⟩, id := ⟨"m2"⟩ }, ·)) := by
  refine ⟨prevWithRoot_sampleDeps, nonEmptyEventIDs_sampleDeps, _, rfl, ?_⟩
  apply sendBatch_thread_chain sampleDeps default default prevWithRoot_sampleDeps
    nonEmptyEventIDs_sampleDeps
  rfl

/-- The contents of a whole batch request follow the thread chain. -/
theorem sendBatch_contents (hprev : PrevWithRoot d) (hid : NonEmptyEventIDs d)
    {messages : List BackfillMessage} {forceForward markRead : Bool} {r : BatchSend}
    (h : sendBatch d portal source messages forceForward markRead = some r) :
    r.req.events.map (·.content) = threadContents d portal [] (partsOf messages) := by
  obtain ⟨st, hst, rfl⟩ := Option.map_eq_some'.1 h
  exact (sendBatchLoop_thread d portal source hprev hid hst).contents

theorem sendBatch_contents_sample :
    PrevWithRoot sampleDeps ∧ NonEmptyEventIDs sampleDeps ∧
    ∃ r, sendBatch sampleDeps default default
        [{ (default : BackfillMessage) with threadRoot := some ⟨"root"⟩, parts := [default] }]
        true false = some r ∧
      r.req.events.map (·.content) = threadContents sampleDeps default []
        (partsOf
          [{ (default : BackfillMessage) with threadRoot := some ⟨"root"⟩, parts := [default] }]) := by
  refine ⟨prevWithRoot_sampleDeps, nonEmptyEventIDs_sampleDeps, _, rfl, ?_⟩
  apply sendBatch_contents sampleDeps default default prevWithRoot_sampleDeps
    nonEmptyEventIDs_sampleDeps
  rfl

end Mautrix.Backfill
