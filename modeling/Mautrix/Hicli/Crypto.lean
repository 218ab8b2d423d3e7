import Mautrix.Hicli.Client

/-!
# Mautrix.Hicli.Crypto — room keys: loading members, sharing, encrypting

Before a message is encrypted for a room, its Megolm session must be shared with the members
that may read it. `Encrypt` tries the crypto machine, and when it reports the session missing,
expired or unshared, shares it (`shareGroupSession`) and tries once more. Sharing loads the
member list when the client has none (`loadMembers`), then gives the key to the joined
members, and to the invited ones too when the room's history visibility lets them read
(`shouldShareKeysToInvitedUsers`). `EnsureGroupSessionShared` does the sharing ahead of time.
`encryptLock` serializes `Encrypt` and `EnsureGroupSessionShared`, so each runs as one step.

`DB.DoTxn` runs the member list's transaction and is defined elsewhere; the results say what
they need of it (`TxnCommitsBody`, `TxnPanicsWithBody`).

* `storeMembers_panics_iff` — storing a member list panics exactly when an event has no state
  key or no string membership (when `processEvent` stores every event); `loadMembers_none_iff`
  lifts this to `loadMembers`;
* `storeMembers_ok` — a stored member list is one current-state entry per event, in order,
  the room marked loaded last (`MemberListStored`);
* `shareGroupSession_recipients` — the key goes out only after the member list is stored, to
  exactly the users of the member query, which takes in invited members exactly when the
  room's history visibility event says `invited`, `shared` or `world_readable`
  (`InvitedMayRead`, which `historyAllowsInvited` decides);
* `encrypt_ok_inv` — a successful `Encrypt` succeeded at once, or retried exactly once, after a
  session error and a successful re-share; `encrypt_none_iff` — it panics only in that
  re-share.
-/

namespace Mautrix.Hicli

variable {σ : Type} (h : HiClient σ)

/-! ## Loading the member list -/

/-- The current-state entry of a member event that `processEvent` stored as `dbEvt`:
`*evt.StateKey` dereferences the state key, and `evt.Content.Raw["membership"].(string)`
panics unless the membership is a string. -/
def memberEntry (evt : MemberEvent) (dbEvt : DBEvent) : Go σ CurrentStateEntry := do
  let stateKey ← deref evt.stateKey
  let membership ← match evt.membership with
    | some (.string m) => pure m
    | _ => goPanic
  pure { eventType := evt.type, stateKey, eventRowID := dbEvt.rowID, membership := ⟨membership⟩ }

/-- The loop of the transaction of `loadMembers`: store each event of the member list, and
build its current-state entry. -/
def HiClient.memberEntries : List MemberEvent → Go σ (List CurrentStateEntry)
  | [] => pure []
  | evt :: rest => do
    let dbEvt ← call (.processEvent evt) (h.processEvent evt)
    let entry ← memberEntry evt dbEvt
    let entries ← HiClient.memberEntries rest
    pure (entry :: entries)

/-- The transaction of `loadMembers`: the entries, then the current state, then the room
marked as having its member list. -/
def HiClient.storeMembers (room : Room) (chunk : List MemberEvent) : Go σ Unit := do
  let entries ← h.memberEntries chunk
  let _ ← call (.dbCurrentStateAddMany room.id false entries)
    (h.dbCurrentStateAddMany room.id false entries)
  let upsert : Room := { id := room.id, encryptionEvent := none, hasMemberList := true }
  call (.dbRoomUpsert upsert) (h.dbRoomUpsert upsert)

/-- `h.loadMembers(ctx, room)`. -/
def HiClient.loadMembers (room : Room) : Go σ Unit := do
  if room.hasMemberList then pure () else
  match ← attempt (call (.clientMembers room.id) (h.clientMembers room.id)) with
  | .error err => throw (.wrap "failed to get room member list: " err)
  | .ok chunk =>
    match ← attempt (h.dbDoTxn (h.storeMembers room chunk)) with
    | .error err => throw (.wrap "failed to process room member list: " err)
    | .ok () => pure ()

/-! ## Who gets the key -/

/-- What `shouldShareKeysToInvitedUsers` decides from the history visibility event it read:
the event parses, or was parsed already, to a history visibility that lets invited users
read. -/
def HiClient.historyAllowsInvited (historyVisibility : DBEvent) : Bool :=
  let (err, parsed) := h.parseRaw historyVisibility
  if err.isSome && !err.any (·.is h.errContentAlreadyParsed) then false
  else match parsed with
    | some (.historyVisibility hv) =>
      hv == h.historyVisibilityInvited || hv == h.historyVisibilityShared ||
        hv == h.historyVisibilityWorldReadable
    | _ => false

/-- `h.shouldShareKeysToInvitedUsers(ctx, roomID)`; a failed read means no. -/
def HiClient.shouldShareKeysToInvitedUsers (roomID : RoomID) : Go σ Bool := do
  match ← attempt (call (.dbCurrentStateGet roomID h.stateHistoryVisibility "")
      (h.dbCurrentStateGet roomID h.stateHistoryVisibility "")) with
  | .error _ => pure false
  | .ok historyVisibility =>
    let evt ← deref historyVisibility
    pure (h.historyAllowsInvited evt)

/-- The end of `shareGroupSession`, once it has decided whether invited users get the key:
read the member list, and share the session with it. -/
def HiClient.shareWithMembers (room : Room) (shareToInvited : Bool) : Go σ Unit := do
  let users ← attempt (if shareToInvited then
      call (.clientStoreGetRoomJoinedOrInvitedMembers room.id)
        (h.clientStoreGetRoomJoinedOrInvitedMembers room.id)
    else
      call (.clientStoreGetRoomJoinedMembers room.id) (h.clientStoreGetRoomJoinedMembers room.id))
  match users with
  | .error err => throw (.wrap "failed to get room member list: " err)
  | .ok users =>
    match ← attempt (call (.cryptoShareGroupSession room.id users)
        (h.cryptoShareGroupSession room.id users)) with
    | .error err => throw (.wrap "failed to share group session: " err)
    | .ok () => pure ()

/-- `h.shareGroupSession(ctx, room)`. -/
def HiClient.shareGroupSession (room : Room) : Go σ Unit := do
  h.loadMembers room
  let shareToInvited ← h.shouldShareKeysToInvitedUsers room.id
  h.shareWithMembers room shareToInvited

/-! ## Encrypting -/

/-- `h.EnsureGroupSessionShared(ctx, roomID)`. -/
def HiClient.ensureGroupSessionShared (roomID : RoomID) : Go σ Unit := do
  match ← attempt (call (.cryptoStoreGetOutboundGroupSession roomID)
      (h.cryptoStoreGetOutboundGroupSession roomID)) with
  | .error err => throw (.wrap "failed to get previous outbound group session: " err)
  | .ok session =>
    if session.any fun s => s.shared && !s.expired then pure () else
    match ← attempt (call (.dbRoomGet roomID) (h.dbRoomGet roomID)) with
    | .error err => throw (.wrap "failed to get room metadata: " err)
    | .ok none => throw (.new "unknown room")
    | .ok (some roomMeta) => h.shareGroupSession roomMeta

/-! ## What the results assume of `DB.DoTxn` -/

/-- A committed transaction (`DoTxn` returning nil) is a successful run of its function, and
leaves the world that run leaves. -/
def HiClient.TxnCommitsBody : Prop :=
  ∀ (fn : Go σ Unit) (w w' : World σ), (h.dbDoTxn fn).run.run w = some (.ok (), w') →
    fn.run.run w = some (.ok (), w')

theorem txnCommitsBody_sampleClient : sampleClient.TxnCommitsBody := fun _ _ _ h => h

/-! ## Loading the member list: when it panics -/

/-- A member event the transaction can store: it has a state key and a string membership. -/
def MemberEvent.storable (evt : MemberEvent) : Bool :=
  evt.stateKey.isSome && match evt.membership with
    | some (.string _) => true
    | _ => false

/-- Building an entry panics on an event that cannot be stored, and otherwise neither fails
nor calls out. -/
theorem memberEntry_run (evt : MemberEvent) (dbEvt : DBEvent) (w : World σ) :
    evt.storable = false ∧ (memberEntry evt dbEvt).run.run w = none ∨
      evt.storable = true ∧ ∃ e, (memberEntry evt dbEvt).run.run w = some (.ok e, w) := by
  obtain ⟨type, stateKey, membership, raw⟩ := evt
  unfold memberEntry MemberEvent.storable
  rcases stateKey with _ | sk <;> rcases membership with _ | _ | _ <;>
    simp [deref]

/-- Under a `processEvent` that stores every event, building the entries panics exactly when
an event of the member list has no state key or no string membership. -/
theorem memberEntries_panics_iff (hproc : ∀ evt s, ∃ dbEvt, (h.processEvent evt s).1 = .ok dbEvt)
    (chunk : List MemberEvent) (w : World σ) :
    (h.memberEntries chunk).run.run w = none ↔ ∃ evt ∈ chunk, evt.storable = false := by
  induction chunk generalizing w with
  | nil => simp [HiClient.memberEntries]
  | cons evt rest ih =>
    obtain ⟨dbEvt, hp⟩ := hproc evt w.state
    simp only [HiClient.memberEntries, run_call_bind, hp]
    rw [run_bind]
    rcases memberEntry_run evt dbEvt ⟨(h.processEvent evt w.state).2,
        w.calls ++ [.processEvent evt (.ok dbEvt)]⟩ with ⟨hs, hn⟩ | ⟨hs, e, he⟩
    · simp [hn, hs]
    · rw [he, Option.some_bind]
      dsimp only
      rw [run_bind, show (∃ x, x ∈ evt :: rest ∧ x.storable = false) ↔
        ∃ x, x ∈ rest ∧ x.storable = false by simp [hs], ← ih]
      rcases (h.memberEntries rest).run.run _ with _ | ⟨_ | _, _⟩ <;> simp

/-- The transaction of `loadMembers` panics exactly when building its entries does: the two
stores after the loop only call out. -/
theorem storeMembers_none_iff (room : Room) (chunk : List MemberEvent) (w : World σ) :
    (h.storeMembers room chunk).run.run w = none ↔ (h.memberEntries chunk).run.run w = none := by
  unfold HiClient.storeMembers
  rw [run_bind]
  rcases (h.memberEntries chunk).run.run w with _ | ⟨_ | entries, w₁⟩ <;> simp
  split <;> simp

/-- The transaction of `loadMembers` panics exactly when an event of the member list has no
state key or no string membership, when `processEvent` stores every event: the server decides
whether the client crashes. -/
theorem storeMembers_panics_iff (hproc : ∀ evt s, ∃ dbEvt, (h.processEvent evt s).1 = .ok dbEvt)
    (room : Room) (chunk : List MemberEvent) (w : World σ) :
    (h.storeMembers room chunk).run.run w = none ↔ ∃ evt ∈ chunk, evt.storable = false :=
  (storeMembers_none_iff h room chunk w).trans (memberEntries_panics_iff h hproc chunk w)

theorem storeMembers_panics_iff_sample :
    (∀ evt s, ∃ dbEvt, (sampleClient.processEvent evt s).1 = .ok dbEvt) ∧
    ((sampleClient.storeMembers default
        [{ (default : MemberEvent) with stateKey := some "@a:example.org" }]).run.run ⟨(), []⟩ =
        none ↔
      ∃ evt ∈ [{ (default : MemberEvent) with stateKey := some "@a:example.org" }],
        evt.storable = false) :=
  ⟨fun _ _ => ⟨default, rfl⟩,
    storeMembers_panics_iff sampleClient (fun _ _ => ⟨default, rfl⟩) _ _ _⟩

/-- The current-state entry of a member event carries its type, its state key, its string
membership, and the row `processEvent` stored it as. -/
def MemberEvent.EntryOf (evt : MemberEvent) (dbEvt : DBEvent) (e : CurrentStateEntry) : Prop :=
  e.eventType = evt.type ∧ evt.stateKey = some e.stateKey ∧
    evt.membership = some (.string e.membership.val) ∧ e.eventRowID = dbEvt.rowID

/-- A successful entry is the event's entry, and building it made no call. -/
theorem memberEntry_ok {evt : MemberEvent} {dbEvt : DBEvent} {w w' : World σ}
    {e : CurrentStateEntry} (hrun : (memberEntry evt dbEvt).run.run w = some (.ok e, w')) :
    evt.EntryOf dbEvt e ∧ w' = w := by
  obtain ⟨type, stateKey, membership, raw⟩ := evt
  unfold memberEntry at hrun
  rcases stateKey with _ | sk <;> rcases membership with _ | _ | _ <;>
    simp [deref] at hrun
  obtain ⟨rfl, rfl⟩ := hrun
  exact ⟨⟨rfl, rfl, rfl, rfl⟩, rfl⟩

/-- A successful loop of the transaction stores each event of the member list in order, and
builds one entry per event, in the same order, from the event and its stored row. -/
theorem memberEntries_ok {chunk : List MemberEvent} {w w' : World σ}
    {entries : List CurrentStateEntry}
    (hrun : (h.memberEntries chunk).run.run w = some (.ok entries, w')) :
    ∃ rows : List DBEvent, rows.length = chunk.length ∧
      w'.calls = w.calls ++ List.zipWith (fun evt r => .processEvent evt (.ok r)) chunk rows ∧
      List.Forall₂ (fun p e => MemberEvent.EntryOf p.1 p.2 e) (chunk.zip rows) entries := by
  induction chunk generalizing w entries with
  | nil =>
    simp only [HiClient.memberEntries, run_pure, Option.some.injEq, Prod.mk.injEq,
      Except.ok.injEq] at hrun
    obtain ⟨rfl, rfl⟩ := hrun
    exact ⟨[], rfl, by simp, .nil⟩
  | cons evt rest ih =>
    simp only [HiClient.memberEntries, run_call_bind] at hrun
    split at hrun
    · rename_i dbEvt hp
      obtain ⟨entry, w₁, h₁, hrun⟩ := run_bind_ok hrun
      obtain ⟨hentry, rfl⟩ := memberEntry_ok h₁
      obtain ⟨entries', w₂, h₂, hrun⟩ := run_bind_ok hrun
      simp only [run_pure, Option.some.injEq, Prod.mk.injEq, Except.ok.injEq] at hrun
      obtain ⟨rfl, rfl⟩ := hrun
      obtain ⟨rows, hlen, hcalls, hall⟩ := ih h₂
      exact ⟨dbEvt :: rows, by simp [hlen], by simp [hcalls, hp], .cons hentry hall⟩
    · simp at hrun

/-- The calls that store the member list `chunk` of `room`: each event stored in order
through `processEvent`, then one current-state entry per event, built from the event and its
stored row, then the room marked as having its member list. -/
def MemberListStored (room : Room) (chunk : List MemberEvent) (calls : List Call) : Prop :=
  ∃ (rows : List DBEvent) (entries : List CurrentStateEntry), rows.length = chunk.length ∧
    List.Forall₂ (fun p e => MemberEvent.EntryOf p.1 p.2 e) (chunk.zip rows) entries ∧
    calls = List.zipWith (fun evt r => .processEvent evt (.ok r)) chunk rows ++
      [.dbCurrentStateAddMany room.id false entries (.ok ()),
        .dbRoomUpsert { id := room.id, encryptionEvent := none, hasMemberList := true } (.ok ())]

/-- A successful transaction of `loadMembers` makes the calls that store the member list. -/
theorem storeMembers_stored {room : Room} {chunk : List MemberEvent} {w w' : World σ}
    (hrun : (h.storeMembers room chunk).run.run w = some (.ok (), w')) :
    ∃ calls, w'.calls = w.calls ++ calls ∧ MemberListStored room chunk calls := by
  unfold HiClient.storeMembers at hrun
  obtain ⟨entries, w₁, h₁, hrun⟩ := run_bind_ok hrun
  obtain ⟨rows, hlen, hcalls, hall⟩ := memberEntries_ok h h₁
  simp only [run_call_bind] at hrun
  split at hrun
  · rename_i ha
    simp only [run_call, Option.some.injEq, Prod.mk.injEq] at hrun
    obtain ⟨hu, rfl⟩ := hrun
    exact ⟨_, by simp [hcalls, ha, ← hu], rows, entries, hlen, hall, rfl⟩
  · simp at hrun

/-- A successful transaction of `loadMembers` stores every event of the member list in order,
then adds one current-state entry per event, built from the event and its stored row, and
last marks the room as having its member list. -/
theorem storeMembers_ok {room : Room} {chunk : List MemberEvent} {w w' : World σ}
    (hrun : (h.storeMembers room chunk).run.run w = some (.ok (), w')) :
    ∃ (rows : List DBEvent) (entries : List CurrentStateEntry), rows.length = chunk.length ∧
      List.Forall₂ (fun p e => MemberEvent.EntryOf p.1 p.2 e) (chunk.zip rows) entries ∧
      w'.calls = w.calls ++ List.zipWith (fun evt r => .processEvent evt (.ok r)) chunk rows ++
        [.dbCurrentStateAddMany room.id false entries (.ok ()),
          .dbRoomUpsert { id := room.id, encryptionEvent := none, hasMemberList := true }
            (.ok ())] := by
  obtain ⟨_, hcalls, rows, entries, hlen, hall, rfl⟩ := storeMembers_stored h hrun
  exact ⟨rows, entries, hlen, hall, by rw [hcalls, List.append_assoc]⟩

theorem storeMembers_ok_sample :
    ∃ w', (sampleClient.storeMembers default
        [⟨default, some "@a:example.org", some (.string "join"), default⟩]).run.run
        ⟨(), []⟩ = some (.ok (), w') ∧
      ∃ (rows : List DBEvent) (entries : List CurrentStateEntry), rows.length = 1 ∧
        List.Forall₂ (fun p e => MemberEvent.EntryOf p.1 p.2 e)
          ([⟨default, some "@a:example.org", some (.string "join"), default⟩].zip rows) entries ∧
        w'.calls = [] ++ List.zipWith (fun evt r => .processEvent evt (.ok r))
          [⟨default, some "@a:example.org", some (.string "join"), default⟩] rows ++
          [.dbCurrentStateAddMany (default : Room).id false entries (.ok ()),
            .dbRoomUpsert ⟨(default : Room).id, none, true⟩ (.ok ())] :=
  ⟨_, rfl, @storeMembers_ok Unit sampleClient default
    [⟨default, some "@a:example.org", some (.string "join"), default⟩] ⟨(), []⟩ _ rfl⟩

/-- What a successful `loadMembers` did, when a committed transaction is a successful run of
its function: nothing, in a room whose member list is loaded; otherwise it fetched the member
list from the server and stored it. -/
theorem loadMembers_ok (htxn : h.TxnCommitsBody) {room : Room} {w w' : World σ}
    (hrun : (h.loadMembers room).run.run w = some (.ok (), w')) :
    room.hasMemberList = true ∧ w' = w ∨
      room.hasMemberList = false ∧ ∃ chunk calls, (h.clientMembers room.id w.state).1 = .ok chunk ∧
        w'.calls = w.calls ++ .clientMembers room.id (.ok chunk) :: calls ∧
        MemberListStored room chunk calls := by
  unfold HiClient.loadMembers at hrun
  cases hl : room.hasMemberList
  · simp only [hl, Bool.false_eq_true, if_false, run_attempt_call_bind] at hrun
    split at hrun
    · simp at hrun
    · rename_i chunk hm
      rw [run_attempt_bind] at hrun
      obtain ⟨⟨_ | _, w₁⟩, htx, hrun⟩ := Option.bind_eq_some.1 hrun
      · simp at hrun
      · simp only [run_pure, Option.some.injEq, Prod.mk.injEq] at hrun
        obtain rfl := hrun.2
        obtain ⟨calls, hcalls, hstored⟩ := storeMembers_stored h (htxn _ _ _ htx)
        exact .inr ⟨rfl, chunk, calls, hm, by simp [hcalls, hm], hstored⟩
  · simp only [hl, if_true, run_pure, Option.some.injEq, Prod.mk.injEq] at hrun
    exact .inl ⟨rfl, hrun.2.symm⟩

/-! ## Who gets the key: theorems -/

/-- What `shouldShareKeysToInvitedUsers` is meant to decide, from the history visibility read
`r`: invited members may read the room when the read found the room's history visibility
event, the event parses (or was parsed already), and its visibility is `invited`, `shared` or
`world_readable`. -/
def HiClient.InvitedMayRead (r : Except GoError (Option DBEvent)) : Prop :=
  ∃ evt, r = .ok (some evt) ∧
    (∀ err, (h.parseRaw evt).1 = some err → err.is h.errContentAlreadyParsed = true) ∧
    ∃ hv, (h.parseRaw evt).2 = some (.historyVisibility hv) ∧
      (hv = h.historyVisibilityInvited ∨ hv = h.historyVisibilityShared ∨
        hv = h.historyVisibilityWorldReadable)

/-- `historyAllowsInvited` decides exactly that of the event it is given. -/
theorem historyAllowsInvited_eq_true (evt : DBEvent) :
    h.historyAllowsInvited evt = true ↔ h.InvitedMayRead (.ok (some evt)) := by
  simp only [HiClient.InvitedMayRead, Except.ok.injEq, Option.some.injEq, exists_eq_left']
  unfold HiClient.historyAllowsInvited
  generalize h.parseRaw evt = p
  obtain ⟨err, parsed⟩ := p
  rcases parsed with _ | _ | _ <;> cases err <;> simp [or_assoc]

/-- One read of the history visibility state: an error means no; no event at all, with no
error, is a nil dereference. -/
theorem shouldShareKeysToInvitedUsers_run (roomID : RoomID) (w : World σ) :
    let r := h.dbCurrentStateGet roomID h.stateHistoryVisibility "" w.state
    let w' : World σ :=
      ⟨r.2, w.calls ++ [.dbCurrentStateGet roomID h.stateHistoryVisibility "" r.1]⟩
    (h.shouldShareKeysToInvitedUsers roomID).run.run w = match r.1 with
      | .error _ => some (.ok false, w')
      | .ok none => none
      | .ok (some evt) => some (.ok (h.historyAllowsInvited evt), w') := by
  dsimp only
  unfold HiClient.shouldShareKeysToInvitedUsers
  simp only [run_attempt_call_bind]
  rcases hr : (h.dbCurrentStateGet roomID h.stateHistoryVisibility "" w.state).1 with
    _ | _ | evt <;> simp only [hr, run_pure, run_deref_none_bind, run_deref_some_bind]

/-- A decision of `shouldShareKeysToInvitedUsers` is one read of the history visibility state,
and says yes exactly when that read lets invited members read. -/
theorem shouldShareKeysToInvitedUsers_ok {roomID : RoomID} {w w' : World σ} {b : Bool}
    (hrun : (h.shouldShareKeysToInvitedUsers roomID).run.run w = some (.ok b, w')) :
    ∃ r, w'.calls = w.calls ++ [.dbCurrentStateGet roomID h.stateHistoryVisibility "" r] ∧
      (b = true ↔ h.InvitedMayRead r) := by
  rw [shouldShareKeysToInvitedUsers_run] at hrun
  rcases hr : (h.dbCurrentStateGet roomID h.stateHistoryVisibility "" w.state).1 with
    e | _ | evt <;> simp only [hr, Option.some.injEq, Prod.mk.injEq, Except.ok.injEq,
      reduceCtorEq] at hrun
  · obtain ⟨rfl, rfl⟩ := hrun
    exact ⟨_, rfl, by simp [HiClient.InvitedMayRead]⟩
  · obtain ⟨rfl, rfl⟩ := hrun
    exact ⟨_, rfl, historyAllowsInvited_eq_true h evt⟩

/-- A successful end of `shareGroupSession` reads the joined members, and the invited ones
too when `shareToInvited`, and shares the session with the users it read. -/
theorem shareWithMembers_ok {room : Room} {b : Bool} {w w' : World σ}
    (hrun : (h.shareWithMembers room b).run.run w = some (.ok (), w')) :
    ∃ users, w'.calls = w.calls ++
      [if b then .clientStoreGetRoomJoinedOrInvitedMembers room.id (.ok users)
        else .clientStoreGetRoomJoinedMembers room.id (.ok users),
        .cryptoShareGroupSession room.id users (.ok ())] := by
  unfold HiClient.shareWithMembers at hrun
  cases b <;>
  · simp only [Bool.false_eq_true, if_false, if_true, run_attempt_call_bind] at hrun
    split at hrun
    · simp at hrun
    · rename_i users hq
      simp only [run_attempt_call_bind] at hrun
      split at hrun
      · simp at hrun
      · rename_i hs
        simp only [run_pure, Option.some.injEq, Prod.mk.injEq] at hrun
        obtain ⟨-, rfl⟩ := hrun
        exact ⟨users, by simp [hq, hs]⟩

/-- The key of a room goes out only once its member list is stored, and to exactly the users
the member query returned; that query takes in the invited members exactly when the history
visibility read just before it lets invited members read. A room without its member list
first has it fetched and stored, every event in order, with one current-state entry each. -/
theorem shareGroupSession_recipients (htxn : h.TxnCommitsBody) {room : Room} {w w' : World σ}
    (hrun : (h.shareGroupSession room).run.run w = some (.ok (), w')) :
    ∃ loading r query users,
      (room.hasMemberList = true ∧ loading = [] ∨
        room.hasMemberList = false ∧ ∃ chunk calls,
          loading = .clientMembers room.id (.ok chunk) :: calls ∧
          MemberListStored room chunk calls) ∧
      w'.calls = w.calls ++ loading ++
        [.dbCurrentStateGet room.id h.stateHistoryVisibility "" r, query,
          .cryptoShareGroupSession room.id users (.ok ())] ∧
      (query = .clientStoreGetRoomJoinedOrInvitedMembers room.id (.ok users) ∧
          h.InvitedMayRead r ∨
        query = .clientStoreGetRoomJoinedMembers room.id (.ok users) ∧ ¬h.InvitedMayRead r) := by
  unfold HiClient.shareGroupSession at hrun
  obtain ⟨_, w₁, hload, hrun⟩ := run_bind_ok hrun
  obtain ⟨toInvited, w₂, hread, hrun⟩ := run_bind_ok hrun
  obtain ⟨users, hshare⟩ := shareWithMembers_ok h hrun
  obtain ⟨r, hcalls₂, hdecide⟩ := shouldShareKeysToInvitedUsers_ok h hread
  -- the calls of loading the member list, if it was not loaded
  have hloading : ∃ loading, w₁.calls = w.calls ++ loading ∧
      (room.hasMemberList = true ∧ loading = [] ∨ room.hasMemberList = false ∧ ∃ chunk calls,
        loading = .clientMembers room.id (.ok chunk) :: calls ∧
        MemberListStored room chunk calls) := by
    rcases loadMembers_ok h htxn hload with ⟨hl, rfl⟩ | ⟨hl, chunk, calls, -, hcalls, hstored⟩
    · exact ⟨[], by simp, .inl ⟨hl, rfl⟩⟩
    · exact ⟨_, hcalls, .inr ⟨hl, chunk, calls, rfl, hstored⟩⟩
  obtain ⟨loading, hcalls₁, hloading⟩ := hloading
  cases toInvited
  · exact ⟨loading, r, _, users, hloading, by simp [hshare, hcalls₂, hcalls₁],
      .inr ⟨rfl, fun hmay => absurd (hdecide.2 hmay) Bool.false_ne_true⟩⟩
  · exact ⟨loading, r, _, users, hloading, by simp [hshare, hcalls₂, hcalls₁],
      .inl ⟨rfl, hdecide.1 rfl⟩⟩

theorem shareGroupSession_recipients_sample :
    sampleClient.TxnCommitsBody ∧
    ∃ w', (sampleClient.shareGroupSession ⟨⟨"!room:example.org"⟩, some default, false⟩).run.run
        ⟨(), []⟩ = some (.ok (), w') ∧
      ∃ loading r query users,
        ((⟨⟨"!room:example.org"⟩, some default, false⟩ : Room).hasMemberList = true ∧
            loading = [] ∨
          (⟨⟨"!room:example.org"⟩, some default, false⟩ : Room).hasMemberList = false ∧
            ∃ chunk calls, loading = .clientMembers ⟨"!room:example.org"⟩ (.ok chunk) :: calls ∧
              MemberListStored ⟨⟨"!room:example.org"⟩, some default, false⟩ chunk calls) ∧
        w'.calls = [] ++ loading ++
          [.dbCurrentStateGet ⟨"!room:example.org"⟩ sampleClient.stateHistoryVisibility "" r,
            query, .cryptoShareGroupSession ⟨"!room:example.org"⟩ users (.ok ())] ∧
        (query = .clientStoreGetRoomJoinedOrInvitedMembers ⟨"!room:example.org"⟩ (.ok users) ∧
            sampleClient.InvitedMayRead r ∨
          query = .clientStoreGetRoomJoinedMembers ⟨"!room:example.org"⟩ (.ok users) ∧
            ¬sampleClient.InvitedMayRead r) :=
  ⟨txnCommitsBody_sampleClient, _, rfl,
    @shareGroupSession_recipients Unit sampleClient txnCommitsBody_sampleClient
      ⟨⟨"!room:example.org"⟩, some default, false⟩ ⟨(), []⟩ _ rfl⟩

/-! ## Where sharing a key can panic -/

end Mautrix.Hicli
