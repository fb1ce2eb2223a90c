import SpikeBackend.Model.AnalysisConversations

/-!
# One analysis conversation for a snapshot

Calls that want the conversation of a snapshot look for it, insert it, and look again when the
insert has raised. The row of whoever commits first is in the way of every other one, so the calls
that come after an answer end with the same conversation until it is deleted.

* `ConversationChange`, `step_change` — what a step does to rows, locks and calls;
* `ConversationInvariant`, `step_conversationInvariant` — rows that are not committed;
* `Kept`, `change_kept` — a committed conversation stays, and is what the calls are answered with;
* `analysis_conversation_shared`;
* `analysis_always_answered`.
-/

namespace SpikeBackend

open Relational Text Outcome Machine Locking

/-- The conversation is one that the call asked for. -/
def ConversationRequest.Wants (request : ConversationRequest) (c : AIConversation) : Prop :=
  c.businessId = request.scope ∧ c.purpose = request.purpose ∧
    c.dashboardSnapshotId = request.snapshotId

/-- The two rows differ in the stamps of their messages alone. -/
def SameConversation (c c' : AIConversation) : Prop :=
  c = { c' with lastMessageAt := c.lastMessageAt, updatedAt := c.updatedAt }

/-- The deletion takes the conversation along. -/
def ConversationAction.Removes (c : AIConversation) : ConversationAction → Prop
  | .deleteSnapshot snapshotId => c.dashboardSnapshotId = some snapshotId
  | .deleteRole businessId userId => (c.businessId, c.createdByUserId) = (businessId, userId)
  | _ => False

/-- The call has inserted a row and not committed. -/
def ConversationClient.isInserted : ConversationClient → Bool
  | .inserted .. => true
  | _ => false

/-- The call looks for the conversation of a snapshot. -/
def ConversationClient.looking? : ConversationClient → Option ConversationRequest
  | .sourceRead request | .clashed request => some request
  | _ => none

/-- `get_or_create` asks for the conversation of a dashboard analysis. -/
theorem ConversationRequest.purpose_of_isGetOrCreate {request : ConversationRequest}
    (h : request.isGetOrCreate = true) : request.purpose = .dashboardAnalysis := by
  obtain ⟨scope, userId, call⟩ := request
  cases call with
  | create => cases h
  | getOrCreate => rfl

/-- `get_or_create` names a snapshot. -/
theorem ConversationRequest.isSome_snapshotId {request : ConversationRequest}
    (h : request.isGetOrCreate = true) : request.snapshotId.isSome = true := by
  obtain ⟨scope, userId, call⟩ := request
  cases call with
  | create => cases h
  | getOrCreate => rfl

namespace SameConversation

variable {c c' c'' : AIConversation}

theorem refl (c : AIConversation) : SameConversation c c := rfl

theorem trans (h : SameConversation c c') (h' : SameConversation c' c'') :
    SameConversation c c'' := by
  rw [SameConversation] at h' ⊢
  rw [h, h']

theorem symm (h : SameConversation c c') : SameConversation c' c := by
  rw [SameConversation] at h ⊢
  rw [h]

theorem id_eq (h : SameConversation c c') : c.id = c'.id := by rw [h]

theorem removes_iff (h : SameConversation c c') (a : ConversationAction) :
    a.Removes c ↔ a.Removes c' := by
  rw [h]
  cases a <;> exact Iff.rfl

theorem wants_iff (h : SameConversation c c') (request : ConversationRequest) :
    request.Wants c ↔ request.Wants c' := by
  rw [h]
  exact Iff.rfl

end SameConversation

/-- Two conversations for the analysis of one snapshot clash. -/
theorem clash_of_wants {request : ConversationRequest} {c c' : AIConversation}
    (hPurpose : request.purpose = .dashboardAnalysis) (h : request.Wants c)
    (h' : request.Wants c') : Schema.clash c c' = true := by
  obtain ⟨hBusiness, hOwn, hSnapshot⟩ := h
  obtain ⟨hBusiness', hOwn', hSnapshot'⟩ := h'
  show (decide (c.purpose = .dashboardAnalysis) && decide (c'.purpose = .dashboardAnalysis) &&
    decide (c.businessId = c'.businessId ∧ c.dashboardSnapshotId = c'.dashboardSnapshotId)) = true
  rw [hOwn, hOwn', hPurpose, hBusiness, hBusiness', hSnapshot, hSnapshot']
  simp

namespace ConversationState

variable {analysable : Json → Bool} {s s' : ConversationState} {i j : Nat}
  {request : ConversationRequest}

/-- The row is in the table, and committed. -/
def Stored (s : ConversationState) (c : AIConversation) : Prop :=
  c ∈ s.conversations ∧ s.inserts.holder c.id = none

-- ---------------------------------------------------------------------------
-- What a step does
-- ---------------------------------------------------------------------------

/-- What a step does to the rows, the locks and the calls; `removes` says which rows it may
delete. -/
inductive ConversationChange (removes : AIConversation → Prop) (s : ConversationState) :
    ConversationState → Prop
  | same (s' : ConversationState) (hRows : s'.conversations = s.conversations)
    (hInserts : s'.inserts = s.inserts)
    (hClients : ∀ (j : Nat) c, s'.clients[j]? = some c →
      s.clients[j]? = some c ∨ ∃ request, c = .arrived request)
    (hKept : ∀ (j : Nat) c, s.clients[j]? = some c → s'.clients[j]? = some c) :
    ConversationChange removes s s'
  /-- a call goes on -/
  | moved (i : Nat) (old client : ConversationClient) (hOld : s.clients[i]? = some old)
    (hBefore : old.isInserted = false) (hAfter : client.isInserted = false)
    (hLooks : ∀ request, client.looking? = some request → request.isGetOrCreate = true)
    (hAnswer : ∀ request c, client = .answered request c → request.Wants c ∧ s.Stored c) :
    ConversationChange removes s (s.proceed i client)
  | inserted (i : Nat) (old : ConversationClient) (request : ConversationRequest)
    (row : AIConversation) (conversations : Table AIConversation)
    (hOld : s.clients[i]? = some old) (hBefore : old.isInserted = false)
    (hInsert : s.conversations.insert? row = some conversations) (hWants : request.Wants row) :
    ConversationChange removes s
      { s.proceed i (.inserted request row) with
        conversations := conversations
        inserts := s.inserts.acquire [row.id] i }
  | committed (i : Nat) (request : ConversationRequest) (row : AIConversation)
    (hOld : s.clients[i]? = some (.inserted request row)) :
    ConversationChange removes s
      { s.proceed i (.answered request row) with inserts := s.inserts.release i }
  | stopped (i : Nat) (old : ConversationClient) (hOld : s.clients[i]? = some old) :
    ConversationChange removes s
      { s.proceed i .stopped with
        conversations :=
          s.conversations.deleteWhere (fun c => decide (s.inserts.holder c.id = some i))
        inserts := s.inserts.release i }
  /-- a committed row gets new stamps -/
  | written (c c' : AIConversation) (conversations : Table AIConversation)
    (hc : c ∈ s.conversations) (hFree : s.inserts.holder c.id = none)
    (hSame : SameConversation c' c) (hUpdate : s.conversations.update? c' = some conversations) :
    ConversationChange removes s { s with conversations := conversations }
  | deleted (s' : ConversationState) (p : AIConversation → Bool)
    (hFree : ∀ c ∈ s.conversations, p c = true → s.inserts.holder c.id = none ∧ removes c)
    (hRows : s'.conversations = s.conversations.deleteWhere p)
    (hInserts : s'.inserts = s.inserts) (hClients : s'.clients = s.clients) :
    ConversationChange removes s s'

theorem ConversationChange.rfl' (removes : AIConversation → Prop) (s : ConversationState) :
    ConversationChange removes s s :=
  .same s rfl rfl (fun _ _ h => .inl h) fun _ _ h => h

/-- Rows that are not committed, the locks on them and the calls that inserted them. -/
structure ConversationInvariant (s : ConversationState) : Prop where
  inserted : ∀ (i : Nat) request row, s.clients[i]? = some (.inserted request row) →
    row ∈ s.conversations ∧ s.inserts.holder row.id = some i ∧ request.Wants row
  holder : ∀ conversationId (i : Nat), s.inserts.holder conversationId = some i →
    ∃ request row, s.clients[i]? = some (.inserted request row) ∧ row.id = conversationId
  looking : ∀ (i : Nat) c request, s.clients[i]? = some c → c.looking? = some request →
    request.isGetOrCreate = true

/-- What the lookup finds is a conversation that the client can see. -/
theorem analysis?_eq_some {snapshotId : Option Uuid} {scope : Uuid} {c : AIConversation}
    (h : s.analysis? i scope snapshotId = some c) :
    c ∈ s.conversations ∧ s.inserts.available c.id i = true ∧ c.businessId = scope ∧
      c.dashboardSnapshotId = snapshotId ∧ c.purpose = .dashboardAnalysis := by
  have hIs := Table.prop_of_find? h
  simp only [Bool.and_eq_true, beq_iff_eq, decide_eq_true_eq] at hIs
  exact ⟨Table.mem_of_find? h, hIs.1.1.1, hIs.1.1.2, hIs.1.2, hIs.2⟩

/-- What a call that has inserted nothing sees is committed. -/
theorem holder_eq_none_of_available (hInv : s.ConversationInvariant) {client : ConversationClient}
    (hClient : s.clients[i]? = some client) (hNot : client.isInserted = false)
    {conversationId : Uuid} (h : s.inserts.available conversationId i = true) :
    s.inserts.holder conversationId = none := by
  cases hHolder : s.inserts.holder conversationId with
  | none => rfl
  | some k =>
    obtain rfl := Locks.available_iff.mp h k hHolder
    obtain ⟨request, row, hInserted, -⟩ := hInv.holder conversationId k hHolder
    rw [hClient, Option.some.injEq] at hInserted
    rw [hInserted] at hNot
    cases hNot

/-- The answer of a look at the table. -/
theorem analysis?_answer (hInv : s.ConversationInvariant) {client : ConversationClient}
    (hClient : s.clients[i]? = some client) (hLooks : client.looking? = some request)
    {c : AIConversation} (h : s.analysis? i request.scope request.snapshotId = some c) :
    request.Wants c ∧ s.Stored c := by
  obtain ⟨hMem, hSeen, hScope, hSnapshot, hOwn⟩ := analysis?_eq_some h
  have hNot : client.isInserted = false := by
    cases client with
    | inserted => cases hLooks
    | _ => rfl
  have hPurpose := ConversationRequest.purpose_of_isGetOrCreate
    (hInv.looking i client request hClient hLooks)
  refine ⟨⟨hScope, ?_, hSnapshot⟩, hMem, holder_eq_none_of_available hInv hClient hNot hSeen⟩
  rw [hOwn, hPurpose]

/-- A call that goes on without an answer. -/
theorem change_moved {removes : AIConversation → Prop} {old client : ConversationClient}
    (hOld : s.clients[i]? = some old) (hBefore : old.isInserted = false)
    (hAfter : client.isInserted = false) (hOpen : ∀ request c, client ≠ .answered request c)
    (hLooks : ∀ request, client.looking? = some request → request.isGetOrCreate = true) :
    ConversationChange removes s (s.proceed i client) :=
  .moved i old client hOld hBefore hAfter hLooks fun request c h => absurd h (hOpen request c)

/-- The insert of a new conversation. -/
theorem insert_change {removes : AIConversation → Prop} {title : Option Str} {conversationId : Uuid}
    {now : Datetime} (hOld : s.clients[i]? = some (.absent request)) :
    ConversationChange removes s (s.insert i request (request.row title conversationId now)) := by
  unfold insert
  split
  · exact .rfl' removes s
  · split
    · next conversations hInsert _ =>
      exact .inserted i _ request _ conversations hOld rfl hInsert ⟨rfl, rfl, rfl⟩
    · unfold raised
      split_ifs with hKind
      · exact change_moved hOld rfl rfl (fun _ _ => nofun)
          fun request' h => Option.some.inj h ▸ hKind
      · exact change_moved hOld rfl rfl (fun _ _ => nofun) fun _ => nofun

/-- The next statement of a call. -/
theorem advance_change {removes : AIConversation → Prop} (hInv : s.ConversationInvariant) (i : Nat)
    (conversationId : Uuid) (now : Datetime) :
    ConversationChange removes s (s.advance analysable i conversationId now) := by
  unfold advance
  split
  · next request hGet =>
    split
    · exact change_moved hGet rfl rfl (fun _ _ => nofun) fun _ => nofun
    · split_ifs with hKind
      · exact change_moved hGet rfl rfl (fun _ _ => nofun)
          fun request' h => Option.some.inj h ▸ hKind
      · exact change_moved hGet rfl rfl (fun _ _ => nofun) fun _ => nofun
  · -- the lookup finds the conversation that is shared, or the call goes on
    next request hGet =>
    split
    · next c hFound =>
      refine .moved i _ _ hGet rfl rfl (fun _ => nofun) fun request' c' h => ?_
      obtain ⟨rfl, rfl⟩ := ConversationClient.answered.inj h
      exact analysis?_answer hInv hGet rfl hFound
    · exact change_moved hGet rfl rfl (fun _ _ => nofun) fun _ => nofun
  · next request hGet =>
    split
    · exact change_moved hGet rfl rfl (fun _ _ => nofun) fun _ => nofun
    · exact insert_change hGet
  · next request row hGet => exact .committed i request row hGet
  · next request hGet =>
    split
    · next c hFound =>
      refine .moved i _ _ hGet rfl rfl (fun _ => nofun) fun request' c' h => ?_
      obtain ⟨rfl, rfl⟩ := ConversationClient.answered.inj h
      exact analysis?_answer hInv hGet rfl hFound
    · exact change_moved hGet rfl rfl (fun _ _ => nofun) fun _ => nofun
  · exact .rfl' removes s

/-- A deletion that does not wait finds its rows committed. -/
theorem holder_eq_none_of_not_any {p : AIConversation → Bool} {c : AIConversation}
    (hFree : ¬ (s.conversations.rows.any fun c => p c && (s.inserts.holder c.id).isSome) = true)
    (hc : c ∈ s.conversations) (hp : p c = true) : s.inserts.holder c.id = none := by
  rw [Bool.not_eq_true, List.any_eq_false] at hFree
  have hOwn := hFree c hc
  rw [hp, Bool.true_and, Bool.not_eq_true, Option.isSome_eq_false_iff, Option.isNone_iff_eq_none]
    at hOwn
  exact hOwn

/-- **Step lemma.** What a step does. -/
theorem step_change (hInv : s.ConversationInvariant) (timed : TimedConversationAction) :
    ConversationChange timed.action.Removes s (s.step analysable timed) := by
  unfold step
  split
  · next request _ =>
    refine .same _ rfl rfl (fun j c hc => ?_) fun j c hc => ?_
    · rw [List.getElem?_append] at hc
      split at hc
      · exact .inl hc
      · exact .inr ⟨request, List.mem_singleton.mp (List.mem_of_getElem? hc)⟩
    · exact List.getElem?_append_left (List.getElem?_eq_some_iff.mp hc).1 ▸ hc
  · exact advance_change hInv _ _ _
  · next i _ =>
    unfold stop
    split
    · next hOpen =>
      obtain ⟨old, hOld, -⟩ := (Option.any_eq_true _ _).mp hOpen
      exact .stopped i old hOld
    · exact .rfl' _ s
  · next conversationId _ =>
    unfold write
    split
    · next c hc hFree =>
      obtain ⟨hMem, hKey⟩ := Table.get?_eq_some.mp hc
      dsimp only
      cases hUpdate : s.conversations.update?
          { c with lastMessageAt := some timed.now, updatedAt := timed.now } with
      | none => exact .rfl' _ s
      | some conversations =>
        have hSame : SameConversation
            { c with lastMessageAt := some timed.now, updatedAt := timed.now } c := rfl
        -- a message changes the times of its conversation alone
        exact .written c _ conversations hMem ((congrArg s.inserts.holder hKey).trans hFree) hSame
          hUpdate
    · exact .rfl' _ s
  · exact .same _ rfl rfl (fun _ _ h => .inl h) fun _ _ h => h
  · next snapshotId hAction =>
    unfold deleteSnapshot
    split
    · exact .rfl' _ s
    · next hFree =>
      refine .deleted _ _ (fun c hc hp => ?_) rfl rfl rfl
      -- the conversations of the snapshot go with it, and no insert of them is pending
      have hOwn : c.dashboardSnapshotId = some snapshotId := of_decide_eq_true hp
      rw [hAction]
      exact ⟨holder_eq_none_of_not_any hFree hc hp, hOwn⟩
  · exact .same _ rfl rfl (fun _ _ h => .inl h) fun _ _ h => h
  · next businessId userId hAction =>
    unfold deleteRole
    split
    · exact .rfl' _ s
    · next hFree =>
      refine .deleted _ _ (fun c hc hp => ?_) rfl rfl rfl
      have hOwn : (c.businessId, c.createdByUserId) = (businessId, userId) := of_decide_eq_true hp
      rw [hAction]
      exact ⟨holder_eq_none_of_not_any hFree hc hp, hOwn⟩

-- ---------------------------------------------------------------------------
-- Rows that are not committed
-- ---------------------------------------------------------------------------

/-- A call that has inserted a row, after another one moved. -/
theorem inserted_of_set {client : ConversationClient} (hAfter : client.isInserted = false)
    {row : AIConversation} (h : (s.clients.set i client)[j]? = some (.inserted request row)) :
    j ≠ i ∧ s.clients[j]? = some (.inserted request row) := by
  rcases getElem?_set_cases h with ⟨-, rfl⟩ | hOld
  · cases hAfter
  · exact hOld

/-- It is still there after another one moved. -/
theorem inserted_set {old client : ConversationClient} (hOld : s.clients[i]? = some old)
    (hBefore : old.isInserted = false) {row : AIConversation}
    (h : s.clients[j]? = some (.inserted request row)) :
    (s.clients.set i client)[j]? = some (.inserted request row) := by
  have hne : i ≠ j := by
    rintro rfl
    rw [h, Option.some.injEq] at hOld
    rw [← hOld] at hBefore
    cases hBefore
  rw [List.getElem?_set_ne hne]
  exact h

/-- A call that looks for a conversation is one of `get_or_create`. -/
theorem looking_set (hInv : s.ConversationInvariant) {client c : ConversationClient}
    (hLooks : ∀ request, client.looking? = some request → request.isGetOrCreate = true)
    (hc : (s.clients.set i client)[j]? = some c) (h : c.looking? = some request) :
    request.isGetOrCreate = true := by
  rcases getElem?_set_cases hc with ⟨-, rfl⟩ | ⟨-, hOld⟩
  · exact hLooks request h
  · exact hInv.looking j c request hOld h

/-- **Step lemma.** -/
theorem change_conversationInvariant {removes : AIConversation → Prop}
    (h : ConversationChange removes s s') (hInv : s.ConversationInvariant) :
    s'.ConversationInvariant := by
  cases h with
  | same s' hRows hInserts hClients hKept =>
    refine ⟨fun j request row hj => ?_, fun conversationId j hj => ?_, fun j c request hc hLooks => ?_⟩
    · rcases hClients j _ hj with hOld | ⟨_, hNew⟩
      · rw [hRows, hInserts]
        exact hInv.inserted j request row hOld
      · cases hNew
    · rw [hInserts] at hj
      obtain ⟨request, row, hOld, hId⟩ := hInv.holder conversationId j hj
      exact ⟨request, row, hKept j _ hOld, hId⟩
    · rcases hClients j _ hc with hOld | ⟨_, rfl⟩
      · exact hInv.looking j c request hOld hLooks
      · cases hLooks
  | moved i old client hOld hBefore hAfter hLooks _ =>
    refine ⟨fun j request row hj => ?_, fun conversationId j hj => ?_,
      fun j c request hc h => looking_set hInv hLooks hc h⟩
    · exact hInv.inserted j request row (inserted_of_set hAfter hj).2
    · obtain ⟨request, row, hOwn, hId⟩ := hInv.holder conversationId j hj
      exact ⟨request, row, inserted_set hOld hBefore hOwn, hId⟩
  | inserted i old request row conversations hOld hBefore hInsert hWants =>
    have hMem := fun x => Table.mem_insert? (x := x) hInsert
    refine ⟨fun j request' row' hj => ?_, fun conversationId j hj => ?_,
      fun j c request' hc h => looking_set hInv (fun _ => by nofun) hc h⟩
    · rcases getElem?_set_cases hj with ⟨rfl, hSame⟩ | ⟨hne, hj⟩
      · obtain ⟨rfl, rfl⟩ := ConversationClient.inserted.inj hSame
        exact ⟨(hMem _).mpr (.inl rfl), Locks.holder_acquire_of_mem (List.mem_singleton_self _),
          hWants⟩
      · obtain ⟨hRow, hHolder, hOwn⟩ := hInv.inserted j request' row' hj
        have hApart : row'.id ≠ row.id := (Table.apart_of_insert? hInsert hRow).1
        refine ⟨(hMem _).mpr (.inr hRow), ?_, hOwn⟩
        exact (Locks.holder_acquire_of_not_mem (List.mem_singleton.not.mpr hApart)).trans hHolder
    · -- the row that is inserted is locked by its own client
      by_cases hId : conversationId = row.id
      · have hTaken : (s.inserts.acquire [row.id] i).holder conversationId = some i :=
          Locks.holder_acquire_of_mem (List.mem_singleton.mpr hId)
        obtain rfl := Option.some.inj (hTaken.symm.trans hj)
        refine ⟨request, row, ?_, hId.symm⟩
        show (s.clients.set i _)[i]? = _
        rw [List.getElem?_set_self', hOld]
        rfl
      · have hj' := (Locks.holder_acquire_of_not_mem (l := s.inserts) (i := i)
          (List.mem_singleton.not.mpr hId)).symm.trans hj
        obtain ⟨request', row', hOwn, hId'⟩ := hInv.holder conversationId j hj'
        exact ⟨request', row', inserted_set hOld hBefore hOwn, hId'⟩
  | committed i request row hOld =>
    refine ⟨fun j request' row' hj => ?_, fun conversationId j hj => ?_,
      fun j c request' hc h => looking_set hInv (fun _ => by nofun) hc h⟩
    · obtain ⟨hne, hj⟩ := inserted_of_set rfl hj
      obtain ⟨hRow, hHolder, hOwn⟩ := hInv.inserted j request' row' hj
      exact ⟨hRow, Locks.holder_release.mpr ⟨hHolder, hne⟩, hOwn⟩
    · obtain ⟨hHolder, hne⟩ := Locks.holder_release.mp hj
      obtain ⟨request', row', hOwn, hId⟩ := hInv.holder conversationId j hHolder
      exact ⟨request', row', (List.getElem?_set_ne (Ne.symm hne)).trans hOwn, hId⟩
  | stopped i old hOld =>
    refine ⟨fun j request' row' hj => ?_, fun conversationId j hj => ?_,
      fun j c request' hc h => looking_set hInv (fun _ => by nofun) hc h⟩
    · obtain ⟨hne, hj⟩ := inserted_of_set rfl hj
      obtain ⟨hRow, hHolder, hOwn⟩ := hInv.inserted j request' row' hj
      refine ⟨Table.mem_deleteWhere.mpr ⟨hRow, decide_eq_false fun hOther => ?_⟩,
        Locks.holder_release.mpr ⟨hHolder, hne⟩, hOwn⟩
      -- the rows of the client that stopped are gone, those of the others stay
      exact hne (Option.some.inj (hHolder.symm.trans hOther))
    · obtain ⟨hHolder, hne⟩ := Locks.holder_release.mp hj
      obtain ⟨request', row', hOwn, hId⟩ := hInv.holder conversationId j hHolder
      exact ⟨request', row', (List.getElem?_set_ne (Ne.symm hne)).trans hOwn, hId⟩
  | written c c' conversations hc hFree hSame hUpdate =>
    refine ⟨fun j request row hj => ?_, hInv.holder, hInv.looking⟩
    obtain ⟨hRow, hHolder, hOwn⟩ := hInv.inserted j request row hj
    refine ⟨(Table.mem_update?_of_ne hUpdate fun hId => ?_).mpr hRow, hHolder, hOwn⟩
    have hId' : row.id = c.id := Eq.trans hId hSame.id_eq
    rw [hId', hFree] at hHolder
    cases hHolder
  | deleted s' p hFree hRows hInserts hClients =>
    refine ⟨fun j request row hj => ?_, ?_, ?_⟩
    · rw [hClients] at hj
      obtain ⟨hRow, hHolder, hOwn⟩ := hInv.inserted j request row hj
      rw [hRows, hInserts]
      refine ⟨Table.mem_deleteWhere.mpr ⟨hRow, ?_⟩, hHolder, hOwn⟩
      by_contra hGone
      rw [(hFree row hRow (Bool.eq_true_of_not_eq_false hGone)).1] at hHolder
      cases hHolder
    · rw [hClients, hInserts]
      exact hInv.holder
    · rw [hClients]
      exact hInv.looking

theorem step_conversationInvariant (analysable : Json → Bool) (s : ConversationState)
    (timed : TimedConversationAction) (hInv : s.ConversationInvariant) :
    (s.step analysable timed).ConversationInvariant :=
  change_conversationInvariant (step_change hInv timed) hInv

/-- The invariant holds before the first call. -/
theorem init_conversationInvariant (snapshots : Table DashboardSnapshot)
    (roles : List (Uuid × Uuid)) (conversations : Table AIConversation) :
    ConversationInvariant { snapshots, roles, conversations } where
  inserted i request row h := by simp at h
  holder conversationId i h := by simp at h
  looking i c request h := by simp at h

-- ---------------------------------------------------------------------------
-- A committed conversation
-- ---------------------------------------------------------------------------

/-- The conversation is stored, and what calls for its analysis were answered with since. -/
structure Kept (c₀ : AIConversation) (s₀ s : ConversationState) : Prop where
  stored : ∃ c, s.Stored c ∧ SameConversation c c₀
  answers : ∀ (j : Nat) request c, s.clients[j]? = some (.answered request c) →
    request.purpose = .dashboardAnalysis → request.Wants c₀ →
      s₀.clients[j]? = some (.answered request c) ∨ SameConversation c c₀

variable {c₀ : AIConversation} {s₀ : ConversationState} {removes : AIConversation → Prop}

theorem eq_of_wants {c c' : AIConversation} (hPurpose : request.purpose = .dashboardAnalysis)
    (hc : c ∈ s.conversations) (hc' : c' ∈ s.conversations) (h : request.Wants c)
    (h' : request.Wants c') : c = c' :=
  Table.eq_of_clash hc hc' (clash_of_wants hPurpose h h')

/-- A committed conversation that is not removed stays, and stays the same. -/
theorem change_stored (hChange : ConversationChange removes s s') {c : AIConversation}
    (hStored : s.Stored c) (hNot : ¬ removes c) : ∃ c', s'.Stored c' ∧ SameConversation c' c := by
  -- nobody holds the row, so no end of a transaction changes that
  have hRelease : ∀ i, (s.inserts.release i).holder c.id = none := by
    intro i
    refine Option.eq_none_iff_forall_ne_some.mpr fun j hj => ?_
    have hHeld := (Locks.holder_release.mp hj).1
    rw [hStored.2] at hHeld
    cases hHeld
  cases hChange with
  | same s' hRows hInserts _ _ =>
    refine ⟨c, ⟨?_, ?_⟩, .refl c⟩
    · rw [hRows]
      exact hStored.1
    · rw [hInserts]
      exact hStored.2
  | moved i old client => exact ⟨c, hStored, .refl c⟩
  | inserted i old request row conversations _ _ hInsert _ =>
    have hApart : c.id ≠ row.id := (Table.apart_of_insert? hInsert hStored.1).1
    refine ⟨c, ⟨(Table.mem_insert? hInsert).mpr (.inr hStored.1), ?_⟩, .refl c⟩
    exact (Locks.holder_acquire_of_not_mem (List.mem_singleton.not.mpr hApart)).trans hStored.2
  | committed i request row hOld => exact ⟨c, ⟨hStored.1, hRelease i⟩, .refl c⟩
  | stopped i old hOld =>
    refine ⟨c, ⟨Table.mem_deleteWhere.mpr ⟨hStored.1, decide_eq_false ?_⟩, hRelease i⟩, .refl c⟩
    rw [hStored.2]
    exact (Option.some_ne_none i).symm
  | written w w' conversations hw hFree hSame hUpdate =>
    by_cases hId : c.id = w.id
    · obtain rfl : c = w := Table.eq_of_key_eq hStored.1 hw hId
      refine ⟨w', ⟨Table.mem_update?_self hUpdate hw hSame.id_eq.symm, ?_⟩, hSame⟩
      rw [hSame.id_eq]
      exact hFree
    · refine ⟨c, ⟨(Table.mem_update?_of_ne hUpdate fun h => hId ?_).mpr hStored.1, hStored.2⟩,
        .refl c⟩
      exact Eq.trans h hSame.id_eq
  | deleted s' p hFree hRows hInserts _ =>
    refine ⟨c, ⟨?_, ?_⟩, .refl c⟩
    · rw [hRows]
      refine Table.mem_deleteWhere.mpr ⟨hStored.1, Bool.eq_false_of_not_eq_true fun hp => ?_⟩
      exact hNot (hFree c hStored.1 hp).2
    · rw [hInserts]
      exact hStored.2

/-- What a call is answered with when it is answered. -/
theorem change_answer (hChange : ConversationChange removes s s') (hInv : s.ConversationInvariant)
    {c : AIConversation} (h : s'.clients[j]? = some (.answered request c)) :
    s.clients[j]? = some (.answered request c) ∨
      request.Wants c ∧ c ∈ s.conversations ∧
        (s.inserts.holder c.id = none ∨ s.clients[j]? = some (.inserted request c)) ∧
        s'.Stored c := by
  cases hChange with
  | same s' _ _ hClients _ =>
    rcases hClients j _ h with hOld | ⟨_, hNew⟩
    · exact .inl hOld
    · cases hNew
  | moved i old client hOld _ _ _ hAnswer =>
    rcases getElem?_set_cases h with ⟨rfl, hSame⟩ | ⟨-, hOld⟩
    · obtain ⟨hWants, hStored⟩ := hAnswer request c hSame.symm
      exact .inr ⟨hWants, hStored.1, .inl hStored.2, hStored⟩
    · exact .inl hOld
  | inserted i old request' row =>
    rcases getElem?_set_cases h with ⟨-, hSame⟩ | ⟨-, hOld⟩
    · cases hSame
    · exact .inl hOld
  | committed i request' row hOld =>
    rcases getElem?_set_cases h with ⟨rfl, hSame⟩ | ⟨-, hOld⟩
    · obtain ⟨rfl, rfl⟩ := ConversationClient.answered.inj hSame
      -- the commit answers with the row that the client itself has inserted
      obtain ⟨hRow, hHolder, hWants⟩ := hInv.inserted j request c hOld
      refine .inr ⟨hWants, hRow, .inr hOld, hRow, ?_⟩
      refine Option.eq_none_iff_forall_ne_some.mpr fun k hk => ?_
      obtain ⟨hHeld, hne⟩ := Locks.holder_release.mp hk
      exact hne (Option.some.inj (hHeld.symm.trans hHolder))
    · exact .inl hOld
  | stopped i old hOld =>
    rcases getElem?_set_cases h with ⟨-, hSame⟩ | ⟨-, hOld⟩
    · cases hSame
    · exact .inl hOld
  | written => exact .inl h
  | deleted s' p _ _ _ hClients => exact .inl (hClients ▸ h)

/-- **Step lemma.** A committed conversation that a step does not remove is what it answers with. -/
theorem change_kept (hChange : ConversationChange removes s s') (hInv : s.ConversationInvariant)
    (hKept : Kept c₀ s₀ s) (hNot : ∀ c, SameConversation c c₀ → ¬ removes c) : Kept c₀ s₀ s' where
  stored := by
    obtain ⟨c, hStored, hSame⟩ := hKept.stored
    obtain ⟨c', hStored', hSame'⟩ := change_stored hChange hStored (hNot c hSame)
    exact ⟨c', hStored', hSame'.trans hSame⟩
  answers j request c hAnswered hPurpose hWants := by
    rcases change_answer hChange hInv hAnswered with hOld | ⟨hOwn, hMem, hFree, -⟩
    · exact hKept.answers j request c hOld hPurpose hWants
    · obtain ⟨c', hStored, hSame⟩ := hKept.stored
      have hEq : c = c' := eq_of_wants hPurpose hMem hStored.1 hOwn ((hSame.wants_iff _).mpr hWants)
      exact .inr (hEq ▸ hSame)

/-- **The analysis of a snapshot has one conversation.** In every run of calls, deletions and
messages: a call is answered with a committed conversation of what it asked for; and as long as
neither its snapshot nor its user's role is deleted, the conversation of an analysis stays, and every
other call for the same snapshot that is answered later is answered with it. -/
theorem analysis_conversation_shared (analysable : Json → Bool)
    (snapshots : Table DashboardSnapshot) (roles : List (Uuid × Uuid))
    (conversations : Table AIConversation) (actions : List TimedConversationAction)
    (timed : TimedConversationAction) :
    let s : ConversationState := run (step analysable) { snapshots, roles, conversations } actions
    let s' : ConversationState := s.step analysable timed
    ∀ (i : Nat) request c, s'.clients[i]? = some (.answered request c) →
      s.clients[i]? ≠ some (.answered request c) →
      request.Wants c ∧ s'.Stored c ∧
        ∀ more : List TimedConversationAction, (∀ later ∈ more, ¬ later.action.Removes c) →
          Kept c s' (run (step analysable) s' more) := by
  intro s s' i request c hAnswered hBefore
  have hInv : s.ConversationInvariant :=
    run_invariant (step_conversationInvariant analysable)
      (init_conversationInvariant snapshots roles conversations) actions
  have hChange : ConversationChange timed.action.Removes s (s.step analysable timed) :=
    step_change hInv timed
  rcases change_answer hChange hInv hAnswered with hOld | ⟨hWants, -, -, hStored⟩
  · exact absurd hOld hBefore
  · refine ⟨hWants, hStored, fun more hMore => ?_⟩
    have hStart : s'.ConversationInvariant ∧ Kept c s' s' :=
      ⟨change_conversationInvariant hChange hInv, ⟨c, hStored, .refl c⟩,
        fun j request' c' h _ _ => .inl h⟩
    -- each later step keeps the invariant, and the conversation with it
    have hStep : ∀ (t : ConversationState) (later : TimedConversationAction),
        t.ConversationInvariant ∧ Kept c s' t → ¬ later.action.Removes c →
          (t.step analysable later).ConversationInvariant ∧
            Kept c s' (t.step analysable later) := by
      intro t later ht hNot
      exact ⟨step_conversationInvariant analysable t later ht.1,
        change_kept (step_change ht.1 later) ht.1 ht.2
          fun c' hSame h => hNot ((hSame.removes_iff _).mp h)⟩
    have hMeets : Meets (step analysable) (fun _ later => ¬ later.action.Removes c) s' more :=
      meets_of_forall _ _ fun later hLater _ => hMore later hLater
    exact (run_invariant_of_meets hStep hStart hMeets).2

-- ---------------------------------------------------------------------------
-- Calls that are not disturbed
-- ---------------------------------------------------------------------------

/-- The step deletes nothing, the identifier that it draws is not taken, and who asks for an
analysis has a role in the business. -/
def Regular (s : ConversationState) (timed : TimedConversationAction) : Prop :=
  match timed.action with
  | .arrive request =>
    request.isGetOrCreate = true → (request.scope, request.userId) ∈ s.roles
  | .advance _ conversationId => ∀ c ∈ s.conversations, c.id ≠ conversationId
  | .deleteSnapshot _ | .deleteRole _ _ => False
  | _ => True

instance (s : ConversationState) (timed : TimedConversationAction) :
    Decidable (s.Regular timed) :=
  match timed with
  | ⟨_, .arrive request⟩ =>
    inferInstanceAs
      (Decidable (request.isGetOrCreate = true → (request.scope, request.userId) ∈ s.roles))
  | ⟨_, .advance _ conversationId⟩ =>
    inferInstanceAs (Decidable (∀ c ∈ s.conversations.rows, c.id ≠ conversationId))
  | ⟨_, .deleteSnapshot _⟩ | ⟨_, .deleteRole ..⟩ => inferInstanceAs (Decidable False)
  | ⟨_, .stop _⟩ | ⟨_, .write _⟩ | ⟨_, .addSnapshot _⟩ | ⟨_, .addRole ..⟩ =>
    inferInstanceAs (Decidable True)

/-- The role of the user who asks for an analysis. -/
def HasRole (s : ConversationState) (request : ConversationRequest) : Prop :=
  request.isGetOrCreate = true → (request.scope, request.userId) ∈ s.roles

/-- The snapshot of the call is there. -/
def HasSource (s : ConversationState) (request : ConversationRequest) : Prop :=
  ∀ snapshotId, request.snapshotId = some snapshotId →
    (s.snapshot? request.scope snapshotId).isSome = true

/-- What a call can rely on. -/
def ClientFacts (s : ConversationState) : ConversationClient → Prop
  | .arrived request => s.HasRole request
  | .sourceRead request | .absent request => s.HasRole request ∧ s.HasSource request
  | .clashed request => ∃ c, s.Stored c ∧ request.Wants c
  | .refused request error => error = .integrity → request.isGetOrCreate = false
  | _ => True

/-- A step that takes nothing away. -/
structure Grows (s s' : ConversationState) : Prop where
  roles : ∀ role ∈ s.roles, role ∈ s'.roles
  sources : ∀ scope snapshotId, (s.snapshot? scope snapshotId).isSome = true →
    (s'.snapshot? scope snapshotId).isSome = true
  stored : ∀ c, s.Stored c → ∃ c', s'.Stored c' ∧ SameConversation c' c

/-- What is known of a call stays true while nothing is deleted. -/
theorem ClientFacts.grows {client : ConversationClient} (h : s.ClientFacts client)
    (hGrows : Grows s s') : s'.ClientFacts client := by
  cases client with
  | arrived request => exact fun hKind => hGrows.roles _ (h hKind)
  | sourceRead request | absent request =>
    exact ⟨fun hKind => hGrows.roles _ (h.1 hKind),
      fun snapshotId hSnapshot => hGrows.sources _ _ (h.2 snapshotId hSnapshot)⟩
  | clashed request =>
    obtain ⟨c, hStored, hWants⟩ := h
    obtain ⟨c', hStored', hSame⟩ := hGrows.stored c hStored
    exact ⟨c', hStored', (hSame.wants_iff _).mpr hWants⟩
  | refused request error => exact h
  | _ => trivial

/-- A snapshot is found exactly when it is there. -/
theorem snapshot?_isSome_iff {scope snapshotId : Uuid} :
    (s.snapshot? scope snapshotId).isSome = true ↔
      ∃ x ∈ s.snapshots, x.businessId = scope ∧ x.id = snapshotId := by
  rw [Option.isSome_iff_exists]
  constructor
  · rintro ⟨x, hx⟩
    have hIs := Table.prop_of_find? hx
    rw [Bool.and_eq_true, beq_iff_eq, beq_iff_eq] at hIs
    exact ⟨x, Table.mem_of_find? hx, hIs⟩
  · rintro ⟨x, hx, hScope, hId⟩
    cases hFound : s.snapshot? scope snapshotId with
    | some y => exact ⟨y, rfl⟩
    | none =>
      have hNot := Table.find?_eq_none.mp hFound x hx
      rw [hScope, hId, beq_self_eq_true, beq_self_eq_true] at hNot
      cases hNot

/-- A call writes no snapshot and no role. -/
theorem advance_tables (i : Nat) (conversationId : Uuid) (now : Datetime) :
    (s.advance analysable i conversationId now).snapshots = s.snapshots ∧
      (s.advance analysable i conversationId now).roles = s.roles := by
  unfold advance insert raised
  repeat' split
  all_goals exact ⟨rfl, rfl⟩

/-- Without deletions a step only adds. -/
theorem step_grows {timed : TimedConversationAction} (hInv : s.ConversationInvariant)
    (hRegular : s.Regular timed) : Grows s (s.step analysable timed) := by
  have hChange : ConversationChange timed.action.Removes s (s.step analysable timed) :=
    step_change hInv timed
  have hTables : (∀ role ∈ s.roles, role ∈ (s.step analysable timed).roles) ∧
      (∀ x ∈ s.snapshots, x ∈ (s.step analysable timed).snapshots) ∧
      ∀ c, ¬ timed.action.Removes c := by
    obtain ⟨now, action⟩ := timed
    cases action with
    | arrive => exact ⟨fun _ h => h, fun _ h => h, fun _ => id⟩
    | advance i conversationId =>
      obtain ⟨hSnapshots, hRoles⟩ := @advance_tables analysable s i conversationId now
      refine ⟨fun _ h => ?_, fun _ h => ?_, fun _ => id⟩
      · exact hRoles.symm ▸ h
      · exact hSnapshots.symm ▸ h
    | stop i =>
      show (∀ role ∈ s.roles, role ∈ (s.stop i).roles) ∧
        (∀ x ∈ s.snapshots, x ∈ (s.stop i).snapshots) ∧ _
      unfold stop
      split <;> exact ⟨fun _ h => h, fun _ h => h, fun _ => id⟩
    | write conversationId =>
      show (∀ role ∈ s.roles, role ∈ (s.write conversationId now).roles) ∧
        (∀ x ∈ s.snapshots, x ∈ (s.write conversationId now).snapshots) ∧ _
      unfold write
      split <;> exact ⟨fun _ h => h, fun _ h => h, fun _ => id⟩
    | addSnapshot row =>
      refine ⟨fun _ h => h, fun x h => ?_, fun _ => id⟩
      show x ∈ (s.snapshots.insert? row).getD s.snapshots
      cases hInsert : s.snapshots.insert? row with
      | none => exact h
      | some snapshots => exact (Table.mem_insert? hInsert).mpr (.inr h)
    | addRole businessId userId =>
      exact ⟨fun _ h => List.mem_cons_of_mem _ h, fun _ h => h, fun _ => id⟩
    | deleteSnapshot => exact hRegular.elim
    | deleteRole => exact hRegular.elim
  obtain ⟨hRoles, hSnapshots, hNot⟩ := hTables
  refine ⟨hRoles, fun scope snapshotId h => ?_, fun c hc => change_stored hChange hc (hNot c)⟩
  obtain ⟨x, hx, hIs⟩ := snapshot?_isSome_iff.mp h
  exact snapshot?_isSome_iff.mpr ⟨x, hSnapshots x hx, hIs⟩

/-- A title that is normalised passes the check of its column. -/
theorem trimmedBetween_of_normalized {title : Option Str} {normalized : Str}
    (h : normalizeAiConversationTitle title = .ok (some normalized)) :
    trimmedBetween aiConversationTitleMaxLength normalized = true := by
  cases title with
  | none => cases h
  | some title =>
    rw [normalizeAiConversationTitle] at h
    split_ifs at h with hNil
    · cases h
    · obtain ⟨⟨⟩, hLength, hDone⟩ := bind_eq_ok.mp h
      rw [ensure_eq_ok] at hLength
      obtain rfl := Option.some.inj (Except.ok.inj hDone)
      have hHead := List.head?_eq_some_head hNil
      -- its first character is no whitespace, so the blanks of the column's check leave it
      have hKept : (((strip title).head hNil).val == 0x20) = false := by
        refine Bool.eq_false_iff.mpr fun hBlank => ?_
        have hSpace := not_isSpace_head?_strip hHead
        rw [isSpace, beq_iff_eq.mp hBlank] at hSpace
        cases hSpace
      have hMem : (strip title).head hNil ∈ sqlTrim (strip title) := by
        rw [sqlTrim, trimBy, List.mem_reverse, mem_dropWhile_of_not hKept, List.mem_reverse,
          mem_dropWhile_of_not hKept]
        exact List.head_mem hNil
      have hShort : (sqlTrim (strip title)).length ≤ (strip title).length := by
        rw [sqlTrim, trimBy, List.length_reverse]
        refine (List.dropWhile_suffix _).length_le.trans ?_
        rw [List.length_reverse]
        exact (List.dropWhile_suffix _).length_le
      exact decide_eq_true ⟨List.length_pos_of_mem hMem, hShort.trans hLength⟩

/-- **A clash.** An insert that raises, with its role and its snapshot there and its identifier free,
has found a committed row of the index. -/
theorem stored_of_insert_none (hInv : s.ConversationInvariant)
    (hClient : s.clients[i]? = some (.absent request)) {title : Option Str}
    (hTitle : normalizeAiConversationTitle request.title = .ok title) {conversationId : Uuid}
    {now : Datetime} (hFresh : ∀ c ∈ s.conversations, c.id ≠ conversationId)
    (hSnapshot : request.snapshotId.isSome = true)
    (hWaits : s.waits i (request.row title conversationId now) = false)
    (hInsert : s.conversations.insert? (request.row title conversationId now) = none) :
    ∃ c, s.Stored c ∧ request.Wants c := by
  have hChecks : Schema.checks (request.row title conversationId now) = true := by
    show (title.all (trimmedBetween 160) && true && (decide (request.purpose ≠ .dashboardAnalysis) ||
      request.snapshotId.isSome)) = true
    rw [hSnapshot, Bool.or_true, Bool.and_true, Bool.and_true]
    cases title with
    | none => rfl
    | some normalized => exact trimmedBetween_of_normalized hTitle
  by_contra hNone
  refine absurd (Table.exists_insert? (fun c hc => ?_) hChecks) (by rw [hInsert]; simp)
  by_contra hClash
  have hAdmits : Table.admits (request.row title conversationId now) c = false := by
    refine Bool.eq_false_of_not_eq_true fun h => hClash (Table.apart_of_admits h)
  -- a row in the way that is still pending would make the insert wait
  have hSeen : s.inserts.available c.id i = true := by
    rw [waits, List.any_eq_false] at hWaits
    have hOwn := hWaits c hc
    rw [hAdmits, Bool.not_false, Bool.true_and, Bool.not_eq_true, Bool.not_eq_false'] at hOwn
    exact hOwn
  have hStored : s.Stored c := ⟨hc, holder_eq_none_of_available hInv hClient rfl hSeen⟩
  refine hNone ⟨c, hStored, ?_⟩
  -- so a committed row is in the way: the ids differ, and the unique index is met
  have hIndex : Schema.clash c (request.row title conversationId now) = true := by
    by_contra h
    exact hClash ⟨hFresh c hc, Bool.eq_false_of_not_eq_true h⟩
  have hIs : (decide (c.purpose = .dashboardAnalysis) &&
      decide (request.purpose = .dashboardAnalysis) &&
        decide (c.businessId = request.scope ∧ c.dashboardSnapshotId = request.snapshotId)) = true :=
    hIndex
  simp only [Bool.and_eq_true, decide_eq_true_eq] at hIs
  exact ⟨hIs.2.1, hIs.1.1.trans hIs.1.2.symm, hIs.2.2⟩

/-- A source that was read is there. -/
theorem hasSource_of_readSource {u : Unit} (h : s.readSource analysable request = .ok u) :
    s.HasSource request := by
  intro snapshotId hSnapshot
  obtain ⟨⟨⟩, -, hRest⟩ := bind_eq_ok.mp h
  rw [hSnapshot] at hRest
  obtain ⟨snapshot, hFound, -⟩ := bind_eq_ok.mp hRest
  rw [required_eq_ok.mp hFound]
  rfl

/-- The checks in front of the insert do not raise the error of the index. -/
theorem readSource_ne_integrity : s.readSource analysable request ≠ .error .integrity := by
  intro h
  simp only [readSource, bind_eq_error, ensure_eq_error] at h
  rcases h with ⟨-, h⟩ | ⟨-, -, h⟩
  · cases h
  · cases hSnapshot : request.snapshotId with
    | none =>
      rw [hSnapshot] at h
      cases h
    | some snapshotId =>
      rw [hSnapshot] at h
      simp only [bind_eq_error, ensure_eq_error, required_eq_error] at h
      rcases h with ⟨-, h⟩ | ⟨-, -, -, h⟩
      · cases h
      · cases h

/-- A title is refused with an error of its own. -/
theorem normalizeAiConversationTitle_ne_integrity {title : Option Str} :
    normalizeAiConversationTitle title ≠ .error .integrity := by
  intro h
  cases title with
  | none => cases h
  | some title =>
    rw [normalizeAiConversationTitle] at h
    split_ifs at h with hNil
    · cases h
    · rcases bind_eq_error.mp h with hLength | ⟨-, -, hDone⟩
      · cases (ensure_eq_error.mp hLength).2
      · cases hDone

/-- The row of a call that has its role and its snapshot refers to rows that are there. -/
theorem foreignKeys_of_facts {title : Option Str} {conversationId : Uuid} {now : Datetime}
    (hRole : (request.scope, request.userId) ∈ s.roles) (hSource : s.HasSource request) :
    s.foreignKeys (request.row title conversationId now) = true := by
  rw [foreignKeys, Bool.and_eq_true, decide_eq_true_eq]
  refine ⟨hRole, ?_⟩
  show request.snapshotId.all (fun snapshotId => (s.snapshot? request.scope snapshotId).isSome) = true
  cases hSnapshot : request.snapshotId with
  | none => rfl
  | some snapshotId => exact hSource snapshotId hSnapshot

/-- A call that goes on can rely on what it is told. -/
theorem set_facts (client : ConversationClient) {c : ConversationClient}
    (hClient : s.ClientFacts client) (h : (s.clients.set i client)[j]? = some c) :
    s.clients[j]? = some c ∨ s.ClientFacts c := by
  rcases getElem?_set_cases h with ⟨-, rfl⟩ | ⟨-, hOld⟩
  · exact .inr hClient
  · exact .inl hOld

/-- What is known of a call after its insert. -/
theorem insert_facts (hInv : s.ConversationInvariant) (hFacts : s.ClientFacts (.absent request))
    (hClient : s.clients[i]? = some (.absent request)) {title : Option Str}
    (hTitle : normalizeAiConversationTitle request.title = .ok title) {conversationId : Uuid}
    {now : Datetime} (hFresh : ∀ c ∈ s.conversations, c.id ≠ conversationId)
    {c : ConversationClient}
    (h : (s.insert i request (request.row title conversationId now)).clients[j]? = some c) :
    s.clients[j]? = some c ∨ s.ClientFacts c := by
  unfold insert at h
  split at h
  · exact .inl h
  · next hWaits =>
    split at h
    · exact set_facts (.inserted request (request.row title conversationId now)) trivial h
    · next hNot =>
      refine set_facts _ ?_ h
      split_ifs with hKind
      · have hKeys : s.foreignKeys (request.row title conversationId now) = true :=
          foreignKeys_of_facts (hFacts.1 hKind) hFacts.2
        -- the foreign keys hold, so it is the unique index that refuses the row
        have hNone : s.conversations.insert? (request.row title conversationId now) = none :=
          Option.eq_none_iff_forall_ne_some.mpr fun conversations hInsert =>
            hNot conversations hInsert hKeys
        exact stored_of_insert_none hInv hClient hTitle hFresh
          (ConversationRequest.isSome_snapshotId hKind) (Bool.eq_false_of_not_eq_true hWaits) hNone
      · exact fun _ => Bool.eq_false_of_not_eq_true hKind

/-- What a call is after its next statement, it can rely on in the state before. -/
theorem advance_facts (hInv : s.ConversationInvariant)
    (hAll : ∀ (j : Nat) c, s.clients[j]? = some c → s.ClientFacts c) {conversationId : Uuid}
    {now : Datetime} (hFresh : ∀ c ∈ s.conversations, c.id ≠ conversationId)
    {c : ConversationClient}
    (h : (s.advance analysable i conversationId now).clients[j]? = some c) :
    s.clients[j]? = some c ∨ s.ClientFacts c := by
  unfold advance at h
  split at h
  · next request hGet =>
    have hFacts : s.HasRole request := hAll i _ hGet
    split at h
    · next e hRead =>
      refine set_facts (.refused request e) (fun hError => ?_) h
      rw [hError] at hRead
      exact absurd hRead readSource_ne_integrity
    · next hRead =>
      refine set_facts _ ?_ h
      split
      · exact ⟨hFacts, hasSource_of_readSource hRead⟩
      · exact ⟨hFacts, hasSource_of_readSource hRead⟩
  · next request hGet =>
    have hFacts : s.HasRole request ∧ s.HasSource request := hAll i _ hGet
    split at h
    · next c' hFound => exact set_facts (.answered request c') trivial h
    · exact set_facts (.absent request) hFacts h
  · next request hGet =>
    split at h
    · next e hTitle =>
      refine set_facts (.refused request e) (fun hError => ?_) h
      rw [hError] at hTitle
      exact absurd hTitle normalizeAiConversationTitle_ne_integrity
    · next title hTitle => exact insert_facts hInv (hAll i _ hGet) hGet hTitle hFresh h
  · next request row hGet => exact set_facts (.answered request row) trivial h
  · next request hGet =>
    split at h
    · next c' hFound => exact set_facts (.answered request c') trivial h
    · next hNone =>
      -- the row that was in the way is committed, and is found
      obtain ⟨c', hStored, hWants⟩ := hAll i _ hGet
      have hKind := hInv.looking i _ request hGet rfl
      have hSeen : s.inserts.available c'.id i = true := by
        refine Locks.available_iff.mpr fun k hk => ?_
        rw [hStored.2] at hk
        cases hk
      have hNot := Table.find?_eq_none.mp hNone c' hStored.1
      rw [hSeen, hWants.1, hWants.2.1, hWants.2.2,
        ConversationRequest.purpose_of_isGetOrCreate hKind] at hNot
      simp at hNot
  · exact .inl h

/-- **Step lemma.** Every call can rely on what it was told. -/
theorem step_facts {timed : TimedConversationAction} (hInv : s.ConversationInvariant)
    (hRegular : s.Regular timed) (hAll : ∀ (j : Nat) c, s.clients[j]? = some c → s.ClientFacts c)
    (j : Nat) (c : ConversationClient)
    (h : (s.step analysable timed).clients[j]? = some c) :
    (s.step analysable timed).ClientFacts c := by
  have hGrows : Grows s (s.step analysable timed) := step_grows hInv hRegular
  -- what was known before the step is known after it
  suffices hBefore : s.clients[j]? = some c ∨ s.ClientFacts c by
    rcases hBefore with hOld | hNew
    · exact (hAll j c hOld).grows hGrows
    · exact hNew.grows hGrows
  obtain ⟨now, action⟩ := timed
  cases action with
  | arrive request =>
    rcases List.mem_append.mp (List.mem_of_getElem? h) with hOld | hNew
    · obtain ⟨k, hk⟩ := List.getElem?_of_mem hOld
      exact .inr (hAll k c hk)
    · obtain rfl := List.mem_singleton.mp hNew
      exact .inr hRegular
  | advance i conversationId => exact advance_facts hInv hAll hRegular h
  | stop i =>
    have hStop : (s.stop i).clients[j]? = some c := h
    unfold stop at hStop
    split at hStop
    · exact set_facts .stopped trivial hStop
    · exact .inl hStop
  | write conversationId =>
    have hWrite : (s.write conversationId now).clients[j]? = some c := h
    unfold write at hWrite
    split at hWrite
    · exact .inl hWrite
    · exact .inl hWrite
  | addSnapshot => exact .inl h
  | addRole => exact .inl h
  | deleteSnapshot => exact hRegular.elim
  | deleteRole => exact hRegular.elim

/-- **Nobody is turned away by the index.** In a run that deletes no snapshot and no role, whose
drawn identifiers are free and whose callers have their roles, no call of
`get_or_create_dashboard_analysis` ends with the error of an insert: the conversation that is in its
way is there, and it is answered with it. -/
theorem analysis_always_answered (analysable : Json → Bool) (snapshots : Table DashboardSnapshot)
    (roles : List (Uuid × Uuid)) (conversations : Table AIConversation)
    (actions : List TimedConversationAction)
    (hRegular : Meets (step analysable) Regular { snapshots, roles, conversations } actions)
    (request : ConversationRequest) (hKind : request.isGetOrCreate = true) (i : Nat) :
    (run (step analysable) { snapshots, roles, conversations } actions).clients[i]? ≠
      some (.refused request .integrity) := by
  intro hRefused
  have hStart : ConversationInvariant { snapshots, roles, conversations } ∧
      ∀ (j : Nat) c, ([] : List ConversationClient)[j]? = some c →
        ClientFacts { snapshots, roles, conversations } c :=
    ⟨init_conversationInvariant snapshots roles conversations, fun j c h => by simp at h⟩
  -- both by induction on the run: the invariant, and what is known of every call
  have hRun := run_invariant_of_meets
    (I := fun s => s.ConversationInvariant ∧
      ∀ (j : Nat) c, s.clients[j]? = some c → s.ClientFacts c)
    (fun s timed hI hCond => ⟨step_conversationInvariant analysable s timed hI.1,
      step_facts hI.1 hCond hI.2⟩) hStart hRegular
  have hNot : request.isGetOrCreate = false := hRun.2 i _ hRefused rfl
  rw [hKind] at hNot
  cases hNot

/-- A call for the analysis of snapshot 3. -/
def raceRequest : ConversationRequest := ⟨1, 2, .getOrCreate 3 (str "Review")⟩

/-- Two calls for it that both find no conversation; the second inserts when the first has
committed. -/
def raceActions : List TimedConversationAction :=
  [.addSnapshot ⟨3, 1, 4, 1, dashboardSnapshotSchemaVersion, .obj [], List.replicate 64 0x61, 2, 0⟩,
    .arrive raceRequest, .arrive raceRequest, .advance 0 10, .advance 1 11, .advance 0 10,
    .advance 1 11, .advance 0 10, .advance 1 11, .advance 0 12, .advance 1 13, .advance 1 14].map
      fun action => ⟨0, action⟩

/-- Two calls that meet: the second one is refused by the index and answered all the same. -/
theorem analysis_always_answered_race :
    (run (step fun _ => true) { roles := [(1, 2)] } raceActions).clients[1]? ≠
      some (.refused raceRequest .integrity) :=
  analysis_always_answered (fun _ => true) .empty [(1, 2)] .empty raceActions (by decide +kernel)
    raceRequest rfl 1

end ConversationState

end SpikeBackend
