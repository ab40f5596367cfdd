import Bookshare.Requests.System

/-!
# What every step of the collection keeps

`Consistent` relates the operations in flight to the documents: an update
carries what the callback computed from a state its document has been in, and so
the documents keep all their fields but `requests`. It holds in every reachable
state, whatever the documents were at the start, and the results about requests
build on it.
-/

namespace Bookshare.Requests

open Dynamic Machine

/-- What an update in flight carries. -/
structure Sent (s : State) (path : String) (fields : Document) (user : Option FIRUser)
    (snapshot : Option DocumentSnapshot) : Prop where
  fields : ∃ u, user = some u ∧ fields = requestsField (newRequests (userData u) snapshot)
  /-- The snapshot is of a state the document has been in. -/
  snapshot : ∀ data, snapshot = some ⟨some data⟩ → data ∈ s.documents path

structure Consistent (s : State) : Prop where
  sent : ∀ op path fields user snapshot,
    s.operations op = some (.updateData path fields user snapshot) →
      Sent s path fields user snapshot
  /-- All states of a document agree but for `requests`. -/
  sameFields : ∀ path, ∀ doc ∈ s.documents path, ∀ doc' ∈ s.documents path,
    ∀ k ≠ "requests", doc k = doc' k

theorem consistent_initial (screens : Upload.ScreenId → Upload.Screen)
    (documents : String → Option Document) (users : ClientId → Option FIRUser) :
    Consistent (initial screens documents users) where
  sent := nofun
  sameFields := by
    -- a document starts out in one state
    intro path doc hdoc doc' hdoc' k _
    simp only [initial, Option.mem_toList] at hdoc hdoc'
    have heq : doc = doc' := Option.some.inj (hdoc.symm.trans hdoc')
    rw [heq]

-- ---------------------------------------------------------------------------
-- Documents are only added to
-- ---------------------------------------------------------------------------

theorem Effect.documents_subset {s s' : State} {e : Event} (h : Effect s e s') (path : String) :
    s.documents path ⊆ s'.documents path := by
  cases h with
  | added _ _ _ => exact fun doc hdoc => State.mem_write.mpr (Or.inl hdoc)
  | updateApplied _ _ => exact fun doc hdoc => State.mem_write.mpr (Or.inl hdoc)
  | _ => exact List.Subset.refl _

theorem Sent.mono {s s' : State} {path : String} {fields : Document} {user : Option FIRUser}
    {snapshot : Option DocumentSnapshot} (h : Sent s path fields user snapshot)
    (hsub : s.documents path ⊆ s'.documents path) : Sent s' path fields user snapshot :=
  ⟨h.fields, fun data hdata => hsub (h.snapshot data hdata)⟩

-- ---------------------------------------------------------------------------
-- Steps
-- ---------------------------------------------------------------------------

/-- A read in flight after a step was in flight before, or was issued by a tap on a button that
shows. -/
theorem Effect.getDocument_cases {s s' : State} {e : Event} (h : Effect s e s') {op : Nat}
    {c : ClientId} {path : String} {openedBy : Option String} {issuedAt : Nat}
    (hop : s'.operations op = some (.getDocument c path openedBy issuedAt)) :
    s.operations op = some (.getDocument c path openedBy issuedAt) ∨
    ∃ details, (s.clients c).details = some details ∧
      details.controller.btnRequestIsHidden = false ∧
      path = docId details.controller.book ∧ openedBy = details.openedBy := by
  cases h with
  | uploads _ => exact Or.inl hop
  | added _ _ _ => exact Or.inl hop
  | client => exact Or.inl hop
  -- the operation that ends is taken out, or becomes an update
  | dropped _ _ => exact Or.inl ((State.setOperation_cases hop).resolve_right (by simp))
  | answered _ _ => exact Or.inl ((State.setOperation_cases hop).resolve_right (by simp))
  | updateFailed _ => exact Or.inl ((State.setOperation_cases hop).resolve_right (by simp))
  | updateApplied _ _ => exact Or.inl ((State.setOperation_cases hop).resolve_right (by simp))
  | @requested c' op' details hdetails hvisible _ =>
    rcases State.setOperation_cases hop with hold | ⟨-, hnew⟩
    · exact Or.inl hold
    · rw [Option.some.injEq, Operation.getDocument.injEq] at hnew
      obtain ⟨rfl, rfl, rfl, rfl⟩ := hnew
      exact Or.inr ⟨details, hdetails, hvisible, rfl, rfl⟩

/-- An update in flight after a step was in flight before, or is the callback's. -/
theorem Effect.updateData_cases {s s' : State} {e : Event} (h : Effect s e s') {op : Nat}
    {path : String} {fields : Document} {user : Option FIRUser}
    {snapshot : Option DocumentSnapshot}
    (hop : s'.operations op = some (.updateData path fields user snapshot)) :
    s.operations op = some (.updateData path fields user snapshot) ∨
    ∃ c openedBy issuedAt u result,
      s.operations op = some (.getDocument c path openedBy issuedAt) ∧
      (s.clients c).currentUser = some u ∧ user = some u ∧ snapshot = s.snapshot path result ∧
      fields = requestsField (newRequests (userData u) snapshot) ∧
      s'.documents = s.documents := by
  cases h with
  | uploads _ => exact Or.inl hop
  | added _ _ _ => exact Or.inl hop
  | client => exact Or.inl hop
  -- what is put in its place is a read, or nothing
  | requested _ _ _ => exact Or.inl ((State.setOperation_cases hop).resolve_right (by simp))
  | dropped _ _ => exact Or.inl ((State.setOperation_cases hop).resolve_right (by simp))
  | updateFailed _ => exact Or.inl ((State.setOperation_cases hop).resolve_right (by simp))
  | updateApplied _ _ => exact Or.inl ((State.setOperation_cases hop).resolve_right (by simp))
  | @answered op' result c path' openedBy issuedAt u hread huser =>
    rcases State.setOperation_cases hop with hold | ⟨rfl, hnew⟩
    · exact Or.inl hold
    · rw [Option.some.injEq, Operation.updateData.injEq] at hnew
      obtain ⟨rfl, rfl, rfl, rfl⟩ := hnew
      have hsigned : (s.clients c).currentUser = some u := Client.currentUser_of_answering huser
      exact Or.inr ⟨c, openedBy, issuedAt, u, result, hread, hsigned, rfl, rfl, rfl, rfl⟩

/-- A state a document is in after a step is one it was in before, or a document just added, or
the last state with an update merged into it. -/
theorem Effect.document_cases {s s' : State} {e : Event} (h : Effect s e s') {path : String}
    {doc : Document} (hdoc : doc ∈ s'.documents path) :
    doc ∈ s.documents path ∨
    (s.documents path = [] ∧ s'.documents path = [doc] ∧ doc ∈ s'.uploads.documents) ∨
    ∃ op fields user snapshot old,
      s.operations op = some (.updateData path fields user snapshot) ∧
      s.current? path = some old ∧ doc = old.merge fields := by
  cases h with
  | @added e documentID uploads new _ hnew hfresh =>
    rcases State.mem_write.mp hdoc with hold | ⟨rfl, rfl⟩
    · exact Or.inl hold
    · refine Or.inr (Or.inl ⟨hfresh, ?_, hnew⟩)
      rw [State.write_documents_same, hfresh]
      rfl
  | @updateApplied op path' fields user snapshot old hop hold =>
    rcases State.mem_write.mp hdoc with hdoc | ⟨rfl, rfl⟩
    · exact Or.inl hdoc
    · exact Or.inr (Or.inr ⟨op, fields, user, snapshot, old, hop, hold, rfl⟩)
  | _ => exact Or.inl hdoc

theorem step_consistent {s s' : State} {e : Event} (h : Consistent s) (hstep : step s e = some s') :
    Consistent s' := by
  have heffect := step_effect hstep
  constructor
  · -- what updates carry
    intro op path fields user snapshot hop
    rcases heffect.updateData_cases hop with hold |
      ⟨c, openedBy, issuedAt, u, result, -, -, rfl, rfl, rfl, hdocuments⟩
    · have hsent : Sent s path fields user snapshot := h.sent _ _ _ _ _ hold
      exact hsent.mono (heffect.documents_subset path)
    · refine ⟨⟨u, rfl, rfl⟩, ?_⟩
      intro data hdata
      have hmem : data ∈ s.documents path := State.mem_of_snapshot hdata
      rw [hdocuments]
      exact hmem
  · -- every state agrees with some state of before, or is the only one
    intro path
    have hsame : ∀ doc ∈ s'.documents path, s'.documents path = [doc] ∨
        ∃ old ∈ s.documents path, ∀ k ≠ "requests", doc k = old k := by
      intro doc hdoc
      rcases heffect.document_cases hdoc with hold | ⟨-, honly, -⟩ |
        ⟨op, fields, user, snapshot, old, hop, hold, rfl⟩
      · exact Or.inr ⟨doc, hold, fun _ _ => rfl⟩
      · exact Or.inl honly
      · obtain ⟨u, -, rfl⟩ := (h.sent _ _ _ _ _ hop).fields
        have hmem : old ∈ s.documents path := State.current?_mem hold
        exact Or.inr ⟨old, hmem, fun k hk => merge_requestsField_ne old _ hk⟩
    -- so any two agree with each other
    intro doc hdoc doc' hdoc' k hk
    rcases hsame doc hdoc with honly | ⟨old, hold, heq⟩
    · rw [honly] at hdoc'
      rw [List.mem_singleton.mp hdoc']
    · rcases hsame doc' hdoc' with honly' | ⟨old', hold', heq'⟩
      · rw [honly'] at hdoc
        rw [List.mem_singleton.mp hdoc]
      · rw [heq k hk, heq' k hk]
        exact h.sameFields path old hold old' hold' k hk

theorem run_consistent {screens : Upload.ScreenId → Upload.Screen}
    {documents : String → Option Document} {users : ClientId → Option FIRUser} {es : List Event}
    {t : State} (h : Run step (initial screens documents users) es t) : Consistent t :=
  h.invariant (fun _ _ _ hs hstep => step_consistent hs hstep)
    (consistent_initial screens documents users)

-- ---------------------------------------------------------------------------
-- Uploads within the system
-- ---------------------------------------------------------------------------

theorem Effect.uploads_cases {s s' : State} {e : Event} (h : Effect s e s') :
    s'.uploads = s.uploads ∨ ∃ ue, Upload.step s.uploads ue = some s'.uploads := by
  cases h with
  | uploads huploads => exact Or.inr ⟨_, huploads⟩
  | added huploads _ _ => exact Or.inr ⟨_, huploads⟩
  | _ => exact Or.inl rfl

/-- The upload screens go on following a ledger of taps. -/
theorem step_uploads {s s' : State} {e : Event} (h : ∃ l, Upload.Tracks s.uploads l)
    (hstep : step s e = some s') : ∃ l, Upload.Tracks s'.uploads l := by
  obtain ⟨l, hl⟩ := h
  rcases (step_effect hstep).uploads_cases with heq | ⟨ue, hue⟩
  · exact ⟨l, heq ▸ hl⟩
  · obtain ⟨l', hl', -⟩ := Upload.step_tracks hl hue
    exact ⟨l', hl'⟩

end Bookshare.Requests
