import Bookshare.Model.Catalogue
import Bookshare.Model.Details
import Bookshare.Upload.Submissions

/-!
# The collection and everyone at work on it

The `textbooks` collection with every state each document has had, any number of
upload screens that add documents, and any number of clients that load the
catalogue, open a book and request it. A request is two remote operations: the
`getDocument` that the tap issues, and the `updateData` that its callback issues.
Operations of all clients are in flight together and complete in any order, with
success or failure.

A read, and a load of the catalogue, may deliver any state the documents have
been in: which one is in the event. Where a result needs more of Firestore (no
state older than the read, no failure), it says so as a condition on the events.

`Effect` lists what a step can do, and `step_effect` that it does one of these
things; proofs go by cases on it.
-/

namespace Bookshare.Requests

open Dynamic Machine

abbrev ClientId := Nat

structure DetailsScreen where
  controller : BookDetailsViewController
  /-- The account `viewDidLoad` found signed in. -/
  openedBy : Option String

structure Client where
  currentUser : Option FIRUser
  catalogue : TextBooksViewController
  details : Option DetailsScreen
  /-- No trap has been reached. -/
  running : Bool

/-- A remote operation in flight. -/
inductive Operation where
  /-- A tap's read of the document at `path`, issued when it had been in `issuedAt` states; the
  screen of the tap was opened by `openedBy`. -/
  | getDocument (client : ClientId) (path : String) (openedBy : Option String) (issuedAt : Nat)
  /-- The update that followed: `user` was signed in when `snapshot` arrived. -/
  | updateData (path : String) (fields : Document) (user : Option FIRUser)
    (snapshot : Option DocumentSnapshot)

structure State where
  uploads : Upload.State
  /-- The states the document at each path has been in, oldest first. -/
  documents : String → List Document
  clients : ClientId → Client
  operations : Nat → Option Operation

/-- How a read ends: with an error, without a document, or with the document in a given state. -/
inductive ReadResult where
  | failed (error : String)
  | missing
  | found (version : Nat)

/-- What happens on one client alone. -/
inductive ClientEvent where
  | session (user : Option FIRUser)
  /-- A load of the catalogue ends, with an error or with these documents in these states. -/
  | load (result : Except String (List (String × Nat)))
  | gradeSelected (grade : Option Int)
  | openDetails (item : Nat)
  | closeDetails

inductive Event where
  /-- The upload screens and the storage; a document that is added gets `documentID`. -/
  | upload (e : Upload.Event) (documentID : String)
  | client (c : ClientId) (e : ClientEvent)
  /-- A tap on Request, whose read becomes operation `op`. -/
  | request (c : ClientId) (op : Nat)
  | readDone (op : Nat) (result : ReadResult)
  | updateDone (op : Nat) (applied : Bool)

namespace State

def setClient (s : State) (c : ClientId) (client : Client) : State :=
  { s with clients := Function.update s.clients c client }

def setOperation (s : State) (op : Nat) (operation : Option Operation) : State :=
  { s with operations := Function.update s.operations op operation }

/-- The document at `path` enters a further state. -/
def write (s : State) (path : String) (doc : Document) : State :=
  { s with documents := Function.update s.documents path (s.documents path ++ [doc]) }

/-- The document at `path` as it is now. -/
def current? (s : State) (path : String) : Option Document := (s.documents path).getLast?

/-- The entries stored at `path` now. -/
def requests (s : State) (path : String) : List (Value String) :=
  (s.current? path).elim [] storedRequests

/-- A snapshot of the collection: those of the documents asked for that exist. -/
def querySnapshot (s : State) (items : List (String × Nat)) :
    List TextBooksViewController.QueryDocument :=
  items.filterMap fun item =>
    (s.documents (documentPath item.1))[item.2]?.map fun doc => (item.1, doc)

/-- The `snapshot` argument of the callback. -/
def snapshot (s : State) (path : String) : ReadResult → Option DocumentSnapshot
  | .failed _ => none
  | .missing => some { data := none }
  | .found version => some { data := (s.documents path)[version]? }

end State

/-- The `error` argument of the callback. -/
def ReadResult.error : ReadResult → Option String
  | failed error => some error
  | missing | found _ => none

/-- A trap takes the client's process down. -/
def Client.crash (client : Client) : Client := { client with running := false }

/-- The user for whom a callback on the client computes an update. -/
def Client.answering (client : Client) : Option FIRUser :=
  if client.running then client.currentUser else none

def clientStep (s : State) (client : Client) : ClientEvent → Client
  | .session user => { client with currentUser := user }
  | .load result =>
    match client.catalogue.getDocumentsCallback (result.map s.querySnapshot) with
    | .ok catalogue => { client with catalogue }
    -- a document of the snapshot did not decode
    | .error _ => client.crash
  | .gradeSelected grade => { client with catalogue := client.catalogue.gradeSelected grade }
  | .openDetails item =>
    match client.catalogue.bookAt item with
    | .ok book => { client with details := some {
        controller := BookDetailsViewController.viewDidLoad client.currentUser book
        openedBy := client.currentUser.map FIRUser.uid } }
    -- the cell tapped is no longer backed by a book
    | .error _ => client.crash
  | .closeDetails => { client with details := none }

/-- A tap on Request; the button is there and not hidden. -/
def request (s : State) (c : ClientId) (op : Nat) : Option State :=
  match (s.clients c).details, s.operations op with
  | some details, none =>
    if (s.clients c).running && !details.controller.btnRequestIsHidden then
      let path := docId details.controller.book
      some (s.setOperation op
        (some (.getDocument c path details.openedBy (s.documents path).length)))
    else none
  | _, _ => none

/-- The callback of `getDocument`, on the client that called it. -/
def readDone (s : State) (op : Nat) (result : ReadResult) (c : ClientId) (path : String) : State :=
  let client := s.clients c
  if client.running then
    match getDocumentCallback client.currentUser (s.snapshot path result) result.error with
    | .ok fields => s.setOperation op
      (some (.updateData path fields client.currentUser (s.snapshot path result)))
    -- the login guard
    | .error _ => (s.setOperation op none).setClient c client.crash
  -- the process that called is gone, and its callback with it
  else s.setOperation op none

/-- An update replaces its fields in the document, or fails; it fails when there is none. -/
def updateDone (s : State) (op : Nat) (applied : Bool) (path : String) (fields : Document) :
    Option State :=
  match applied, s.current? path with
  | true, some doc => some ((s.setOperation op none).write path (doc.merge fields))
  | true, none => none
  | false, _ => some (s.setOperation op none)

def step (s : State) : Event → Option State
  | .upload e documentID =>
    (Upload.step s.uploads e).bind fun uploads =>
      -- the document this step has added, if it has added one
      match (uploads.documents.drop s.uploads.documents.length).head? with
      | none => some { s with uploads }
      | some doc =>
        -- `addDocument` draws an identifier that is not in use
        if (s.documents (documentPath documentID)).isEmpty then
          some ({ s with uploads }.write (documentPath documentID) doc)
        else none
  | .client c e =>
    if (s.clients c).running then some (s.setClient c (clientStep s (s.clients c) e)) else none
  | .request c op => request s c op
  | .readDone op result =>
    match s.operations op with
    | some (.getDocument c path _ _) => some (readDone s op result c path)
    | _ => none
  | .updateDone op applied =>
    match s.operations op with
    | some (.updateData path fields _ _) => updateDone s op applied path fields
    | _ => none

/-- Nothing is in flight. -/
def State.Quiescent (s : State) : Prop := ∀ op, s.operations op = none

/-- Documents that have been in one state each, and clients that have done nothing yet. -/
def initial (screens : Upload.ScreenId → Upload.Screen) (documents : String → Option Document)
    (users : ClientId → Option FIRUser) : State where
  uploads := Upload.initial screens
  documents := fun path => (documents path).toList
  clients := fun c =>
    { currentUser := users c
      catalogue := TextBooksViewController.initial
      details := none
      running := true }
  operations := fun _ => none

/-- One book, Alice's, for the runs on fixed inputs further on. -/
def oneBook (path : String) : Option Document :=
  if path = documentPath "A" then some (submittedDoc hobbitForm alice) else none

theorem storedRequests_oneBook {path : String} {doc : Document} (h : oneBook path = some doc) :
    storedRequests doc = [] := by
  obtain ⟨-, hdoc⟩ := Option.ite_none_right_eq_some.mp h
  injection hdoc with hdoc
  subst hdoc
  rw [storedRequests, submittedDoc_other _ _ (by decide)]
  rfl

-- ---------------------------------------------------------------------------
-- What a step can do
-- ---------------------------------------------------------------------------

namespace State

variable (s : State)

@[simp] theorem setClient_same (c : ClientId) (client : Client) :
    (s.setClient c client).clients c = client := by
  simp [setClient]

theorem setClient_ne {c c' : ClientId} (client : Client) (h : c' ≠ c) :
    (s.setClient c client).clients c' = s.clients c' := by
  simp [setClient, h]

@[simp] theorem setOperation_same (op : Nat) (operation : Option Operation) :
    (s.setOperation op operation).operations op = operation := by
  simp [setOperation]

theorem setOperation_ne {op op' : Nat} (operation : Option Operation) (h : op' ≠ op) :
    (s.setOperation op operation).operations op' = s.operations op' := by
  simp [setOperation, h]

@[simp] theorem write_documents_same (path : String) (doc : Document) :
    (s.write path doc).documents path = s.documents path ++ [doc] := by
  simp [write]

theorem write_documents_ne {path path' : String} (doc : Document) (h : path' ≠ path) :
    (s.write path doc).documents path' = s.documents path' := by
  simp [write, h]

variable {s}

/-- An operation in flight was there before, or is the one just set. -/
theorem setOperation_cases {op op' : Nat} {operation : Option Operation} {o : Operation}
    (h : (s.setOperation op operation).operations op' = some o) :
    s.operations op' = some o ∨ op' = op ∧ operation = some o := by
  by_cases heq : op' = op
  · subst heq
    rw [setOperation_same] at h
    exact Or.inr ⟨rfl, h⟩
  · rw [setOperation_ne s operation heq] at h
    exact Or.inl h

/-- The states after a write are those before and the one written. -/
theorem mem_write {path path' : String} {doc doc' : Document} :
    doc' ∈ (s.write path doc).documents path' ↔
      doc' ∈ s.documents path' ∨ path' = path ∧ doc' = doc := by
  by_cases h : path' = path
  · subst h
    simp
  · simp [write_documents_ne s doc h, h]

theorem current?_mem {path : String} {doc : Document} (h : s.current? path = some doc) :
    doc ∈ s.documents path :=
  List.mem_of_getLast? h

/-- A snapshot of the collection holds documents in states they have been in. -/
theorem mem_querySnapshot {items : List (String × Nat)}
    {document : TextBooksViewController.QueryDocument} (h : document ∈ s.querySnapshot items) :
    document.2 ∈ s.documents (documentPath document.1) := by
  obtain ⟨item, -, hitem⟩ := List.mem_filterMap.mp h
  obtain ⟨doc, hdoc, rfl⟩ := Option.map_eq_some_iff.mp hitem
  exact List.mem_of_getElem? hdoc

/-- A snapshot of a document holds a state it has been in. -/
theorem mem_of_snapshot {path : String} {result : ReadResult} {data : Document}
    (h : s.snapshot path result = some ⟨some data⟩) : data ∈ s.documents path := by
  cases result with
  | failed error => cases h
  | missing => cases h
  | found version =>
    simp only [snapshot, Option.some.injEq, DocumentSnapshot.mk.injEq] at h
    exact List.mem_of_getElem? h

end State

theorem Client.currentUser_of_answering {client : Client} {user : FIRUser}
    (h : client.answering = some user) : client.currentUser = some user :=
  (Option.ite_none_right_eq_some.mp h).2

/-- What a step can do. -/
inductive Effect (s : State) : Event → State → Prop
  | uploads {e documentID uploads} : Upload.step s.uploads e = some uploads →
      Effect s (.upload e documentID) { s with uploads }
  | added {e documentID uploads doc} : Upload.step s.uploads e = some uploads →
      doc ∈ uploads.documents → s.documents (documentPath documentID) = [] →
      Effect s (.upload e documentID) ({ s with uploads }.write (documentPath documentID) doc)
  | client {c e} : Effect s (.client c e) (s.setClient c (clientStep s (s.clients c) e))
  | requested {c op details} : (s.clients c).details = some details →
      details.controller.btnRequestIsHidden = false → s.operations op = none →
      Effect s (.request c op) (s.setOperation op (some
        (.getDocument c (docId details.controller.book) details.openedBy
          (s.documents (docId details.controller.book)).length)))
  /-- The callback trapped, or its client was no longer running. -/
  | dropped {op result c path openedBy issuedAt} :
      s.operations op = some (.getDocument c path openedBy issuedAt) →
      (s.clients c).answering = none →
      Effect s (.readDone op result) ((s.setOperation op none).setClient c (s.clients c).crash)
  | answered {op result c path openedBy issuedAt user} :
      s.operations op = some (.getDocument c path openedBy issuedAt) →
      (s.clients c).answering = some user →
      Effect s (.readDone op result) (s.setOperation op (some (.updateData path
        (requestsField (newRequests (userData user) (s.snapshot path result))) (some user)
        (s.snapshot path result))))
  | updateFailed {op path fields user snapshot} :
      s.operations op = some (.updateData path fields user snapshot) →
      Effect s (.updateDone op false) (s.setOperation op none)
  | updateApplied {op path fields user snapshot doc} :
      s.operations op = some (.updateData path fields user snapshot) →
      s.current? path = some doc →
      Effect s (.updateDone op true) ((s.setOperation op none).write path (doc.merge fields))

theorem readDone_effect {s : State} {op : Nat} {result : ReadResult} {c : ClientId} {path : String}
    {openedBy : Option String} {issuedAt : Nat}
    (h : s.operations op = some (.getDocument c path openedBy issuedAt)) :
    Effect s (.readDone op result) (readDone s op result c path) := by
  simp only [readDone]
  split
  · next hrunning =>
    cases huser : (s.clients c).currentUser with
    | none =>
      -- the login guard traps
      have hnobody : (s.clients c).answering = none := by
        simp [Client.answering, huser]
      exact Effect.dropped h hnobody
    | some user =>
      have huser' : (s.clients c).answering = some user := by
        simp [Client.answering, hrunning, huser]
      exact Effect.answered h huser'
  · next hrunning =>
    -- a client that is not running has crashed already, so crashing it changes nothing
    have hnobody : (s.clients c).answering = none := by
      simp [Client.answering, hrunning]
    have hcrash : (s.clients c).crash = s.clients c := by
      simp only [Client.crash, ← Bool.eq_false_of_not_eq_true hrunning]
    have hsame : (s.setOperation op none).setClient c (s.clients c).crash =
        s.setOperation op none := by
      rw [hcrash]
      exact congrArg (fun clients => { s.setOperation op none with clients })
        (Function.update_eq_self c s.clients)
    rw [← hsame]
    exact Effect.dropped h hnobody

theorem step_effect {s s' : State} {e : Event} (h : step s e = some s') : Effect s e s' := by
  cases e with
  | upload e documentID =>
    obtain ⟨uploads, huploads, h⟩ := Option.bind_eq_some_iff.mp h
    split at h
    · -- nothing was added
      injection h with h
      subst h
      exact Effect.uploads huploads
    · -- the head of what is new
      next doc hdoc =>
      have hnew : doc ∈ uploads.documents := List.mem_of_mem_drop (List.mem_of_head? hdoc)
      simp only [Option.ite_none_right_eq_some, Option.some.injEq, List.isEmpty_iff] at h
      obtain ⟨hfresh, rfl⟩ := h
      exact Effect.added huploads hnew hfresh
  | client c e =>
    simp only [step, Option.ite_none_right_eq_some, Option.some.injEq] at h
    obtain ⟨-, rfl⟩ := h
    exact Effect.client
  | request c op =>
    simp only [step, request] at h
    split at h
    · next details hdetails hop =>
      simp only [Option.ite_none_right_eq_some, Option.some.injEq, Bool.and_eq_true,
        Bool.not_eq_true'] at h
      obtain ⟨⟨-, hvisible⟩, rfl⟩ := h
      exact Effect.requested hdetails hvisible hop
    · cases h
  | readDone op result =>
    simp only [step] at h
    split at h
    · next c path openedBy issuedAt hop =>
      injection h with h
      subst h
      exact readDone_effect hop
    · cases h
  | updateDone op applied =>
    simp only [step] at h
    split at h
    · next path fields user snapshot hop =>
      simp only [updateDone] at h
      split at h
      · -- applied
        next doc hdoc =>
        injection h with h
        subst h
        exact Effect.updateApplied hop hdoc
      · -- there is no document to update
        cases h
      · -- failed
        injection h with h
        subst h
        exact Effect.updateFailed hop
    · cases h

end Bookshare.Requests
