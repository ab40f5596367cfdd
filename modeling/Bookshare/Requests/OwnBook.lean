import Bookshare.Requests.Frame

/-!
# Nobody requests their own book

The guard is a button that `viewDidLoad` hides from the owner, and the entry is
written much later, for whoever is signed in when the read arrives. In between,
the account can only have been signed out, since signing in replaces the screens;
that is the condition `AccountStays`. `Guarded` follows the owner from the
document through the catalogue, the details screen and the read into the update.

Main result: `no_request_by_owner`.
-/

namespace Bookshare.Requests

open Dynamic Machine TextBooksViewController

/-- The account that opened a screen, and the one signed in since: nobody, or the same. -/
def Stays (openedBy : Option String) (user : Option FIRUser) : Prop :=
  user = none ∨ user.map FIRUser.uid = openedBy

/-- While a client has a details screen open or a read of it in flight, its session changes at
most to signed out. -/
def AccountStays (s : State) : Event → Prop
  | .client c (.session user) =>
    (∀ details, (s.clients c).details = some details → Stays details.openedBy user) ∧
    ∀ op path openedBy issuedAt,
      s.operations op = some (.getDocument c path openedBy issuedAt) → Stays openedBy user
  | _ => True

/-- The document at `path` belongs to somebody else. -/
def NotOwner (s : State) (path : String) (account : Option String) : Prop :=
  ∃ doc ∈ s.documents path, ∃ owner, OwnedBy doc owner ∧ account ≠ some owner

/-- The catalogue's books carry their documents' owners. -/
def BooksOwned (s : State) (vc : TextBooksViewController) : Prop :=
  ∀ book, book ∈ vc.originalBooks ∨ book ∈ vc.books →
    ∃ doc ∈ s.documents (docId book), OwnedBy doc book.user.id

/-- What is known of an open details screen: the button shows only to somebody else. -/
structure DetailsGuarded (s : State) (user : Option FIRUser) (details : DetailsScreen) : Prop where
  visible : details.controller.btnRequestIsHidden = false →
    NotOwner s (docId details.controller.book) details.openedBy
  stays : Stays details.openedBy user

structure ClientGuarded (s : State) (client : Client) : Prop where
  books : BooksOwned s client.catalogue
  details : ∀ details, client.details = some details →
    DetailsGuarded s client.currentUser details

structure Guarded (s : State) : Prop where
  clients : ∀ c, ClientGuarded s (s.clients c)
  reads : ∀ op c path openedBy issuedAt,
    s.operations op = some (.getDocument c path openedBy issuedAt) →
      NotOwner s path openedBy ∧ Stays openedBy (s.clients c).currentUser
  updates : ∀ op path fields user snapshot,
    s.operations op = some (.updateData path fields (some user) snapshot) →
      NotOwner s path (some user.uid)
  entries : ∀ path, ∀ doc ∈ s.documents path, ∀ e ∈ storedRequests doc,
    ∃ user, e = .map (userData user) ∧ NotOwner s path (some user.uid)

-- ---------------------------------------------------------------------------
-- Owners stay as documents are added to
-- ---------------------------------------------------------------------------

section Mono

variable {s s' : State} (hsub : ∀ path, s.documents path ⊆ s'.documents path)
include hsub

theorem NotOwner.mono {path : String} {account : Option String} (h : NotOwner s path account) :
    NotOwner s' path account := by
  obtain ⟨doc, hdoc, howner⟩ := h
  exact ⟨doc, hsub path hdoc, howner⟩

theorem BooksOwned.mono {vc : TextBooksViewController} (h : BooksOwned s vc) :
    BooksOwned s' vc := by
  intro book hbook
  obtain ⟨doc, hdoc, howner⟩ := h book hbook
  exact ⟨doc, hsub _ hdoc, howner⟩

theorem ClientGuarded.mono {client : Client} (h : ClientGuarded s client) :
    ClientGuarded s' client where
  books := h.books.mono hsub
  details := by
    intro details hdetails
    have hguarded : DetailsGuarded s client.currentUser details := h.details details hdetails
    refine ⟨fun hvisible => ?_, hguarded.stays⟩
    have hnotOwner := hguarded.visible hvisible
    exact hnotOwner.mono hsub

end Mono

-- ---------------------------------------------------------------------------
-- One client
-- ---------------------------------------------------------------------------

theorem booksOwned_load {s : State} {vc vc' : TextBooksViewController} (h : BooksOwned s vc)
    {result : Except String (List (String × Nat))}
    (hload : vc.getDocumentsCallback (result.map s.querySnapshot) = .ok vc') :
    BooksOwned s vc' := by
  cases result with
  | error err => exact Except.ok.inj hload ▸ h
  | ok items =>
    obtain ⟨books, hdecodes, rfl⟩ := getDocumentsCallback_eq_ok.mp hload
    intro book hbook
    -- the book was decoded from a document of the snapshot
    obtain ⟨document, hdocument, hok⟩ := hdecodes.mem (or_self_iff.mp hbook)
    obtain ⟨hid, howner⟩ := book_init_owner hok
    have hmem : document.2 ∈ s.documents (documentPath document.1) :=
      State.mem_querySnapshot hdocument
    refine ⟨document.2, ?_, howner⟩
    rw [docId, hid]
    exact hmem

theorem booksOwned_gradeSelected {s : State} {vc : TextBooksViewController} (h : BooksOwned s vc)
    (grade : Option Int) : BooksOwned s (vc.gradeSelected grade) := by
  intro book hbook
  exact h book (Or.inl (mem_of_mem_gradeSelected hbook))

theorem detailsGuarded_viewDidLoad {s : State} {user : Option FIRUser} {book : Book}
    {doc : Document} (hdoc : doc ∈ s.documents (docId book)) (howner : OwnedBy doc book.user.id) :
    DetailsGuarded s user
      { controller := BookDetailsViewController.viewDidLoad user book
        openedBy := user.map FIRUser.uid } where
  visible := fun hvisible =>
    ⟨doc, hdoc, book.user.id, howner, btnRequestIsHidden_eq_false.mp hvisible⟩
  stays := Or.inr rfl

theorem clientStep_guarded {s : State} {c : ClientId} {e : ClientEvent}
    (h : ClientGuarded s (s.clients c)) (hstay : AccountStays s (.client c e)) :
    ClientGuarded s (clientStep s (s.clients c) e) := by
  cases e with
  | session user =>
    -- the screen stays open, for an account that the condition admits
    refine ⟨h.books, ?_⟩
    intro details hdetails
    have hstays : Stays details.openedBy user := hstay.1 details hdetails
    exact ⟨(h.details details hdetails).visible, hstays⟩
  | load result =>
    simp only [clientStep]
    split
    · next catalogue hload => exact ⟨booksOwned_load h.books hload, h.details⟩
    · exact ⟨h.books, h.details⟩
  | gradeSelected grade => exact ⟨booksOwned_gradeSelected h.books grade, h.details⟩
  | openDetails item =>
    simp only [clientStep]
    split
    · -- a new screen, opened on a book of the catalogue
      next book hbook =>
      have hmem : book ∈ (s.clients c).catalogue.books := mem_of_bookAt hbook
      obtain ⟨doc, hdoc, howner⟩ := h.books book (Or.inr hmem)
      refine ⟨h.books, ?_⟩
      intro details hdetails
      injection hdetails with hdetails
      subst hdetails
      exact detailsGuarded_viewDidLoad hdoc howner
    · exact ⟨h.books, h.details⟩
  | closeDetails =>
    refine ⟨h.books, ?_⟩
    intro details hdetails
    cases hdetails

/-- A client step other than a change of session keeps the account. -/
theorem clientStep_currentUser (s : State) (client : Client) (e : ClientEvent) :
    (∃ user, e = .session user) ∨ (clientStep s client e).currentUser = client.currentUser := by
  cases e with
  | session user => exact Or.inl ⟨user, rfl⟩
  | load result =>
    simp only [clientStep]
    split <;> exact Or.inr rfl
  | gradeSelected grade => exact Or.inr rfl
  | openDetails item =>
    simp only [clientStep]
    split <;> exact Or.inr rfl
  | closeDetails => exact Or.inr rfl

-- ---------------------------------------------------------------------------
-- The system
-- ---------------------------------------------------------------------------

theorem guarded_initial {screens : Upload.ScreenId → Upload.Screen}
    {documents : String → Option Document} {users : ClientId → Option FIRUser}
    (hnone : ∀ path doc, documents path = some doc → storedRequests doc = []) :
    Guarded (initial screens documents users) where
  clients := by
    intro c
    -- the catalogue is empty, and no screen is open
    refine ⟨?_, ?_⟩
    · intro book hbook
      rcases hbook with hbook | hbook <;> cases hbook
    · intro details hdetails
      cases hdetails
  reads := nofun
  updates := nofun
  entries := by
    intro path doc hdoc e he
    have hdoc' : documents path = some doc := by simpa [initial] using hdoc
    rw [hnone path doc hdoc'] at he
    cases he

/-- What a step does to the account a client is signed in with. -/
theorem Effect.currentUser {s s' : State} {e : Event} (h : Effect s e s') (c : ClientId) :
    (∃ user, e = .client c (.session user) ∧ (s'.clients c).currentUser = user) ∨
      (s'.clients c).currentUser = (s.clients c).currentUser := by
  cases h with
  | @client c' ce =>
    by_cases heq : c = c'
    · subst heq
      rw [State.setClient_same]
      rcases clientStep_currentUser s (s.clients c) ce with ⟨user, rfl⟩ | hsame
      · exact Or.inl ⟨user, rfl, rfl⟩
      · exact Or.inr hsame
    · rw [State.setClient_ne s _ heq]
      exact Or.inr rfl
  | @dropped op result c' path openedBy issuedAt hop _ =>
    by_cases heq : c = c'
    · -- a crash keeps the account
      subst heq
      rw [State.setClient_same]
      exact Or.inr rfl
    · rw [State.setClient_ne _ _ heq]
      exact Or.inr rfl
  | _ => exact Or.inr rfl

theorem Effect.clients_guarded {s s' : State} {e : Event} (heffect : Effect s e s')
    (h : Guarded s) (hstay : AccountStays s e) (c : ClientId) :
    ClientGuarded s (s'.clients c) := by
  cases heffect with
  | @client c' ce =>
    by_cases heq : c = c'
    · subst heq
      rw [State.setClient_same]
      exact clientStep_guarded (h.clients c) hstay
    · rw [State.setClient_ne s _ heq]
      exact h.clients c
  | @dropped op result c' path openedBy issuedAt hop _ =>
    by_cases heq : c = c'
    · subst heq
      rw [State.setClient_same]
      exact ⟨(h.clients c).books, (h.clients c).details⟩
    · rw [State.setClient_ne _ _ heq]
      exact h.clients c
  | _ => exact h.clients c

theorem step_reads {s s' : State} {e : Event} (h : Guarded s) (hstay : AccountStays s e)
    (heffect : Effect s e s') {op : Nat} {c : ClientId} {path : String} {openedBy : Option String}
    {issuedAt : Nat} (hop : s'.operations op = some (.getDocument c path openedBy issuedAt)) :
    NotOwner s' path openedBy ∧ Stays openedBy (s'.clients c).currentUser := by
  have hbefore : NotOwner s path openedBy ∧ Stays openedBy (s.clients c).currentUser := by
    rcases heffect.getDocument_cases hop with hold | ⟨details, hdetails, hvisible, rfl, rfl⟩
    · exact h.reads op c path openedBy issuedAt hold
    · obtain ⟨hnotOwner, hstays⟩ := (h.clients c).details details hdetails
      exact ⟨hnotOwner hvisible, hstays⟩
  refine ⟨hbefore.1.mono heffect.documents_subset, ?_⟩
  -- and the account is the same, or the condition speaks of it
  rcases heffect.currentUser c with ⟨user, rfl, huser⟩ | hsame
  · -- the read was in flight when the session changed
    rw [huser]
    rcases heffect.getDocument_cases hop with hold | ⟨details, hdetails, -, rfl, rfl⟩
    · exact hstay.2 op path openedBy issuedAt hold
    · exact hstay.1 details hdetails
  · rw [hsame]
    exact hbefore.2

theorem step_updates {s s' : State} {e : Event} (h : Guarded s) (heffect : Effect s e s') {op : Nat}
    {path : String} {fields : Document} {user : FIRUser} {snapshot : Option DocumentSnapshot}
    (hop : s'.operations op = some (.updateData path fields (some user) snapshot)) :
    NotOwner s' path (some user.uid) := by
  rcases heffect.updateData_cases hop with hold |
    ⟨c, openedBy, issuedAt, u, result, hread, huser, heq, -, -, -⟩
  · exact (h.updates op path fields user snapshot hold).mono heffect.documents_subset
  · -- whoever is signed in when the read arrives is the account that opened the screen
    injection heq with heq
    subst heq
    obtain ⟨hnotOwner, hstays⟩ := h.reads op c path openedBy issuedAt hread
    rw [huser] at hstays
    have hopened : some user.uid = openedBy := hstays.resolve_left nofun
    rw [hopened]
    exact hnotOwner.mono heffect.documents_subset

/-- Every entry of a list that an update carries is of somebody else. -/
theorem newRequests_notOwner {s : State} (hs : Consistent s) (h : Guarded s) {op : Nat}
    {path : String} {fields : Document} {user : FIRUser} {snapshot : Option DocumentSnapshot}
    (hop : s.operations op = some (.updateData path fields (some user) snapshot)) {entry : Document}
    (hentry : entry ∈ newRequests (userData user) snapshot) :
    ∃ u, Value.map entry = .map (userData u) ∧ NotOwner s path (some u.uid) := by
  rcases mem_newRequests.mp hentry with ⟨data, requests, hdata, hcast, hold⟩ | rfl
  · -- an entry of the snapshot, and so of a state the document has been in
    have hmem : data ∈ s.documents path := (hs.sent _ _ _ _ _ hop).snapshot data hdata
    refine h.entries path data hmem _ ?_
    rw [storedRequests_of_cast hcast]
    exact List.mem_map_of_mem hold
  · -- the user's own entry
    exact ⟨user, rfl, h.updates _ _ _ _ _ hop⟩

theorem step_entries {s s' : State} {e : Event} (hs : Consistent s)
    (huploads : ∃ l, Upload.Tracks s'.uploads l) (h : Guarded s) (heffect : Effect s e s')
    {path : String} {doc : Document} (hdoc : doc ∈ s'.documents path) {entry : Value String}
    (hentry : entry ∈ storedRequests doc) :
    ∃ user, entry = .map (userData user) ∧ NotOwner s' path (some user.uid) := by
  rcases heffect.document_cases hdoc with hold | ⟨-, -, hadded⟩ |
    ⟨op, fields, user, snapshot, old, hop, -, rfl⟩
  · obtain ⟨user, heq, hnotOwner⟩ := h.entries path doc hold entry hentry
    exact ⟨user, heq, hnotOwner.mono heffect.documents_subset⟩
  · -- an added document has no requests
    obtain ⟨l, hl⟩ := huploads
    rw [hl.documents] at hadded
    obtain ⟨tap, -, rfl⟩ := List.mem_map.mp hadded
    simp [storedRequests, tap.document_requests] at hentry
  · -- an update: what it stores is what it carried
    obtain ⟨u, rfl, rfl⟩ := (hs.sent _ _ _ _ _ hop).fields
    rw [storedRequests_merge] at hentry
    obtain ⟨e, he, rfl⟩ := List.mem_map.mp hentry
    obtain ⟨user, heq, hnotOwner⟩ := newRequests_notOwner hs h hop he
    exact ⟨user, heq, hnotOwner.mono heffect.documents_subset⟩

theorem step_guarded {s s' : State} {e : Event} (hs : Consistent s)
    (huploads : ∃ l, Upload.Tracks s.uploads l) (h : Guarded s) (hstay : AccountStays s e)
    (hstep : step s e = some s') : Guarded s' := by
  have heffect : Effect s e s' := step_effect hstep
  have hsub : ∀ path, s.documents path ⊆ s'.documents path := heffect.documents_subset
  refine ⟨?_, ?_, ?_, ?_⟩
  · -- the clients, and their owners are still there
    intro c
    have hclient : ClientGuarded s (s'.clients c) := heffect.clients_guarded h hstay c
    exact hclient.mono hsub
  · -- the reads in flight
    intro op c path openedBy issuedAt hop
    exact step_reads h hstay heffect hop
  · -- the updates in flight
    intro op path fields user snapshot hop
    exact step_updates h heffect hop
  · -- the entries stored
    intro path doc hdoc entry hentry
    have huploads' : ∃ l, Upload.Tracks s'.uploads l := step_uploads huploads hstep
    exact step_entries hs huploads' h heffect hdoc hentry

/-- **Nobody requests their own book.** From documents without requests, in every run on whose
clients the account stays while a details screen is open or its read in flight, no document has
a request with the id of the document's user. -/
theorem no_request_by_owner {screens : Upload.ScreenId → Upload.Screen}
    {documents : String → Option Document} {users : ClientId → Option FIRUser}
    {es : List Event} {t : State}
    (hnone : ∀ path doc, documents path = some doc → storedRequests doc = [])
    (h : Run step (initial screens documents users) es t)
    (hstay : Always step AccountStays (initial screens documents users) es) :
    ∀ path, ∀ doc ∈ t.documents path, ∀ user entry : Document,
      doc "user" = some (.map user) → .map entry ∈ storedRequests doc →
        entry "id" ≠ user "id" := by
  have hend : Consistent t ∧ (∃ l, Upload.Tracks t.uploads l) ∧ Guarded t := by
    refine h.invariant_of_always
      (I := fun s => Consistent s ∧ (∃ l, Upload.Tracks s.uploads l) ∧ Guarded s) ?_ hstay
      ⟨consistent_initial _ _ _, ⟨_, Upload.tracks_initial screens⟩, guarded_initial hnone⟩
    rintro s e s' ⟨hs, huploads, hguarded⟩ hstay hstep
    exact ⟨step_consistent hs hstep, step_uploads huploads hstep,
      step_guarded hs huploads hguarded hstay hstep⟩
  obtain ⟨hconsistent, -, hguarded⟩ := hend
  intro path doc hdoc user entry huser hentry heq
  obtain ⟨u, hentryEq, other, hother, owner, ⟨owned, howned, hownerId⟩, hne⟩ :=
    hguarded.entries path doc hdoc _ hentry
  rw [Value.map_injective hentryEq, userData_id] at heq
  -- the document of the guard and this one agree on the user
  rw [hconsistent.sameFields path doc hdoc other hother "user" (by decide), howned] at huser
  have hsame : owned = user := Value.map_injective (Option.some.inj huser)
  subst hsame
  rw [hownerId] at heq
  exact hne (by simpa using heq)

/-- Bob requests Alice's book and signs out before the update is applied. -/
def requestThenSignOut : List Event :=
  [.client 0 (.load (.ok [("A", 0)])), .client 0 (.openDetails 0), .request 0 0,
    .readDone 0 (.found 0), .client 0 (.session none), .updateDone 0 true]

theorem request_then_sign_out_not_by_owner :
    ∃ t, Run step (initial Upload.filledScreens oneBook fun _ => some bob) requestThenSignOut t ∧
      (t.documents (documentPath "A")).map storedRequests = [[], [.map (userData bob)]] ∧
      ∀ path, ∀ doc ∈ t.documents path, ∀ user entry : Document,
        doc "user" = some (.map user) → .map entry ∈ storedRequests doc →
          entry "id" ≠ user "id" := by
  have hrun : ∃ t, Run step (initial Upload.filledScreens oneBook fun _ => some bob)
      requestThenSignOut t ∧
      (t.documents (documentPath "A")).map storedRequests = [[], [.map (userData bob)]] :=
    ⟨_, rfl, rfl⟩
  obtain ⟨t, hrun, hrequests⟩ := hrun
  refine ⟨t, hrun, hrequests, no_request_by_owner (fun path doc => storedRequests_oneBook) hrun ?_⟩
  exact ⟨trivial, trivial, trivial, trivial,
    ⟨fun _ _ => Or.inl rfl, fun _ _ _ _ _ => Or.inl rfl⟩, trivial, trivial⟩

end Bookshare.Requests
