import Bookshare.Requests.Frame
import Bookshare.Upload.Format

/-!
# Every reachable document decodes

From an empty collection, uploads add documents that decode, and requests write
lists of entries that decode, whatever the snapshots they were computed from
were and whatever failed on the way. So no catalogue load reaches a trap of the
decoders, and no callback misses entries for want of a cast.

Main result: `reachable_documents_decode`.
-/

namespace Bookshare.Requests

open Dynamic Machine

/-- No `requests` field, or a nonempty list of users. -/
def RequestsDecode (doc : Document) : Prop :=
  doc "requests" = none ∨ ∃ requests, doc.maps? "requests" = some requests ∧ requests ≠ [] ∧
    ∀ request ∈ requests, ∃ user, User.init request = .ok user

/-- So the cast of the callback succeeds on a snapshot that has the field. -/
theorem RequestsDecode.readRequests {doc : Document} (h : RequestsDecode doc)
    (hpresent : doc "requests" ≠ none) : ∃ requests, readRequests (some ⟨some doc⟩) = some requests ∧
      requests ≠ [] ∧ ∀ request ∈ requests, ∃ user, User.init request = .ok user :=
  h.resolve_left hpresent

structure Decodable (doc : Document) : Prop where
  book : IsBook doc
  requests : RequestsDecode doc

-- ---------------------------------------------------------------------------
-- What is written decodes
-- ---------------------------------------------------------------------------

theorem decodable_of_tap {tap : Upload.Tap} (h : tap.Valid) : Decodable tap.document where
  book := isBook_withImage_submittedDoc h.checks _ _
  requests := Or.inl tap.document_requests

/-- The callback's list decodes when the snapshot does: it is the snapshot's, and one more user. -/
theorem newRequests_decode {snapshot : Option DocumentSnapshot} (user : FIRUser)
    (h : ∀ data, snapshot = some ⟨some data⟩ → RequestsDecode data) :
    ∀ request ∈ newRequests (userData user) snapshot, ∃ u, User.init request = .ok u := by
  intro request hmem
  rcases mem_newRequests.mp hmem with ⟨data, requests, hdata, hcast, hold⟩ | rfl
  · -- an entry of the snapshot
    rcases h data hdata with hnone | ⟨requests', hcast', -, hdecode⟩
    · rw [Dict.maps?_eq_some, hnone] at hcast
      cases hcast
    · have heq : requests = requests' := Option.some.inj (hcast.symm.trans hcast')
      rw [heq] at hold
      exact hdecode request hold
  · -- the user's own entry
    exact ⟨_, user_init_userData user⟩

theorem newRequests_ne_nil (entry : Document) (snapshot : Option DocumentSnapshot) :
    newRequests entry snapshot ≠ [] := by
  rw [newRequests_eq]
  simp

/-- An update of requests that decode leaves a document that decodes. -/
theorem Decodable.update {doc : Document} (h : Decodable doc) {requests : List Document}
    (hne : requests ≠ []) (hdecode : ∀ request ∈ requests, ∃ u, User.init request = .ok u) :
    Decodable (doc.merge (requestsField requests)) where
  book := by
    -- the title and the user are other fields
    obtain ⟨⟨title, htitle⟩, user, huser, hisUser⟩ := h.book
    refine ⟨⟨title, ?_⟩, user, ?_, hisUser⟩
    · rw [merge_requestsField_ne _ _ (by decide), htitle]
    · rw [merge_requestsField_ne _ _ (by decide), huser]
  requests := by
    have hcast : (doc.merge (requestsField requests)).maps? "requests" = some requests :=
      Dict.maps?_eq_some.mpr (merge_requestsField _ _)
    exact Or.inr ⟨requests, hcast, hne, hdecode⟩

-- ---------------------------------------------------------------------------
-- Runs
-- ---------------------------------------------------------------------------

theorem step_decodable {s s' : State} {e : Event} (hs : Consistent s)
    (huploads : ∃ l, Upload.Tracks s.uploads l)
    (h : ∀ path, ∀ doc ∈ s.documents path, Decodable doc) (hstep : step s e = some s') :
    ∀ path, ∀ doc ∈ s'.documents path, Decodable doc := by
  intro path doc hdoc
  rcases (step_effect hstep).document_cases hdoc with hold | ⟨-, -, hadded⟩ |
    ⟨op, fields, user, snapshot, old, hop, hold, rfl⟩
  · exact h path doc hold
  · -- an upload
    obtain ⟨l, hl⟩ := step_uploads huploads hstep
    rw [hl.documents] at hadded
    obtain ⟨tap, htap, rfl⟩ := List.mem_map.mp hadded
    have hvalid : tap.Valid := hl.valid tap (hl.kept.subset htap)
    exact decodable_of_tap hvalid
  · -- an update: the snapshot it was computed from decodes, like every state of the document
    have hsent := hs.sent _ _ _ _ _ hop
    obtain ⟨u, -, rfl⟩ := hsent.fields
    have hsnapshot : ∀ data, snapshot = some ⟨some data⟩ → RequestsDecode data := by
      intro data hdata
      exact (h path data (hsent.snapshot data hdata)).requests
    have hold' : Decodable old := h path old (State.current?_mem hold)
    exact hold'.update (newRequests_ne_nil _ _) (newRequests_decode u hsnapshot)

theorem run_decodable {screens : Upload.ScreenId → Upload.Screen}
    {users : ClientId → Option FIRUser} {es : List Event} {t : State}
    (h : Run step (initial screens (fun _ => none) users) es t) :
    ∀ path, ∀ doc ∈ t.documents path, Decodable doc := by
  have hend : Consistent t ∧ (∃ l, Upload.Tracks t.uploads l) ∧
      ∀ path, ∀ doc ∈ t.documents path, Decodable doc := by
    refine h.invariant (I := fun s => Consistent s ∧ (∃ l, Upload.Tracks s.uploads l) ∧
      ∀ path, ∀ doc ∈ s.documents path, Decodable doc) ?_
      ⟨consistent_initial _ _ _, ⟨_, Upload.tracks_initial screens⟩, fun _ _ hdoc => nomatch hdoc⟩
    -- one step keeps the three together
    rintro s e s' ⟨hs, huploads, hdocs⟩ hstep
    exact ⟨step_consistent hs hstep, step_uploads huploads hstep,
      step_decodable hs huploads hdocs hstep⟩
  exact hend.2.2

/-- **Every reachable collection decodes, and requests never damage a book.** Every state a
document has been in is a book, its `requests` are missing or a nonempty list of users, and its
other fields are those it was added with; so a load of the catalogue over any snapshot of the
collection does not trap, and the cast of a callback succeeds whenever its snapshot has the
field. -/
theorem reachable_documents_decode {screens : Upload.ScreenId → Upload.Screen}
    {users : ClientId → Option FIRUser} {es : List Event} {t : State}
    (h : Run step (initial screens (fun _ => none) users) es t) :
    (∀ path, ∀ doc ∈ t.documents path, IsBook doc ∧ RequestsDecode doc ∧
      ∀ added, (t.documents path).head? = some added → ∀ k ≠ "requests", doc k = added k) ∧
    (∀ (vc : TextBooksViewController) (documents : List TextBooksViewController.QueryDocument),
      (∀ document ∈ documents, document.2 ∈ t.documents (documentPath document.1)) →
        ∃ vc', vc.getDocumentsCallback (.ok documents) = .ok vc') ∧
    ∀ path result doc, t.snapshot path result = some ⟨some doc⟩ → doc "requests" ≠ none →
      ∃ requests, readRequests (t.snapshot path result) = some requests ∧ requests ≠ [] ∧
        ∀ request ∈ requests, ∃ user, User.init request = .ok user := by
  have hdecodable := run_decodable h
  refine ⟨?_, ?_, ?_⟩
  · -- the documents
    intro path doc hdoc
    refine ⟨(hdecodable path doc hdoc).book, (hdecodable path doc hdoc).requests, ?_⟩
    intro added hadded
    have hmem : added ∈ t.documents path := List.mem_of_head? hadded
    exact (run_consistent h).sameFields path doc hdoc added hmem
  · -- a load of them
    intro vc documents hdocuments
    have hbooks : ∀ document ∈ documents, IsBook document.2 := by
      intro document hmem
      exact (hdecodable _ _ (hdocuments document hmem)).book
    obtain ⟨books, hbooks⟩ := TextBooksViewController.exists_decodes_iff.mpr hbooks
    exact ⟨_, TextBooksViewController.getDocumentsCallback_eq_ok.mpr ⟨books, hbooks, rfl⟩⟩
  · -- a callback's snapshot of one
    intro path result doc hsnapshot hpresent
    rw [hsnapshot]
    have hdoc : doc ∈ t.documents path := State.mem_of_snapshot hsnapshot
    exact (hdecodable path doc hdoc).requests.readRequests hpresent

/-- Alice uploads a book; Bob loads the catalogue, opens the book and requests it. -/
def uploadAndRequest : List Event :=
  [.upload (.submit 0 "U1") "A", .upload (.putDataDone "U1" .stored) "A",
    .upload (.addDocumentDone "U1" none) "A", .client 0 (.load (.ok [("A", 0)])),
    .client 0 (.openDetails 0), .request 0 0, .readDone 0 (.found 0), .updateDone 0 true]

theorem upload_and_request_decode :
    ∃ t, Run step (initial Upload.filledScreens (fun _ => none) fun _ => some bob)
        uploadAndRequest t ∧
      (t.documents (documentPath "A")).map storedRequests = [[], [.map (userData bob)]] ∧
      (∀ path, ∀ doc ∈ t.documents path, IsBook doc ∧ RequestsDecode doc ∧
        ∀ added, (t.documents path).head? = some added → ∀ k ≠ "requests", doc k = added k) ∧
      (∀ (vc : TextBooksViewController) (documents : List TextBooksViewController.QueryDocument),
        (∀ document ∈ documents, document.2 ∈ t.documents (documentPath document.1)) →
          ∃ vc', vc.getDocumentsCallback (.ok documents) = .ok vc') ∧
      ∀ path result doc, t.snapshot path result = some ⟨some doc⟩ → doc "requests" ≠ none →
        ∃ requests, readRequests (t.snapshot path result) = some requests ∧ requests ≠ [] ∧
          ∀ request ∈ requests, ∃ user, User.init request = .ok user := by
  have hrun : ∃ t, Run step (initial Upload.filledScreens (fun _ => none) fun _ => some bob)
      uploadAndRequest t ∧
      (t.documents (documentPath "A")).map storedRequests = [[], [.map (userData bob)]] :=
    ⟨_, rfl, rfl⟩
  obtain ⟨t, hrun, hrequests⟩ := hrun
  exact ⟨t, hrun, hrequests, reachable_documents_decode hrun⟩

end Bookshare.Requests
