import Bookshare.Requests.Decoding

/-!
# Where the books on the screens come from

From an empty collection, each document is the work of one tap on Submit, and
what clients show of it later went through requests that rewrote the document,
snapshots that may be old, the decoder and the filter. Two invariants follow a
book back: the documents line up with those the upload screens have added
(`Listed`), and a client only shows what some state of a document decodes to
(`ShowsDecoded`).

Main result: `shown_books_come_from_taps`.
-/

namespace Bookshare.Requests

open Dynamic Machine TextBooksViewController

/-- The client has the book in its catalogue, or has its details open. -/
def Client.Shows (client : Client) (book : Book) : Prop :=
  book ∈ client.catalogue.originalBooks ∨ book ∈ client.catalogue.books ∨
    ∃ details, client.details = some details ∧ details.controller.book = book

/-- The document at `path` is what `tap` has uploaded, but for the requests made since. -/
structure Source (s : State) (path : String) (tap : Upload.Tap) : Prop where
  exists_doc : s.documents path ≠ []
  fields : ∀ doc ∈ s.documents path, ∀ k ≠ "requests", doc k = tap.document k

/-- `book` shows what the user of `tap` entered, and the picture stored for it. The author is the
decoder's default, whatever was entered. -/
structure ShownFor (objects : String → Option Data) (book : Book) (tap : Upload.Tap) : Prop where
  title : tap.form.txtTitle = some book.title
  subject : tap.form.txtSubject = some book.subject
  condition : tap.form.txtCondition = some book.condition
  author : book.author = ["None Given"]
  grade : ∃ grade, tap.form.txtGrades = some grade ∧
    book.grade = (Decimal.parse intWidth grade).getD (-1)
  image : book.image = some (imagePath tap.uniqueId)
  stored : ∃ image data, tap.form.image = some image ∧ image.pngData = some data ∧
    objects (imagePath tap.uniqueId) = some data
  owner : book.user = { name := tap.user.displayName.getD "Some Student"
                        id := tap.user.uid
                        photo := tap.user.photoURL.map URL.path }

/-- The taps a step starts an upload for. -/
def startedUploads (s : State) : Event → List Upload.Tap
  | .upload e _ => Upload.startedUpload s.uploads e
  | _ => []

-- ---------------------------------------------------------------------------
-- Documents and uploads
-- ---------------------------------------------------------------------------

/-- The documents are those added by the upload screens, in this order, but for their requests. -/
structure Listed (s : State) (paths : List String) : Prop where
  nodup : paths.Nodup
  mem : ∀ path, path ∈ paths ↔ s.documents path ≠ []
  added : List.Forall₂ (fun path added => ∀ doc ∈ s.documents path, ∀ k ≠ "requests",
    doc k = added k) paths s.uploads.documents

/-- The upload screens add documents one at a time, at the end. -/
theorem uploads_documents {s s' : Upload.State} {e : Upload.Event}
    (h : Upload.step s e = some s') :
    s'.documents = s.documents ∨ ∃ doc, s'.documents = s.documents ++ [doc] := by
  rcases Upload.step_cases h with ⟨⟨screens, rfl⟩, -⟩ | ⟨k, tap, -, -, data, -, -, -, rfl⟩ |
    ⟨uniqueId, result, k, path, data, doc, -, -, rfl⟩ | ⟨uniqueId, error, k, doc, -, -, rfl⟩
  · exact Or.inl rfl
  · exact Or.inl rfl
  · exact Or.inl rfl
  · rw [Upload.addDocumentDone_documents]
    split
    · exact Or.inr ⟨doc, rfl⟩
    · exact Or.inl rfl

/-- A document that is added is the last the upload screens have added. -/
theorem step_upload {s s' : State} {e : Upload.Event} {documentID : String}
    (h : step s (.upload e documentID) = some s') :
    Upload.step s.uploads e = some s'.uploads ∧
      ((s'.documents = s.documents ∧ s'.uploads.documents = s.uploads.documents) ∨
        ∃ doc, s.documents (documentPath documentID) = [] ∧
          s'.uploads.documents = s.uploads.documents ++ [doc] ∧
          s'.documents = Function.update s.documents (documentPath documentID) [doc]) := by
  obtain ⟨uploads, huploads, h⟩ := Option.bind_eq_some_iff.mp h
  rcases uploads_documents huploads with hsame | ⟨doc, hmore⟩
  · simp only [hsame, List.drop_length, List.head?_nil, Option.some.injEq] at h
    subst h
    exact ⟨huploads, Or.inl ⟨rfl, hsame⟩⟩
  · simp only [hmore, List.drop_left, List.head?_cons, Option.ite_none_right_eq_some,
      List.isEmpty_iff, Option.some.injEq] at h
    obtain ⟨hfresh, rfl⟩ := h
    refine ⟨huploads, Or.inr ⟨doc, hfresh, hmore, ?_⟩⟩
    simp [State.write, hfresh]

/-- A document that is added is listed last. -/
theorem Listed.add {s s' : State} {paths : List String} (h : Listed s paths) {path : String}
    {doc : Document} (hfresh : s.documents path = [])
    (huploads : s'.uploads.documents = s.uploads.documents ++ [doc])
    (hdocuments : s'.documents = Function.update s.documents path [doc]) :
    Listed s' (paths ++ [path]) := by
  have hnew : path ∉ paths := by
    rw [h.mem]
    exact not_not.mpr hfresh
  refine ⟨?_, fun path' => ?_, ?_⟩
  · rw [List.nodup_append']
    exact ⟨h.nodup, List.nodup_singleton _, by simpa using hnew⟩
  · rw [List.mem_append, List.mem_singleton, h.mem, hdocuments]
    by_cases hpath : path' = path
    · simp [hpath]
    · simp [hpath]
  · rw [huploads]
    refine List.rel_append ?_ (List.Forall₂.cons ?_ List.Forall₂.nil)
    · -- those listed before are other ones
      have hlisted := (List.forall₂_and_left _ _).mpr ⟨fun path' hmem => hmem, h.added⟩
      refine hlisted.imp fun path' added hadded => ?_
      rw [hdocuments, Function.update_of_ne (ne_of_mem_of_not_mem hadded.1 hnew)]
      exact hadded.2
    · rw [hdocuments, Function.update_self]
      intro doc' hdoc' k _
      rw [List.mem_singleton.mp hdoc']

/-- A request changes nothing but `requests`. -/
theorem Listed.update {s : State} {paths : List String} (h : Listed s paths) {op : Nat}
    {path : String} {doc : Document} {requests : List Document}
    (hdoc : s.current? path = some doc) :
    Listed ((s.setOperation op none).write path (doc.merge (requestsField requests))) paths := by
  have hmem : doc ∈ s.documents path := State.current?_mem hdoc
  refine ⟨h.nodup, fun path' => ?_, h.added.imp fun path' added hadded doc' hdoc' k hk => ?_⟩
  · -- the document was there before
    rw [h.mem]
    by_cases hpath : path' = path
    · rw [hpath, State.write_documents_same]
      exact iff_of_true (List.ne_nil_of_mem hmem) (List.concat_ne_nil _ _)
    · rw [State.write_documents_ne _ _ hpath]
      rfl
  · rcases State.mem_write.mp hdoc' with hold | ⟨rfl, rfl⟩
    · exact hadded doc' hold k hk
    · rw [merge_requestsField_ne doc requests hk]
      exact hadded doc hmem k hk

theorem step_listed {s s' : State} {e : Event} (hs : Consistent s)
    (h : ∃ paths, Listed s paths) (hstep : step s e = some s') : ∃ paths, Listed s' paths := by
  obtain ⟨paths, h⟩ := h
  -- what the upload screens do
  have hupload : ∀ ue documentID, step s (.upload ue documentID) = some s' →
      ∃ paths, Listed s' paths := by
    intro ue documentID hstep
    rcases (step_upload hstep).2 with ⟨hdocuments, huploads⟩ | ⟨doc, hfresh, huploads, hdocuments⟩
    · refine ⟨paths, h.nodup, ?_, ?_⟩
      · rw [hdocuments]
        exact h.mem
      · rw [hdocuments, huploads]
        exact h.added
    · exact ⟨_, h.add hfresh huploads hdocuments⟩
  cases step_effect hstep with
  | uploads _ => exact hupload _ _ hstep
  | added _ _ _ => exact hupload _ _ hstep
  | updateApplied hop hdoc =>
    obtain ⟨u, -, rfl⟩ := (hs.sent _ _ _ _ _ hop).fields
    exact ⟨paths, h.update hdoc⟩
  | _ => exact ⟨paths, h.nodup, h.mem, h.added⟩

-- ---------------------------------------------------------------------------
-- What clients show
-- ---------------------------------------------------------------------------

/-- `book` is what its document decodes to, in some state it has been in. -/
def DecodedAt (s : State) (book : Book) : Prop :=
  ∃ doc ∈ s.documents (docId book), Book.init book.id doc = .ok book

def ShowsDecoded (s : State) : Prop :=
  ∀ c book, (s.clients c).Shows book → DecodedAt s book

/-- Clients that have done nothing yet show nothing. -/
theorem showsDecoded_initial (screens : Upload.ScreenId → Upload.Screen)
    (documents : String → Option Document) (users : ClientId → Option FIRUser) :
    ShowsDecoded (initial screens documents users) := by
  rintro c book (hbook | hbook | ⟨details, hdetails, -⟩)
  · cases hbook
  · cases hbook
  · cases hdetails

/-- The books of a load are decoded from states their documents have been in. -/
theorem decodedAt_of_load {s : State} {vc vc' : TextBooksViewController}
    {items : List (String × Nat)} {book : Book}
    (hload : vc.getDocumentsCallback (.ok (s.querySnapshot items)) = .ok vc')
    (hbook : book ∈ vc'.originalBooks ∨ book ∈ vc'.books) : DecodedAt s book := by
  obtain ⟨books, hdecodes, rfl⟩ := getDocumentsCallback_eq_ok.mp hload
  obtain ⟨document, hdocument, hok⟩ := hdecodes.mem (or_self_iff.mp hbook)
  have hid : book.id = document.1 := (book_init_owner hok).1
  have hmem := State.mem_querySnapshot hdocument
  rw [← hid] at hmem hok
  exact ⟨document.2, hmem, hok⟩

/-- A client comes to show a book by loading it; filtering and opening only pass it on. -/
theorem clientStep_shows {s : State} {client : Client} {e : ClientEvent} {book : Book}
    (h : (clientStep s client e).Shows book) : client.Shows book ∨ DecodedAt s book := by
  cases e with
  | session user => exact Or.inl h
  | load result =>
    simp only [clientStep] at h
    split at h
    · next catalogue hload =>
      rcases h with horiginal | hbooks | hdetails
      · cases result with
        | error err => exact Or.inl (Or.inl (Except.ok.inj hload ▸ horiginal))
        | ok items => exact Or.inr (decodedAt_of_load hload (Or.inl horiginal))
      · cases result with
        | error err => exact Or.inl (Or.inr (Or.inl (Except.ok.inj hload ▸ hbooks)))
        | ok items => exact Or.inr (decodedAt_of_load hload (Or.inr hbooks))
      · exact Or.inl (Or.inr (Or.inr hdetails))
    · exact Or.inl h
  | gradeSelected grade =>
    rcases h with horiginal | hbooks | hdetails
    · exact Or.inl (Or.inl (mem_of_mem_gradeSelected (Or.inl horiginal)))
    · exact Or.inl (Or.inl (mem_of_mem_gradeSelected (Or.inr hbooks)))
    · exact Or.inl (Or.inr (Or.inr hdetails))
  | openDetails item =>
    simp only [clientStep] at h
    split at h
    · next opened hopened =>
      rcases h with horiginal | hbooks | ⟨details, hdetails, hbook⟩
      · exact Or.inl (Or.inl horiginal)
      · exact Or.inl (Or.inr (Or.inl hbooks))
      · -- the screen is opened on the book of the cell
        injection hdetails with hdetails
        subst hdetails
        have hsame : opened = book := hbook
        exact Or.inl (Or.inr (Or.inl (hsame ▸ mem_of_bookAt hopened)))
    · exact Or.inl h
  | closeDetails =>
    rcases h with horiginal | hbooks | ⟨details, hdetails, -⟩
    · exact Or.inl (Or.inl horiginal)
    · exact Or.inl (Or.inr (Or.inl hbooks))
    · cases hdetails

theorem Effect.shows {s s' : State} {e : Event} (h : Effect s e s') {c : ClientId} {book : Book}
    (hshows : (s'.clients c).Shows book) : (s.clients c).Shows book ∨ DecodedAt s book := by
  cases h with
  | @client c' ce =>
    by_cases heq : c = c'
    · subst heq
      rw [State.setClient_same] at hshows
      exact clientStep_shows hshows
    · rw [State.setClient_ne s _ heq] at hshows
      exact Or.inl hshows
  | @dropped op result c' path openedBy issuedAt hop _ =>
    by_cases heq : c = c'
    · -- a client that crashes shows no other books
      subst heq
      rw [State.setClient_same] at hshows
      exact Or.inl hshows
    · rw [State.setClient_ne _ _ heq] at hshows
      exact Or.inl hshows
  | _ => exact Or.inl hshows

theorem step_showsDecoded {s s' : State} {e : Event} (h : ShowsDecoded s)
    (hstep : step s e = some s') : ShowsDecoded s' := by
  intro c book hshows
  have heffect := step_effect hstep
  have hdecoded : DecodedAt s book := (heffect.shows hshows).elim (h c book) id
  obtain ⟨doc, hdoc, hok⟩ := hdecoded
  exact ⟨doc, heffect.documents_subset _ hdoc, hok⟩

-- ---------------------------------------------------------------------------
-- From the book to the tap
-- ---------------------------------------------------------------------------

/-- The decoder does not look at `requests`. -/
theorem book_init_congr {doc doc' : Document} (h : ∀ k ≠ "requests", doc k = doc' k) (id : String) :
    Book.init id doc = Book.init id doc' := by
  simp only [Book.init, Dict.string?, Dict.map?, Dict.strings?, decodeGrade,
    h "title" (by decide), h "user" (by decide), h "author" (by decide), h "image" (by decide),
    h "grade" (by decide), h "subject" (by decide), h "condition" (by decide)]

theorem shownFor_of_decoded {objects : String → Option Data} {tap : Upload.Tap} {doc : Document}
    {book : Book} (hvalid : tap.Valid) (hstored : tap.Stored objects)
    (hfields : ∀ k ≠ "requests", doc k = tap.document k) (hok : Book.init book.id doc = .ok book) :
    ShownFor objects book tap := by
  obtain ⟨title, grade, subject, condition, htitle, hgrade, hsubject, hcondition, hbook⟩ :=
    book_init_addedDocument hvalid.checks tap.user { path := some (imagePath tap.uniqueId) } book.id
  rw [book_init_congr hfields, Upload.Tap.document, hbook] at hok
  injection hok with hok
  obtain ⟨data, hpng⟩ := Option.isSome_iff_exists.mp hvalid.png
  obtain ⟨image, himage, hdata⟩ := Option.bind_eq_some_iff.mp hpng
  rw [← hok]
  exact {
    title := htitle
    subject := hsubject
    condition := hcondition
    author := rfl
    grade := ⟨grade, hgrade, rfl⟩
    image := rfl
    stored := ⟨image, data, himage, hdata, hstored.trans hpng⟩
    owner := rfl }

/-- What is known of every state reached from an empty collection, `taps` having started an
upload. -/
structure Sourced (taps : List Upload.Tap) (s : State) : Prop where
  consistent : Consistent s
  ledger : ∃ l, Upload.Tracks s.uploads l ∧ l.issued = taps
  listed : ∃ paths, Listed s paths
  shows : ShowsDecoded s

theorem sourced_initial (screens : Upload.ScreenId → Upload.Screen)
    (users : ClientId → Option FIRUser) : Sourced [] (initial screens (fun _ => none) users) where
  consistent := consistent_initial _ _ _
  ledger := ⟨_, Upload.tracks_initial screens, rfl⟩
  listed := ⟨[], List.nodup_nil, fun _ => iff_of_false List.not_mem_nil (not_not.mpr rfl), .nil⟩
  shows := showsDecoded_initial _ _ _

theorem step_ledger {taps : List Upload.Tap} {s s' : State} {e : Event}
    (h : ∃ l, Upload.Tracks s.uploads l ∧ l.issued = taps) (hstep : step s e = some s') :
    ∃ l, Upload.Tracks s'.uploads l ∧ l.issued = taps ++ startedUploads s e := by
  obtain ⟨l, hl, rfl⟩ := h
  cases e with
  | upload e documentID => exact Upload.step_tracks hl (step_upload hstep).1
  | _ =>
    -- the upload screens have no part in it
    have hsame : s'.uploads = s.uploads := by cases step_effect hstep <;> rfl
    exact ⟨l, hsame ▸ hl, (List.append_nil _).symm⟩

theorem step_sourced {taps : List Upload.Tap} {s s' : State} {e : Event} (h : Sourced taps s)
    (hstep : step s e = some s') : Sourced (taps ++ startedUploads s e) s' where
  consistent := step_consistent h.consistent hstep
  ledger := step_ledger h.ledger hstep
  listed := step_listed h.consistent h.listed hstep
  shows := step_showsDecoded h.shows hstep

theorem run_sourced {screens : Upload.ScreenId → Upload.Screen}
    {users : ClientId → Option FIRUser} {es : List Event} {t : State}
    (h : Run step (initial screens (fun _ => none) users) es t) :
    Sourced (collect step startedUploads (initial screens (fun _ => none) users) es) t :=
  h.collect_invariant (fun _ _ _ _ hs hstep => step_sourced hs hstep) (sourced_initial _ _)

section

variable {taps : List Upload.Tap} {s : State}

/-- The documents are what the settled taps have uploaded, one each. -/
theorem Listed.sources {l : Ledger Upload.Tap} {paths : List String} (h : Listed s paths)
    (hl : Upload.Tracks s.uploads l) : List.Forall₂ (Source s) paths l.settled := by
  have hadded := h.added
  rw [hl.documents, List.forall₂_map_right_iff] at hadded
  have hlisted := (List.forall₂_and_left _ _).mpr ⟨fun path hmem => hmem, hadded⟩
  exact hlisted.imp fun path tap hsource => ⟨(h.mem path).mp hsource.1, hsource.2⟩

/-- A document stems from a settled tap. -/
theorem Listed.source {l : Ledger Upload.Tap} {paths : List String} (h : Listed s paths)
    (hl : Upload.Tracks s.uploads l) {path : String} (hpath : s.documents path ≠ []) :
    ∃ (i : Nat) (tap : Upload.Tap), paths[i]? = some path ∧ l.settled[i]? = some tap ∧
      Source s path tap := by
  obtain ⟨hlength, hsources⟩ := List.forall₂_iff_get.mp (h.sources hl)
  obtain ⟨i, hi, rfl⟩ := List.getElem_of_mem ((h.mem path).mpr hpath)
  have hi' : i < l.settled.length := hlength ▸ hi
  exact ⟨i, l.settled[i], List.getElem?_eq_getElem hi, List.getElem?_eq_getElem hi',
    hsources i hi hi'⟩

/-- The image field tells the taps apart. -/
theorem Source.uniqueId_eq {path : String} {tap tap' : Upload.Tap} (h : Source s path tap)
    (h' : Source s path tap') : tap.uniqueId = tap'.uniqueId := by
  obtain ⟨doc, hdoc⟩ := List.exists_mem_of_ne_nil _ h.exists_doc
  have himage : tap.document "image" = tap'.document "image" := by
    rw [← h.fields doc hdoc "image" (by decide), ← h'.fields doc hdoc "image" (by decide)]
  simp only [Upload.Tap.document, withImage_image, Option.getD_some, Option.some.injEq,
    Value.string.injEq] at himage
  exact imagePath_injective himage

/-- A tap is the source of one document at most. -/
theorem Sourced.path_unique (h : Sourced taps s) {path path' : String} {tap : Upload.Tap}
    (hpath : Source s path tap) (hpath' : Source s path' tap) : path = path' := by
  obtain ⟨l, hl, -⟩ := h.ledger
  obtain ⟨paths, hlisted⟩ := h.listed
  obtain ⟨i, first, hi, hfirst, hsource⟩ := hlisted.source hl hpath.exists_doc
  obtain ⟨j, second, hj, hsecond, hsource'⟩ := hlisted.source hl hpath'.exists_doc
  have hkey : first.uniqueId = second.uniqueId :=
    (hsource.uniqueId_eq hpath).trans (hpath'.uniqueId_eq hsource')
  have heq : first = second := hl.kept.eq_of_key (hl.kept.subset (List.mem_of_getElem? hfirst))
    (hl.kept.subset (List.mem_of_getElem? hsecond)) hkey
  -- settled taps are not repeated, so the positions are the same
  subst heq
  have hlt := (List.getElem?_eq_some_iff.mp hfirst).1
  have hsame : i = j :=
    (List.getElem?_inj hlt hl.kept.settled).mp (hfirst.trans hsecond.symm)
  subst hsame
  exact Option.some.inj (hi.symm.trans hj)

/-- Every document has a tap it stems from, and that is what clients show of it. -/
theorem Sourced.exists_source (h : Sourced taps s) {path : String} (hpath : s.documents path ≠ []) :
    ∃ tap ∈ taps, Source s path tap ∧ ∀ c book, (s.clients c).Shows book → docId book = path →
      ShownFor s.uploads.objects book tap := by
  obtain ⟨l, hl, rfl⟩ := h.ledger
  obtain ⟨paths, hlisted⟩ := h.listed
  obtain ⟨i, tap, -, htap, hsource⟩ := hlisted.source hl hpath
  have hsettled : tap ∈ l.settled := List.mem_of_getElem? htap
  have hissued : tap ∈ l.issued := hl.kept.subset hsettled
  refine ⟨tap, hissued, hsource, ?_⟩
  rintro c book hshows rfl
  obtain ⟨doc, hdoc, hok⟩ := h.shows c book hshows
  exact shownFor_of_decoded (hl.valid tap hissued) (hl.stored tap hsettled)
    (hsource.fields doc hdoc) hok

end

-- ---------------------------------------------------------------------------
-- Runs
-- ---------------------------------------------------------------------------

/-- **Every book on a screen comes from its own tap.** From an empty collection, whatever is
uploaded, requested, loaded late, filtered, lost or reordered: each document stems from a tap of
the run that started an upload, no two from the same one, and every book a client shows has the
texts, the owner and the stored picture of the tap that its document stems from. Its grade is the
number the grade text parses to, or -1. -/
theorem shown_books_come_from_taps {screens : Upload.ScreenId → Upload.Screen}
    {users : ClientId → Option FIRUser} {es : List Event} {t : State}
    (h : Run step (initial screens (fun _ => none) users) es t) :
    (∀ path, t.documents path ≠ [] →
      ∃ tap ∈ collect step startedUploads (initial screens (fun _ => none) users) es,
        Source t path tap) ∧
    (∀ path path' tap, Source t path tap → Source t path' tap → path = path') ∧
    ∀ c book, (t.clients c).Shows book →
      ∃ tap ∈ collect step startedUploads (initial screens (fun _ => none) users) es,
        Source t (docId book) tap ∧ ShownFor t.uploads.objects book tap := by
  have hsourced := run_sourced h
  refine ⟨?_, fun _ _ _ => hsourced.path_unique, ?_⟩
  · intro path hpath
    obtain ⟨tap, htap, hsource, -⟩ := hsourced.exists_source hpath
    exact ⟨tap, htap, hsource⟩
  · intro c book hshows
    obtain ⟨doc, hdoc, -⟩ := hsourced.shows c book hshows
    obtain ⟨tap, htap, hsource, hshown⟩ := hsourced.exists_source (List.ne_nil_of_mem hdoc)
    exact ⟨tap, htap, hsource, hshown c book hshows rfl⟩

/-- Alice's book on Bob's screen, with Bob's request stored in between. -/
theorem uploaded_book_is_shown :
    ∃ t book, Run step (initial Upload.filledScreens (fun _ => none) fun _ => some bob)
        uploadAndRequest t ∧ (t.clients 0).Shows book ∧
      ∃ tap ∈ collect step startedUploads
          (initial Upload.filledScreens (fun _ => none) fun _ => some bob) uploadAndRequest,
        Source t (docId book) tap ∧ ShownFor t.uploads.objects book tap := by
  have hrun : ∃ t book, Run step (initial Upload.filledScreens (fun _ => none) fun _ => some bob)
      uploadAndRequest t ∧ book ∈ (t.clients 0).catalogue.books :=
    ⟨_, _, rfl, List.mem_cons_self⟩
  obtain ⟨t, book, hrun, hbook⟩ := hrun
  have hshows : (t.clients 0).Shows book := Or.inr (Or.inl hbook)
  exact ⟨t, book, hrun, hshows, (shown_books_come_from_taps hrun).2.2 0 book hshows⟩

end Bookshare.Requests
