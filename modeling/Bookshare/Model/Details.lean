import Bookshare.Model.Account

/-!
# Controllers/BookDetailsViewController.swift

`viewDidLoad`, the read `btnRequestTapped` issues, and the callback that turns
the snapshot into the fields given to `updateData`.

The callback never looks at its `error` argument: a failed read, a document
without data, a missing `requests` field and one of another type all reach the
same branch (`newRequests_eq`).
-/

namespace Bookshare

open Dynamic

/-- The screen after `viewDidLoad`. `bookImage` is the path whose picture is
loaded into the image view, if any. -/
structure BookDetailsViewController where
  book : Book
  bookImage : Option String
  bookTitle : String
  bookSubject : String
  bookAuthor : Option String
  bookGrade : String
  btnRequestIsHidden : Bool
  deriving DecidableEq, Repr

/-- `viewDidLoad()`; `book` is set by the segue that opens the screen. -/
def BookDetailsViewController.viewDidLoad (currentUser : Option FIRUser) (book : Book) :
    BookDetailsViewController where
  book := book
  bookImage := book.image.filter fun image => !image.isEmpty
  bookTitle := book.title
  bookSubject := book.subject
  bookAuthor := book.author.head?
  bookGrade := toString book.grade
  btnRequestIsHidden := !(currentUser.map FIRUser.uid != some book.user.id)

/-- A snapshot of one document; `data` is nil when the document does not exist. -/
structure DocumentSnapshot where
  data : Option Document

/-- Where a document of the `textbooks` collection lies. -/
def documentPath (documentID : String) : String := "/textbooks/" ++ documentID

/-- `docId` of `btnRequestTapped`. -/
def docId (book : Book) : String := documentPath book.id

/-- `snapshot?.data()?["requests"] as? [[String:Any]]` -/
def readRequests (snapshot : Option DocumentSnapshot) : Option (List Document) :=
  (snapshot.bind DocumentSnapshot.data).bind fun data => data.maps? "requests"

/-- The list the callback stores: the entry appended to the list it read, or on its own. -/
def newRequests (entry : Document) (snapshot : Option DocumentSnapshot) : List Document :=
  match readRequests snapshot with
  | some requests => requests ++ [entry]
  | none => [entry]

/-- The dictionary literal `["requests": newRequests]`. -/
def requestsField (requests : List Document) : Document :=
  Dict.empty.set "requests" (.array (requests.map .map))

/-- The callback of `getDocument`; its result goes to `updateData`. -/
def getDocumentCallback (currentUser : Option FIRUser) (snapshot : Option DocumentSnapshot)
    (_error : Option String) : Except Trap Document :=
  match currentUser with
  | none => .error notLoggedIn
  | some user => .ok (requestsField (newRequests (userData user) snapshot))

/-- The entries a document stores: the items of its `requests` array, whatever they are. -/
def storedRequests (doc : Document) : List (Value String) :=
  (doc "requests").elim [] Value.items

/-- The button shows exactly for an account other than the book's owner. -/
theorem btnRequestIsHidden_eq_false {currentUser : Option FIRUser} {book : Book} :
    (BookDetailsViewController.viewDidLoad currentUser book).btnRequestIsHidden = false ↔
      currentUser.map FIRUser.uid ≠ some book.user.id := by
  simp [BookDetailsViewController.viewDidLoad]

/-! ## The callback -/

theorem getDocumentCallback_eq_ok {currentUser : Option FIRUser}
    {snapshot : Option DocumentSnapshot} {error : Option String} {fields : Document} :
    getDocumentCallback currentUser snapshot error = .ok fields ↔
      ∃ user, currentUser = some user ∧
        fields = requestsField (newRequests (userData user) snapshot) := by
  cases currentUser <;> simp [getDocumentCallback, eq_comm]

theorem getDocumentCallback_eq_error {currentUser : Option FIRUser}
    {snapshot : Option DocumentSnapshot} {error : Option String} {trap : Trap} :
    getDocumentCallback currentUser snapshot error = .error trap ↔
      currentUser = none ∧ trap = notLoggedIn := by
  cases currentUser <;> simp [getDocumentCallback, eq_comm]

/-- The new list is what the cast gave, if anything, followed by the user's entry. -/
theorem newRequests_eq (entry : Document) (snapshot : Option DocumentSnapshot) :
    newRequests entry snapshot = (readRequests snapshot).getD [] ++ [entry] := by
  unfold newRequests
  cases readRequests snapshot <;> rfl

theorem readRequests_eq_some {snapshot : Option DocumentSnapshot} {requests : List Document} :
    readRequests snapshot = some requests ↔
      ∃ data, snapshot = some ⟨some data⟩ ∧ data.maps? "requests" = some requests := by
  match snapshot with
  | none => simp [readRequests]
  | some ⟨none⟩ => simp [readRequests]
  | some ⟨some data⟩ => simp [readRequests]

theorem readRequests_data (data : Document) :
    readRequests (some ⟨some data⟩) = data.maps? "requests" := rfl

/-- An entry of the new list is one of a `requests` field that was read and casts, or the
user's. -/
theorem mem_newRequests {entry e : Document} {snapshot : Option DocumentSnapshot} :
    e ∈ newRequests entry snapshot ↔
      (∃ data requests, snapshot = some ⟨some data⟩ ∧ data.maps? "requests" = some requests ∧
        e ∈ requests) ∨ e = entry := by
  rw [newRequests_eq, List.mem_append, List.mem_singleton]
  refine or_congr_left ?_
  constructor
  · intro he
    cases hread : readRequests snapshot with
    | none => simp [hread] at he
    | some requests =>
      rw [hread, Option.getD_some] at he
      obtain ⟨data, hdata, hcast⟩ := readRequests_eq_some.mp hread
      exact ⟨data, requests, hdata, hcast, he⟩
  · rintro ⟨data, requests, hdata, hcast, he⟩
    have hread : readRequests snapshot = some requests :=
      readRequests_eq_some.mpr ⟨data, hdata, hcast⟩
    rw [hread, Option.getD_some]
    exact he

/-! ## The stored document -/

theorem storedRequests_of_cast {doc : Document} {requests : List Document}
    (h : doc.maps? "requests" = some requests) : storedRequests doc = requests.map .map := by
  rw [Dict.maps?_eq_some] at h
  simp [storedRequests, h]

@[simp] theorem requestsField_requests (requests : List Document) :
    requestsField requests "requests" = some (.array (requests.map .map)) := by
  simp [requestsField]

theorem requestsField_ne (requests : List Document) {k : String} (h : k ≠ "requests") :
    requestsField requests k = none := by
  simp [requestsField, h]

/-- `updateData` with the callback's fields replaces `requests`. -/
theorem merge_requestsField (doc : Document) (requests : List Document) :
    doc.merge (requestsField requests) "requests" = some (.array (requests.map .map)) :=
  Dict.merge_eq_right (requestsField_requests requests)

/-- `updateData` with the callback's fields replaces nothing else. -/
theorem merge_requestsField_ne (doc : Document) (requests : List Document) {k : String}
    (h : k ≠ "requests") : doc.merge (requestsField requests) k = doc k :=
  Dict.merge_eq_left (requestsField_ne requests h)

@[simp] theorem storedRequests_merge (doc : Document) (requests : List Document) :
    storedRequests (doc.merge (requestsField requests)) = requests.map .map := by
  simp [storedRequests, merge_requestsField]

end Bookshare
