import Bookshare.Model.Book
import Mathlib.Data.Finset.Sort

/-!
# Controllers/TextBooksViewController.swift

The catalogue: what a completed `getDocuments` does to `originalBooks` and
`books`, what the filter does to `books`, and the book handed to the details
screen.

`getDocumentsCallback_eq_ok` says what a load leaves behind in terms of
`Decodes`, the relation between the documents of a snapshot and the books they
decode to, so that nothing else has to follow the loop.
-/

namespace Bookshare

structure TextBooksViewController where
  books : List Book
  originalBooks : List Book
  filterGrade : Option Int
  deriving DecidableEq, Repr

namespace TextBooksViewController

/-- The controller before its first load. -/
def initial : TextBooksViewController where
  books := []
  originalBooks := []
  filterGrade := none

/-- A document of a query snapshot: its `documentID` and its data. -/
abbrev QueryDocument := String × Document

/-- The loop over `querySnapshot!.documents`. -/
def appendDocuments (vc : TextBooksViewController) :
    List QueryDocument → Except Trap TextBooksViewController
  | [] => .ok vc
  | (documentID, value) :: documents =>
    match Book.init documentID value with
    | .error trap => .error trap
    | .ok book =>
      { vc with
        originalBooks := vc.originalBooks ++ [book]
        books := vc.books ++ [book] }.appendDocuments documents

/-- The callback of `getTextBooksAndReload`: an error changes nothing, a snapshot replaces
both lists. The filter is not applied. -/
def getDocumentsCallback (vc : TextBooksViewController)
    (result : Except String (List QueryDocument)) : Except Trap TextBooksViewController :=
  match result with
  | .error _ => .ok vc
  | .ok documents => { vc with originalBooks := [], books := [] }.appendDocuments documents

/-- `showBooksFor(grade:)` -/
def showBooksFor (vc : TextBooksViewController) (grade : Option Int) : TextBooksViewController :=
  match grade with
  | some gradeSelected =>
    { vc with books := vc.originalBooks.filter fun book => book.grade == gradeSelected }
  | none => { vc with books := [] ++ vc.originalBooks }

/-- `getGradesFromBooks()`: the grades are inserted into a set, and the set is sorted. -/
def getGradesFromBooks (vc : TextBooksViewController) : List Int :=
  (vc.originalBooks.foldl (fun grades book => insert book.grade grades) ∅ : Finset Int).sort (· ≤ ·)

/-- The `gradeSelected` closure given to the filter screen. -/
def gradeSelected (vc : TextBooksViewController) (grade : Option Int) : TextBooksViewController :=
  { vc with filterGrade := grade }.showBooksFor grade

/-- `books[indexPath.item]` of the segue to the details screen. -/
def bookAt (vc : TextBooksViewController) (item : Nat) : Except Trap Book :=
  match vc.books[item]? with
  | some book => .ok book
  | none => .error "Index out of range"

/-- `collectionView(_:numberOfItemsInSection:)` -/
def numberOfItemsInSection (vc : TextBooksViewController) : Nat := vc.books.length

/-- `collectionView(_:cellForItemAt:)`: the book the cell is configured with. -/
def cellForItemAt (vc : TextBooksViewController) (item : Nat) : Except Trap Book := vc.bookAt item

/-! ## Loads -/

/-- The documents decode, in order, to these books. -/
def Decodes (documents : List QueryDocument) (books : List Book) : Prop :=
  List.Forall₂ (fun document book => Book.init document.1 document.2 = .ok book) documents books

theorem appendDocuments_eq_ok {vc vc' : TextBooksViewController} {documents : List QueryDocument} :
    vc.appendDocuments documents = .ok vc' ↔
      ∃ books, Decodes documents books ∧
        vc' = { vc with
          originalBooks := vc.originalBooks ++ books
          books := vc.books ++ books } := by
  induction documents generalizing vc with
  | nil => simp [appendDocuments, Decodes, eq_comm]
  | cons document documents ih =>
    obtain ⟨documentID, value⟩ := document
    unfold appendDocuments
    cases hbook : Book.init documentID value with
    | error trap =>
      -- the loop ends in the trap, and no list of books is decoded to
      simp [Decodes, List.forall₂_cons_left_iff, hbook]
    | ok book =>
      -- the book goes to the end of both lists, and the loop goes on from there
      rw [ih]
      simp [Decodes, List.forall₂_cons_left_iff, hbook]

/-- A load that is not an error and does not trap leaves the decoded snapshot in both lists. -/
theorem getDocumentsCallback_eq_ok {vc vc' : TextBooksViewController}
    {documents : List QueryDocument} :
    vc.getDocumentsCallback (.ok documents) = .ok vc' ↔
      ∃ books, Decodes documents books ∧ vc' = { vc with originalBooks := books, books } := by
  simp [getDocumentsCallback, appendDocuments_eq_ok]

/-- A failed load leaves everything as it was. -/
theorem getDocumentsCallback_error (vc : TextBooksViewController) (err : String) :
    vc.getDocumentsCallback (.error err) = .ok vc := rfl

/-- A snapshot decodes when each of its documents does. -/
theorem exists_decodes_iff {documents : List QueryDocument} :
    (∃ books, Decodes documents books) ↔ ∀ document ∈ documents, IsBook document.2 := by
  induction documents with
  | nil => simp [Decodes]
  | cons document documents ih =>
    rw [List.forall_mem_cons, ← ih, ← @book_init_isOk_iff document.1]
    simp [Decodes, List.forall₂_cons_left_iff]

/-- The books of a load carry the `documentID`s of the snapshot. -/
theorem Decodes.map_id {documents : List QueryDocument} {books : List Book}
    (h : Decodes documents books) : books.map Book.id = documents.map Prod.fst := by
  induction h with
  | nil => rfl
  | cons hbook _ ih => rw [List.map_cons, List.map_cons, ih, (book_init_owner hbook).1]

/-- Every book of a load was decoded from a document of the snapshot. -/
theorem Decodes.mem {documents : List QueryDocument} {books : List Book}
    (h : Decodes documents books) {book : Book} (hbook : book ∈ books) :
    ∃ document ∈ documents, Book.init document.1 document.2 = .ok book := by
  induction h with
  | nil => cases hbook
  | cons hhead _ ih =>
    rcases List.mem_cons.mp hbook with rfl | hbook
    · exact ⟨_, List.mem_cons_self, hhead⟩
    · obtain ⟨document, hdocument, hok⟩ := ih hbook
      exact ⟨document, List.mem_cons_of_mem _ hdocument, hok⟩

/-- The grades of the books of a load are those of its documents. -/
theorem Decodes.forall_grade_iff {documents : List QueryDocument} {books : List Book}
    (h : Decodes documents books) (P : Int → Prop) :
    (∀ book ∈ books, P book.grade) ↔ ∀ document ∈ documents, P (decodeGrade document.2) := by
  induction h with
  | nil => simp
  | cons hbook _ ih =>
    rw [List.forall_mem_cons, List.forall_mem_cons, ih, book_init_grade hbook]

/-! ## The grades offered -/

/-- The loop of `getGradesFromBooks` collects the grades it meets. -/
theorem mem_foldl_insert_grade {grades : Finset Int} {books : List Book} {grade : Int} :
    grade ∈ books.foldl (fun grades book => insert book.grade grades) grades ↔
      grade ∈ grades ∨ ∃ book ∈ books, book.grade = grade := by
  induction books generalizing grades with
  | nil => simp
  | cons book books ih =>
    rw [List.foldl_cons, ih, Finset.mem_insert, List.exists_mem_cons_iff, eq_comm (a := grade),
      or_comm (a := book.grade = grade), or_assoc]

theorem mem_getGradesFromBooks {vc : TextBooksViewController} {grade : Int} :
    grade ∈ vc.getGradesFromBooks ↔ ∃ book ∈ vc.originalBooks, book.grade = grade := by
  rw [getGradesFromBooks, Finset.mem_sort, mem_foldl_insert_grade]
  simp

/-- The grades are offered in increasing order, each once. -/
theorem getGradesFromBooks_pairwise (vc : TextBooksViewController) :
    vc.getGradesFromBooks.Pairwise (· < ·) :=
  (Finset.sortedLT_sort _).pairwise

/-! ## The filter -/

/-- What the catalogue shows for a filter: everything, or the books of that grade. -/
def visible (grade : Option Int) (originalBooks : List Book) : List Book :=
  match grade with
  | none => originalBooks
  | some grade => originalBooks.filter fun book => book.grade == grade

@[simp] theorem showBooksFor_books (vc : TextBooksViewController) (grade : Option Int) :
    (vc.showBooksFor grade).books = visible grade vc.originalBooks := by
  cases grade <;> rfl

@[simp] theorem showBooksFor_originalBooks (vc : TextBooksViewController) (grade : Option Int) :
    (vc.showBooksFor grade).originalBooks = vc.originalBooks := by
  cases grade <;> rfl

@[simp] theorem showBooksFor_filterGrade (vc : TextBooksViewController) (grade : Option Int) :
    (vc.showBooksFor grade).filterGrade = vc.filterGrade := by
  cases grade <;> rfl

theorem visible_sublist (grade : Option Int) (originalBooks : List Book) :
    (visible grade originalBooks).Sublist originalBooks := by
  cases grade with
  | none => exact List.Sublist.refl _
  | some grade => exact List.filter_sublist

theorem mem_of_bookAt {vc : TextBooksViewController} {item : Nat} {book : Book}
    (h : vc.bookAt item = .ok book) : book ∈ vc.books := by
  unfold bookAt at h
  split at h
  · next hbook =>
    injection h with h
    subst h
    exact List.mem_of_getElem? hbook
  · cases h

/-- A book that is there after a filter choice was loaded before. -/
theorem mem_of_mem_gradeSelected {vc : TextBooksViewController} {grade : Option Int} {book : Book}
    (h : book ∈ (vc.gradeSelected grade).originalBooks ∨ book ∈ (vc.gradeSelected grade).books) :
    book ∈ vc.originalBooks := by
  simp only [gradeSelected, showBooksFor_originalBooks, showBooksFor_books] at h
  rcases h with hloaded | hshown
  · exact hloaded
  · exact (visible_sublist _ _).subset hshown

/-- The filter hides nothing exactly when it is off or every book has its grade. -/
theorem visible_eq_self_iff {grade : Option Int} {originalBooks : List Book} :
    visible grade originalBooks = originalBooks ↔
      grade = none ∨ ∀ book ∈ originalBooks, grade = some book.grade := by
  cases grade with
  | none => simp [visible]
  | some grade =>
    rw [visible, List.filter_eq_self]
    simp only [beq_iff_eq, reduceCtorEq, false_or, Option.some.injEq]
    exact forall₂_congr fun book _ => eq_comm

end TextBooksViewController

end Bookshare
