import Bookshare.Catalogue.Filter
import Bookshare.Library.Positions

/-!
# The grades offered and the books they keep

The filter screen is offered the grades of the loaded books, and each choice
overwrites `books` with a part of `originalBooks`. The parts are disjoint and
cover everything that was loaded, whatever the documents held in their `grade`
field, and taking the filter off restores the whole.

Main result: `offered_grades_partition`.
-/

namespace Bookshare.TextBooksViewController

open Dynamic Positions

/-- The positions in `originalBooks` that a filter on `grade` keeps. -/
def keptPositions (vc : TextBooksViewController) (grade : Int) : List Nat :=
  positions (fun book => book.grade == grade) vc.originalBooks

-- ---------------------------------------------------------------------------
-- What one filter keeps
-- ---------------------------------------------------------------------------

/-- The books left are those at the positions kept, in their order. -/
theorem showBooksFor_eq_keptPositions (vc : TextBooksViewController) (grade : Int) :
    (vc.showBooksFor (some grade)).books.map some =
      (vc.keptPositions grade).map fun i => vc.originalBooks[i]? := by
  rw [showBooksFor_books]
  exact map_getElem?_positions _ _

theorem mem_keptPositions {vc : TextBooksViewController} {grade : Int} {i : Nat} :
    i ∈ vc.keptPositions grade ↔ ∃ book, vc.originalBooks[i]? = some book ∧ book.grade = grade := by
  simp only [keptPositions, mem_positions, beq_iff_eq]

/-- An offered grade keeps some book. -/
theorem showBooksFor_ne_nil {vc : TextBooksViewController} {grade : Int}
    (h : grade ∈ vc.getGradesFromBooks) : (vc.showBooksFor (some grade)).books ≠ [] := by
  obtain ⟨book, hbook, hgrade⟩ := mem_getGradesFromBooks.mp h
  have hkept : book ∈ (vc.showBooksFor (some grade)).books := by
    rw [showBooksFor_books, visible, List.mem_filter]
    exact ⟨hbook, by simp [hgrade]⟩
  exact List.ne_nil_of_mem hkept

/-- A position is kept by the grade of its book, which is offered, and by no other. -/
theorem existsUnique_grade_keeping {vc : TextBooksViewController} {i : Nat}
    (hi : i < vc.originalBooks.length) :
    ∃! grade, grade ∈ vc.getGradesFromBooks ∧ i ∈ vc.keptPositions grade := by
  have hbook : vc.originalBooks[i]? = some vc.originalBooks[i] := List.getElem?_eq_getElem hi
  refine ⟨vc.originalBooks[i].grade, ⟨?_, ?_⟩, ?_⟩
  · exact mem_getGradesFromBooks.mpr ⟨_, List.getElem_mem hi, rfl⟩
  · exact mem_keptPositions.mpr ⟨_, hbook, rfl⟩
  · rintro grade ⟨-, hkept⟩
    obtain ⟨book, hat, hgrade⟩ := mem_keptPositions.mp hkept
    have hsame : book = vc.originalBooks[i] := Option.some.inj (hat.symm.trans hbook)
    rw [← hgrade, hsame]

/-- Filters, one after another, leave what was loaded alone. -/
theorem foldl_showBooksFor_originalBooks (vc : TextBooksViewController)
    (choices : List (Option Int)) :
    (choices.foldl showBooksFor vc).originalBooks = vc.originalBooks := by
  induction choices generalizing vc with
  | nil => rfl
  | cons choice choices ih => rw [List.foldl_cons, ih, showBooksFor_originalBooks]

-- ---------------------------------------------------------------------------
-- The partition
-- ---------------------------------------------------------------------------

/-- **The offered grades partition the catalogue.** For books decoded from any documents, the
grades offered are increasing and are those of the books, each keeps a nonempty part of the books
in their order, every position is kept by exactly one of them, and after any filters the whole
comes back. -/
theorem offered_grades_partition {vc : TextBooksViewController} {documents : List QueryDocument}
    (h : Decodes documents vc.originalBooks) :
    vc.getGradesFromBooks.Pairwise (· < ·) ∧
    (∀ grade, grade ∈ vc.getGradesFromBooks ↔ ∃ book ∈ vc.originalBooks, book.grade = grade) ∧
    (∀ grade, grade ∈ vc.getGradesFromBooks ↔
      ∃ document ∈ documents, decodeGrade document.2 = grade) ∧
    (∀ grade ∈ vc.getGradesFromBooks, (vc.showBooksFor (some grade)).books ≠ [] ∧
      (vc.showBooksFor (some grade)).books.Sublist vc.originalBooks) ∧
    (∀ grade, (vc.keptPositions grade).Pairwise (· < ·) ∧
      (vc.showBooksFor (some grade)).books.map some =
        (vc.keptPositions grade).map fun i => vc.originalBooks[i]?) ∧
    (∀ i < vc.originalBooks.length,
      ∃! grade, grade ∈ vc.getGradesFromBooks ∧ i ∈ vc.keptPositions grade) ∧
    ∀ choices : List (Option Int),
      ((choices.foldl showBooksFor vc).showBooksFor none).books = vc.originalBooks := by
  refine ⟨getGradesFromBooks_pairwise vc, fun _ => mem_getGradesFromBooks, ?_, ?_, ?_, ?_, ?_⟩
  · -- a grade that occurs is one that was decoded
    intro grade
    have hnone := h.forall_grade_iff fun g => g ≠ grade
    rw [mem_getGradesFromBooks]
    constructor
    · rintro ⟨book, hbook, hgrade⟩
      by_contra hno
      push Not at hno
      exact hnone.mpr hno book hbook hgrade
    · rintro ⟨document, hdocument, hgrade⟩
      by_contra hno
      push Not at hno
      exact hnone.mp hno document hdocument hgrade
  · -- what an offered grade shows
    intro grade hgrade
    refine ⟨showBooksFor_ne_nil hgrade, ?_⟩
    rw [showBooksFor_books]
    exact visible_sublist _ _
  · -- and where it stands
    intro grade
    exact ⟨positions_pairwise _ _, showBooksFor_eq_keptPositions vc grade⟩
  · intro i hi
    exact existsUnique_grade_keeping hi
  · intro choices
    rw [showBooksFor_books, visible, foldl_showBooksFor_originalBooks]

/-- Documents whose `grade` is a decimal integer, another text, absent and a number. -/
def mixedGrades : List QueryDocument :=
  [("A", submittedDoc hobbitForm alice),
    ("B", (submittedDoc hobbitForm alice).set "grade" (.string "Grade 7")),
    ("C", (submittedDoc hobbitForm alice).assign "grade" none),
    ("D", (submittedDoc hobbitForm alice).set "grade" (.number 8))]

/-- All but the first of them decode to the fallback, and two grades are offered. -/
theorem mixed_grades_partition :
    ∃ vc, initial.getDocumentsCallback (.ok mixedGrades) = .ok vc ∧
      vc.originalBooks.map Book.grade = [7, -1, -1, -1] ∧
      (∀ grade, grade ∈ vc.getGradesFromBooks ↔ grade = 7 ∨ grade = -1) ∧
      (∀ i < 4, ∃! grade, grade ∈ vc.getGradesFromBooks ∧ i ∈ vc.keptPositions grade) ∧
      ((vc.showBooksFor (some 7)).showBooksFor none).books = vc.originalBooks := by
  obtain ⟨vc, hload, hgrades⟩ : ∃ vc, initial.getDocumentsCallback (.ok mixedGrades) = .ok vc ∧
      vc.originalBooks.map Book.grade = [7, -1, -1, -1] := ⟨_, rfl, rfl⟩
  obtain ⟨books, hdecodes, rfl⟩ := getDocumentsCallback_eq_ok.mp hload
  have hlength : books.length = 4 := by
    rw [← List.length_map Book.grade, hgrades]
    rfl
  obtain ⟨-, hoffered, -, -, -, hkept, hrestored⟩ :=
    @offered_grades_partition { initial with originalBooks := books, books } _ hdecodes
  refine ⟨_, hload, hgrades, ?_, ?_, hrestored [some 7]⟩
  · intro grade
    rw [hoffered, ← List.mem_map, hgrades]
    simp
  · intro i hi
    exact hkept i (hlength ▸ hi)

end Bookshare.TextBooksViewController
