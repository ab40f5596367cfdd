import Bookshare.Library.Positions
import Bookshare.Model.Catalogue

/-!
# Controllers/BooksFilterViewController.swift

The filter screen and the table view it drives. The selection is kept twice, by
the table and in `previouslySelectedIndexPath`, and shown a third time, by the
checkmarks of the cells on screen; each callback updates some of the three.

Of the table view only what the callbacks touch is here: its selected row and
the cells on screen, with the text and the accessory given to them. Selecting
and deselecting a row by a call tells the delegate nothing.
-/

namespace Bookshare

open Positions

/-- `UITableViewCell.AccessoryType`, as far as the screen uses it. -/
inductive AccessoryType where
  | none
  | checkmark
  deriving DecidableEq, Repr

structure UITableViewCell where
  text : String
  accessoryType : AccessoryType
  deriving DecidableEq, Repr

structure UITableView where
  indexPathForSelectedRow : Option Nat
  /-- `cellForRow(at:)`: the cells of the rows on screen. -/
  cellForRow : Nat → Option UITableViewCell

namespace UITableView

/-- A table that has shown nothing yet. -/
def empty : UITableView where
  indexPathForSelectedRow := none
  cellForRow := fun _ => none

/-- `selectRow(at:animated:scrollPosition:)` -/
def selectRow (tableView : UITableView) (row : Nat) : UITableView :=
  { tableView with indexPathForSelectedRow := some row }

/-- `deselectRow(at:animated:)` -/
def deselectRow (tableView : UITableView) (row : Nat) : UITableView :=
  if tableView.indexPathForSelectedRow = some row then
    { tableView with indexPathForSelectedRow := none }
  else tableView

/-- The row comes on screen with `cell`, or goes off it. -/
def setCell (tableView : UITableView) (row : Nat) (cell : Option UITableViewCell) : UITableView :=
  { tableView with cellForRow := Function.update tableView.cellForRow row cell }

/-- `cellForRow(at:)?.accessoryType = accessoryType`: nothing happens off screen. -/
def setAccessory (tableView : UITableView) (row : Nat) (accessoryType : AccessoryType) :
    UITableView :=
  tableView.setCell row ((tableView.cellForRow row).map fun cell => { cell with accessoryType })

end UITableView

structure BooksFilterViewController where
  tableView : UITableView
  grades : List Int
  filterGrade : Option Int
  previouslySelectedIndexPath : Option Nat

/-- `prepare(for:sender:)` for the segue `showFilter`. -/
def TextBooksViewController.showFilter (vc : TextBooksViewController) :
    BooksFilterViewController where
  tableView := UITableView.empty
  grades := vc.getGradesFromBooks
  filterGrade := vc.filterGrade
  previouslySelectedIndexPath := none

namespace BooksFilterViewController

/-- `grades.lastIndex(where: {filter == $0})`, for the filter the screen was opened with. -/
def filterRow (vc : BooksFilterViewController) : Option Nat :=
  vc.filterGrade.bind fun filter => lastIndex (fun grade => filter == grade) vc.grades

def viewDidAppear (vc : BooksFilterViewController) : BooksFilterViewController :=
  match vc.filterRow with
  | some index => { vc with
      previouslySelectedIndexPath := some index
      tableView := vc.tableView.selectRow index }
  | none => vc

/-- `doneButtonTapped(_:)`: the grade given to `gradeSelected`. -/
def doneButtonTapped (vc : BooksFilterViewController) : Except Trap (Option Int) :=
  match vc.tableView.indexPathForSelectedRow with
  | some row =>
    match vc.grades[row]? with
    | some grade => .ok (some grade)
    | none => .error "Index out of range"
  | none => .ok none

/-- `tableView(_:numberOfRowsInSection:)` -/
def numberOfRowsInSection (vc : BooksFilterViewController) : Nat := vc.grades.length

/-- `tableView(_:cellForRowAt:)` -/
def cellForRowAt (vc : BooksFilterViewController) (row : Nat) : Except Trap UITableViewCell :=
  match vc.grades[row]? with
  | some grade => .ok
    { text := "Grade " ++ toString grade
      accessoryType := if some grade = vc.filterGrade then .checkmark else .none }
  | none => .error "Index out of range"

/-- `tableView(_:didSelectRowAt:)` -/
def didSelectRowAt (vc : BooksFilterViewController) (row : Nat) : BooksFilterViewController :=
  if vc.previouslySelectedIndexPath = some row then
    { vc with
      previouslySelectedIndexPath := none
      tableView := (vc.tableView.deselectRow row).setAccessory row .none }
  else
    { vc with
      previouslySelectedIndexPath := some row
      tableView := vc.tableView.setAccessory row .checkmark }

/-- `tableView(_:didDeselectRowAt:)` -/
def didDeselectRowAt (vc : BooksFilterViewController) (row : Nat) : BooksFilterViewController :=
  { vc with tableView := vc.tableView.setAccessory row .none }

end BooksFilterViewController

-- ---------------------------------------------------------------------------
-- The table
-- ---------------------------------------------------------------------------

namespace UITableView

variable (tableView : UITableView) (row : Nat) (accessoryType : AccessoryType)
  (cell : Option UITableViewCell)

@[simp] theorem selectRow_selected :
    (tableView.selectRow row).indexPathForSelectedRow = some row := rfl

@[simp] theorem deselectRow_selected :
    (tableView.deselectRow row).indexPathForSelectedRow =
      if tableView.indexPathForSelectedRow = some row then none
      else tableView.indexPathForSelectedRow := by
  unfold deselectRow
  split <;> rfl

@[simp] theorem deselectRow_cellForRow :
    (tableView.deselectRow row).cellForRow = tableView.cellForRow := by
  unfold deselectRow
  split <;> rfl

@[simp] theorem setCell_cellForRow :
    (tableView.setCell row cell).cellForRow = Function.update tableView.cellForRow row cell := rfl

@[simp] theorem setAccessory_selected :
    (tableView.setAccessory row accessoryType).indexPathForSelectedRow =
      tableView.indexPathForSelectedRow := rfl

/-- The cells after one row comes on screen or goes off it. -/
theorem setCell_eq_some {other : Nat} {shown : UITableViewCell}
    (h : (tableView.setCell row cell).cellForRow other = some shown) :
    (other = row ∧ cell = some shown) ∨
      (other ≠ row ∧ tableView.cellForRow other = some shown) := by
  rw [setCell_cellForRow] at h
  by_cases heq : other = row
  · subst heq
    rw [Function.update_self] at h
    exact Or.inl ⟨rfl, h⟩
  · rw [Function.update_of_ne heq] at h
    exact Or.inr ⟨heq, h⟩

/-- The accessories after one of them is set. -/
theorem setAccessory_eq_some {other : Nat} {shown : UITableViewCell}
    (h : (tableView.setAccessory row accessoryType).cellForRow other = some shown) :
    (other = row ∧ shown.accessoryType = accessoryType) ∨
      (other ≠ row ∧ tableView.cellForRow other = some shown) := by
  rcases setCell_eq_some _ _ _ h with ⟨rfl, hshown⟩ | hother
  · obtain ⟨old, -, rfl⟩ := Option.map_eq_some_iff.mp hshown
    exact Or.inl ⟨rfl, rfl⟩
  · exact Or.inr hother

end UITableView

-- ---------------------------------------------------------------------------
-- The callbacks
-- ---------------------------------------------------------------------------

namespace BooksFilterViewController

variable {vc : BooksFilterViewController} {row : Nat}

/-- A row that the table asks for has a grade. -/
theorem cellForRowAt_eq_ok (h : row < vc.numberOfRowsInSection) :
    vc.cellForRowAt row = .ok
      { text := "Grade " ++ toString vc.grades[row]
        accessoryType := if some vc.grades[row] = vc.filterGrade then .checkmark else .none } := by
  rw [cellForRowAt, List.getElem?_eq_getElem h]

/-- The row of the opening filter has its grade. -/
theorem filterRow_grade (h : vc.filterRow = some row) : vc.grades[row]? = vc.filterGrade := by
  obtain ⟨filter, hfilter, hlast⟩ := Option.bind_eq_some_iff.mp h
  obtain ⟨grade, hgrade, heq⟩ := lastIndex_mem hlast
  rw [beq_iff_eq] at heq
  rw [hgrade, hfilter, heq]

theorem filterRow_lt (h : vc.filterRow = some row) : row < vc.numberOfRowsInSection := by
  obtain ⟨filter, -, hlast⟩ := Option.bind_eq_some_iff.mp h
  obtain ⟨grade, hgrade, -⟩ := lastIndex_mem hlast
  exact (List.getElem?_eq_some_iff.mp hgrade).1

end BooksFilterViewController

end Bookshare
