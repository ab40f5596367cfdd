import Bookshare.Library.Positions
import Bookshare.Model.Book

/-!
# Controllers/GradesTableViewController.swift

The table of grades: a section for each grade, its first row the grade and the
rows below it, while the section is open, the subjects. A tap on a grade opens or
closes its section and has the table take that section's rows again; a tap on a
subject asks for the segue `showBooks`.

The table keeps the numbers of rows it took, and raises if a section that is not
reloaded has got another number since.
-/

namespace Bookshare

/-- `Grade` of Legacy/GradeDataFetcher.swift -/
structure Grade where
  title : String
  subjects : List String
  deriving DecidableEq, Repr

structure ExpandableData where
  opened : Bool
  title : String
  sectionData : List String
  associatedGrade : Grade
  deriving DecidableEq, Repr

inductive UIColor where
  | darkGray
  | lightGray
  deriving DecidableEq, Repr

/-- A cell of the table, as `cellForRowAt` leaves it. -/
structure GradeCell where
  indentationLevel : Nat
  text : String
  textColor : UIColor
  deriving DecidableEq, Repr

structure GradesTableViewController where
  tableViewData : List ExpandableData
  deriving DecidableEq, Repr

namespace GradesTableViewController

/-- `tableViewData[section]` -/
def dataAt (vc : GradesTableViewController) (sec : Nat) : Except Trap ExpandableData :=
  match vc.tableViewData[sec]? with
  | some data => .ok data
  | none => .error "Index out of range"

/-- `tableViewData[section].opened = opened` -/
def setOpened (vc : GradesTableViewController) (sec : Nat) (opened : Bool) :
    GradesTableViewController :=
  { vc with tableViewData := vc.tableViewData.modify sec fun data => { data with opened } }

/-- `numberOfSections(in:)` -/
def numberOfSections (vc : GradesTableViewController) : Nat := vc.tableViewData.length

/-- `tableView(_:numberOfRowsInSection:)` -/
def numberOfRowsInSection (vc : GradesTableViewController) (sec : Nat) : Except Trap Nat :=
  (vc.dataAt sec).map fun data => if data.opened then data.sectionData.length + 1 else 1

/-- `tableView(_:cellForRowAt:)` -/
def cellForRowAt (vc : GradesTableViewController) (sec row : Nat) : Except Trap GradeCell :=
  (vc.dataAt sec).bind fun data =>
    if row = 0 then
      .ok { indentationLevel := 0, text := data.title, textColor := .darkGray }
    else
      -- `dataIndex`
      match data.sectionData[row - 1]? with
      | some subject => .ok { indentationLevel := 1, text := subject, textColor := .lightGray }
      | none => .error "Index out of range"

/-- Where `tableView(_:didSelectRowAt:)` ends. -/
inductive Selection where
  | reloadSections (vc : GradesTableViewController) (sec : Nat)
  | performSegue (identifier : String)

/-- `tableView(_:didSelectRowAt:)` -/
def didSelectRowAt (vc : GradesTableViewController) (sec row : Nat) : Except Trap Selection :=
  (vc.dataAt sec).map fun data =>
    if data.opened = true ∧ row = 0 then .reloadSections (vc.setOpened sec false) sec
    else if row = 0 then .reloadSections (vc.setOpened sec true) sec
    else .performSegue "showBooks"

/-- The identifiers of the segues that the storyboard gives the scene. -/
def segues : List String := []

/-- The numbers of rows of all sections. -/
def takeRows (vc : GradesTableViewController) : Except Trap (List Nat) :=
  (List.range vc.numberOfSections).mapM vc.numberOfRowsInSection

end GradesTableViewController

-- ---------------------------------------------------------------------------
-- What a section shows
-- ---------------------------------------------------------------------------

namespace ExpandableData

/-- The rows of a section: the grade, and the subjects if it is open. -/
def rows (data : ExpandableData) : List GradeCell :=
  { indentationLevel := 0, text := data.title, textColor := .darkGray } ::
    if data.opened then data.sectionData.map fun subject =>
      { indentationLevel := 1, text := subject, textColor := .lightGray }
    else []

theorem length_rows (data : ExpandableData) :
    data.rows.length = if data.opened then data.sectionData.length + 1 else 1 := by
  unfold rows
  split <;> simp

end ExpandableData

namespace GradesTableViewController

variable {vc : GradesTableViewController} {sec : Nat} {data : ExpandableData}

theorem dataAt_of_getElem? (hdata : vc.tableViewData[sec]? = some data) :
    vc.dataAt sec = .ok data := by
  rw [dataAt, hdata]

/-- The table is told of as many rows as a section has. -/
theorem numberOfRowsInSection_eq (hdata : vc.tableViewData[sec]? = some data) :
    vc.numberOfRowsInSection sec = .ok data.rows.length := by
  rw [numberOfRowsInSection, dataAt_of_getElem? hdata, ExpandableData.length_rows]
  rfl

theorem takeRows_eq (vc : GradesTableViewController) :
    vc.takeRows = .ok (vc.tableViewData.map fun data => data.rows.length) := by
  have hread : ∀ i (hi : i < (vc.tableViewData.map fun data => data.rows.length).length),
      vc.numberOfRowsInSection i =
        .ok (vc.tableViewData.map fun data => data.rows.length)[i] := by
    intro i hi
    rw [List.length_map] at hi
    rw [numberOfRowsInSection_eq (List.getElem?_eq_getElem hi), List.getElem_map]
  have htake := Positions.mapM_range_eq hread
  rw [List.length_map] at htake
  exact htake

/-- No row that a section has is out of range. -/
theorem cellForRowAt_eq (hdata : vc.tableViewData[sec]? = some data) {row : Nat}
    (hrow : row < data.rows.length) : vc.cellForRowAt sec row = .ok data.rows[row] := by
  rw [cellForRowAt, dataAt_of_getElem? hdata]
  cases row with
  | zero => rfl
  | succ row =>
    rw [ExpandableData.length_rows] at hrow
    cases hopened : data.opened with
    | false =>
      rw [hopened, if_neg Bool.false_ne_true] at hrow
      omega
    | true =>
      rw [hopened, if_pos rfl] at hrow
      have hsubject : row < data.sectionData.length := by omega
      simp [ExpandableData.rows, hopened, Except.bind, List.getElem?_eq_getElem hsubject]

end GradesTableViewController

end Bookshare
