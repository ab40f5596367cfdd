import Bookshare.Model.Upload

/-!
# Controllers/BooksUploadViewController.swift: filling in the form

The text fields of the upload screen, the two pickers that `viewDidLoad` makes
the input views of two of them, and the chain that Return follows through the
fields.

The picker of a field is on screen as long as the field is first responder, and
offers the rows its data source tells it of.
-/

namespace Bookshare

inductive UITextField where
  | txtTitle
  | txtSubject
  | txtGrades
  | txtAuthor
  | txtCondition
  deriving DecidableEq, Repr

inductive UIPickerView where
  | gradesPicker
  | conditionPicker
  deriving DecidableEq, Repr

/-- The text of a field is set, by the user or by the app. -/
def Form.setText (form : Form) (textField : UITextField) (text : String) : Form :=
  match textField with
  | .txtTitle => { form with txtTitle := some text }
  | .txtSubject => { form with txtSubject := some text }
  | .txtGrades => { form with txtGrades := some text }
  | .txtAuthor => { form with txtAuthor := some text }
  | .txtCondition => { form with txtCondition := some text }

def Form.text (form : Form) : UITextField → Option String
  | .txtTitle => form.txtTitle
  | .txtSubject => form.txtSubject
  | .txtGrades => form.txtGrades
  | .txtAuthor => form.txtAuthor
  | .txtCondition => form.txtCondition

namespace BooksUploadViewController

def bookconditions : List String := ["Very Good", "Good", "Bad"]

/-- The input views set by `viewDidLoad`; a field without one brings up the keyboard. -/
def inputView : UITextField → Option UIPickerView
  | .txtGrades => some .gradesPicker
  | .txtCondition => some .conditionPicker
  | .txtTitle | .txtSubject | .txtAuthor => none

/-- `pickerView(_:numberOfRowsInComponent:)` -/
def numberOfRowsInComponent (pickerView : UIPickerView) : Nat :=
  if pickerView = .gradesPicker then 7 else 3

/-- `bookconditions[row]` -/
def bookcondition (row : Nat) : Except Trap String :=
  match bookconditions[row]? with
  | some condition => .ok condition
  | none => .error "Index out of range"

/-- `pickerView(_:titleForRow:forComponent:)` -/
def titleForRow (pickerView : UIPickerView) (row : Nat) : Except Trap String :=
  if pickerView = .gradesPicker then .ok ("Grade " ++ toString (row + 6)) else bookcondition row

/-- `pickerView(_:didSelectRow:inComponent:)` -/
def didSelectRow (form : Form) (pickerView : UIPickerView) (row : Nat) : Except Trap Form :=
  if pickerView = .gradesPicker then .ok (form.setText .txtGrades (toString (row + 6)))
  else (bookcondition row).map (form.setText .txtCondition)

/-- `textFieldShouldReturn(_:)`: what becomes of the first responder. -/
def textFieldShouldReturn (firstResponder : Option UITextField) (textField : UITextField) :
    Option UITextField :=
  if textField = .txtTitle then some .txtSubject
  else if textField = .txtSubject then some .txtGrades
  else if textField = .txtGrades then some .txtAuthor
  else if textField = .txtAuthor then some .txtCondition
  -- `txtCondition?.resignFirstResponder()`
  else if firstResponder = some .txtCondition then none else firstResponder

end BooksUploadViewController

-- ---------------------------------------------------------------------------
-- Fields
-- ---------------------------------------------------------------------------

@[simp] theorem Form.text_setText (form : Form) (textField : UITextField) (text : String) :
    (form.setText textField text).text textField = some text := by
  cases textField <;> rfl

theorem Form.text_setText_ne (form : Form) {textField other : UITextField} (text : String)
    (h : other ≠ textField) : (form.setText textField text).text other = form.text other := by
  cases textField <;> cases other <;> first | rfl | exact absurd rfl h

namespace BooksUploadViewController

-- ---------------------------------------------------------------------------
-- Pickers
-- ---------------------------------------------------------------------------

/-- The field a picker is the input view of. -/
def textField : UIPickerView → UITextField
  | .gradesPicker => .txtGrades
  | .conditionPicker => .txtCondition

theorem inputView_eq_some {field : UITextField} {pickerView : UIPickerView} :
    inputView field = some pickerView ↔ field = textField pickerView := by
  cases field <;> cases pickerView <;> simp [inputView, textField]

/-- The texts a picker writes into its field. -/
def rowTexts : UIPickerView → List String
  | .gradesPicker => (List.range (numberOfRowsInComponent .gradesPicker)).map fun row =>
      toString (row + 6)
  | .conditionPicker => bookconditions

theorem bookcondition_of_lt {row : Nat}
    (h : row < numberOfRowsInComponent .conditionPicker) :
    ∃ condition ∈ bookconditions, bookcondition row = .ok condition := by
  have hlength : row < bookconditions.length := h
  refine ⟨bookconditions[row], List.getElem_mem hlength, ?_⟩
  rw [bookcondition, List.getElem?_eq_getElem hlength]

/-- Every condition is the title of a row on offer. -/
theorem exists_conditionRow {condition : String} (h : condition ∈ bookconditions) :
    ∃ row < numberOfRowsInComponent .conditionPicker,
      titleForRow .conditionPicker row = .ok condition := by
  obtain ⟨row, hrow, hget⟩ := List.getElem_of_mem h
  refine ⟨row, hrow, ?_⟩
  show bookcondition row = .ok condition
  rw [bookcondition, List.getElem?_eq_getElem hrow, hget]

/-- The picker has a title for every row it offers, and selecting a row writes one of its texts. -/
theorem didSelectRow_of_lt (form : Form) {pickerView : UIPickerView} {row : Nat}
    (h : row < numberOfRowsInComponent pickerView) :
    (∃ title, titleForRow pickerView row = .ok title) ∧
      ∃ text ∈ rowTexts pickerView,
        didSelectRow form pickerView row = .ok (form.setText (textField pickerView) text) := by
  cases pickerView with
  | gradesPicker =>
    refine ⟨⟨_, rfl⟩, toString (row + 6), ?_, rfl⟩
    exact List.mem_map_of_mem (List.mem_range.mpr h)
  | conditionPicker =>
    obtain ⟨condition, hmem, hcondition⟩ := bookcondition_of_lt h
    refine ⟨⟨condition, hcondition⟩, condition, hmem, ?_⟩
    show (bookcondition row).map _ = _
    rw [hcondition]
    rfl

/-- The text of a row of the grades picker decodes to the grade of its title. -/
theorem parse_gradeText {row : Nat} (h : row < numberOfRowsInComponent .gradesPicker) :
    Decimal.parse intWidth (toString (row + 6)) = some ((row : Int) + 6) := by
  have hfits : Decimal.Fits intWidth ((row + 6 : Nat) : Int) := by
    have hrow : row < 7 := h
    have hbound : ((2 : Int) ^ (intWidth - 1)) = 9223372036854775808 := rfl
    unfold Decimal.Fits
    omega
  rw [Decimal.parse_of_denotes (Decimal.denotes_toString _), if_pos hfits]
  rfl

end BooksUploadViewController

end Bookshare
