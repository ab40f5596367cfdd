import Bookshare.Model.Account

/-!
# Controllers/BooksUploadViewController.swift

`submitTapped` and its two nested callbacks. The tap checks the form, builds the
document and starts `putData`; the callback of `putData` completes the document
with the image's path and calls `addDocument`; the callback of `addDocument`
tells the user.

Both callbacks hold the screen weakly, so what they do depends on whether it is
still there (`selfAlive`). The dictionary they complete is a variable of the one
call of `submitTapped` that started them.
-/

namespace Bookshare

open Dynamic

/-- `Foundation.Data` -/
abbrev Data := List UInt8

/-- An image, as far as the app reads it: its PNG encoding, if it has one. -/
structure UIImage where
  pngData : Option Data
  deriving DecidableEq, Repr

/-- What the screen's outlets hold. -/
structure Form where
  txtTitle : Option String
  txtSubject : Option String
  txtGrades : Option String
  txtAuthor : Option String
  txtCondition : Option String
  image : Option UIImage
  deriving DecidableEq, Repr

/-- A form filled in as the screen's text fields and pickers allow. -/
def hobbitForm : Form where
  txtTitle := some "The Hobbit"
  txtSubject := some "English"
  txtGrades := some "7"
  txtAuthor := some "Tolkien"
  txtCondition := some "Good"
  image := some { pngData := some [137, 80] }

/-- A call of `showalert`; `popsOnOk` when its OK action reports the upload and
leaves the screen. -/
structure Alert where
  title : String
  message : String
  popsOnOk : Bool := false
  deriving DecidableEq, Repr

/-- `text?.isEmpty ?? true` -/
def isMissing (text : Option String) : Bool := (text.map String.isEmpty).getD true

/-- The alert of the first form check that fails. -/
def formError (form : Form) : Option Alert :=
  if isMissing form.txtTitle then some { title := "Error", message := "Title not entered" }
  else if isMissing form.txtSubject then some { title := "Error", message := "Subject not entered" }
  else if isMissing form.txtGrades then some { title := "Error", message := "grade not entered" }
  else if isMissing form.txtAuthor then some { title := "Error", message := "Author not entered" }
  else if isMissing form.txtCondition then
    some { title := "Error", message := "Condition not entered" }
  else if form.image.isNone then some { title := "Error", message := "Image not selected" }
  else none

/-- The dictionary `submitTapped` builds; the image's path is still to come. -/
def submittedDoc (form : Form) (user : FIRUser) : Document :=
  let doc : Document := Dict.empty
  let doc := doc.assign "title" (form.txtTitle.map .string)
  let doc := doc.assign "author" (form.txtAuthor.map .string)
  let doc := doc.assign "grade" (form.txtGrades.map .string)
  let doc := doc.assign "subject" (form.txtSubject.map .string)
  let doc := doc.assign "condition" (form.txtCondition.map .string)
  doc.assign "user" (some (.map (userData user)))

/-- `storageRef.child("\(uniqueId).png")` -/
def imagePath (uniqueId : String) : String := uniqueId ++ ".png"

/-- Where a tap on Submit ends. -/
inductive Submission where
  | alert (alert : Alert)
  | trap (message : Trap)
  /-- `putData` is called on the reference of that path, `doc` being captured. -/
  | putData (path : String) (data : Data) (doc : Document)
  /-- The image has no PNG encoding: nothing is uploaded and nothing is said. -/
  | nothing

def submitTapped (form : Form) (currentUser : Option FIRUser) (uniqueId : String) : Submission :=
  match formError form with
  | some alert => .alert alert
  | none =>
    match currentUser with
    | none => .trap notLoggedIn
    | some user =>
      match form.image.bind UIImage.pngData with
      | some data => .putData (imagePath uniqueId) data (submittedDoc form user)
      | none => .nothing

/-- `StorageMetadata`, as far as the app reads it. -/
structure StorageMetadata where
  path : Option String
  deriving DecidableEq, Repr

/-- `doc["image"] = _metadata.path ?? "nil"` -/
def withImage (doc : Document) (metadata : StorageMetadata) : Document :=
  doc.set "image" (.string (metadata.path.getD "nil"))

/-- The callback of `putData`: the document it passes to `addDocument`, if it gets there. -/
def putDataCallback (selfAlive : Bool) (metadata : Option StorageMetadata) (error : Option String)
    (doc : Document) : Option Document :=
  match error, metadata with
  -- the error is printed
  | some _, _ => none
  | none, some _metadata => if selfAlive then some (withImage doc _metadata) else none
  | none, none => none

/-- The callback of `addDocument`: the alert it shows, if the screen is still there. -/
def addDocumentCallback (selfAlive : Bool) (error : Option String) : Option Alert :=
  if selfAlive then
    match error with
    | some someError => some { title := "Error", message := someError }
    | none =>
      some { title := "Success", message := "Book Uploaded Successfully", popsOnOk := true }
  else none

/-- `imagePickerController(_:didFinishPickingMediaWithInfo:)`, in the completion of the
picker's dismissal; `originalImage` is `info[.originalImage] as? UIImage`. -/
def didFinishPicking (form : Form) (originalImage : Option UIImage) : Form :=
  match originalImage with
  | some image => { form with image := some image }
  | none => form

/-! ## The form checks -/

theorem isMissing_eq_false {text : Option String} :
    isMissing text = false ↔ ∃ s, text = some s ∧ s ≠ "" := by
  cases text <;> simp [isMissing]

/-- The checks pass exactly on a form with five nonempty texts and an image. -/
theorem formError_eq_none {form : Form} :
    formError form = none ↔
      isMissing form.txtTitle = false ∧ isMissing form.txtSubject = false ∧
        isMissing form.txtGrades = false ∧ isMissing form.txtAuthor = false ∧
        isMissing form.txtCondition = false ∧ form.image.isSome := by
  unfold formError
  cases isMissing form.txtTitle <;> cases isMissing form.txtSubject <;>
    cases isMissing form.txtGrades <;> cases isMissing form.txtAuthor <;>
    cases isMissing form.txtCondition <;> cases form.image <;> simp

theorem submitTapped_eq_putData {form : Form} {currentUser : Option FIRUser}
    {uniqueId path : String} {data : Data} {doc : Document} :
    submitTapped form currentUser uniqueId = .putData path data doc ↔
      formError form = none ∧ path = imagePath uniqueId ∧
        form.image.bind UIImage.pngData = some data ∧
        ∃ user, currentUser = some user ∧ doc = submittedDoc form user := by
  unfold submitTapped
  cases formError form with
  | some alert => simp
  | none =>
    cases currentUser with
    | none => simp
    | some user =>
      cases form.image.bind UIImage.pngData <;> simp [eq_comm]

theorem submitTapped_eq_alert {form : Form} {currentUser : Option FIRUser} {uniqueId : String}
    {alert : Alert} :
    submitTapped form currentUser uniqueId = .alert alert ↔ formError form = some alert := by
  unfold submitTapped
  cases formError form with
  | some error => simp
  | none =>
    cases currentUser with
    | none => simp
    | some user => cases form.image.bind UIImage.pngData <;> simp

theorem submitTapped_eq_trap {form : Form} {currentUser : Option FIRUser} {uniqueId : String}
    {message : Trap} :
    submitTapped form currentUser uniqueId = .trap message ↔
      formError form = none ∧ currentUser = none ∧ message = notLoggedIn := by
  unfold submitTapped
  cases formError form with
  | some alert => simp
  | none =>
    cases currentUser with
    | none => simp [eq_comm]
    | some user => cases form.image.bind UIImage.pngData <;> simp

/-! ## The document -/

section Fields

variable (form : Form) (user : FIRUser)

@[simp] theorem submittedDoc_title :
    submittedDoc form user "title" = form.txtTitle.map .string := by
  simp [submittedDoc]

@[simp] theorem submittedDoc_author :
    submittedDoc form user "author" = form.txtAuthor.map .string := by
  simp [submittedDoc]

@[simp] theorem submittedDoc_grade :
    submittedDoc form user "grade" = form.txtGrades.map .string := by
  simp [submittedDoc]

@[simp] theorem submittedDoc_subject :
    submittedDoc form user "subject" = form.txtSubject.map .string := by
  simp [submittedDoc]

@[simp] theorem submittedDoc_condition :
    submittedDoc form user "condition" = form.txtCondition.map .string := by
  simp [submittedDoc]

@[simp] theorem submittedDoc_user :
    submittedDoc form user "user" = some (.map (userData user)) := by
  simp [submittedDoc]

/-- `submitTapped` writes no other field. -/
theorem submittedDoc_other {k : String}
    (h : k ∉ ["title", "author", "grade", "subject", "condition", "user"]) :
    submittedDoc form user k = none := by
  simp only [List.mem_cons, List.not_mem_nil, or_false, not_or] at h
  obtain ⟨h1, h2, h3, h4, h5, h6⟩ := h
  simp [submittedDoc, h1, h2, h3, h4, h5, h6]

end Fields

@[simp] theorem withImage_image (doc : Document) (metadata : StorageMetadata) :
    withImage doc metadata "image" = some (.string (metadata.path.getD "nil")) := by
  simp [withImage]

theorem withImage_ne (doc : Document) (metadata : StorageMetadata) {k : String} (h : k ≠ "image") :
    withImage doc metadata k = doc k := by
  simp [withImage, h]

theorem putDataCallback_eq_some {selfAlive : Bool} {metadata : Option StorageMetadata}
    {error : Option String} {doc doc' : Document} :
    putDataCallback selfAlive metadata error doc = some doc' ↔
      selfAlive = true ∧ error = none ∧ ∃ m, metadata = some m ∧ doc' = withImage doc m := by
  cases error <;> cases metadata <;> cases selfAlive <;> simp [putDataCallback, eq_comm]

/-- Distinct identifiers name distinct objects. -/
theorem imagePath_injective : Function.Injective imagePath := by
  intro a b h
  have hlist : a.toList ++ ".png".toList = b.toList ++ ".png".toList := by
    rw [← String.toList_append, ← String.toList_append]
    exact congrArg String.toList h
  have heq : a.toList = b.toList := List.append_cancel_right hlist
  exact String.toList_injective heq

end Bookshare
