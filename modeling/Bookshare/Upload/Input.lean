import Bookshare.Model.UploadInput
import Bookshare.Upload.Format
import Bookshare.Upload.Submissions

/-!
# Filling in the form

The upload screens again, with the form filled in as the user does it: a field is
tapped, text is typed into it, a row of its picker is selected, Return is
pressed. `Upload.step` lets any edit happen in one event; here an edit is what
the first responder and its input view allow.

A picker does not keep other text out of its field: a hardware keyboard and Paste
reach the first responder whatever its input view is. So that the text of a
picker's field is one of the picker's rows is a condition on what is entered.

Main results:

* `forms_picked_iff` — no row on offer is out of range, and the texts of the pickers'
  fields come from their rows in every state of a run exactly if nothing else is
  entered into them;
* `input_refines_uploads` — a run here is a run of the upload screens;
* `uploaded_books_are_picked` — so what is uploaded from such forms decodes to a grade
  and a condition that the pickers offer.
-/

namespace Bookshare.Upload.Input

open Machine BooksUploadViewController

structure State where
  uploads : Upload.State
  firstResponder : ScreenId → Option UITextField
  /-- The trap that a picker's data source or delegate has ended in. -/
  trapped : Option Trap

inductive Event where
  | tapField (k : ScreenId) (textField : UITextField)
  /-- The text of the first responder becomes `text`: typed, pasted or deleted. -/
  | enterText (k : ScreenId) (text : String)
  /-- The picker asks for the title of a row it offers. -/
  | titleForRow (k : ScreenId) (pickerView : UIPickerView) (row : Nat)
  | selectRow (k : ScreenId) (pickerView : UIPickerView) (row : Nat)
  | returnKey (k : ScreenId)
  | doneButtonTapped (k : ScreenId)
  | upload (e : Upload.Event)

def State.form (s : State) (k : ScreenId) : Form := (s.uploads.screens k).form

/-- The picker on screen, if there is one. -/
def State.picker (s : State) (k : ScreenId) : Option UIPickerView :=
  (s.firstResponder k).bind inputView

def State.setFirstResponder (s : State) (k : ScreenId) (textField : Option UITextField) : State :=
  { s with firstResponder := Function.update s.firstResponder k textField }

/-- The form of screen `k` is edited. -/
def State.edit (s : State) (k : ScreenId) (form : Form) : Option State :=
  (Upload.step s.uploads (.edit k form)).map fun uploads => { s with uploads }

/-- A step of a process that has not trapped. -/
def running (s : State) : Event → Option State
  | .tapField k textField =>
    if (s.uploads.screens k).alive then some (s.setFirstResponder k (some textField)) else none
  | .enterText k text =>
    match s.firstResponder k with
    | some textField => s.edit k ((s.form k).setText textField text)
    | none => none
  | .titleForRow k pickerView row =>
    if s.picker k = some pickerView ∧ row < numberOfRowsInComponent pickerView then
      match BooksUploadViewController.titleForRow pickerView row with
      | .ok _ => some s
      | .error trap => some { s with trapped := some trap }
    else none
  | .selectRow k pickerView row =>
    if s.picker k = some pickerView ∧ row < numberOfRowsInComponent pickerView then
      match didSelectRow (s.form k) pickerView row with
      | .ok form => s.edit k form
      | .error trap => some { s with trapped := some trap }
    else none
  | .returnKey k =>
    match s.firstResponder k with
    | some textField =>
      some (s.setFirstResponder k (textFieldShouldReturn (some textField) textField))
    | none => none
  -- `endEditing(true)`
  | .doneButtonTapped k => some (s.setFirstResponder k none)
  | .upload (.edit _ _) => none
  | .upload e => (Upload.step s.uploads e).map fun uploads => { s with uploads }

/-- A trap takes the process down. -/
def step (s : State) (e : Event) : Option State :=
  if s.trapped.isNone then running s e else none

/-- No keyboard or picker up yet. -/
def initial (screens : ScreenId → Screen) : State where
  uploads := Upload.initial screens
  firstResponder := fun _ => none
  trapped := none

/-- The texts of the pickers' fields are missing or from their rows. -/
def PickerTexts (form : Form) : Prop :=
  ∀ pickerView, isMissing (form.text (textField pickerView)) = true ∨
    ∃ text ∈ rowTexts pickerView, form.text (textField pickerView) = some text

def AllPicked (s : State) : Prop := ∀ k, PickerTexts (s.form k)

/-- What is entered into a field with a picker is nothing or the text of a row. -/
def ByPicker (s : State) : Event → Prop
  | .enterText k text => ∀ pickerView, s.picker k = some pickerView →
      text = "" ∨ text ∈ rowTexts pickerView
  | _ => True

/-- The same of an edit of the whole form. -/
def EditPicked : Upload.Event → Prop
  | .edit _ texts => PickerTexts texts
  | _ => True

/-- The events of the upload screens that a step comes down to. -/
def uploadEvents (s : State) : Event → List Upload.Event
  | .enterText k text =>
    (s.firstResponder k).toList.map fun textField => .edit k ((s.form k).setText textField text)
  | .selectRow k pickerView row =>
    match didSelectRow (s.form k) pickerView row with
    | .ok form => [.edit k form]
    | .error _ => []
  | .upload e => [e]
  | _ => []

-- ---------------------------------------------------------------------------
-- What a step can do
-- ---------------------------------------------------------------------------

/-- An edit sets the form, except for the image. -/
theorem step_edit {s s' : Upload.State} {k : ScreenId} {texts : Form}
    (h : Upload.step s (.edit k texts) = some s') :
    s' = s.setScreen k { s.screens k with
      form := { texts with image := (s.screens k).form.image } } := by
  simp only [Upload.step, Option.ite_none_right_eq_some, Option.some.injEq] at h
  exact h.2.symm

/-- Only an edit changes texts. -/
theorem step_texts {s s' : Upload.State} {e : Upload.Event} (h : Upload.step s e = some s')
    (he : ∀ k texts, e ≠ .edit k texts) (k : ScreenId) (field : UITextField) :
    (s'.screens k).form.text field = (s.screens k).form.text field := by
  -- setting a screen with the same texts
  have hset : ∀ (k' : ScreenId) (screen : Screen),
      s'.screens = Function.update s.screens k' screen →
      screen.form.text field = (s.screens k').form.text field →
      (s'.screens k).form.text field = (s.screens k).form.text field := by
    intro k' screen hscreens htext
    rw [hscreens]
    by_cases hk : k = k'
    · rw [hk, Function.update_self]
      exact htext
    · rw [Function.update_of_ne hk]
  cases e with
  | edit k' texts => exact absurd rfl (he k' texts)
  | pick k' originalImage =>
    simp only [Upload.step, Option.ite_none_right_eq_some, Option.some.injEq] at h
    obtain ⟨-, rfl⟩ := h
    refine hset k' _ rfl ?_
    cases originalImage <;> cases field <;> rfl
  | session k' user =>
    injection h with h
    subst h
    exact hset k' _ rfl rfl
  | exit k' =>
    injection h with h
    subst h
    exact hset k' _ rfl rfl
  | submit k' uniqueId =>
    simp only [Upload.step, Option.ite_none_right_eq_some, Option.some.injEq] at h
    obtain ⟨-, rfl⟩ := h
    simp only [submit] at hset ⊢
    split at hset
    · exact hset k' _ rfl rfl
    · exact hset k' _ rfl rfl
    · rfl
    · rfl
  | putDataDone uniqueId result =>
    simp only [Upload.step] at h
    split at h
    · injection h with h
      subst h
      rfl
    · cases h
  | addDocumentDone uniqueId error =>
    simp only [Upload.step] at h
    split at h
    · injection h with h
      subst h
      exact hset _ _ rfl rfl
    · cases h

/-- What a step can do, and trapping is no part of it: move the first responder, edit one text, or
what the upload screens do besides. -/
inductive Effect (s : State) : Event → State → Prop
  | focused {e firstResponder} : uploadEvents s e = [] → ByPicker s e →
      Effect s e { s with firstResponder }
  | edited {e k field text uploads} :
      uploadEvents s e = [.edit k ((s.form k).setText field text)] →
      Upload.step s.uploads (.edit k ((s.form k).setText field text)) = some uploads →
      (ByPicker s e ↔ ∀ pickerView, field = textField pickerView →
        text = "" ∨ text ∈ rowTexts pickerView) →
      Effect s e { s with uploads }
  | uploaded {e uploads} : (∀ k texts, e ≠ .edit k texts) →
      Upload.step s.uploads e = some uploads → Effect s (.upload e) { s with uploads }

theorem textField_injective : Function.Injective textField := by
  intro p q h
  cases p <;> cases q <;> first | rfl | cases h

theorem running_effect {s s' : State} {e : Event} (h : running s e = some s') : Effect s e s' := by
  cases e with
  | tapField k field =>
    obtain ⟨-, h⟩ := Option.ite_none_right_eq_some.mp h
    injection h with h
    subst h
    exact .focused rfl trivial
  | enterText k text =>
    simp only [running] at h
    split at h
    · next field hfield =>
      obtain ⟨uploads, huploads, rfl⟩ := Option.map_eq_some_iff.mp h
      refine .edited ?_ huploads ?_
      · simp [uploadEvents, hfield]
      · simp [ByPicker, State.picker, hfield, inputView_eq_some]
    · cases h
  | titleForRow k pickerView row =>
    obtain ⟨⟨-, hrow⟩, h⟩ := Option.ite_none_right_eq_some.mp h
    -- a row on offer has a title
    obtain ⟨title, htitle⟩ := (didSelectRow_of_lt (s.form k) hrow).1
    simp only [htitle] at h
    injection h with h
    subst h
    exact .focused rfl trivial
  | selectRow k pickerView row =>
    obtain ⟨⟨-, hrow⟩, h⟩ := Option.ite_none_right_eq_some.mp h
    -- and selecting it writes one of the picker's texts
    obtain ⟨text, htext, hselect⟩ := (didSelectRow_of_lt (s.form k) hrow).2
    simp only [hselect] at h
    obtain ⟨uploads, huploads, rfl⟩ := Option.map_eq_some_iff.mp h
    refine .edited ?_ huploads (iff_of_true trivial ?_)
    · simp [uploadEvents, hselect]
    · intro other hother
      rw [← textField_injective hother]
      exact Or.inr htext
  | returnKey k =>
    simp only [running] at h
    split at h
    · injection h with h
      subst h
      exact .focused rfl trivial
    · cases h
  | doneButtonTapped k =>
    injection h with h
    subst h
    exact .focused rfl trivial
  | upload e =>
    have hmap : (∀ k texts, e ≠ .edit k texts) ∧
        (Upload.step s.uploads e).map (fun uploads => { s with uploads }) = some s' := by
      cases e with
      | edit k texts => cases h
      | _ =>
        refine ⟨?_, h⟩
        intro k texts heq
        cases heq
    obtain ⟨hne, h⟩ := hmap
    obtain ⟨uploads, huploads, rfl⟩ := Option.map_eq_some_iff.mp h
    exact .uploaded hne huploads

theorem step_effect {s s' : State} {e : Event} (h : step s e = some s') :
    s.trapped = none ∧ Effect s e s' := by
  obtain ⟨htrapped, h⟩ := Option.ite_none_right_eq_some.mp h
  exact ⟨Option.isNone_iff_eq_none.mp htrapped, running_effect h⟩

theorem step_trapped {s s' : State} {e : Event} (h : step s e = some s') : s'.trapped = none := by
  obtain ⟨htrapped, heffect⟩ := step_effect h
  cases heffect <;> exact htrapped

-- ---------------------------------------------------------------------------
-- Texts from the pickers
-- ---------------------------------------------------------------------------

/-- Setting a text to one of the picker's rows, or to nothing, is what keeps picked texts picked. -/
theorem pickerTexts_setText_iff {form : Form} (h : PickerTexts form) (field : UITextField)
    (text : String) :
    PickerTexts (form.setText field text) ↔
      ∀ pickerView, field = textField pickerView → text = "" ∨ text ∈ rowTexts pickerView := by
  refine forall_congr' fun pickerView => ?_
  by_cases hfield : field = textField pickerView
  · subst hfield
    simp [isMissing]
  · rw [Form.text_setText_ne form text (Ne.symm hfield)]
    exact iff_of_true (h pickerView) fun heq => absurd heq hfield

theorem editPicked_of_ne {e : Upload.Event} (h : ∀ k texts, e ≠ .edit k texts) : EditPicked e := by
  cases e with
  | edit k texts => exact absurd rfl (h k texts)
  | _ => trivial

theorem PickerTexts.congr {form form' : Form} (h : ∀ field, form'.text field = form.text field) :
    PickerTexts form' ↔ PickerTexts form := by
  unfold PickerTexts
  simp only [h]

/-- Of what the upload screens do, an edit that leaves other texts is all that brings them in. -/
theorem step_formsPicked_iff {s s' : Upload.State} {e : Upload.Event}
    (hs : ∀ k, PickerTexts (s.screens k).form) (h : Upload.step s e = some s') :
    (∀ k, PickerTexts (s'.screens k).form) ↔ EditPicked e := by
  by_cases hedit : ∃ k texts, e = .edit k texts
  · obtain ⟨k, texts, rfl⟩ := hedit
    -- the image is not one of the texts
    have hform : PickerTexts { texts with image := (s.screens k).form.image } ↔
        PickerTexts texts := PickerTexts.congr fun field => by cases field <;> rfl
    rw [step_edit h]
    constructor
    · intro hall
      have hk := hall k
      rw [setScreen_same] at hk
      exact hform.mp hk
    · intro htexts k'
      by_cases hk : k = k'
      · subst hk
        rw [setScreen_same]
        exact hform.mpr htexts
      · rw [setScreen_ne hk]
        exact hs k'
  · have hne : ∀ k texts, e ≠ .edit k texts := fun k texts heq => hedit ⟨k, texts, heq⟩
    refine iff_of_true ?_ (editPicked_of_ne hne)
    exact fun k => (PickerTexts.congr (step_texts h hne k)).mpr (hs k)

theorem step_allPicked_iff {s s' : State} {e : Event} (hs : AllPicked s)
    (hstep : step s e = some s') : AllPicked s' ↔ ByPicker s e := by
  cases (step_effect hstep).2 with
  | focused _ hpicked => exact iff_of_true hs hpicked
  | uploaded hne huploads =>
    have hall := (step_formsPicked_iff hs huploads).mpr (editPicked_of_ne hne)
    exact iff_of_true hall trivial
  | @edited e k field text uploads _ huploads hpicked =>
    rw [hpicked, ← pickerTexts_setText_iff (hs k)]
    exact step_formsPicked_iff hs huploads

/-- **The pickers' fields hold what the pickers offer.** From any state in which they do, no row on
offer is out of range, whatever is asked for and selected; and they go on holding nothing else, in
every state of a run, exactly if nothing is ever entered into them, by other means, that a picker
would not write. -/
theorem forms_picked_iff {s t : State} {es : List Event} (h : Run step s es t)
    (htrapped : s.trapped = none) (hs : AllPicked s) :
    t.trapped = none ∧ (Throughout step AllPicked s es ↔ Always step ByPicker s es) := by
  constructor
  · exact h.invariant (I := fun s => s.trapped = none) (fun _ _ _ _ => step_trapped) htrapped
  · exact throughout_iff_always (J := fun _ => True) (fun _ _ _ _ _ => trivial)
      (fun _ _ _ _ hs hstep => step_allPicked_iff hs hstep) h trivial hs

theorem pickerTexts_hobbitForm : PickerTexts hobbitForm := by
  intro pickerView
  cases pickerView with
  | gradesPicker => exact Or.inr ⟨"7", by decide, rfl⟩
  | conditionPicker => exact Or.inr ⟨"Good", by decide, rfl⟩

/-- The grade is chosen again, Return leads on to the author, and the book is uploaded: for the
runs on fixed inputs. -/
def chosenGrade : List Event :=
  [.tapField 0 .txtGrades, .titleForRow 0 .gradesPicker 2, .selectRow 0 .gradesPicker 2,
    .returnKey 0, .enterText 0 "Tolkien", .doneButtonTapped 0, .upload (.submit 0 "U1"),
    .upload (.putDataDone "U1" .stored), .upload (.addDocumentDone "U1" none)]

theorem chosenGrade_byPicker : Always step ByPicker (initial filledScreens) chosenGrade :=
  ⟨trivial, trivial, trivial, trivial, nofun, trivial, trivial, trivial, trivial, trivial⟩

theorem chosen_grade_stays_picked :
    ∃ t, Run step (initial filledScreens) chosenGrade t ∧ t.trapped = none ∧
      Throughout step AllPicked (initial filledScreens) chosenGrade := by
  obtain ⟨t, hrun⟩ : ∃ t, Run step (initial filledScreens) chosenGrade t := ⟨_, rfl⟩
  have hpicked : AllPicked (initial filledScreens) := fun _ => pickerTexts_hobbitForm
  obtain ⟨htrapped, hiff⟩ := forms_picked_iff hrun rfl hpicked
  exact ⟨t, hrun, htrapped, hiff.mpr chosenGrade_byPicker⟩

-- ---------------------------------------------------------------------------
-- Refinement
-- ---------------------------------------------------------------------------

/-- A step here is what the upload screens do on the events it comes down to. -/
theorem step_refines {s s' : State} {e : Event} (hstep : step s e = some s') :
    Run Upload.step s.uploads (uploadEvents s e) s'.uploads := by
  cases (step_effect hstep).2 with
  | focused hevents _ =>
    rw [hevents]
    exact run_nil.mpr rfl
  | edited hevents huploads _ =>
    rw [hevents]
    exact run_singleton.mpr huploads
  | uploaded _ huploads => exact run_singleton.mpr huploads

theorem uploadEvents_picked {s s' : State} {e : Event} (hs : AllPicked s) (hpicked : ByPicker s e)
    (hstep : step s e = some s') : ∀ ue ∈ uploadEvents s e, EditPicked ue := by
  cases (step_effect hstep).2 with
  | focused hevents _ =>
    rw [hevents]
    exact List.forall_mem_nil _
  | @edited e k field text uploads hevents _ hiff =>
    rw [hevents, List.forall_mem_singleton]
    exact (pickerTexts_setText_iff (hs k) field text).mpr (hiff.mp hpicked)
  | uploaded hne _ => exact List.forall_mem_singleton.mpr (editPicked_of_ne hne)

/-- **What users enter is an edit of the upload screens.** A run of fields tapped, texts entered,
rows selected and keys pressed is a run of the upload screens; and if nothing but the pickers'
rows goes into their fields, all its edits leave forms with such texts. -/
theorem input_refines_uploads {s t : State} {es : List Event} (h : Run step s es t)
    (hs : AllPicked s) (hpicked : Always step ByPicker s es) :
    ∃ us, Run Upload.step s.uploads us t.uploads ∧ ∀ ue ∈ us, EditPicked ue := by
  have hrun := h.simulate (R := fun s uploads => s.uploads = uploads)
    (fun s e s' uploads hR _ hstep => ⟨s'.uploads, hR ▸ step_refines hstep, rfl⟩) hpicked rfl
  obtain ⟨uploads, hrun, rfl⟩ := hrun
  refine ⟨_, hrun, forall_mem_collect ?_⟩
  refine h.always_of_invariant (I := AllPicked) ?_ hpicked hs
  intro s e s' hs hpicked hstep
  exact ⟨(step_allPicked_iff hs hstep).mpr hpicked, uploadEvents_picked hs hpicked hstep⟩

-- ---------------------------------------------------------------------------
-- What is uploaded
-- ---------------------------------------------------------------------------

/-- A tap finds the form of its screen. -/
theorem startedUpload_form {s : Upload.State} {e : Upload.Event} {tap : Tap}
    (h : tap ∈ startedUpload s e) : ∃ k, tap.form = (s.screens k).form := by
  cases e with
  | submit k uniqueId =>
    simp only [startedUpload] at h
    split at h
    · rw [List.mem_singleton] at h
      subst h
      exact ⟨k, rfl⟩
    · cases h
  | _ => cases h

/-- So uploads are started from forms with the pickers' texts. -/
theorem startedUploads_picked {s t : Upload.State} {es : List Upload.Event}
    (h : Run Upload.step s es t) (hs : ∀ k, PickerTexts (s.screens k).form)
    (hedits : ∀ e ∈ es, EditPicked e) :
    ∀ tap ∈ collect Upload.step startedUpload s es, PickerTexts tap.form := by
  refine forall_mem_collect (h.always_of_invariant (G := fun _ e => EditPicked e)
    (I := fun s => ∀ k, PickerTexts (s.screens k).form) ?_
    (always_of_forall_mem (fun e he _ => hedits e he) s) hs)
  intro s e s' hs he hstep
  refine ⟨(step_formsPicked_iff hs hstep).mpr he, fun tap htap => ?_⟩
  obtain ⟨k, hform⟩ := startedUpload_form htap
  exact hform ▸ hs k

/-- A form that passes the checks has a row's text in each picker's field. -/
theorem exists_rowText {form : Form} (hchecks : formError form = none) (h : PickerTexts form)
    (pickerView : UIPickerView) :
    ∃ text ∈ rowTexts pickerView, form.text (textField pickerView) = some text := by
  obtain ⟨-, -, hgrades, -, hcondition, -⟩ := formError_eq_none.mp hchecks
  have hentered : isMissing (form.text (textField pickerView)) = false := by
    cases pickerView
    · exact hgrades
    · exact hcondition
  exact (h pickerView).resolve_left (by simp [hentered])

/-- The grade text is that of a row, and parses to six more than the row. -/
theorem exists_gradeRow {form : Form} (hchecks : formError form = none) (h : PickerTexts form) :
    ∃ row < numberOfRowsInComponent .gradesPicker, form.txtGrades = some (toString (row + 6)) ∧
      Decimal.parse intWidth (toString (row + 6)) = some ((row : Int) + 6) := by
  obtain ⟨text, htext, hfield⟩ := exists_rowText hchecks h .gradesPicker
  obtain ⟨row, hrow, rfl⟩ := List.mem_map.mp htext
  rw [List.mem_range] at hrow
  exact ⟨row, hrow, hfield, parse_gradeText hrow⟩

/-- **What is uploaded was on offer.** In every run that enters nothing into the pickers' fields
that a picker would not write, every document added decodes, under any identifier, to a book whose
grade and condition are the titles of rows of the two pickers. -/
theorem uploaded_books_are_picked {screens : ScreenId → Screen} {es : List Event} {t : State}
    (h : Run step (initial screens) es t) (hscreens : ∀ k, PickerTexts (screens k).form)
    (hpicked : Always step ByPicker (initial screens) es) :
    ∀ doc ∈ t.uploads.documents, ∀ id, ∃ book, Book.init id doc = .ok book ∧
      (∃ row < numberOfRowsInComponent .gradesPicker,
        titleForRow .gradesPicker row = .ok ("Grade " ++ toString book.grade)) ∧
      ∃ row < numberOfRowsInComponent .conditionPicker,
        titleForRow .conditionPicker row = .ok book.condition := by
  obtain ⟨us, hrun, hedits⟩ := input_refines_uploads h hscreens hpicked
  obtain ⟨l, hl, hissued⟩ := run_tracks hrun
  intro doc hdoc id
  rw [hl.documents] at hdoc
  obtain ⟨tap, hsettled, rfl⟩ := List.mem_map.mp hdoc
  have htap : tap ∈ l.issued := hl.kept.subset hsettled
  have hchecks : formError tap.form = none := (hl.valid tap htap).checks
  have htexts : PickerTexts tap.form :=
    startedUploads_picked hrun hscreens hedits tap (hissued ▸ htap)
  -- the document decodes to what the form holds
  obtain ⟨title, grade, subject, condition, -, hgrade, -, hcondition, hbook⟩ :=
    book_init_addedDocument hchecks tap.user { path := some (imagePath tap.uniqueId) } id
  refine ⟨_, hbook, ?_, ?_⟩
  · obtain ⟨row, hrow, htext, hparse⟩ := exists_gradeRow hchecks htexts
    have hsame : grade = toString (row + 6) := Option.some.inj (hgrade.symm.trans htext)
    refine ⟨row, hrow, ?_⟩
    rw [hsame, hparse]
    rfl
  · obtain ⟨text, htext, hfield⟩ := exists_rowText hchecks htexts .conditionPicker
    have hsame : text = condition := Option.some.inj (hfield.symm.trans hcondition)
    exact exists_conditionRow (hsame ▸ htext)

theorem chosen_grade_is_uploaded :
    ∃ t, Run step (initial filledScreens) chosenGrade t ∧ t.uploads.documents ≠ [] ∧
      ∀ doc ∈ t.uploads.documents, ∀ id, ∃ book, Book.init id doc = .ok book ∧
        (∃ row < numberOfRowsInComponent .gradesPicker,
          titleForRow .gradesPicker row = .ok ("Grade " ++ toString book.grade)) ∧
        ∃ row < numberOfRowsInComponent .conditionPicker,
          titleForRow .conditionPicker row = .ok book.condition := by
  obtain ⟨t, hrun, hadded⟩ : ∃ t, Run step (initial filledScreens) chosenGrade t ∧
      t.uploads.documents ≠ [] := ⟨_, rfl, List.cons_ne_nil _ _⟩
  exact ⟨t, hrun, hadded, uploaded_books_are_picked hrun (fun _ => pickerTexts_hobbitForm)
    chosenGrade_byPicker⟩

end Bookshare.Upload.Input
