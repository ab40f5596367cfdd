import Bookshare.Model.FilterScreen
import Bookshare.Requests.Provenance
import Bookshare.Upload.Input

/-!
# From the grades picker to the filter

A grade is picked as a row of the upload screen's picker, sent as text, stored,
loaded by another client, parsed, collected into a set and offered as a row of
the filter screen. This module follows it all the way, for documents that have
been uploaded from forms filled in through the pickers.

Main result: `filter_rows_are_picker_rows`.
-/

namespace Bookshare.Requests

open Dynamic Machine TextBooksViewController BooksUploadViewController
open Upload.Input (PickerTexts)

/-- Edits of upload forms leave the pickers' texts in the pickers' fields. -/
def EditPicked (_ : State) : Event → Prop
  | .upload e _ => Upload.Input.EditPicked e
  | _ => True

def FormsPicked (s : State) : Prop := ∀ k, PickerTexts (s.uploads.screens k).form

-- ---------------------------------------------------------------------------
-- Forms and taps
-- ---------------------------------------------------------------------------

theorem step_formsPicked {s s' : State} {e : Event} (hs : FormsPicked s) (he : EditPicked s e)
    (hstep : step s e = some s') :
    FormsPicked s' ∧ ∀ tap ∈ startedUploads s e, PickerTexts tap.form := by
  cases e with
  | upload ue documentID =>
    refine ⟨(Upload.Input.step_formsPicked_iff hs (step_upload hstep).1).mpr he, ?_⟩
    intro tap htap
    obtain ⟨k, hform⟩ := Upload.Input.startedUpload_form htap
    rw [hform]
    exact hs k
  | _ =>
    have hsame : s'.uploads = s.uploads := by cases step_effect hstep <;> rfl
    refine ⟨?_, List.forall_mem_nil _⟩
    unfold FormsPicked
    rw [hsame]
    exact hs

/-- Every upload of such a run was started from a form with the pickers' texts. -/
theorem taps_picked {s t : State} {es : List Event} (h : Run step s es t) (hs : FormsPicked s)
    (hedits : Always step EditPicked s es) :
    ∀ tap ∈ collect step startedUploads s es, PickerTexts tap.form := by
  refine forall_mem_collect (h.always_of_invariant (I := FormsPicked) ?_ hedits hs)
  intro s e s' hs he hstep
  exact step_formsPicked hs he hstep

-- ---------------------------------------------------------------------------
-- Books
-- ---------------------------------------------------------------------------

/-- The book's user had selected `row` of the grades picker, at the tap of `taps` that its document
stems from. -/
def PickedRow (taps : List Upload.Tap) (s : State) (book : Book) (row : Nat) : Prop :=
  ∃ tap ∈ taps, Source s (docId book) tap ∧ row < numberOfRowsInComponent .gradesPicker ∧
    tap.form.txtGrades = some (toString (row + 6))

section

variable {taps : List Upload.Tap} {s : State}

/-- What a client shows of a picked grade: it is six more than the row. -/
theorem Sourced.pickedRow (h : Sourced taps s) (hpicked : ∀ tap ∈ taps, PickerTexts tap.form)
    {c : ClientId} {book : Book} (hshows : (s.clients c).Shows book) :
    ∃ row, PickedRow taps s book row ∧ book.grade = (row : Int) + 6 := by
  obtain ⟨doc, hdoc, -⟩ := h.shows c book hshows
  obtain ⟨tap, htap, hsource, hshown⟩ := h.exists_source (List.ne_nil_of_mem hdoc)
  obtain ⟨l, hl, rfl⟩ := h.ledger
  obtain ⟨row, hrow, htext, hparse⟩ :=
    Upload.Input.exists_gradeRow (hl.valid tap htap).checks (hpicked tap htap)
  refine ⟨row, ⟨tap, htap, hsource, hrow, htext⟩, ?_⟩
  -- the text in the form is the one the document was decoded from
  obtain ⟨grade, hgrade, hbook⟩ := (hshown c book hshows rfl).grade
  have hsame : toString (row + 6) = grade := Option.some.inj (htext.symm.trans hgrade)
  rw [hbook, ← hsame, hparse]
  rfl

/-- A document tells which grade text was uploaded. -/
theorem Source.txtGrades_eq {path : String} {tap tap' : Upload.Tap} (h : Source s path tap)
    (h' : Source s path tap') : tap.form.txtGrades = tap'.form.txtGrades := by
  obtain ⟨doc, hdoc⟩ := List.exists_mem_of_ne_nil _ h.exists_doc
  have hgrade : tap.document "grade" = tap'.document "grade" := by
    rw [← h.fields doc hdoc "grade" (by decide), ← h'.fields doc hdoc "grade" (by decide)]
  rw [Upload.Tap.document, Upload.Tap.document, withImage_ne _ _ (by decide),
    withImage_ne _ _ (by decide), submittedDoc_grade, submittedDoc_grade] at hgrade
  exact Option.map_injective (fun _ _ heq => Value.string.inj heq) hgrade

theorem PickedRow.unique {book : Book} {row row' : Nat} (h : PickedRow taps s book row)
    (h' : PickedRow taps s book row') : row = row' := by
  obtain ⟨tap, -, hsource, hrow, htext⟩ := h
  obtain ⟨tap', -, hsource', hrow', htext'⟩ := h'
  have hsame : toString (row + 6) = toString (row' + 6) := by
    refine Option.some.inj ?_
    rw [← htext, ← htext', hsource.txtGrades_eq hsource']
  -- the texts are parsed to the same number
  have hparsed := parse_gradeText hrow
  rw [hsame, parse_gradeText hrow', Option.some.injEq] at hparsed
  omega

/-- Books of a grade are those whose users had selected its row. -/
theorem Sourced.grade_iff (h : Sourced taps s) (hpicked : ∀ tap ∈ taps, PickerTexts tap.form)
    {c : ClientId} {book : Book} (hshows : (s.clients c).Shows book) (row : Nat) :
    book.grade = (row : Int) + 6 ↔ PickedRow taps s book row := by
  obtain ⟨row', hrow', hgrade⟩ := h.pickedRow hpicked hshows
  constructor
  · intro heq
    have hsame : row' = row := by omega
    exact hsame ▸ hrow'
  · intro hrow
    rw [hgrade, hrow'.unique hrow]

/-- A row of the filter screen has a grade of some loaded book, and says so. -/
theorem cellForRowAt_showFilter {vc : TextBooksViewController} {i : Nat} {cell : UITableViewCell}
    (h : vc.showFilter.cellForRowAt i = .ok cell) :
    ∃ grade, vc.showFilter.grades[i]? = some grade ∧ cell.text = "Grade " ++ toString grade ∧
      ∃ book ∈ vc.originalBooks, book.grade = grade := by
  unfold BooksFilterViewController.cellForRowAt at h
  split at h
  · next grade hgrade =>
    injection h with h
    subst h
    exact ⟨grade, hgrade, rfl, mem_getGradesFromBooks.mp (List.mem_of_getElem? hgrade)⟩
  · cases h

end

-- ---------------------------------------------------------------------------
-- Runs
-- ---------------------------------------------------------------------------

/-- **The filter offers rows of the grades picker**, under the same titles, on every client and in
every run from an empty collection whose upload forms are filled in through the pickers. Choosing
one shows exactly the loaded books whose users had selected that row, also when the catalogue has
been loaded anew, with other books in it, since the filter screen was opened. -/
theorem filter_rows_are_picker_rows {screens : Upload.ScreenId → Upload.Screen}
    {users : ClientId → Option FIRUser} {es more : List Event} {t u : State}
    (h : Run step (initial screens (fun _ => none) users) es t) (hmore : Run step t more u)
    (hscreens : ∀ k, PickerTexts (screens k).form)
    (hedits : Always step EditPicked (initial screens (fun _ => none) users) (es ++ more))
    (c : ClientId) {i : Nat} {cell : UITableViewCell}
    (hcell : (t.clients c).catalogue.showFilter.cellForRowAt i = .ok cell) :
    ∃ row, titleForRow .gradesPicker row = .ok cell.text ∧
      row < numberOfRowsInComponent .gradesPicker ∧
      ∀ book ∈ (u.clients c).catalogue.originalBooks,
        book ∈ ((u.clients c).catalogue.gradeSelected
            ((t.clients c).catalogue.showFilter.grades[i]?)).books ↔
          PickedRow (collect step startedUploads (initial screens (fun _ => none) users)
            (es ++ more)) u book row := by
  have hall : Run step (initial screens (fun _ => none) users) (es ++ more) u :=
    run_append.mpr ⟨t, h, hmore⟩
  have hpicked := taps_picked hall hscreens hedits
  have hearlier : ∀ tap ∈ collect step startedUploads (initial screens (fun _ => none) users) es,
      PickerTexts tap.form := by
    intro tap htap
    refine hpicked tap ?_
    rw [h.collect_append]
    exact List.mem_append_left _ htap
  -- the row was offered for a book loaded by then
  obtain ⟨grade, hgrade, htext, first, hfirst, rfl⟩ := cellForRowAt_showFilter hcell
  obtain ⟨row, ⟨_, _, _, hlt, _⟩, heq⟩ :=
    (run_sourced h).pickedRow hearlier (c := c) (Or.inl hfirst)
  refine ⟨row, ?_, hlt, ?_⟩
  · rw [htext, heq]
    rfl
  · intro book hbook
    have hshows : (u.clients c).Shows book := Or.inl hbook
    rw [← (run_sourced hall).grade_iff hpicked hshows row, hgrade, ← heq]
    simp [gradeSelected, visible, hbook]

/-- Bob opens the filter screen on a book Alice has uploaded with the second row selected, and
the catalogue is loaded again, with his request in the document, before he chooses. -/
theorem uploaded_grade_is_offered :
    ∃ t u cell, Run step (initial Upload.filledScreens (fun _ => none) fun _ => some bob)
        uploadAndRequest t ∧ Run step t [.client 0 (.load (.ok [("A", 1)]))] u ∧
      (t.clients 0).catalogue.showFilter.cellForRowAt 0 = .ok cell ∧
      (u.clients 0).catalogue.originalBooks ≠ [] ∧
      ∃ row, titleForRow .gradesPicker row = .ok cell.text ∧
        row < numberOfRowsInComponent .gradesPicker ∧
        ∀ book ∈ (u.clients 0).catalogue.originalBooks,
          book ∈ ((u.clients 0).catalogue.gradeSelected
              ((t.clients 0).catalogue.showFilter.grades[0]?)).books ↔
            PickedRow (collect step startedUploads
              (initial Upload.filledScreens (fun _ => none) fun _ => some bob)
              (uploadAndRequest ++ [.client 0 (.load (.ok [("A", 1)]))])) u book row := by
  obtain ⟨t, u, book, hrun, hmore, hbook, hloaded⟩ : ∃ t u book,
      Run step (initial Upload.filledScreens (fun _ => none) fun _ => some bob)
        uploadAndRequest t ∧ Run step t [.client 0 (.load (.ok [("A", 1)]))] u ∧
      book ∈ (t.clients 0).catalogue.originalBooks ∧
      (u.clients 0).catalogue.originalBooks ≠ [] :=
    ⟨_, _, _, rfl, rfl, List.mem_cons_self, List.cons_ne_nil _ _⟩
  have hrow : 0 < (t.clients 0).catalogue.showFilter.numberOfRowsInSection :=
    List.length_pos_of_mem (mem_getGradesFromBooks.mpr ⟨book, hbook, rfl⟩)
  have hcell := BooksFilterViewController.cellForRowAt_eq_ok hrow
  have hedits : Always step EditPicked
      (initial Upload.filledScreens (fun _ => none) fun _ => some bob)
      (uploadAndRequest ++ [.client 0 (.load (.ok [("A", 1)]))]) :=
    ⟨trivial, trivial, trivial, trivial, trivial, trivial, trivial, trivial, trivial, trivial⟩
  exact ⟨t, u, _, hrun, hmore, hcell, hloaded, filter_rows_are_picker_rows hrun hmore
    (fun _ => Upload.Input.pickerTexts_hobbitForm) hedits 0 hcell⟩

end Bookshare.Requests
