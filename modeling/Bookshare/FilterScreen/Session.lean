import Bookshare.Catalogue.Filter
import Bookshare.FilterScreen.System

/-!
# A filter session

The filter screen on top of the catalogue, from the segue that opens it to
"Done". Meanwhile rows are tapped, come on screen and go off it, the screen
appears again, and loads that are in flight complete behind it.

Main result: `filter_session_toggles`.
-/

namespace Bookshare.FilterScreen.Session

open Machine Positions TextBooksViewController

structure State where
  screen : BooksFilterViewController
  catalogue : Catalogue.State

inductive Event where
  | screen (e : FilterScreen.Event)
  | loadDone (result : Except String (List QueryDocument))

def step (s : State) : Event → Option State
  | .screen e => (FilterScreen.step s.screen e).map fun screen => { s with screen }
  | .loadDone result => (Catalogue.step s.catalogue (.loadDone result)).map fun catalogue =>
    { s with catalogue }

/-- The screen is opened. -/
def opened (catalogue : Catalogue.State) : State where
  screen := catalogue.controller.showFilter
  catalogue := catalogue

/-- "Done" is tapped: the grade of the selected row goes to the catalogue. -/
def done (s : State) : Except Trap TextBooksViewController :=
  s.screen.doneButtonTapped.map s.catalogue.controller.gradeSelected

/-- The row of the filter that is on, when its grade is offered. -/
def openingRow (vc : TextBooksViewController) : Option Nat :=
  vc.filterGrade.bind fun grade => vc.getGradesFromBooks.idxOf? grade

/-- The selection after an event: a load does not touch it. -/
def selectInSession (openingRow : Option Nat) (selected : Option Nat) : Event → Option Nat
  | .screen e => select openingRow selected e
  | .loadDone _ => selected

/-- The row selected after `es`: the taps toggle it, and `viewDidAppear` resets it. -/
def selectedRow (openingRow : Option Nat) (es : List Event) : Option Nat :=
  es.foldl (selectInSession openingRow) none

/-- `grades[indexPath.row]` is in range, at "Done" and for all rows that the table asks for. -/
structure InRange (vc : BooksFilterViewController) : Prop where
  done : ∃ grade, vc.doneButtonTapped = .ok grade
  cells : ∀ row < vc.numberOfRowsInSection, ∃ cell, vc.cellForRowAt row = .ok cell

/-- The screen is consistent, and shows what it was opened with. -/
structure OpenedFrom (vc : TextBooksViewController) (s : State) : Prop where
  consistent : Consistent s.screen
  grades : s.screen.grades = vc.getGradesFromBooks
  filterGrade : s.screen.filterGrade = vc.filterGrade

-- ---------------------------------------------------------------------------
-- Steps
-- ---------------------------------------------------------------------------

theorem openedFrom_opened (catalogue : Catalogue.State) :
    OpenedFrom catalogue.controller (opened catalogue) where
  consistent := ⟨rfl, nofun⟩
  grades := rfl
  filterGrade := rfl

theorem step_openedFrom {vc : TextBooksViewController} {s s' : State} {e : Event}
    (hs : OpenedFrom vc s) (h : step s e = some s') : OpenedFrom vc s' := by
  cases e with
  | screen e =>
    obtain ⟨screen, hscreen, rfl⟩ := Option.map_eq_some_iff.mp h
    obtain ⟨hgrades, hfilter⟩ := (step_effect hs.consistent hscreen).opening
    exact ⟨step_consistent hs.consistent hscreen, hgrades.trans hs.grades,
      hfilter.trans hs.filterGrade⟩
  | loadDone result =>
    obtain ⟨catalogue, -, rfl⟩ := Option.map_eq_some_iff.mp h
    exact ⟨hs.consistent, hs.grades, hs.filterGrade⟩

/-- The offered grades are distinct, so the last row of the filter's grade is its only one. -/
theorem filterRow_eq {vc : TextBooksViewController} {s : State} (hs : OpenedFrom vc s) :
    s.screen.filterRow = openingRow vc := by
  have hnodup : vc.getGradesFromBooks.Nodup := (getGradesFromBooks_pairwise vc).nodup
  unfold BooksFilterViewController.filterRow openingRow
  rw [hs.filterGrade, hs.grades]
  congr 1
  funext grade
  exact lastIndex_eq_idxOf? hnodup grade

theorem step_selected {vc : TextBooksViewController} {s s' : State} {e : Event}
    (hs : OpenedFrom vc s) (h : step s e = some s') :
    s'.screen.tableView.indexPathForSelectedRow =
      selectInSession (openingRow vc) s.screen.tableView.indexPathForSelectedRow e := by
  cases e with
  | screen e =>
    obtain ⟨screen, hscreen, rfl⟩ := Option.map_eq_some_iff.mp h
    rw [selectInSession, ← filterRow_eq hs]
    exact (step_effect hs.consistent hscreen).selected
  | loadDone result =>
    obtain ⟨catalogue, -, rfl⟩ := Option.map_eq_some_iff.mp h
    rfl

-- ---------------------------------------------------------------------------
-- "Done"
-- ---------------------------------------------------------------------------

theorem inRange_of_consistent {vc : BooksFilterViewController} (h : Consistent vc) :
    InRange vc where
  done := ⟨_, doneButtonTapped_eq h⟩
  cells := fun _ hrow => ⟨_, BooksFilterViewController.cellForRowAt_eq_ok hrow⟩

/-- **A filter session computes the toggle of its taps.** Whatever the catalogue holds, whatever
filter is on and whatever happens until "Done": the two selections agree in all states in
between, and no index is out of range; "Done" sets the filter to the grade of the row that the
taps have toggled to, which is one of those offered, and leaves of the books then loaded those
of that grade. -/
theorem filter_session_toggles (catalogue : Catalogue.State) {es : List Event} {t : State}
    (h : Run step (opened catalogue) es t) :
    let grades := catalogue.controller.getGradesFromBooks
    let row := selectedRow (openingRow catalogue.controller) es
    Throughout step (fun s => s.screen.previouslySelectedIndexPath =
      s.screen.tableView.indexPathForSelectedRow ∧ InRange s.screen) (opened catalogue) es ∧
    (∀ i, row = some i → i < grades.length) ∧
    ∃ vc, done t = .ok vc ∧ vc.filterGrade = row.bind (fun i => grades[i]?) ∧
      vc.originalBooks = t.catalogue.controller.originalBooks ∧
      vc.books = visible vc.filterGrade vc.originalBooks := by
  intro grades row
  have hstep : ∀ s e s', OpenedFrom catalogue.controller s → step s e = some s' →
      OpenedFrom catalogue.controller s' := fun _ _ _ hs hs' => step_openedFrom hs hs'
  have hopened := openedFrom_opened catalogue
  have ht : OpenedFrom catalogue.controller t := h.invariant hstep hopened
  -- the selection at the end is the fold of the events
  have hrow : t.screen.tableView.indexPathForSelectedRow = row :=
    h.foldl (f := fun s => s.screen.tableView.indexPathForSelectedRow) hstep
      (fun _ _ _ hs hs' => step_selected hs hs') hopened
  refine ⟨?_, ?_, ?_⟩
  · intro pre s _ hrun
    have hs : OpenedFrom catalogue.controller s := hrun.invariant hstep hopened
    exact ⟨hs.consistent.previously, inRange_of_consistent hs.consistent⟩
  · intro i hi
    have hlt := ht.consistent.inRange i (hrow.trans hi)
    rw [BooksFilterViewController.numberOfRowsInSection, ht.grades] at hlt
    exact hlt
  · refine ⟨t.catalogue.controller.gradeSelected (row.bind fun i => grades[i]?), ?_, ?_, ?_, ?_⟩
    · rw [done, doneButtonTapped_eq ht.consistent, hrow, ht.grades]
      rfl
    · simp [gradeSelected]
    · simp [gradeSelected]
    · simp [gradeSelected]

/-- The catalogue holds grades 8 and 7, the filter is on grade 7, and a load is in flight. -/
def filteredOnSeven : Catalogue.State where
  controller :=
    { books := [hobbit]
      originalBooks := [{ hobbit with grade := 8 }, hobbit]
      filterGrade := some 7 }
  loads := 1

/-- Grade 8 is tapped, tapped again and tapped a third time; the load completes in between. -/
def tapsOnEight : List Event :=
  [.screen (.rowShown 0), .screen (.rowShown 1), .screen .viewDidAppear, .screen (.tapRow 1),
    .screen (.tapRow 1), .loadDone (.ok [Catalogue.uploaded "B" "8", Catalogue.uploaded "C" "9"]),
    .screen (.tapRow 1)]

/-- The session ends with the filter on grade 8, over the books loaded meanwhile. -/
theorem taps_on_eight_filter :
    ∃ t vc, Run step (opened filteredOnSeven) tapsOnEight t ∧ done t = .ok vc ∧
      vc.filterGrade = some 8 ∧ vc.originalBooks.map Book.grade = [8, 9] ∧
      vc.books = vc.originalBooks.filter fun book => book.grade == 8 := by
  have hgrades : filteredOnSeven.controller.getGradesFromBooks = [7, 8] := by
    simp [getGradesFromBooks, filteredOnSeven, hobbit, Finset.sort_insert]
  have hopening : openingRow filteredOnSeven.controller = some 0 := by
    rw [openingRow, hgrades]
    rfl
  obtain ⟨t, hrun, hloaded⟩ : ∃ t, Run step (opened filteredOnSeven) tapsOnEight t ∧
      t.catalogue.controller.originalBooks.map Book.grade = [8, 9] := by
    rw [opened, showFilter, hgrades]
    exact ⟨_, rfl, rfl⟩
  obtain ⟨-, -, vc, hdone, hfilter, horiginal, hbooks⟩ := filter_session_toggles _ hrun
  rw [hgrades, hopening] at hfilter
  rw [hfilter] at hbooks
  exact ⟨t, vc, hrun, hdone, hfilter, horiginal ▸ hloaded, hbooks⟩

end Bookshare.FilterScreen.Session
