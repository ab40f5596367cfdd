import Bookshare.Library.Machine
import Bookshare.Model.FilterScreen

/-!
# The filter screen in use

The filter screen under any sequence of taps on its rows, rows coming on screen
and going off it, and calls of `viewDidAppear`.

Assumed of UIKit, for a table with single selection: a tap on a row that is not
selected selects it, and tells the delegate of the row deselected and then of
the row selected; a tap on the selected row tells it of a selection again. The
table asks for cells only of the rows it was told there are.

What the selection is meant to be is `select`: a tap toggles its row, and
`viewDidAppear` goes back to the row of the opening filter. `step_selected` says
that both the table and `previouslySelectedIndexPath` follow it.
-/

namespace Bookshare.FilterScreen

open Machine

inductive Event where
  | tapRow (row : Nat)
  | viewDidAppear
  /-- The row comes on screen. -/
  | rowShown (row : Nat)
  | rowHidden (row : Nat)

/-- A tap on a row: what the table does and what it tells its delegate. -/
def tapRow (vc : BooksFilterViewController) (row : Nat) : BooksFilterViewController :=
  let selecting := { vc with tableView := vc.tableView.selectRow row }
  match vc.tableView.indexPathForSelectedRow with
  | some selected =>
    if selected = row then vc.didSelectRowAt row
    else (selecting.didDeselectRowAt selected).didSelectRowAt row
  | none => selecting.didSelectRowAt row

def step (vc : BooksFilterViewController) : Event → Option BooksFilterViewController
  | .tapRow row => if row < vc.numberOfRowsInSection then some (tapRow vc row) else none
  | .viewDidAppear => some vc.viewDidAppear
  | .rowShown row =>
    if row < vc.numberOfRowsInSection then
      (vc.cellForRowAt row).toOption.map fun cell =>
        { vc with tableView := vc.tableView.setCell row (some cell) }
    else none
  | .rowHidden row => some { vc with tableView := vc.tableView.setCell row none }

/-- Tapping the selected row clears the selection, and tapping another one selects it. -/
def toggle (row : Nat) (selected : Option Nat) : Option Nat :=
  if selected = some row then none else some row

/-- The selection after an event, `filterRow` being the row of the opening filter. -/
def select (filterRow : Option Nat) (selected : Option Nat) : Event → Option Nat
  | .tapRow row => toggle row selected
  | .viewDidAppear => filterRow.or selected
  | .rowShown _ | .rowHidden _ => selected

/-- The selection is kept twice alike, and is one of the rows. -/
structure Consistent (vc : BooksFilterViewController) : Prop where
  previously : vc.previouslySelectedIndexPath = vc.tableView.indexPathForSelectedRow
  inRange : ∀ row, vc.tableView.indexPathForSelectedRow = some row → row < vc.numberOfRowsInSection

-- ---------------------------------------------------------------------------
-- A tap
-- ---------------------------------------------------------------------------

/-- What a tap leaves behind, when the two selections agree: both are toggled, and the accessory
of the tapped row says which way, that of the row selected before being cleared. -/
theorem tapRow_eq {vc : BooksFilterViewController} (h : Consistent vc) (row : Nat) :
    (vc.tableView.indexPathForSelectedRow = some row ∧
      tapRow vc row = { vc with
        previouslySelectedIndexPath := none
        tableView := (vc.tableView.deselectRow row).setAccessory row .none }) ∨
    (∃ tableView, vc.tableView.indexPathForSelectedRow ≠ some row ∧
      (tableView = vc.tableView.selectRow row ∧ vc.tableView.indexPathForSelectedRow = none ∨
        ∃ selected, vc.tableView.indexPathForSelectedRow = some selected ∧
          tableView = (vc.tableView.selectRow row).setAccessory selected .none) ∧
      tapRow vc row = { vc with
        previouslySelectedIndexPath := some row
        tableView := tableView.setAccessory row .checkmark }) := by
  cases hselected : vc.tableView.indexPathForSelectedRow with
  | none =>
    have hprevious : vc.previouslySelectedIndexPath ≠ some row := by
      rw [h.previously, hselected]
      exact nofun
    refine Or.inr ⟨vc.tableView.selectRow row, nofun, Or.inl ⟨rfl, rfl⟩, ?_⟩
    simp only [tapRow, hselected]
    exact if_neg hprevious
  | some selected =>
    by_cases heq : selected = row
    · -- the selected row
      subst heq
      have hprevious : vc.previouslySelectedIndexPath = some selected := by
        rw [h.previously, hselected]
      refine Or.inl ⟨rfl, ?_⟩
      simp only [tapRow, hselected, if_true]
      exact if_pos hprevious
    · -- another row
      have hne : some selected ≠ some row := fun hsame => heq (Option.some.inj hsame)
      have hprevious : vc.previouslySelectedIndexPath ≠ some row := by
        rw [h.previously, hselected]
        exact hne
      refine Or.inr ⟨_, hne, Or.inr ⟨selected, rfl, rfl⟩, ?_⟩
      simp only [tapRow, hselected]
      rw [if_neg heq]
      exact if_neg hprevious

-- ---------------------------------------------------------------------------
-- What a step can do
-- ---------------------------------------------------------------------------

inductive Effect (vc : BooksFilterViewController) : Event → BooksFilterViewController → Prop
  | cleared {row} : vc.tableView.indexPathForSelectedRow = some row →
      Effect vc (.tapRow row) { vc with
        previouslySelectedIndexPath := none
        tableView := (vc.tableView.deselectRow row).setAccessory row .none }
  | chosen {row tableView} : row < vc.numberOfRowsInSection →
      vc.tableView.indexPathForSelectedRow ≠ some row →
      (tableView = vc.tableView.selectRow row ∧ vc.tableView.indexPathForSelectedRow = none ∨
        ∃ selected, vc.tableView.indexPathForSelectedRow = some selected ∧
          tableView = (vc.tableView.selectRow row).setAccessory selected .none) →
      Effect vc (.tapRow row) { vc with
        previouslySelectedIndexPath := some row
        tableView := tableView.setAccessory row .checkmark }
  | appeared {index} : vc.filterRow = some index →
      Effect vc .viewDidAppear { vc with
        previouslySelectedIndexPath := some index
        tableView := vc.tableView.selectRow index }
  | notOffered : vc.filterRow = none → Effect vc .viewDidAppear vc
  | shown {row cell} : row < vc.numberOfRowsInSection → vc.cellForRowAt row = .ok cell →
      Effect vc (.rowShown row) { vc with tableView := vc.tableView.setCell row (some cell) }
  | hidden {row} :
      Effect vc (.rowHidden row) { vc with tableView := vc.tableView.setCell row none }

theorem step_effect {vc vc' : BooksFilterViewController} {e : Event} (hc : Consistent vc)
    (h : step vc e = some vc') : Effect vc e vc' := by
  cases e with
  | tapRow row =>
    obtain ⟨hrow, h⟩ := Option.ite_none_right_eq_some.mp h
    injection h with h
    subst h
    rcases tapRow_eq hc row with ⟨hselected, htap⟩ | ⟨tableView, hselected, htable, htap⟩
    · rw [htap]
      exact Effect.cleared hselected
    · rw [htap]
      exact Effect.chosen hrow hselected htable
  | viewDidAppear =>
    injection h with h
    subst h
    unfold BooksFilterViewController.viewDidAppear
    split
    · next index hindex => exact Effect.appeared hindex
    · next hnone => exact Effect.notOffered hnone
  | rowShown row =>
    obtain ⟨hrow, h⟩ := Option.ite_none_right_eq_some.mp h
    rw [BooksFilterViewController.cellForRowAt_eq_ok hrow] at h
    injection h with h
    subst h
    exact Effect.shown hrow (BooksFilterViewController.cellForRowAt_eq_ok hrow)
  | rowHidden row =>
    injection h with h
    subst h
    exact Effect.hidden

/-- The grades and the filter are those the screen was opened with. -/
theorem Effect.opening {vc vc' : BooksFilterViewController} {e : Event} (h : Effect vc e vc') :
    vc'.grades = vc.grades ∧ vc'.filterGrade = vc.filterGrade := by
  cases h <;> exact ⟨rfl, rfl⟩

/-- The table's selection follows `select`. -/
theorem Effect.selected {vc vc' : BooksFilterViewController} {e : Event} (h : Effect vc e vc') :
    vc'.tableView.indexPathForSelectedRow =
      select vc.filterRow vc.tableView.indexPathForSelectedRow e := by
  cases h with
  | cleared hselected => simp [select, toggle, hselected]
  | chosen _ hselected htable =>
    rw [select, toggle, if_neg hselected]
    rcases htable with ⟨rfl, -⟩ | ⟨selected, -, rfl⟩
    · rfl
    · rfl
  | appeared hindex => simp [select, hindex]
  | notOffered hnone => simp [select, hnone]
  | shown => rfl
  | hidden => rfl

/-- `previouslySelectedIndexPath` follows it too. -/
theorem Effect.previously {vc vc' : BooksFilterViewController} {e : Event} (hc : Consistent vc)
    (h : Effect vc e vc') :
    vc'.previouslySelectedIndexPath = vc'.tableView.indexPathForSelectedRow := by
  cases h with
  | cleared hselected => simp [hselected]
  | chosen _ _ htable =>
    rcases htable with ⟨rfl, -⟩ | ⟨selected, -, rfl⟩
    · rfl
    · rfl
  | appeared => rfl
  | notOffered => exact hc.previously
  | shown => exact hc.previously
  | hidden => exact hc.previously

theorem step_consistent {vc vc' : BooksFilterViewController} {e : Event} (hc : Consistent vc)
    (h : step vc e = some vc') : Consistent vc' := by
  have heffect := step_effect hc h
  refine ⟨heffect.previously hc, ?_⟩
  intro row hrow
  have hlength : vc'.numberOfRowsInSection = vc.numberOfRowsInSection :=
    congrArg List.length heffect.opening.1
  rw [heffect.selected] at hrow
  rw [hlength]
  cases e with
  | tapRow tapped =>
    -- nothing is selected, or the row that was tapped
    simp only [select, toggle] at hrow
    split at hrow
    · cases hrow
    · injection hrow with hrow
      subst hrow
      exact (Option.ite_none_right_eq_some.mp h).1
  | viewDidAppear =>
    rw [select, Option.or_eq_some_iff] at hrow
    rcases hrow with hindex | ⟨-, hrow⟩
    · exact BooksFilterViewController.filterRow_lt hindex
    · exact hc.inRange row hrow
  | rowShown => exact hc.inRange row hrow
  | rowHidden => exact hc.inRange row hrow

/-- "Done" reports the grade of the selected row. -/
theorem doneButtonTapped_eq {vc : BooksFilterViewController} (h : Consistent vc) :
    vc.doneButtonTapped =
      .ok (vc.tableView.indexPathForSelectedRow.bind fun row => vc.grades[row]?) := by
  unfold BooksFilterViewController.doneButtonTapped
  cases hselected : vc.tableView.indexPathForSelectedRow with
  | none => rfl
  | some row =>
    have hrow : row < vc.grades.length := h.inRange row hselected
    simp only [Option.bind_some, List.getElem?_eq_getElem hrow]

end Bookshare.FilterScreen
