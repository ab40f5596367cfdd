import Bookshare.FilterScreen.System

/-!
# Checkmarks

What the user sees of the selection is the checkmarks of the rows on screen.
`didSelectRowAt` and `didDeselectRowAt` move them with the selection, but
`cellForRowAt` goes by the filter the screen was opened with, and `viewDidAppear`
moves the selection without them.

Main results:

* `checkmarks_tell_truth_iff` — after the first `viewDidAppear`, the checkmarks of
  the rows on screen are those of the selection for good exactly if each row that
  comes on screen is selected just when it has the grade of the opening filter,
  and `viewDidAppear` finds the row of that filter selected;
* `scrolling_loses_checkmark` — a tapped row goes off the screen and comes back.
-/

namespace Bookshare.FilterScreen

open Machine Positions UITableView

/-- The screen, opened with these grades and this filter. -/
def opened (grades : List Int) (filterGrade : Option Int) : BooksFilterViewController where
  tableView := UITableView.empty
  grades := grades
  filterGrade := filterGrade
  previouslySelectedIndexPath := none

/-- Of the rows on screen, those with a checkmark are those selected. -/
def Truthful (vc : BooksFilterViewController) : Prop :=
  ∀ row cell, vc.tableView.cellForRow row = some cell →
    (cell.accessoryType = .checkmark ↔ vc.tableView.indexPathForSelectedRow = some row)

/-- What the user sees is what "Done" will report. -/
structure TellsTruth (vc : BooksFilterViewController) : Prop where
  checkmarks : Truthful vc
  done : ∀ row cell, vc.tableView.cellForRow row = some cell → cell.accessoryType = .checkmark →
    vc.doneButtonTapped = .ok vc.grades[row]?

/-- The rows come on screen and go off it: what a table does of itself. -/
def IsDisplay : Event → Prop
  | .rowShown _ | .rowHidden _ => True
  | _ => False

/-- Of the rows on screen, only the row of the opening filter has its grade. -/
def NoneDoubled (vc : BooksFilterViewController) : Prop :=
  ∀ row, (vc.tableView.cellForRow row).isSome → vc.grades[row]? = vc.filterGrade →
    vc.filterRow = some row

/-- A row that comes on screen is selected just when it has the grade of the opening filter, and
`viewDidAppear` finds the rows on screen selected or not as it is about to make them. -/
def ShowsSelected (vc : BooksFilterViewController) : Event → Prop
  | .rowShown row =>
    vc.grades[row]? = vc.filterGrade ↔ vc.tableView.indexPathForSelectedRow = some row
  | .viewDidAppear => ∀ index, vc.filterRow = some index →
      ∀ row, (vc.tableView.cellForRow row).isSome →
        (vc.tableView.indexPathForSelectedRow = some row ↔ index = row)
  | _ => True

-- ---------------------------------------------------------------------------
-- A step
-- ---------------------------------------------------------------------------

theorem cellForRowAt_checkmark {vc : BooksFilterViewController} {row : Nat} {cell : UITableViewCell}
    (h : vc.cellForRowAt row = .ok cell) :
    cell.accessoryType = .checkmark ↔ vc.grades[row]? = vc.filterGrade := by
  unfold BooksFilterViewController.cellForRowAt at h
  split at h
  · next grade hgrade =>
    injection h with h
    subst h
    rw [hgrade]
    by_cases hfilter : some grade = vc.filterGrade <;> simp [hfilter]
  · cases h

/-- A tap leaves the checkmarks with the selection. -/
theorem truthful_of_tapRow {vc vc' : BooksFilterViewController} {row : Nat} (hs : Truthful vc)
    (h : Effect vc (.tapRow row) vc') : Truthful vc' := by
  cases h with
  | cleared hselected =>
    intro other cell hcell
    rcases setAccessory_eq_some _ _ _ hcell with ⟨rfl, haccessory⟩ | ⟨hne, hcell⟩
    · simp [haccessory, hselected]
    · rw [deselectRow_cellForRow] at hcell
      rw [hs other cell hcell, hselected]
      simp [hselected, Ne.symm hne]
  | chosen _ hselected htable =>
    intro other cell hcell
    rcases setAccessory_eq_some _ _ _ hcell with ⟨rfl, haccessory⟩ | ⟨hne, hcell⟩
    · rcases htable with ⟨rfl, -⟩ | ⟨selected, -, rfl⟩ <;> simp [haccessory]
    · rcases htable with ⟨rfl, hnone⟩ | ⟨selected, hold, rfl⟩
      · -- nothing was selected
        rw [hs other cell hcell, hnone]
        simp [Ne.symm hne]
      · rcases setAccessory_eq_some _ _ _ hcell with ⟨rfl, haccessory⟩ | ⟨hother, hcell⟩
        · -- the row selected before
          simp [haccessory, Ne.symm hne]
        · rw [hs other cell hcell, hold]
          simp [Ne.symm hne, Ne.symm hother]

theorem step_truthful_iff {vc vc' : BooksFilterViewController} {e : Event} (hc : Consistent vc)
    (hs : Truthful vc) (h : step vc e = some vc') : Truthful vc' ↔ ShowsSelected vc e := by
  have heffect := step_effect hc h
  cases heffect with
  | cleared hselected =>
    exact iff_of_true (truthful_of_tapRow hs (Effect.cleared hselected)) trivial
  | chosen hrow hselected htable =>
    exact iff_of_true (truthful_of_tapRow hs (Effect.chosen hrow hselected htable)) trivial
  | @appeared index hindex =>
    -- the checkmarks stay, and the selection moves
    constructor
    · intro ht other hother row hrow
      obtain ⟨cell, hcell⟩ := Option.isSome_iff_exists.mp hrow
      have hsame : other = index := Option.some.inj (hother.symm.trans hindex)
      rw [← hs row cell hcell, ht row cell hcell, hsame, selectRow_selected, Option.some.injEq]
    · intro hshows row cell hcell
      have hrow : (vc.tableView.cellForRow row).isSome := Option.isSome_of_eq_some hcell
      rw [hs row cell hcell, hshows index hindex row hrow, selectRow_selected, Option.some.injEq]
  | notOffered hnone =>
    refine iff_of_true hs ?_
    intro index hindex
    rw [hnone] at hindex
    cases hindex
  | @shown row cell hrow hcell =>
    rw [ShowsSelected, ← cellForRowAt_checkmark hcell]
    constructor
    · intro ht
      exact ht row cell (Function.update_self ..)
    · intro hshows other shown hshown
      rcases setCell_eq_some _ _ _ hshown with ⟨rfl, hsame⟩ | ⟨-, hold⟩
      · injection hsame with hsame
        subst hsame
        exact hshows
      · exact hs other shown hold
  | hidden =>
    refine iff_of_true ?_ trivial
    intro other cell hcell
    rcases setCell_eq_some _ _ _ hcell with ⟨-, hnone⟩ | ⟨-, hold⟩
    · cases hnone
    · exact hs other cell hold

-- ---------------------------------------------------------------------------
-- The first `viewDidAppear`
-- ---------------------------------------------------------------------------

/-- Nothing has been tapped, and the cells on screen are as `cellForRowAt` makes them. -/
structure Untouched (vc : BooksFilterViewController) : Prop where
  consistent : Consistent vc
  unselected : vc.tableView.indexPathForSelectedRow = none
  cells : ∀ row cell, vc.tableView.cellForRow row = some cell → vc.cellForRowAt row = .ok cell

theorem untouched_opened (grades : List Int) (filterGrade : Option Int) :
    Untouched (opened grades filterGrade) where
  consistent := ⟨rfl, nofun⟩
  unselected := rfl
  cells := nofun

theorem step_untouched {vc vc' : BooksFilterViewController} {e : Event} (hs : Untouched vc)
    (he : IsDisplay e) (h : step vc e = some vc') : Untouched vc' := by
  have hconsistent : Consistent vc' := step_consistent hs.consistent h
  cases step_effect hs.consistent h with
  | cleared => cases he
  | chosen => cases he
  | appeared => cases he
  | notOffered => cases he
  | shown hrow hshown =>
    refine ⟨hconsistent, hs.unselected, ?_⟩
    intro other cell hcell
    rcases setCell_eq_some _ _ _ hcell with ⟨rfl, hsame⟩ | ⟨-, hold⟩
    · injection hsame with hsame
      subst hsame
      exact hshown
    · exact hs.cells other cell hold
  | hidden =>
    refine ⟨hconsistent, hs.unselected, ?_⟩
    intro other cell hcell
    rcases setCell_eq_some _ _ _ hcell with ⟨-, hnone⟩ | ⟨-, hold⟩
    · cases hnone
    · exact hs.cells other cell hold

/-- The first `viewDidAppear` selects the row whose cell has the checkmark, if it is the only one
on screen with the grade of the filter. -/
theorem viewDidAppear_truthful_iff {vc : BooksFilterViewController} (hs : Untouched vc) :
    Truthful vc.viewDidAppear ↔ NoneDoubled vc := by
  -- what is selected is the row of the filter, and no cell has changed
  have hselected : vc.viewDidAppear.tableView.indexPathForSelectedRow = vc.filterRow := by
    unfold BooksFilterViewController.viewDidAppear
    split
    · next index hindex => exact hindex.symm
    · next hnone => rw [hnone, hs.unselected]
  have hcells : vc.viewDidAppear.tableView.cellForRow = vc.tableView.cellForRow := by
    unfold BooksFilterViewController.viewDidAppear
    split <;> rfl
  rw [Truthful, hselected, hcells]
  constructor
  · intro ht row hrow hgrade
    obtain ⟨cell, hcell⟩ := Option.isSome_iff_exists.mp hrow
    exact (ht row cell hcell).mp ((cellForRowAt_checkmark (hs.cells row cell hcell)).mpr hgrade)
  · intro hdoubled row cell hcell
    rw [cellForRowAt_checkmark (hs.cells row cell hcell)]
    constructor
    · exact hdoubled row (Option.isSome_of_eq_some hcell)
    · exact BooksFilterViewController.filterRow_grade

-- ---------------------------------------------------------------------------
-- The exact condition
-- ---------------------------------------------------------------------------

theorem tellsTruth_iff {vc : BooksFilterViewController} (hc : Consistent vc) :
    TellsTruth vc ↔ Truthful vc := by
  constructor
  · exact TellsTruth.checkmarks
  · intro ht
    refine ⟨ht, ?_⟩
    intro row cell hcell hchecked
    have hselected : vc.tableView.indexPathForSelectedRow = some row :=
      (ht row cell hcell).mp hchecked
    rw [doneButtonTapped_eq hc, hselected, Option.bind_some]

/-- **The checkmarks tell the truth**, in every state after the first `viewDidAppear`, exactly if
no two rows then on screen had the filter's grade, and from there on every row that comes on
screen, and every further `viewDidAppear`, finds selected what it goes by. -/
theorem checkmarks_tell_truth_iff {grades : List Int} {filterGrade : Option Int}
    {shows es : List Event} {vc t : BooksFilterViewController}
    (hshows : ∀ e ∈ shows, IsDisplay e) (hopen : Run step (opened grades filterGrade) shows vc)
    (h : Run step vc.viewDidAppear es t) :
    Throughout step TellsTruth vc.viewDidAppear es ↔
      NoneDoubled vc ∧ Always step ShowsSelected vc.viewDidAppear es := by
  have huntouched : Untouched vc :=
    hopen.invariant_of_always (fun _ _ _ hs he hstep => step_untouched hs he hstep)
      (always_of_forall_mem (fun e he _ => hshows e he) _) (untouched_opened grades filterGrade)
  have hconsistent : Consistent vc.viewDidAppear :=
    step_consistent (e := .viewDidAppear) huntouched.consistent rfl
  rw [← viewDidAppear_truthful_iff huntouched, ← tellsTruth_iff hconsistent]
  have hrun : TellsTruth vc.viewDidAppear →
      (Throughout step TellsTruth vc.viewDidAppear es ↔
        Always step ShowsSelected vc.viewDidAppear es) := by
    intro hfirst
    refine throughout_iff_always (J := Consistent)
      (fun _ _ _ hc hstep => step_consistent hc hstep) ?_ h hconsistent hfirst
    intro s e s' hc hs hstep
    rw [tellsTruth_iff (step_consistent hc hstep)]
    exact step_truthful_iff hc hs.checkmarks hstep
  constructor
  · intro hthroughout
    have hfirst : TellsTruth vc.viewDidAppear :=
      hthroughout [] _ List.nil_prefix (run_nil.mpr rfl)
    exact ⟨hfirst, (hrun hfirst).mp hthroughout⟩
  · rintro ⟨hfirst, halways⟩
    exact (hrun hfirst).mpr halways

/-- With the filter on grade 7, its row stays checked when it leaves the screen and comes back, and
when the screen appears again. -/
theorem filtered_grade_stays_checked :
    ∃ vc, Run step (opened [6, 7] (some 7)) [.rowShown 0, .rowShown 1] vc ∧
      Throughout step TellsTruth vc.viewDidAppear [.rowHidden 1, .viewDidAppear, .rowShown 1] := by
  have hshows : ∀ e ∈ [Event.rowShown 0, .rowShown 1], IsDisplay e := by simp [IsDisplay]
  obtain ⟨vc, hvc, hopen⟩ : ∃ vc, vc = _ ∧
      Run step (opened [6, 7] (some 7)) [.rowShown 0, .rowShown 1] vc := ⟨_, rfl, rfl⟩
  refine ⟨vc, hopen, ?_⟩
  obtain ⟨t, hrun⟩ : ∃ t,
      Run step vc.viewDidAppear [.rowHidden 1, .viewDidAppear, .rowShown 1] t := by
    rw [hvc]
    exact ⟨_, rfl⟩
  rw [checkmarks_tell_truth_iff hshows hopen hrun, hvc]
  refine ⟨?_, trivial, ?_, ?_, trivial⟩
  · -- row 1 is the only one of grade 7
    intro row _ hgrade
    match row with
    | 0 => cases hgrade
    | 1 => rfl
  · intro index hindex row _
    have hone : 1 = index := Option.some.inj hindex
    rw [← hone]
    exact Option.some_inj
  · exact iff_of_true rfl rfl

/-- Thirty grades, as a catalogue may offer them, are more than the screen shows at once. -/
def thirtyGrades : List Int := (List.range 30).map Int.ofNat

/-- No filter is on, and row 0 is tapped; it goes off the screen and comes back. Its checkmark is
gone, and "Done" reports its grade all the same. -/
theorem scrolling_loses_checkmark :
    ∃ vc t cell, Run step (opened thirtyGrades none) [.rowShown 0] vc ∧
      Run step vc.viewDidAppear [.tapRow 0, .rowHidden 0, .rowShown 0] t ∧
      t.doneButtonTapped = .ok (some 0) ∧ t.tableView.cellForRow 0 = some cell ∧
      cell.accessoryType = .none ∧ ¬TellsTruth t := by
  refine ⟨_, _, _, rfl, rfl, rfl, rfl, rfl, ?_⟩
  intro ht
  have hchecked := (ht.checkmarks 0 _ rfl).mpr rfl
  cases hchecked

end Bookshare.FilterScreen
