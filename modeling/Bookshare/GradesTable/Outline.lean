import Bookshare.Library.Machine
import Bookshare.Model.GradesTable

/-!
# The table of grades as an outline

The table of grades under any sequence of taps on its rows, with the numbers of
rows the table has taken. A tap on a grade toggles its section; the scene has no
segue `showBooks`, so a tap on a subject raises.

Assumed of UIKit: `reloadSections` takes all numbers of rows again, and raises if
the number of sections or that of a section not reloaded has changed; and only rows
the table has can be tapped.

Main result: `table_shows_outline`.
-/

namespace Bookshare.GradesTable

open Machine GradesTableViewController

structure IndexPath where
  sec : Nat
  row : Nat
  deriving DecidableEq, Repr

structure State where
  controller : GradesTableViewController
  /-- The number of rows of each section, as the table last took it. -/
  rows : List Nat
  trapped : Option Trap

/-- The table takes the numbers of rows, of which only that of `sec` may have changed. -/
def reloadSections (s : State) (sec : Nat) : State :=
  match s.controller.takeRows with
  | .ok rows =>
    if rows.length = s.rows.length ∧ ∀ other < rows.length, other ≠ sec →
        rows[other]? = s.rows[other]?
    then { s with rows } else { s with trapped := some "Invalid update" }
  | .error trap => { s with trapped := some trap }

/-- A row is tapped. -/
def step (s : State) (indexPath : IndexPath) : Option State :=
  if s.trapped = none ∧ indexPath.row < s.rows.getD indexPath.sec 0 then
    match s.controller.didSelectRowAt indexPath.sec indexPath.row with
    | .ok (.reloadSections controller sec) => some (reloadSections { s with controller } sec)
    | .ok (.performSegue identifier) =>
      if identifier ∈ segues then some s
      else some { s with trapped := some ("Receiver has no segue " ++ identifier) }
    | .error trap => some { s with trapped := some trap }
  else none

/-- The table comes on screen over `tableViewData`. -/
def load (tableViewData : List ExpandableData) : State :=
  match takeRows { tableViewData } with
  | .ok rows => { controller := { tableViewData }, rows, trapped := none }
  | .error trap => { controller := { tableViewData }, rows := [], trapped := some trap }

/-- The cells the table gets for all the rows it has. -/
def cells (s : State) : Except Trap (List (List GradeCell)) :=
  (List.range s.rows.length).mapM fun sec =>
    (List.range (s.rows.getD sec 0)).mapM (s.controller.cellForRowAt sec)

-- ---------------------------------------------------------------------------
-- The outline
-- ---------------------------------------------------------------------------

/-- The section `sec` after taps on grades: each tap on its own toggles it. -/
def toggled (taps : List IndexPath) (sec : Nat) (data : ExpandableData) : ExpandableData :=
  { data with opened := data.opened ^^ decide ((taps.map IndexPath.sec).count sec % 2 = 1) }

/-- The rows the user expects after taps on grades. -/
def outline (tableViewData : List ExpandableData) (taps : List IndexPath) : List (List GradeCell) :=
  tableViewData.mapIdx fun sec data => (toggled taps sec data).rows

/-- The table is up to date with its sections, which are as the taps have left them. -/
structure Follows (tableViewData : List ExpandableData) (taps : List IndexPath) (s : State) :
    Prop where
  untrapped : s.trapped = none
  grades : ∀ indexPath ∈ taps, indexPath.row = 0
  sections : s.controller.tableViewData = tableViewData.mapIdx (toggled taps)
  rows : s.rows = s.controller.tableViewData.map fun data => data.rows.length

/-- A subject was tapped. -/
structure Raised (taps : List IndexPath) (s : State) : Prop where
  trapped : s.trapped ≠ none
  subject : ∃ indexPath ∈ taps, indexPath.row ≠ 0

-- ---------------------------------------------------------------------------
-- Taps
-- ---------------------------------------------------------------------------

theorem follows_load (tableViewData : List ExpandableData) :
    Follows tableViewData [] (load tableViewData) := by
  have hsame : tableViewData = tableViewData.mapIdx (toggled []) := by
    have hid : toggled [] = fun _ data => data := by
      funext sec data
      simp [toggled]
    apply List.ext_getElem?
    intro i
    simp [hid]
  simp only [load, takeRows_eq]
  exact ⟨rfl, List.forall_mem_nil _, hsame, rfl⟩

/-- The parity of taps changes with each. -/
theorem odd_succ (n : Nat) : decide ((n + 1) % 2 = 1) = !decide (n % 2 = 1) := by
  rw [Bool.eq_iff_iff]
  simp only [Bool.not_eq_true', decide_eq_true_eq, decide_eq_false_iff_not]
  omega

/-- A tap changes nothing in the other sections, and in its own whether it is open. -/
theorem toggled_append (taps : List IndexPath) (indexPath : IndexPath) (sec : Nat)
    (data : ExpandableData) :
    toggled (taps ++ [indexPath]) sec data =
      if indexPath.sec = sec then
        { toggled taps sec data with opened := !(toggled taps sec data).opened }
      else toggled taps sec data := by
  unfold toggled
  rw [List.map_append, List.count_append]
  by_cases hsec : indexPath.sec = sec
  · have hone : (([indexPath].map IndexPath.sec).count sec) = 1 := by simp [hsec]
    rw [if_pos hsec, hone, odd_succ, Bool.xor_not]
  · have hzero : (([indexPath].map IndexPath.sec).count sec) = 0 := by simp [hsec]
    rw [if_neg hsec, hzero, Nat.add_zero]

/-- A tap on a grade opens its section or closes it. -/
theorem didSelectRowAt_grade {vc : GradesTableViewController} {sec : Nat} {data : ExpandableData}
    (hdata : vc.tableViewData[sec]? = some data) :
    vc.didSelectRowAt sec 0 = .ok (.reloadSections (vc.setOpened sec !data.opened) sec) := by
  rw [didSelectRowAt, dataAt_of_getElem? hdata]
  cases hopened : data.opened <;> simp [Except.map, hopened]

theorem didSelectRowAt_subject {vc : GradesTableViewController} {sec row : Nat}
    {data : ExpandableData} (hdata : vc.tableViewData[sec]? = some data) (hrow : row ≠ 0) :
    vc.didSelectRowAt sec row = .ok (.performSegue "showBooks") := by
  rw [didSelectRowAt, dataAt_of_getElem? hdata]
  simp [Except.map, hrow]

/-- The sections after one more tap on a grade. -/
theorem setOpened_toggled {tableViewData : List ExpandableData} {taps : List IndexPath} {sec : Nat}
    {data : ExpandableData} {vc : GradesTableViewController}
    (hsections : vc.tableViewData = tableViewData.mapIdx (toggled taps))
    (hdata : vc.tableViewData[sec]? = some data) :
    (vc.setOpened sec !data.opened).tableViewData =
      tableViewData.mapIdx (toggled (taps ++ [⟨sec, 0⟩])) := by
  apply List.ext_getElem?
  intro i
  have hbefore : vc.tableViewData[i]? = (tableViewData[i]?).map (toggled taps i) := by
    rw [hsections, List.getElem?_mapIdx]
  rw [setOpened, List.getElem?_modify, List.getElem?_mapIdx, hbefore, Option.map_eq_map,
    Option.map_map]
  refine Option.map_congr fun before hmem => ?_
  rw [Function.comp_apply, toggled_append]
  by_cases hsec : sec = i
  · subst hsec
    rw [hbefore, hmem] at hdata
    have hsame : toggled taps sec before = data := Option.some.inj hdata
    rw [if_pos rfl, if_pos rfl, hsame]
  · rw [if_neg hsec, if_neg hsec]

theorem length_setOpened (vc : GradesTableViewController) (sec : Nat) (opened : Bool) :
    (vc.setOpened sec opened).tableViewData.length = vc.tableViewData.length :=
  List.length_modify _ _ _

/-- Only the section that was tapped has other rows than before. -/
theorem reloadSections_setOpened {s : State} (untrapped : s.trapped = none)
    (hrows : s.rows = s.controller.tableViewData.map fun data => data.rows.length) (sec : Nat)
    (opened : Bool) :
    reloadSections { s with controller := s.controller.setOpened sec opened } sec =
      { controller := s.controller.setOpened sec opened
        rows := (s.controller.setOpened sec opened).tableViewData.map fun data => data.rows.length
        trapped := none } := by
  have hunchanged : ∀ other, other ≠ sec →
      ((s.controller.setOpened sec opened).tableViewData.map fun data => data.rows.length)[other]? =
        s.rows[other]? := by
    intro other hother
    rw [hrows, List.getElem?_map, List.getElem?_map, setOpened, List.getElem?_modify]
    simp [Ne.symm hother]
  have hlength : ((s.controller.setOpened sec opened).tableViewData.map
      fun data => data.rows.length).length = s.rows.length := by
    rw [hrows, List.length_map, List.length_map, length_setOpened]
  simp only [reloadSections, takeRows_eq]
  rw [if_pos ⟨hlength, fun other _ => hunchanged other⟩, untrapped]

/-- What a tap does: it is on a grade and toggles its section, or on a subject and raises. -/
theorem step_cases {tableViewData : List ExpandableData} {taps : List IndexPath} {s s' : State}
    {indexPath : IndexPath} (hs : Follows tableViewData taps s) (h : step s indexPath = some s') :
    Follows tableViewData (taps ++ [indexPath]) s' ∨ Raised (taps ++ [indexPath]) s' := by
  obtain ⟨⟨-, hrow⟩, h⟩ := Option.ite_none_right_eq_some.mp h
  obtain ⟨sec, row⟩ := indexPath
  -- the section exists, since the table has a row there
  obtain ⟨data, hdata⟩ : ∃ data, s.controller.tableViewData[sec]? = some data := by
    cases hdata : s.controller.tableViewData[sec]? with
    | some data => exact ⟨data, rfl⟩
    | none =>
      rw [hs.rows, List.getD_eq_getElem?_getD, List.getElem?_map, hdata] at hrow
      exact absurd hrow (Nat.not_lt_zero _)
  by_cases hzero : row = 0
  · subst hzero
    rw [didSelectRowAt_grade hdata] at h
    injection h with h
    subst h
    rw [reloadSections_setOpened hs.untrapped hs.rows]
    refine Or.inl ⟨rfl, ?_, setOpened_toggled hs.sections hdata, rfl⟩
    rw [List.forall_mem_append, List.forall_mem_singleton]
    exact ⟨hs.grades, rfl⟩
  · rw [didSelectRowAt_subject hdata hzero] at h
    injection h with h
    subst h
    refine Or.inr ⟨Option.some_ne_none _, ⟨sec, row⟩, ?_, hzero⟩
    exact List.mem_append_right _ (List.mem_singleton_self _)

/-- All rows of a table that follows its taps are there, and are the outline's. -/
theorem Follows.cells_eq {tableViewData : List ExpandableData} {taps : List IndexPath} {s : State}
    (hs : Follows tableViewData taps s) : cells s = .ok (outline tableViewData taps) := by
  have houtline : outline tableViewData taps =
      s.controller.tableViewData.map ExpandableData.rows := by
    rw [hs.sections]
    apply List.ext_getElem?
    intro i
    simp [outline, Function.comp_def]
  have hlength : s.rows.length = (s.controller.tableViewData.map ExpandableData.rows).length := by
    rw [hs.rows, List.length_map, List.length_map]
  rw [houtline, cells, hlength]
  refine Positions.mapM_range_eq fun sec hsec => ?_
  rw [List.length_map] at hsec
  have hdata := List.getElem?_eq_getElem hsec
  have hrows : s.rows.getD sec 0 = (s.controller.tableViewData[sec]).rows.length := by
    rw [hs.rows, List.getD_eq_getElem?_getD, List.getElem?_map, hdata]
    rfl
  rw [hrows, List.getElem_map]
  exact Positions.mapM_range_eq fun row hrow => cellForRowAt_eq hdata hrow

-- ---------------------------------------------------------------------------
-- Runs
-- ---------------------------------------------------------------------------

/-- Nothing can be tapped once the table has raised. -/
theorem step_raised {taps : List IndexPath} {s s' : State} {indexPath : IndexPath}
    (hs : Raised taps s) : step s indexPath ≠ some s' := by
  intro h
  exact hs.trapped (Option.ite_none_right_eq_some.mp h).1.1

/-- **The table of grades is an outline.** Taps on grades never raise, and leave the table with
exactly the rows of the outline, each section open or closed as the number of taps on it says; a
tap on a subject raises. -/
theorem table_shows_outline {tableViewData : List ExpandableData} {taps : List IndexPath}
    {t : State} (h : Run step (load tableViewData) taps t) :
    (t.trapped = none ↔ ∀ indexPath ∈ taps, indexPath.row = 0) ∧
      (t.trapped = none → cells t = .ok (outline tableViewData taps)) := by
  have hstep : ∀ taps s indexPath s', Follows tableViewData taps s ∨ Raised taps s →
      step s indexPath = some s' → Follows tableViewData (taps ++ [indexPath]) s' ∨
        Raised (taps ++ [indexPath]) s' := by
    rintro taps s indexPath s' (hfollows | hraised) hstep
    · exact step_cases hfollows hstep
    · exact absurd hstep (step_raised hraised)
  have hend := h.collect_invariant hstep (Or.inl (follows_load tableViewData))
  rw [List.nil_append, h.collect_event] at hend
  rcases hend with hfollows | hraised
  · exact ⟨iff_of_true hfollows.untrapped hfollows.grades, fun _ => hfollows.cells_eq⟩
  · obtain ⟨indexPath, hmem, hrow⟩ := hraised.subject
    exact ⟨iff_of_false hraised.trapped fun hall => hrow (hall indexPath hmem),
      fun hnone => absurd hnone hraised.trapped⟩

/-- Two grades, both closed, for the runs on fixed inputs below. -/
def twoGrades : List ExpandableData :=
  [{ title := "Grade 6", subjects := ["English", "Maths"] },
    { title := "Grade 7", subjects := ["Physics"] }].map fun (grade : Grade) =>
      { opened := false, title := grade.title, sectionData := grade.subjects,
        associatedGrade := grade }

theorem reopened_grade_is_in_outline :
    ∃ t, Run step (load twoGrades) [⟨0, 0⟩, ⟨1, 0⟩, ⟨0, 0⟩] t ∧ t.trapped = none ∧
      cells t = .ok (outline twoGrades [⟨0, 0⟩, ⟨1, 0⟩, ⟨0, 0⟩]) ∧ t.rows = [1, 2] := by
  obtain ⟨t, hrun, hrows⟩ : ∃ t, Run step (load twoGrades) [⟨0, 0⟩, ⟨1, 0⟩, ⟨0, 0⟩] t ∧
      t.rows = [1, 2] := ⟨_, rfl, rfl⟩
  obtain ⟨huntrapped, hcells⟩ := table_shows_outline hrun
  have hnone : t.trapped = none := huntrapped.mpr (by decide)
  exact ⟨t, hrun, hnone, hcells hnone, hrows⟩

/-- Grade 7 is opened and its subject tapped. -/
example : ∃ t, Run step (load twoGrades) [⟨1, 0⟩, ⟨1, 1⟩] t ∧
    t.trapped = some "Receiver has no segue showBooks" :=
  ⟨_, rfl, rfl⟩

end Bookshare.GradesTable
