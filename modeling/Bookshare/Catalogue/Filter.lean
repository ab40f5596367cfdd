import Bookshare.Library.Machine
import Bookshare.Model.Catalogue
import Bookshare.Model.Upload

/-!
# The catalogue and its filter

The catalogue screen under any interleaving of loads and filter choices. A load
is issued by `viewDidLoad` or by `uploadCompleted`, and completes at any later
moment with an error or a snapshot; a filter choice comes through
`gradeSelected`.

A completed load puts the whole snapshot into `books` and leaves `filterGrade`
as it is, so the two agree only as long as no filter is on or everything loaded
has its grade.

Main results:

* `shows_iff_loads_unfiltered` — the screen shows what the filter says in every
  state of a run exactly if no load completes with a book the filter then on hides;
* `reload_drops_filter` — the load after an upload shows a book of another grade.
-/

namespace Bookshare.Catalogue

open Machine TextBooksViewController

structure State where
  controller : TextBooksViewController
  /-- The number of `getDocuments` calls in flight. -/
  loads : Nat

inductive Event where
  | viewDidLoad
  | uploadCompleted (isSuccess : Bool)
  | loadDone (result : Except String (List QueryDocument))
  | gradeSelected (grade : Option Int)

/-- `getTextBooksAndReload`: the call is issued. -/
def State.getTextBooksAndReload (s : State) : State := { s with loads := s.loads + 1 }

/-- A snapshot with a document that does not decode takes the process down, which ends the
run. -/
def step (s : State) : Event → Option State
  | .viewDidLoad => some s.getTextBooksAndReload
  | .uploadCompleted isSuccess => some (if isSuccess then s.getTextBooksAndReload else s)
  | .loadDone result =>
    match s.loads, s.controller.getDocumentsCallback result with
    | loads + 1, .ok controller => some { controller, loads }
    | _, _ => none
  | .gradeSelected grade => some { s with controller := s.controller.gradeSelected grade }

/-- The screen before `viewDidLoad`. -/
def initial : State where
  controller := TextBooksViewController.initial
  loads := 0

/-- `books` is what the filter leaves of `originalBooks`. -/
def Shows (s : State) : Prop :=
  s.controller.books = visible s.controller.filterGrade s.controller.originalBooks

/-- No load completes with a book that the filter hides. -/
def LoadsUnfiltered (s : State) : Event → Prop
  | .loadDone (.ok documents) => s.controller.filterGrade = none ∨
      ∀ document ∈ documents, s.controller.filterGrade = some (decodeGrade document.2)
  | _ => True

-- ---------------------------------------------------------------------------
-- What a step can do
-- ---------------------------------------------------------------------------

/-- Everything a step can do: leave the controller alone, filter, or complete a load. -/
theorem step_cases {s s' : State} {e : Event} (h : step s e = some s') :
    (s'.controller = s.controller ∧ ∀ documents, e ≠ .loadDone (.ok documents)) ∨
    (∃ grade, e = .gradeSelected grade ∧ s'.controller = s.controller.gradeSelected grade) ∨
    (∃ documents books, e = .loadDone (.ok documents) ∧ Decodes documents books ∧
      s'.controller = { s.controller with originalBooks := books, books }) := by
  cases e with
  -- issuing a load leaves the controller alone
  | viewDidLoad =>
    injection h with h
    subst h
    exact Or.inl ⟨rfl, nofun⟩
  | uploadCompleted isSuccess =>
    injection h with h
    subst h
    refine Or.inl ⟨?_, nofun⟩
    cases isSuccess <;> rfl
  | gradeSelected grade =>
    injection h with h
    subst h
    exact Or.inr (Or.inl ⟨grade, rfl, rfl⟩)
  | loadDone result =>
    simp only [step] at h
    split at h
    · next loads controller _ hok =>
      injection h with h
      subst h
      cases result with
      | error err =>
        rw [getDocumentsCallback_error] at hok
        have hsame : controller = s.controller := (Except.ok.inj hok).symm
        exact Or.inl ⟨hsame, nofun⟩
      | ok documents =>
        obtain ⟨books, hbooks, rfl⟩ := getDocumentsCallback_eq_ok.mp hok
        exact Or.inr (Or.inr ⟨documents, books, rfl, hbooks, rfl⟩)
    · cases h

/-- Only a load that succeeds replaces `originalBooks`. -/
theorem step_originalBooks {s s' : State} {e : Event} (h : step s e = some s')
    (he : ∀ documents, e ≠ .loadDone (.ok documents)) :
    s'.controller.originalBooks = s.controller.originalBooks := by
  rcases step_cases h with ⟨hsame, -⟩ | ⟨grade, -, hgrade⟩ | ⟨documents, -, rfl, -⟩
  · rw [hsame]
  · rw [hgrade]
    exact showBooksFor_originalBooks _ _
  · exact absurd rfl (he documents)

/-- A load that succeeds leaves the decoded snapshot. -/
theorem step_loadDone {s s' : State} {documents : List QueryDocument}
    (h : step s (.loadDone (.ok documents)) = some s') :
    ∃ books, Decodes documents books ∧
      s'.controller = { s.controller with originalBooks := books, books } := by
  rcases step_cases h with ⟨-, hne⟩ | ⟨grade, heq, -⟩ | ⟨documents', books, heq, hbooks⟩
  · exact absurd rfl (hne documents)
  · cases heq
  · cases heq
    exact ⟨books, hbooks⟩

/-- A step out of a state that shows what the filter says leads to another one exactly if it is
not a load with a book the filter hides. -/
theorem step_shows_iff {s s' : State} {e : Event} (hs : Shows s) (hstep : step s e = some s') :
    Shows s' ↔ LoadsUnfiltered s e := by
  rcases step_cases hstep with ⟨hsame, hne⟩ | ⟨grade, rfl, hgrade⟩ |
    ⟨documents, books, rfl, hdecodes, hload⟩
  · -- nothing changes
    have hkept : Shows s' := by
      rw [Shows, hsame]
      exact hs
    have hunfiltered : LoadsUnfiltered s e := by
      unfold LoadsUnfiltered
      split
      · next documents => exact absurd rfl (hne documents)
      · trivial
    exact iff_of_true hkept hunfiltered
  · -- the filter is applied to what is loaded
    have hkept : Shows s' := by simp [Shows, hgrade, gradeSelected]
    exact iff_of_true hkept trivial
  · -- everything loaded is shown, so the filter must hide none of it
    have hgrades := hdecodes.forall_grade_iff fun grade => s.controller.filterGrade = some grade
    rw [Shows, hload, eq_comm, visible_eq_self_iff]
    exact or_congr Iff.rfl hgrades

-- ---------------------------------------------------------------------------
-- The exact condition
-- ---------------------------------------------------------------------------

/-- **The catalogue shows what the filter says**, in every state of a run, exactly if no load of
the run completes with a book that the filter then on hides. -/
theorem shows_iff_loads_unfiltered {es : List Event} {t : State} (h : Run step initial es t) :
    Throughout step Shows initial es ↔ Always step LoadsUnfiltered initial es :=
  throughout_iff_always (J := fun _ => True) (fun _ _ _ _ _ => trivial)
    (fun _ _ _ _ hs hstep => step_shows_iff hs hstep) h trivial rfl

/-- The document of an upload of Alice's, for the runs on fixed inputs below. -/
def uploaded (documentID grade : String) : QueryDocument :=
  (documentID, submittedDoc { hobbitForm with txtGrades := some grade } alice)

/-- With the filter on grade 7, a reload that finds only books of grade 7 leaves the screen as
the filter says. -/
theorem reload_of_filtered_grade_shows :
    Throughout step Shows initial
      [.viewDidLoad, .loadDone (.ok []), .gradeSelected (some 7), .uploadCompleted true,
        .loadDone (.ok [uploaded "A" "7"])] := by
  refine Iff.mpr (shows_iff_loads_unfiltered rfl) ?_
  refine ⟨trivial, Or.inl rfl, trivial, trivial, Or.inr ?_, trivial⟩
  rw [List.forall_mem_singleton]
  rfl

/-- The catalogue shows grade 7; a book of grade 8 is uploaded and the catalogue reloaded. It
now shows both, and the filter is still on. -/
theorem reload_drops_filter :
    ∃ t, Run step initial
        [.viewDidLoad, .loadDone (.ok [uploaded "A" "7"]), .gradeSelected (some 7),
          .uploadCompleted true, .loadDone (.ok [uploaded "A" "7", uploaded "B" "8"])] t ∧
      t.controller.filterGrade = some 7 ∧ t.controller.books.map Book.grade = [7, 8] ∧
      ¬Shows t := by
  refine ⟨_, rfl, rfl, rfl, ?_⟩
  unfold Shows
  decide

end Bookshare.Catalogue
