import Bookshare.Library.Machine
import Bookshare.Model.Cell

/-!
# Pictures in reused cells

One cell of the catalogue, configured with one book after another while the
pictures of earlier ones may still be loading. `configure` cancels the load
before it starts another, but for a book without an image it starts none, and
the load of the book before stays under way.

Main results:

* `pictures_honest_iff` — the cell never shows another book's picture exactly if
  no such load finishes with its picture while the cell's book has no image;
* `late_load_shows_other_picture` — one does.
-/

namespace Bookshare.Catalogue.Pictures

open Machine CollectionViewCell

structure State where
  cell : CollectionViewCell
  /-- The book the cell was last configured with. -/
  book : Option Book

inductive Event where
  | configure (book : Book)
  | loadDone (load : Nat) (downloaded : Bool)

def step (s : State) : Event → Option State
  | .configure book => some { cell := s.cell.configure book, book := some book }
  | .loadDone load downloaded => (s.cell.bookImage.loadDone load downloaded).map fun bookImage =>
    { s with cell := { s.cell with bookImage } }

/-- A cell that has not been configured yet. -/
def initial : State where
  cell := CollectionViewCell.initial
  book := none

/-- The picture of the cell's book. -/
def State.picture (s : State) : Option String := s.book.bind CollectionViewCell.picture

/-- The image on display is the picture of the cell's book; there is none if the book has none. -/
def Honest (s : State) : Prop :=
  ∀ path, s.cell.bookImage.image = some path → s.picture = some path

/-- No load that is under way finishes with its picture while the cell's book has none. -/
def NoneLate (s : State) : Event → Prop
  | .loadDone load true => (∃ path, s.cell.bookImage.IsLoading load path) → s.picture ≠ none
  | _ => True

/-- A load under way is the one on record, and loads the picture of the cell's book if it has one. -/
def OnRecord (s : State) : Prop :=
  ∀ load path, s.cell.bookImage.IsLoading load path →
    s.cell.bookImage.operation = some load ∧ ∀ picture, s.picture = some picture → path = picture

-- ---------------------------------------------------------------------------
-- Steps
-- ---------------------------------------------------------------------------

theorem configure_onRecord {s : State} (h : OnRecord s) (book : Book) :
    OnRecord { cell := s.cell.configure book, book := some book } := by
  intro load path hloading
  cases hpicture : picture book with
  | none =>
    -- the load on record is left alone
    simp only [configure, hpicture] at hloading ⊢
    refine ⟨(h load path hloading).1, ?_⟩
    intro picture hsome
    rw [State.picture, Option.bind_some, hpicture] at hsome
    cases hsome
  | some image =>
    simp only [configure, hpicture] at hloading ⊢
    rcases UIImageView.isLoading_of_setImage hloading with ⟨hrecord, hpath⟩ | ⟨hold, hnot⟩
    · refine ⟨hrecord, ?_⟩
      intro picture hsome
      rw [State.picture, Option.bind_some, hpicture, Option.some.injEq] at hsome
      rw [hpath, hsome]
    · -- no other load was under way but the one just cancelled
      exact absurd (h load path hold).1 hnot

theorem step_onRecord {s s' : State} {e : Event} (h : OnRecord s) (hstep : step s e = some s') :
    OnRecord s' := by
  cases e with
  | configure book =>
    injection hstep with hstep
    subst hstep
    exact configure_onRecord h book
  | loadDone load downloaded =>
    obtain ⟨bookImage, hdone, rfl⟩ := Option.map_eq_some_iff.mp hstep
    intro other path hloading
    have hbefore := UIImageView.isLoading_of_loadDone hdone hloading
    rw [UIImageView.loadDone_operation hdone]
    exact h other path hbefore

theorem configure_honest (cell : CollectionViewCell) (book : Book) :
    Honest { cell := cell.configure book, book := some book } := by
  intro path himage
  unfold configure at himage
  split at himage <;> cases himage

theorem step_honest_iff {s s' : State} {e : Event} (hrecord : OnRecord s) (hs : Honest s)
    (hstep : step s e = some s') : Honest s' ↔ NoneLate s e := by
  cases e with
  | configure book =>
    injection hstep with hstep
    subst hstep
    exact iff_of_true (configure_honest s.cell book) trivial
  | loadDone load downloaded =>
    obtain ⟨bookImage, hdone, rfl⟩ := Option.map_eq_some_iff.mp hstep
    rcases UIImageView.loadDone_image hdone with ⟨rfl, path, hloading, himage⟩ | ⟨himage, hnot⟩
    · -- the picture of the load is set
      constructor
      · intro hhonest _
        have hpicture : s.picture = some path := hhonest path himage
        rw [hpicture]
        exact nofun
      · intro hnone shown hshown
        obtain ⟨picture, hpicture⟩ := Option.ne_none_iff_exists'.mp (hnone ⟨path, hloading⟩)
        have hpath : path = picture := (hrecord load path hloading).2 picture hpicture
        have hsame : path = shown := Option.some.inj (himage.symm.trans hshown)
        rw [← hsame, hpath]
        exact hpicture
    · -- nothing is set
      refine iff_of_true ?_ ?_
      · intro path hpath
        exact hs path (himage.symm.trans hpath)
      · cases downloaded with
        | false => trivial
        | true =>
          rintro ⟨path, hloading⟩
          exact absurd hloading (hnot rfl path)

-- ---------------------------------------------------------------------------
-- The exact condition
-- ---------------------------------------------------------------------------

/-- **A reused cell shows its own book's picture or none**, at every moment of a run, exactly if
no load that is still under way finishes with its picture while the cell's book has no image. -/
theorem pictures_honest_iff {es : List Event} {t : State} (h : Run step initial es t) :
    Throughout step Honest initial es ↔ Always step NoneLate initial es := by
  have hrecord : OnRecord initial := by
    intro load path hloading
    cases hloading
  have hhonest : Honest initial := by
    intro path himage
    cases himage
  exact throughout_iff_always (J := OnRecord) (fun _ _ _ hs hstep => step_onRecord hs hstep)
    (fun _ _ _ hrecord hs hstep => step_honest_iff hrecord hs hstep) h hrecord hhonest

/-- A book with an image, for the runs on fixed inputs below. -/
def illustrated (path : String) : Book := { hobbit with image := some path }

/-- A load that is overtaken by the next book's is cancelled, and one that has finished before a
book without an image comes does no harm. -/
theorem overtaken_load_stays_honest :
    Throughout step Honest initial
      [.configure (illustrated "A.png"), .configure (illustrated "B.png"), .loadDone 0 true,
        .loadDone 1 true, .configure hobbit] := by
  refine Iff.mpr (pictures_honest_iff rfl) ?_
  refine ⟨trivial, trivial, ?_, ?_, trivial, trivial⟩
  · intro _
    exact Option.some_ne_none "B.png"
  · intro _
    exact Option.some_ne_none "B.png"

/-- The cell goes from a book with an image to one without, and then the load finishes. -/
theorem late_load_shows_other_picture :
    ∃ t, Run step initial
        [.configure (illustrated "A.png"), .configure hobbit, .loadDone 0 true] t ∧
      t.book = some hobbit ∧ hobbit.image = none ∧ t.cell.bookImage.image = some "A.png" ∧
      ¬Honest t := by
  refine ⟨_, rfl, rfl, rfl, rfl, ?_⟩
  intro hhonest
  have hnone : none = some "A.png" := hhonest "A.png" rfl
  cases hnone

end Bookshare.Catalogue.Pictures
