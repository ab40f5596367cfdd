import Bookshare.Catalogue.Cells
import Bookshare.Catalogue.Pictures

/-!
# The cells on screen

The catalogue's collection view with all its cells. A cell that leaves the screen
goes into a queue, and comes out of it for another item with the loads of its
picture still under way; `reloadData` sends all cells there. The cells are shared
out among the items by the view, the books among the cells by `cellForItemAt`, and
a tap on a cell is resolved by its item against `books`.

Assumed of UIKit: what `Catalogue.Cells` assumes; a cell taken out of the queue, or
a new one, is not in use for another item; and an item is asked for only below the
number of items last taken.

Main result: `cells_truthful_iff` — every cell in use shows the book that a tap on it
opens, title and picture, exactly if no load finishes late for a cell in use whose
book has no image.
-/

namespace Bookshare.Catalogue.VisibleCells

open Machine TextBooksViewController

open Pictures (Honest OnRecord)

abbrev CellId := Nat

structure State where
  screen : Catalogue.State
  /-- `reloadData` was called, and the view has not queried its data source since. -/
  needsReload : Bool
  /-- The number of items, as the view last took it. -/
  items : Nat
  /-- All cells there ever are, with the books they were last configured with. -/
  cells : CellId → Pictures.State
  /-- The cell in use for an item; those in use for none are in the queue. -/
  inUse : Nat → Option CellId
  /-- The cells tapped, as they looked then, each with the book opened. -/
  opened : List (CollectionViewCell × Book)
  trapped : Option Trap

inductive Event where
  | catalogue (e : Catalogue.Event)
  /-- The view queries its data source for the number of items. -/
  | layout
  /-- The view takes cell `k` for an item that comes on screen. -/
  | cellForItemAt (item : Nat) (k : CellId)
  | endDisplaying (item : Nat)
  | loadDone (k : CellId) (load : Nat) (downloaded : Bool)
  | tapCell (item : Nat)

def State.setCell (s : State) (k : CellId) (cell : Pictures.State) : State :=
  { s with cells := Function.update s.cells k cell }

/-- `cellForItemAt` with `k` the cell dequeued. -/
def cellForItemAt (s : State) (item : Nat) (k : CellId) : State :=
  match s.screen.controller.cellForItemAt item with
  | .ok book => { s with inUse := Function.update s.inUse item (some k) }.setCell k
      { cell := (s.cells k).cell.configure book, book := some book }
  | .error trap => { s with trapped := some trap }

/-- The segue from cell `k`, in use for `item`. -/
def tapCell (s : State) (item : Nat) (k : CellId) : State :=
  match s.screen.controller.bookAt item with
  | .ok book => { s with opened := s.opened ++ [((s.cells k).cell, book)] }
  | .error trap => { s with trapped := some trap }

def step (s : State) : Event → Option State
  | .catalogue e => (Catalogue.step s.screen e).map fun screen =>
    { s with screen, needsReload := s.needsReload || Cells.reloadsData e }
  | .layout =>
    if s.needsReload then some { s with
      items := s.screen.controller.numberOfItemsInSection
      inUse := fun _ => none
      needsReload := false }
    else none
  | .cellForItemAt item k =>
    if s.needsReload = false ∧ item < s.items ∧ s.inUse item = none ∧
        ∀ other < s.items, s.inUse other ≠ some k
    then some (cellForItemAt s item k) else none
  | .endDisplaying item => some { s with inUse := Function.update s.inUse item none }
  | .loadDone k load downloaded =>
    (Pictures.step (s.cells k) (.loadDone load downloaded)).map (s.setCell k)
  | .tapCell item =>
    match s.needsReload, s.inUse item with
    | false, some k => some (tapCell s item k)
    | _, _ => none

/-- The screen before `viewDidLoad`; the view has its data source still to query. -/
def initial : State where
  screen := Catalogue.initial
  needsReload := true
  items := 0
  cells := fun _ => Pictures.initial
  inUse := fun _ => none
  opened := []
  trapped := none

/-- The document of an upload with a picture, for the runs on fixed inputs below. -/
def pictured (documentID : String) : QueryDocument :=
  (documentID, withImage (submittedDoc hobbitForm alice) { path := some (imagePath documentID) })

/-- A cell shows this book: its title, and its picture or none. -/
def Looks (cell : CollectionViewCell) (book : Book) : Prop :=
  cell.bookTitle = book.title ∧
    ∀ path, cell.bookImage.image = some path → CollectionViewCell.picture book = some path

/-- Every cell in use shows the book it was configured with, which is the one a tap on it opens
unless the view is to be reloaded; and the cells tapped so far looked like the books opened. -/
def Truthful (s : State) : Prop :=
  (∀ item k, s.inUse item = some k → ∃ book, (s.cells k).book = some book ∧
    Looks (s.cells k).cell book ∧
    (s.needsReload = false → s.screen.controller.bookAt item = .ok book)) ∧
  ∀ tap ∈ s.opened, Looks tap.1 tap.2

/-- No load under way for a cell in use finishes with its picture while the cell's book has none. -/
def NoneLate (s : State) : Event → Prop
  | .loadDone k load downloaded =>
      (∃ item, s.inUse item = some k) → Pictures.NoneLate (s.cells k) (.loadDone load downloaded)
  | _ => True

/-- The cells are shared out: each to one item at most, and with the book of its item. -/
structure Shared (s : State) : Prop where
  untrapped : s.trapped = none
  items : s.needsReload = false → s.items = s.screen.controller.books.length
  bounded : ∀ item k, s.inUse item = some k → item < s.items
  injective : ∀ item other k, s.inUse item = some k → s.inUse other = some k → item = other
  configured : ∀ item k, s.inUse item = some k → ∃ book, (s.cells k).book = some book ∧
    (s.cells k).cell.bookTitle = book.title ∧
    (s.needsReload = false → s.screen.controller.bookAt item = .ok book)
  onRecord : ∀ k, OnRecord (s.cells k)

-- ---------------------------------------------------------------------------
-- What a step can do
-- ---------------------------------------------------------------------------

inductive Effect (s : State) : Event → State → Prop
  | catalogue {e screen} : Catalogue.step s.screen e = some screen →
      Effect s (.catalogue e) { s with screen, needsReload := s.needsReload || Cells.reloadsData e }
  | layout : Effect s .layout { s with
      items := s.screen.controller.books.length
      inUse := fun _ => none
      needsReload := false }
  | configured {item k book} : s.needsReload = false → item < s.items → s.inUse item = none →
      (∀ other < s.items, s.inUse other ≠ some k) → s.screen.controller.bookAt item = .ok book →
      Effect s (.cellForItemAt item k)
        ({ s with inUse := Function.update s.inUse item (some k) }.setCell k
          { cell := (s.cells k).cell.configure book, book := some book })
  | ended {item} : Effect s (.endDisplaying item)
      { s with inUse := Function.update s.inUse item none }
  | loaded {k load downloaded cell} :
      Pictures.step (s.cells k) (.loadDone load downloaded) = some cell →
      Effect s (.loadDone k load downloaded) (s.setCell k cell)
  | tapped {item k book} : s.needsReload = false → s.inUse item = some k →
      s.screen.controller.bookAt item = .ok book →
      Effect s (.tapCell item) { s with opened := s.opened ++ [((s.cells k).cell, book)] }

/-- An index below the number of items is not out of range. -/
theorem bookAt_of_lt {vc : TextBooksViewController} {item : Nat} (h : item < vc.books.length) :
    vc.bookAt item = .ok vc.books[item] := by
  rw [bookAt, List.getElem?_eq_getElem h]

/-- Everything a step can do. No index is out of range, since the items asked for and tapped are
below the number of items. -/
theorem step_effect {s s' : State} {e : Event} (hs : Shared s) (h : step s e = some s') :
    Effect s e s' := by
  -- the book of an item that is asked for or tapped
  have hbook : ∀ item, s.needsReload = false → item < s.items →
      ∃ book, s.screen.controller.bookAt item = .ok book := by
    intro item hfresh hitem
    rw [hs.items hfresh] at hitem
    exact ⟨_, bookAt_of_lt hitem⟩
  cases e with
  | catalogue e =>
    obtain ⟨screen, hscreen, rfl⟩ := Option.map_eq_some_iff.mp h
    exact .catalogue hscreen
  | layout =>
    obtain ⟨-, h⟩ := Option.ite_none_right_eq_some.mp h
    injection h with h
    subst h
    exact .layout
  | cellForItemAt item k =>
    obtain ⟨⟨hfresh, hitem, hnone, hqueued⟩, h⟩ := Option.ite_none_right_eq_some.mp h
    injection h with h
    subst h
    obtain ⟨book, hbook⟩ := hbook item hfresh hitem
    simp only [cellForItemAt, TextBooksViewController.cellForItemAt, hbook]
    exact .configured hfresh hitem hnone hqueued hbook
  | endDisplaying item =>
    injection h with h
    subst h
    exact .ended
  | loadDone k load downloaded =>
    obtain ⟨cell, hcell, rfl⟩ := Option.map_eq_some_iff.mp h
    exact .loaded hcell
  | tapCell item =>
    simp only [step] at h
    split at h
    · next k hfresh hk =>
      injection h with h
      subst h
      obtain ⟨book, hbook⟩ := hbook item hfresh (hs.bounded item k hk)
      simp only [tapCell, hbook]
      exact .tapped hfresh hk hbook
    · cases h

-- ---------------------------------------------------------------------------
-- The cells are shared out
-- ---------------------------------------------------------------------------

@[simp] theorem setCell_same (s : State) (k : CellId) (cell : Pictures.State) :
    (s.setCell k cell).cells k = cell := Function.update_self ..

theorem setCell_ne {k other : CellId} (h : other ≠ k) (s : State) (cell : Pictures.State) :
    (s.setCell k cell).cells other = s.cells other := Function.update_of_ne h ..

/-- A load that ends changes neither the book nor the title of its cell. -/
theorem loadDone_title {cell cell' : Pictures.State} {load : Nat} {downloaded : Bool}
    (h : Pictures.step cell (.loadDone load downloaded) = some cell') :
    cell'.book = cell.book ∧ cell'.cell.bookTitle = cell.cell.bookTitle := by
  obtain ⟨bookImage, -, rfl⟩ := Option.map_eq_some_iff.mp h
  exact ⟨rfl, rfl⟩

theorem configure_title (cell : CollectionViewCell) (book : Book) :
    (cell.configure book).bookTitle = book.title := by
  unfold CollectionViewCell.configure
  split <;> rfl

/-- A cell just configured is in use for its item alone, and the others are in use as before. -/
theorem inUse_configured {s : State} {item other : Nat} {k k' : CellId}
    (hbounded : ∀ item k, s.inUse item = some k → item < s.items)
    (hqueued : ∀ other < s.items, s.inUse other ≠ some k)
    (h : Function.update s.inUse item (some k) other = some k') :
    (other = item ∧ k' = k) ∨ (other ≠ item ∧ k' ≠ k ∧ s.inUse other = some k') := by
  rw [Function.update_apply] at h
  split at h
  · next hitem => exact Or.inl ⟨hitem, (Option.some.inj h).symm⟩
  · next hitem =>
    refine Or.inr ⟨hitem, ?_, h⟩
    rintro rfl
    exact hqueued other (hbounded other _ h) h

theorem inUse_ended {s : State} {item other : Nat} {k : CellId}
    (h : Function.update s.inUse item none other = some k) : s.inUse other = some k := by
  rw [Function.update_apply] at h
  split at h
  · cases h
  · exact h

theorem shared_initial : Shared initial where
  untrapped := rfl
  items := nofun
  bounded := nofun
  injective := nofun
  configured := nofun
  onRecord := by
    rintro k load path hloading
    cases hloading

/-- A cell from the queue is configured with the book of an item that had none. -/
theorem Shared.configure {s : State} (hs : Shared s) {item : Nat} {k : CellId} {book : Book}
    (hitem : item < s.items) (hqueued : ∀ other < s.items, s.inUse other ≠ some k)
    (hbook : s.screen.controller.bookAt item = .ok book) :
    Shared ({ s with inUse := Function.update s.inUse item (some k) }.setCell k
      { cell := (s.cells k).cell.configure book, book := some book }) := by
  have hcases := fun {other k'} => @inUse_configured s item other k k' hs.bounded hqueued
  refine ⟨hs.untrapped, hs.items, ?_, ?_, ?_, ?_⟩
  · intro other k' hk'
    rcases hcases hk' with ⟨rfl, -⟩ | ⟨-, -, hold⟩
    · exact hitem
    · exact hs.bounded other k' hold
  · intro i j k' hi hj
    rcases hcases hi with ⟨rfl, rfl⟩ | ⟨-, hne, hi⟩
    · rcases hcases hj with ⟨rfl, -⟩ | ⟨-, hne, -⟩
      · rfl
      · exact absurd rfl hne
    · rcases hcases hj with ⟨-, rfl⟩ | ⟨-, -, hj⟩
      · exact absurd rfl hne
      · exact hs.injective i j k' hi hj
  · intro other k' hk'
    rcases hcases hk' with ⟨rfl, rfl⟩ | ⟨-, hne, hold⟩
    · rw [setCell_same]
      exact ⟨book, rfl, configure_title _ _, fun _ => hbook⟩
    · rw [setCell_ne hne]
      exact hs.configured other k' hold
  · intro k'
    by_cases hk' : k' = k
    · subst hk'
      rw [setCell_same]
      exact Pictures.configure_onRecord (hs.onRecord k') book
    · rw [setCell_ne hk']
      exact hs.onRecord k'

theorem Shared.load {s : State} (hs : Shared s) {k : CellId} {load : Nat} {downloaded : Bool}
    {cell : Pictures.State}
    (hcell : Pictures.step (s.cells k) (.loadDone load downloaded) = some cell) :
    Shared (s.setCell k cell) := by
  obtain ⟨hbook, htitle⟩ := loadDone_title hcell
  refine ⟨hs.untrapped, hs.items, hs.bounded, hs.injective, fun item k' hk' => ?_, fun k' => ?_⟩
  · by_cases hk : k' = k
    · subst hk
      rw [setCell_same, hbook, htitle]
      exact hs.configured item k' hk'
    · rw [setCell_ne hk]
      exact hs.configured item k' hk'
  · by_cases hk : k' = k
    · subst hk
      rw [setCell_same]
      exact Pictures.step_onRecord (hs.onRecord k') hcell
    · rw [setCell_ne hk]
      exact hs.onRecord k'

theorem Effect.shared {s s' : State} {e : Event} (heffect : Effect s e s') (hs : Shared s) :
    Shared s' := by
  cases heffect with
  | @catalogue e screen hscreen =>
    refine ⟨hs.untrapped, fun hfresh => ?_, hs.bounded, hs.injective, fun item k hk => ?_,
      hs.onRecord⟩
    · obtain ⟨hfresh, hreloads⟩ := Bool.or_eq_false_iff.mp hfresh
      rw [Cells.books_eq_of_not_reloadsData hscreen hreloads]
      exact hs.items hfresh
    · obtain ⟨book, hbook, htitle, hat⟩ := hs.configured item k hk
      refine ⟨book, hbook, htitle, fun hfresh => ?_⟩
      -- the view is up to date, so that `books` has not changed
      obtain ⟨hfresh, hreloads⟩ := Bool.or_eq_false_iff.mp hfresh
      have hbooks := Cells.books_eq_of_not_reloadsData hscreen hreloads
      simp only [bookAt, hbooks]
      exact hat hfresh
  | layout =>
    -- all cells are in the queue
    refine ⟨hs.untrapped, fun _ => rfl, ?_, ?_, ?_, hs.onRecord⟩
    · intro item k hk
      cases hk
    · intro i j k hi
      cases hi
    · intro item k hk
      cases hk
  | configured hfresh hitem _ hqueued hbook => exact hs.configure hitem hqueued hbook
  | ended =>
    exact ⟨hs.untrapped, hs.items, fun other k hk => hs.bounded other k (inUse_ended hk),
      fun i j k hi hj => hs.injective i j k (inUse_ended hi) (inUse_ended hj),
      fun other k hk => hs.configured other k (inUse_ended hk), hs.onRecord⟩
  | loaded hcell => exact hs.load hcell
  | tapped => exact ⟨hs.untrapped, hs.items, hs.bounded, hs.injective, hs.configured, hs.onRecord⟩

-- ---------------------------------------------------------------------------
-- The exact condition
-- ---------------------------------------------------------------------------

/-- Shared cells are truthful when those in use have their own book's picture or none. -/
theorem truthful_iff {s : State} (hs : Shared s) :
    Truthful s ↔ (∀ item k, s.inUse item = some k → Honest (s.cells k)) ∧
      ∀ tap ∈ s.opened, Looks tap.1 tap.2 := by
  refine and_congr_left fun _ => forall₃_congr fun item k hk => ?_
  constructor
  · rintro ⟨book, hbook, ⟨-, hpicture⟩, -⟩ path hpath
    rw [Pictures.State.picture, hbook]
    exact hpicture path hpath
  · intro hhonest
    obtain ⟨book, hbook, htitle, hat⟩ := hs.configured item k hk
    refine ⟨book, hbook, ⟨htitle, fun path hpath => ?_⟩, hat⟩
    have hpicture := hhonest path hpath
    rw [Pictures.State.picture, hbook] at hpicture
    exact hpicture

theorem step_truthful_iff {s s' : State} {e : Event} (hs : Shared s) (htruthful : Truthful s)
    (hstep : step s e = some s') : Truthful s' ↔ NoneLate s e := by
  have heffect := step_effect hs hstep
  rw [truthful_iff (heffect.shared hs)]
  obtain ⟨hhonest, hopened⟩ := (truthful_iff hs).mp htruthful
  cases heffect with
  | catalogue => exact iff_of_true ⟨hhonest, hopened⟩ trivial
  | layout => exact iff_of_true ⟨nofun, hopened⟩ trivial
  | @configured item k book _ _ _ hqueued _ =>
    refine iff_of_true ⟨fun other k' hk' => ?_, hopened⟩ trivial
    rcases inUse_configured hs.bounded hqueued hk' with ⟨-, rfl⟩ | ⟨-, hne, hold⟩
    · rw [setCell_same]
      exact Pictures.configure_honest _ book
    · rw [setCell_ne hne]
      exact hhonest other k' hold
  | ended => exact iff_of_true ⟨fun other k hk => hhonest other k (inUse_ended hk), hopened⟩ trivial
  | @loaded k load downloaded cell hcell =>
    -- the load concerns cell `k`, which is in use for one item or in the queue
    refine Iff.trans (and_iff_left hopened) ?_
    constructor
    · rintro hall ⟨item, hk⟩
      have hcell' : Honest cell := setCell_same s k cell ▸ hall item k hk
      exact (Pictures.step_honest_iff (hs.onRecord k) (hhonest item k hk) hcell).mp hcell'
    · intro hlate item k' hk'
      by_cases hk : k' = k
      · subst hk
        rw [setCell_same]
        exact (Pictures.step_honest_iff (hs.onRecord k') (hhonest item k' hk') hcell).mpr
          (hlate ⟨item, hk'⟩)
      · rw [setCell_ne hk]
        exact hhonest item k' hk'
  | @tapped item k book hfresh hk hbook =>
    refine iff_of_true ⟨hhonest, ?_⟩ trivial
    rw [List.forall_mem_append, List.forall_mem_singleton]
    refine ⟨hopened, ?_⟩
    -- the cell looked like its book, which is the one at its item
    obtain ⟨book', -, hlooks, hat⟩ := htruthful.1 item k hk
    have hsame : book' = book := Except.ok.inj ((hat hfresh).symm.trans hbook)
    exact hsame ▸ hlooks

/-- **What a cell shows is what a tap on it opens.** No cell asked for or tapped in a run ends in a
trap; and in all its states the cells in use show the books that taps on them open, by title and
by picture or none, exactly if no load under way for a cell in use finishes with its picture while
the cell's book has no image. -/
theorem cells_truthful_iff {es : List Event} {t : State} (h : Run step initial es t) :
    t.trapped = none ∧
      (Throughout step Truthful initial es ↔ Always step NoneLate initial es) := by
  have hshared : ∀ s e s', Shared s → step s e = some s' → Shared s' :=
    fun _ _ _ hs hstep => (step_effect hs hstep).shared hs
  constructor
  · exact (h.invariant hshared shared_initial).untrapped
  · exact throughout_iff_always hshared
      (fun _ _ _ hs htruthful hstep => step_truthful_iff hs htruthful hstep) h shared_initial
      ⟨nofun, List.forall_mem_nil _⟩

/-- The only cell is taken for one book, scrolled off and taken for the next, whose picture loads;
the load of the first had been cancelled, and the tap opens the second. -/
theorem scrolled_cell_is_truthful :
    Throughout step Truthful initial
      [.catalogue .viewDidLoad, .catalogue (.loadDone (.ok [pictured "A", pictured "B"])), .layout,
        .cellForItemAt 0 0, .endDisplaying 0, .cellForItemAt 1 0, .loadDone 0 0 true,
        .loadDone 0 1 true, .tapCell 1] := by
  refine Iff.mpr (And.right (cells_truthful_iff rfl)) ?_
  refine ⟨trivial, trivial, trivial, trivial, trivial, trivial, ?_, ?_, trivial, trivial⟩
  · exact fun _ _ => Option.some_ne_none "B.png"
  · exact fun _ _ => Option.some_ne_none "B.png"

end Bookshare.Catalogue.VisibleCells
