import Bookshare.Model.Book

/-!
# CollectionViewCell.swift

A cell of the catalogue, and of the vendored SDWebImage what loads its picture:
`sd_setImage` cancels the load that the view has on record, clears the image and
puts a new load on record; a load that finishes with a picture sets it, unless
the load has been cancelled. Setting `image` leaves the loads alone.

A picture is named by the path in the storage it is loaded from.
-/

namespace Bookshare

/-- A load started for an image view (`SDWebImageCombinedOperation`). -/
structure ImageLoad where
  path : String
  isCancelled : Bool
  isFinished : Bool
  deriving DecidableEq, Repr

structure UIImageView where
  image : Option String
  /-- All loads ever started for the view; a load is named by its position. -/
  loads : List ImageLoad
  /-- `sd_imageLoadOperation(forKey:)` -/
  operation : Option Nat
  deriving DecidableEq, Repr

namespace UIImageView

/-- `sd_cancelImageLoadOperation(withKey:)` -/
def sd_cancelImageLoadOperation (view : UIImageView) : UIImageView :=
  match view.operation with
  | some load => { view with
      loads := view.loads.modify load fun operation => { operation with isCancelled := true }
      operation := none }
  | none => view

/-- `sd_setImage(with:)` for the reference at `path`; there is no placeholder. -/
def sd_setImage (view : UIImageView) (path : String) : UIImageView :=
  let view := view.sd_cancelImageLoadOperation
  { image := none
    loads := view.loads ++ [{ path, isCancelled := false, isFinished := false }]
    operation := some view.loads.length }

/-- A load finishes, having downloaded the picture or not. -/
def loadDone (view : UIImageView) (load : Nat) (downloaded : Bool) : Option UIImageView :=
  match view.loads[load]? with
  | some operation =>
    if operation.isFinished then none
    else some { view with
      image := if downloaded && !operation.isCancelled then some operation.path else view.image
      loads := view.loads.modify load fun operation => { operation with isFinished := true } }
  | none => none

end UIImageView

structure CollectionViewCell where
  bookImage : UIImageView
  bookTitle : String
  deriving DecidableEq, Repr

namespace CollectionViewCell

/-- A cell as the storyboard has it. -/
def initial : CollectionViewCell where
  bookImage := { image := none, loads := [], operation := none }
  bookTitle := "Label"

/-- The path of a book's picture, if it has one: `if let image = book.image, !image.isEmpty`. -/
def picture (book : Book) : Option String := book.image.filter fun image => !image.isEmpty

/-- `configure(book:)` -/
def configure (cell : CollectionViewCell) (book : Book) : CollectionViewCell :=
  match picture book with
  | some image => { bookImage := cell.bookImage.sd_setImage image, bookTitle := book.title }
  | none => { bookImage := { cell.bookImage with image := none }, bookTitle := book.title }

end CollectionViewCell

-- ---------------------------------------------------------------------------
-- Loads that are under way
-- ---------------------------------------------------------------------------

namespace UIImageView

/-- The load will set the picture at `path`, if it finishes with it. -/
def IsLoading (view : UIImageView) (load : Nat) (path : String) : Prop :=
  view.loads[load]? = some { path, isCancelled := false, isFinished := false }

variable {view view' : UIImageView} {load : Nat} {path image : String} {downloaded : Bool}

/-- A load under way after the cancellation was so before, and is not the one cancelled. -/
theorem isLoading_of_cancel (h : view.sd_cancelImageLoadOperation.IsLoading load path) :
    view.IsLoading load path ∧ view.operation ≠ some load := by
  unfold sd_cancelImageLoadOperation at h
  split at h
  · next current hcurrent =>
    simp only [IsLoading, List.getElem?_modify, Option.map_eq_map, Option.map_eq_some_iff] at h
    obtain ⟨operation, hoperation, hsame⟩ := h
    split at hsame
    · -- it has just been cancelled
      cases hsame
    · next hne =>
      rw [hsame] at hoperation
      refine ⟨hoperation, ?_⟩
      rw [hcurrent]
      exact fun heq => hne (Option.some.inj heq)
  · next hnone =>
    refine ⟨h, ?_⟩
    rw [hnone]
    exact nofun

/-- The loads under way after `sd_setImage`: the new one, which is on record, and those before it
that were not on record. -/
theorem isLoading_of_setImage (h : (view.sd_setImage image).IsLoading load path) :
    ((view.sd_setImage image).operation = some load ∧ path = image) ∨
      (view.IsLoading load path ∧ view.operation ≠ some load) := by
  simp only [IsLoading, sd_setImage] at h ⊢
  by_cases hlt : load < view.sd_cancelImageLoadOperation.loads.length
  · rw [List.getElem?_append_left hlt] at h
    exact Or.inr (isLoading_of_cancel h)
  · rw [List.getElem?_append_right (Nat.le_of_not_lt hlt)] at h
    obtain ⟨hzero, hnew⟩ := List.getElem?_eq_some_iff.mp h
    rw [List.length_singleton] at hzero
    rw [List.getElem_singleton] at hnew
    injection hnew with hpath
    refine Or.inl ⟨?_, hpath.symm⟩
    rw [Option.some.injEq]
    omega

/-- A load that finishes is no longer under way, and starts no other. -/
theorem isLoading_of_loadDone {other : Nat} (h : view.loadDone load downloaded = some view')
    (hother : view'.IsLoading other path) : view.IsLoading other path := by
  unfold loadDone at h
  split at h
  · next operation hload =>
    obtain ⟨-, h⟩ := Option.ite_none_left_eq_some.mp h
    injection h with h
    subst h
    simp only [IsLoading, List.getElem?_modify, Option.map_eq_map, Option.map_eq_some_iff] at hother
    obtain ⟨before, hbefore, hsame⟩ := hother
    split at hsame
    · -- it has just finished
      injection hsame with _ _ hfinished
      cases hfinished
    · rw [hsame] at hbefore
      exact hbefore
  · cases h

theorem loadDone_operation (h : view.loadDone load downloaded = some view') :
    view'.operation = view.operation := by
  unfold loadDone at h
  split at h
  · obtain ⟨-, h⟩ := Option.ite_none_left_eq_some.mp h
    injection h with h
    subst h
    rfl
  · cases h

/-- A load sets its picture if it was under way and has downloaded it, and otherwise nothing. -/
theorem loadDone_image (h : view.loadDone load downloaded = some view') :
    (downloaded = true ∧ ∃ path, view.IsLoading load path ∧ view'.image = some path) ∨
      (view'.image = view.image ∧ (downloaded = true → ∀ path, ¬view.IsLoading load path)) := by
  unfold loadDone at h
  split at h
  · next operation hload =>
    obtain ⟨hunfinished, h⟩ := Option.ite_none_left_eq_some.mp h
    injection h with h
    subst h
    obtain ⟨path, isCancelled, isFinished⟩ := operation
    cases isFinished with
    | true => exact absurd rfl hunfinished
    | false =>
      cases downloaded with
      | false => exact Or.inr ⟨rfl, nofun⟩
      | true =>
        cases isCancelled with
        | false => exact Or.inl ⟨rfl, path, hload, rfl⟩
        | true =>
          refine Or.inr ⟨rfl, ?_⟩
          intro _ other hother
          rw [IsLoading, hload] at hother
          cases hother
  · cases h

end UIImageView

end Bookshare
