import Bookshare.Library.Ledger
import Bookshare.Upload.System

/-!
# Uploads do not mix

The dictionary of a submission is completed in a later callback, while the form it
came from stays editable and other submissions are in flight. The ledger of taps
is what the screens are for: a tap that starts an upload issues an entry, a
document added settles it. `step_tracks` shows that the system follows the
ledger, whatever is edited, tapped, left, failed or reordered, and
`documents_from_distinct_taps` reads the result off the ledger.
-/

namespace Bookshare.Upload

open Dynamic Machine

/-- The document of a tap, once the path of its image is known. -/
def Tap.document (tap : Tap) : Document :=
  withImage (submittedDoc tap.form tap.user) { path := some (imagePath tap.uniqueId) }

/-- A document is added without requests. -/
theorem Tap.document_requests (tap : Tap) : tap.document "requests" = none := by
  rw [Tap.document, withImage_ne _ _ (by decide), submittedDoc_other _ _ (by decide)]

/-- The image shown at the tap is stored under the tap's identifier. -/
def Tap.Stored (objects : String → Option Data) (tap : Tap) : Prop :=
  objects (imagePath tap.uniqueId) = tap.form.image.bind UIImage.pngData

/-- A flight carries what `tap` found. -/
def CarriedBy (objects : String → Option Data) (tap : Tap) : Flight → Prop
  | .putData _ path data doc => path = imagePath tap.uniqueId ∧
      tap.form.image.bind UIImage.pngData = some data ∧ doc = submittedDoc tap.form tap.user
  | .addDocument _ doc => doc = tap.document ∧ tap.Stored objects

/-- The system follows the ledger: each flight is an issued entry not yet settled, and the
documents are the settled entries, in order. -/
structure Tracks (s : State) (l : Ledger Tap) : Prop where
  kept : l.WellKept Tap.uniqueId
  valid : ∀ tap ∈ l.issued, tap.Valid
  used : ∀ tap ∈ l.issued, tap.uniqueId ∈ s.usedIds
  flights : ∀ uniqueId f, s.flights uniqueId = some f →
    ∃ tap ∈ l.issued, tap.uniqueId = uniqueId ∧ tap ∉ l.settled ∧ CarriedBy s.objects tap f
  documents : s.documents = l.settled.map Tap.document
  stored : ∀ tap ∈ l.settled, tap.Stored s.objects

theorem tracks_initial (screens : ScreenId → Screen) : Tracks (initial screens) Ledger.empty where
  kept := Ledger.wellKept_empty _
  valid := by simp [Ledger.empty]
  used := by simp [Ledger.empty]
  flights := by simp [initial]
  documents := rfl
  stored := by simp [Ledger.empty]

-- ---------------------------------------------------------------------------
-- Steps
-- ---------------------------------------------------------------------------

/-- Storing the object of one tap leaves those of the others alone. -/
theorem Tap.Stored.store {objects : String → Option Data} {tap other : Tap}
    (h : other.Stored objects) (hne : other.uniqueId ≠ tap.uniqueId) (data : Option Data) :
    other.Stored (Function.update objects (imagePath tap.uniqueId) data) := by
  unfold Tap.Stored
  have hpath : imagePath other.uniqueId ≠ imagePath tap.uniqueId :=
    fun heq => hne (imagePath_injective heq)
  rw [Function.update_of_ne hpath]
  exact h

theorem CarriedBy.store {objects : String → Option Data} {tap other : Tap} {f : Flight}
    (h : CarriedBy objects other f) (hne : other.uniqueId ≠ tap.uniqueId) (data : Option Data) :
    CarriedBy (Function.update objects (imagePath tap.uniqueId) data) other f := by
  cases f with
  | putData => exact h
  | addDocument => exact ⟨h.1, h.2.store hne data⟩

theorem Tracks.start {s s' : State} {l : Ledger Tap} (h : Tracks s l) {k : ScreenId} {tap : Tap}
    (hs : Started s k tap s') :
    Tracks s' { l with issued := l.issued ++ [tap] } := by
  obtain ⟨data, hfresh, hform, hpng, rfl⟩ := hs
  -- the identifier is fresh, so no entry has it
  have hnew : tap.uniqueId ∉ l.issued.map Tap.uniqueId := by
    intro hmem
    obtain ⟨other, hother, heq⟩ := List.mem_map.mp hmem
    exact hfresh (heq ▸ h.used other hother)
  have hkept : Ledger.WellKept Tap.uniqueId { l with issued := l.issued ++ [tap] } :=
    Ledger.step_wellKept _ _ _ h.kept (Ledger.step_issue hnew)
  refine ⟨hkept, ?_, ?_, ?_, h.documents, h.stored⟩
  · -- the new entry passed the checks
    intro other hother
    rcases List.mem_append.mp hother with hother | hother
    · exact h.valid other hother
    · rw [List.mem_singleton] at hother
      subst hother
      exact ⟨hform, by simp [hpng]⟩
  · -- and its identifier is drawn
    intro other hother
    rcases List.mem_append.mp hother with hother | hother
    · exact List.mem_cons_of_mem _ (h.used other hother)
    · rw [List.mem_singleton] at hother
      subst hother
      exact List.mem_cons_self
  · -- its flight carries what the tap found; the others are as before
    intro uniqueId f hf
    by_cases hid : uniqueId = tap.uniqueId
    · subst hid
      simp only [Function.update_self, Option.some.injEq] at hf
      subst hf
      have hopen : tap ∉ l.settled := fun hsettled =>
        hnew (List.mem_map_of_mem (h.kept.subset hsettled))
      exact ⟨tap, by simp, rfl, hopen, rfl, hpng, rfl⟩
    · simp only [Function.update_of_ne hid] at hf
      obtain ⟨other, hother, heq, hopen, hcarried⟩ := h.flights uniqueId f hf
      exact ⟨other, List.mem_append_left _ hother, heq, hopen, hcarried⟩

/-- A flight whose `putData` has ended goes on with its own tap's data, or is dropped. -/
theorem Tracks.putDataDone {s : State} {l : Ledger Tap} (h : Tracks s l) {uniqueId path : String}
    {k : ScreenId} {data : Data} {doc : Document} (result : PutResult)
    (hf : s.flights uniqueId = some (.putData k path data doc)) :
    Tracks (putDataDone s uniqueId result k path data doc) l := by
  obtain ⟨tap, htap, rfl, hopen, rfl, hpng, rfl⟩ := h.flights _ _ hf
  refine ⟨h.kept, h.valid, h.used, ?_, h.documents, ?_⟩
  · -- the flights
    intro id f hid
    rw [putDataDone_flights] at hid
    rw [putDataDone_objects]
    by_cases heq : id = tap.uniqueId
    · subst heq
      rw [Function.update_self, Option.map_eq_some_iff] at hid
      obtain ⟨added, hadded, rfl⟩ := hid
      obtain ⟨-, herror, m, hm, rfl⟩ := putDataCallback_eq_some.mp hadded
      -- only a stored object comes with metadata, and the metadata has its path
      cases result with
      | failed error => cases herror
      | storedWithoutMetadata => cases hm
      | stored =>
        injection hm with hm
        subst hm
        refine ⟨tap, htap, rfl, hopen, rfl, ?_⟩
        simp [Tap.Stored, PutResult.isStored, hpng]
    · rw [Function.update_of_ne heq] at hid
      obtain ⟨other, hother, rfl, hopen', hcarried⟩ := h.flights id f hid
      refine ⟨other, hother, rfl, hopen', ?_⟩
      split
      · exact hcarried.store heq _
      · exact hcarried
  · -- the objects of settled entries: theirs is not the one stored now
    intro other hother
    have hne : other.uniqueId ≠ tap.uniqueId := by
      intro heq
      have hsame : other = tap := h.kept.eq_of_key (h.kept.subset hother) htap heq
      exact hopen (hsame ▸ hother)
    rw [putDataDone_objects]
    split
    · exact (h.stored other hother).store hne _
    · exact h.stored other hother

/-- A flight whose `addDocument` has ended is settled, or is dropped. -/
theorem Tracks.addDocumentDone {s : State} {l : Ledger Tap} (h : Tracks s l) {uniqueId : String}
    {k : ScreenId} {doc : Document} (error : Option String)
    (hf : s.flights uniqueId = some (.addDocument k doc)) :
    ∃ l', Tracks (addDocumentDone s uniqueId error k doc) l' ∧ l'.issued = l.issued := by
  obtain ⟨tap, htap, rfl, hopen, rfl, hstored⟩ := h.flights _ _ hf
  -- the flights left are those of other entries
  have hflights : ∀ id f, Function.update s.flights tap.uniqueId none id = some f →
      ∃ other ∈ l.issued, other.uniqueId = id ∧ other ≠ tap ∧ other ∉ l.settled ∧
        CarriedBy s.objects other f := by
    intro id f hid
    by_cases heq : id = tap.uniqueId
    · rw [heq, Function.update_self] at hid
      cases hid
    · rw [Function.update_of_ne heq] at hid
      obtain ⟨other, hother, rfl, hopen', hcarried⟩ := h.flights id f hid
      exact ⟨other, hother, rfl, fun htap => heq (htap ▸ rfl), hopen', hcarried⟩
  cases error with
  | some error =>
    -- the entry stays open, with nothing in flight for it
    refine ⟨l, ⟨h.kept, h.valid, h.used, ?_, h.documents, h.stored⟩, rfl⟩
    intro id f hid
    obtain ⟨other, hother, heq, -, hopen', hcarried⟩ := hflights id f hid
    exact ⟨other, hother, heq, hopen', hcarried⟩
  | none =>
    -- the entry is settled, by its own document
    have hkept := Ledger.step_wellKept _ _ _ h.kept (Ledger.step_settle htap hopen)
    refine ⟨{ l with settled := l.settled ++ [tap] }, ⟨hkept, h.valid, h.used, ?_, ?_, ?_⟩, rfl⟩
    · intro id f hid
      obtain ⟨other, hother, heq, hne, hopen', hcarried⟩ := hflights id f hid
      exact ⟨other, hother, heq, by simp [hopen', hne], hcarried⟩
    · rw [addDocumentDone_documents, h.documents, List.map_append]
      rfl
    · intro other hother
      rcases List.mem_append.mp hother with hother | hother
      · exact h.stored other hother
      · exact List.mem_singleton.mp hother ▸ hstored

/-- The ledger knows nothing of the screens. -/
theorem Tracks.onlyScreens {s s' : State} {l : Ledger Tap} (h : Tracks s l)
    (hscreens : OnlyScreens s s') : Tracks s' l := by
  obtain ⟨screens, rfl⟩ := hscreens
  exact ⟨h.kept, h.valid, h.used, h.flights, h.documents, h.stored⟩

/-- Every step of the system is followed by the ledger, and issues what it observes. -/
theorem step_tracks {s s' : State} {e : Event} {l : Ledger Tap} (h : Tracks s l)
    (hstep : step s e = some s') :
    ∃ l', Tracks s' l' ∧ l'.issued = l.issued ++ startedUpload s e := by
  rcases step_cases hstep with ⟨hscreens, hobs, -, -⟩ | ⟨k, tap, -, hobs, hs⟩ |
    ⟨uniqueId, result, k, path, data, doc, rfl, hf, rfl⟩ | ⟨uniqueId, error, k, doc, rfl, hf, rfl⟩
  · exact ⟨l, h.onlyScreens hscreens, by simp [hobs]⟩
  · exact ⟨_, h.start hs, by rw [hobs]⟩
  · exact ⟨l, h.putDataDone result hf, by simp [startedUpload]⟩
  · obtain ⟨l', hl', hissued⟩ := h.addDocumentDone error hf
    exact ⟨l', hl', by simp [startedUpload, hissued]⟩

theorem run_tracks {screens : ScreenId → Screen} {es : List Event} {t : State}
    (h : Run step (initial screens) es t) :
    ∃ l, Tracks t l ∧ l.issued = collect step startedUpload (initial screens) es := by
  have hstep : ∀ taps s e s', (∃ l, Tracks s l ∧ l.issued = taps) → step s e = some s' →
      ∃ l, Tracks s' l ∧ l.issued = taps ++ startedUpload s e := by
    rintro taps s e s' ⟨l, hl, rfl⟩ hstep
    exact step_tracks hl hstep
  exact h.collect_invariant hstep ⟨Ledger.empty, tracks_initial screens, rfl⟩

-- ---------------------------------------------------------------------------
-- Where the documents come from
-- ---------------------------------------------------------------------------

/-- `doc` carries what `tap` found, and names the object that stores the image `tap` found. -/
structure AddedFor (t : State) (doc : Document) (tap : Tap) : Prop where
  checks : formError tap.form = none
  title : doc "title" = tap.form.txtTitle.map .string
  author : doc "author" = tap.form.txtAuthor.map .string
  grade : doc "grade" = tap.form.txtGrades.map .string
  subject : doc "subject" = tap.form.txtSubject.map .string
  condition : doc "condition" = tap.form.txtCondition.map .string
  user : doc "user" = some (.map (userData tap.user))
  image : doc "image" = some (.string (imagePath tap.uniqueId))
  stored : ∃ image data, tap.form.image = some image ∧ image.pngData = some data ∧
    t.objects (imagePath tap.uniqueId) = some data

theorem addedFor_document {t : State} {tap : Tap} (hvalid : tap.Valid)
    (hstored : tap.Stored t.objects) : AddedFor t tap.document tap where
  checks := hvalid.checks
  title := by simp [Tap.document, withImage_ne]
  author := by simp [Tap.document, withImage_ne]
  grade := by simp [Tap.document, withImage_ne]
  subject := by simp [Tap.document, withImage_ne]
  condition := by simp [Tap.document, withImage_ne]
  user := by simp [Tap.document, withImage_ne]
  image := by simp [Tap.document]
  stored := by
    obtain ⟨data, hpng⟩ := Option.isSome_iff_exists.mp hvalid.png
    obtain ⟨image, himage, hdata⟩ := Option.bind_eq_some_iff.mp hpng
    exact ⟨image, data, himage, hdata, hstored.trans hpng⟩

/-- **Uploads do not mix.** In every run of any upload screens, the documents added come, in
order, from distinct taps that started an upload; each carries the texts, the user and the
image of its own tap, and no two name the same object. -/
theorem documents_from_distinct_taps {screens : ScreenId → Screen} {es : List Event} {t : State}
    (h : Run step (initial screens) es t) :
    ∃ origin : List Tap,
      origin.Subperm (collect step startedUpload (initial screens) es) ∧
      (origin.map Tap.uniqueId).Nodup ∧
      List.Forall₂ (AddedFor t) t.documents origin ∧
      (t.documents.map fun doc => doc "image").Nodup := by
  obtain ⟨l, hl, hissued⟩ := run_tracks h
  refine ⟨l.settled, hissued ▸ hl.kept.subperm, hl.kept.settled_keys, ?_, ?_⟩
  · -- each document is its own tap's
    rw [hl.documents, List.forall₂_map_left_iff, List.forall₂_same]
    intro tap htap
    have hvalid : tap.Valid := hl.valid tap (hl.kept.subset htap)
    exact addedFor_document hvalid (hl.stored tap htap)
  · -- distinct identifiers name distinct objects
    have himages : t.documents.map (fun doc => doc "image") =
        (l.settled.map Tap.uniqueId).map fun id => some (Value.string (imagePath id)) := by
      simp [hl.documents, Tap.document]
    rw [himages]
    refine hl.kept.settled_keys.map fun a b hab => ?_
    have hpath : imagePath a = imagePath b := by simpa using hab
    exact imagePath_injective hpath

/-- Three taps on one screen, another title and another image being chosen after the first; the
second upload overtakes the first, and the third fails. -/
def overtakingUploads : List Event :=
  [.submit 0 "U1", .edit 0 { hobbitForm with txtTitle := some "Dune" },
    .pick 0 (some { pngData := some [137, 81] }), .submit 0 "U2", .putDataDone "U2" .stored,
    .submit 0 "U3", .putDataDone "U3" (.failed "offline"), .addDocumentDone "U2" none,
    .putDataDone "U1" .stored, .addDocumentDone "U1" none]

theorem overtaking_uploads_do_not_mix :
    ∃ t, Run step (initial filledScreens) overtakingUploads t ∧
      (t.documents.map fun doc => doc.string? "title") = [some "Dune", some "The Hobbit"] ∧
      (t.documents.map fun doc => (doc.string? "image").bind t.objects) =
        [some [137, 81], some [137, 80]] ∧
      ∃ origin : List Tap,
        origin.Subperm (collect step startedUpload (initial filledScreens) overtakingUploads) ∧
        (origin.map Tap.uniqueId).Nodup ∧
        List.Forall₂ (AddedFor t) t.documents origin ∧
        (t.documents.map fun doc => doc "image").Nodup :=
  ⟨_, rfl, rfl, rfl, documents_from_distinct_taps rfl⟩

end Bookshare.Upload
