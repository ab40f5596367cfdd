import Bookshare.Upload.Submissions

/-!
# Orphaned images

The upload of a book is two remote steps: `putData` stores the image, and its
callback adds the document that names it. The callback reaches the database
through `self?`, so it does nothing once the screen is gone, and nothing is
undone when `addDocument` fails.

Main results:

* `stored_images_named_iff` — when nothing is in flight any more, every stored
  image is named by a document exactly if every image was stored while its screen
  was still there and every `addDocument` succeeded;
* `left_screen_orphans_image` — leaving the screen during the upload orphans the
  image.
-/

namespace Bookshare.Upload

open Dynamic Machine

/-- Some document added names the object at `path`. -/
def Named (s : State) (path : String) : Prop :=
  ∃ doc ∈ s.documents, doc "image" = some (.string path)

/-- An upload that succeeds returns the object's metadata. -/
def HasMetadata (_ : State) : Event → Prop
  | .putDataDone _ result => result ≠ .storedWithoutMetadata
  | _ => True

/-- The step does not cut a submission off between its two remote steps: an image is stored
while the screen that submitted it is there, and `addDocument` succeeds. -/
def KeepsSubmission (s : State) : Event → Prop
  | .putDataDone uniqueId result => result.isStored → ∀ k path data doc,
      s.flights uniqueId = some (.putData k path data doc) → (s.screens k).alive = true
  | .addDocumentDone _ error => error = none
  | _ => True

-- ---------------------------------------------------------------------------
-- Submissions in flight
-- ---------------------------------------------------------------------------

theorem Tracks.named_iff {s : State} {l : Ledger Tap} (h : Tracks s l) {path : String} :
    Named s path ↔ ∃ tap ∈ l.settled, imagePath tap.uniqueId = path := by
  simp [Named, h.documents, Tap.document]

/-- The image of a submission still in flight is not named yet. -/
theorem Tracks.not_named_of_flight {s : State} {l : Ledger Tap} (h : Tracks s l) {uniqueId : String}
    {f : Flight} (hf : s.flights uniqueId = some f) : ¬Named s (imagePath uniqueId) := by
  obtain ⟨tap, htap, rfl, hopen, -⟩ := h.flights _ _ hf
  rw [h.named_iff]
  rintro ⟨other, hother, heq⟩
  -- the tap that names it would be the one in flight
  have hkey : other.uniqueId = tap.uniqueId := imagePath_injective heq
  have hsame : other = tap := h.kept.eq_of_key (h.kept.subset hother) htap hkey
  exact hopen (hsame ▸ hother)

theorem Tracks.used_of_flight {s : State} {l : Ledger Tap} (h : Tracks s l) {uniqueId : String}
    {f : Flight} (hf : s.flights uniqueId = some f) : uniqueId ∈ s.usedIds := by
  obtain ⟨tap, htap, rfl, -⟩ := h.flights _ _ hf
  exact h.used tap htap

theorem Tracks.path_of_putData {s : State} {l : Ledger Tap} (h : Tracks s l)
    {uniqueId path : String} {k : ScreenId} {data : Data} {doc : Document}
    (hf : s.flights uniqueId = some (.putData k path data doc)) : path = imagePath uniqueId := by
  obtain ⟨tap, -, rfl, -, rfl, -⟩ := h.flights _ _ hf
  rfl

theorem Tracks.image_of_addDocument {s : State} {l : Ledger Tap} (h : Tracks s l)
    {uniqueId : String} {k : ScreenId} {doc : Document}
    (hf : s.flights uniqueId = some (.addDocument k doc)) :
    doc "image" = some (.string (imagePath uniqueId)) ∧ s.objects (imagePath uniqueId) ≠ none := by
  obtain ⟨tap, htap, rfl, -, rfl, hstored⟩ := h.flights _ _ hf
  obtain ⟨data, hpng⟩ := Option.isSome_iff_exists.mp (h.valid tap htap).png
  have hobject : s.objects (imagePath tap.uniqueId) = some data := hstored.trans hpng
  exact ⟨by simp [Tap.document], by simp [hobject]⟩

-- ---------------------------------------------------------------------------
-- No orphan, as long as no submission is cut off
-- ---------------------------------------------------------------------------

/-- Every stored image is named, or is about to be. -/
def Accounted (s : State) : Prop :=
  ∀ path, s.objects path ≠ none → Named s path ∨
    ∃ uniqueId k doc, s.flights uniqueId = some (.addDocument k doc) ∧
      doc "image" = some (.string path)

/-- The tap starts a flight of its own. -/
theorem Accounted.start {s s' : State} {l : Ledger Tap} (h : Accounted s) (hl : Tracks s l)
    {k : ScreenId} {tap : Tap} (hs : Started s k tap s') : Accounted s' := by
  obtain ⟨data, hfresh, -, -, rfl⟩ := hs
  intro path hpath
  rcases h path hpath with hnamed | ⟨id, k', doc, hf, himage⟩
  · exact Or.inl hnamed
  · have hne : id ≠ tap.uniqueId := by
      intro heq
      rw [heq] at hf
      exact hfresh (hl.used_of_flight hf)
    refine Or.inr ⟨id, k', doc, ?_, himage⟩
    show Function.update s.flights tap.uniqueId _ id = some (.addDocument k' doc)
    rw [Function.update_of_ne hne]
    exact hf

/-- The object just stored gets a document, since the screen is there. -/
theorem Accounted.putDataDone {s : State} {l : Ledger Tap} (h : Accounted s) (hl : Tracks s l)
    {uniqueId path : String} {k : ScreenId} {data : Data} {doc : Document} {result : PutResult}
    (hf : s.flights uniqueId = some (.putData k path data doc))
    (hmeta : HasMetadata s (.putDataDone uniqueId result))
    (hkeep : KeepsSubmission s (.putDataDone uniqueId result)) :
    Accounted (putDataDone s uniqueId result k path data doc) := by
  have hpathOf := hl.path_of_putData hf
  subst hpathOf
  intro path hpath
  by_cases hnew : result.isStored = true ∧ path = imagePath uniqueId
  · -- the object just stored: its document is on the way
    obtain ⟨hstored, rfl⟩ := hnew
    have hresult : result = .stored := by
      cases result with
      | failed error => cases hstored
      | stored => rfl
      | storedWithoutMetadata => exact absurd rfl hmeta
    subst hresult
    have halive : (s.screens k).alive = true := hkeep rfl k _ data doc hf
    refine Or.inr ⟨uniqueId, k, _, ?_, withImage_image doc { path := some (imagePath uniqueId) }⟩
    rw [putDataDone_flights, Function.update_self, halive]
    rfl
  · -- an object stored before
    have hold : s.objects path ≠ none := by
      rw [putDataDone_objects] at hpath
      split at hpath
      · next hstored =>
        have hne : path ≠ imagePath uniqueId := fun heq => hnew ⟨hstored, heq⟩
        rwa [Function.update_of_ne hne] at hpath
      · exact hpath
    rcases h path hold with hnamed | ⟨id, k', doc', hf', himage⟩
    · exact Or.inl hnamed
    · have hne : id ≠ uniqueId := by
        rintro rfl
        rw [hf] at hf'
        cases hf'
      refine Or.inr ⟨id, k', doc', ?_, himage⟩
      rw [putDataDone_flights, Function.update_of_ne hne]
      exact hf'

/-- What was on the way is named when its `addDocument` succeeds. -/
theorem Accounted.addDocumentDone {s : State} (h : Accounted s) {uniqueId : String} {k : ScreenId}
    {doc : Document} (hf : s.flights uniqueId = some (.addDocument k doc)) :
    Accounted (addDocumentDone s uniqueId none k doc) := by
  intro path hpath
  rcases h path hpath with ⟨doc', hdoc', himage⟩ | ⟨id, k', doc', hf', himage⟩
  · exact Or.inl ⟨doc', List.mem_append_left _ hdoc', himage⟩
  · by_cases heq : id = uniqueId
    · subst heq
      obtain ⟨rfl, rfl⟩ : k = k' ∧ doc = doc' := by simpa [hf] using hf'
      exact Or.inl ⟨doc, List.mem_append_right _ (List.mem_singleton.mpr rfl), himage⟩
    · refine Or.inr ⟨id, k', doc', ?_, himage⟩
      rw [addDocumentDone_flights, Function.update_of_ne heq]
      exact hf'

theorem step_accounted {s s' : State} {e : Event} {l : Ledger Tap} (hl : Tracks s l)
    (h : Accounted s) (hmeta : HasMetadata s e) (hkeep : KeepsSubmission s e)
    (hstep : step s e = some s') : Accounted s' := by
  rcases step_cases hstep with ⟨⟨screens, rfl⟩, -, -, -⟩ | ⟨k, tap, -, -, hs⟩ |
    ⟨uniqueId, result, k, path, data, doc, rfl, hf, rfl⟩ | ⟨uniqueId, error, k, doc, rfl, hf, rfl⟩
  · exact h
  · exact h.start hl hs
  · exact h.putDataDone hl hf hmeta hkeep
  · have hsucceeded : error = none := hkeep
    subst hsucceeded
    exact h.addDocumentDone hf

-- ---------------------------------------------------------------------------
-- An orphan stays one
-- ---------------------------------------------------------------------------

/-- The image of a submission no longer in flight is stored, and no document names it. -/
structure Orphaned (s : State) (uniqueId : String) : Prop where
  used : uniqueId ∈ s.usedIds
  idle : s.flights uniqueId = none
  stored : s.objects (imagePath uniqueId) ≠ none
  unnamed : ¬Named s (imagePath uniqueId)

/-- A submission in flight is another one. -/
theorem Orphaned.ne_of_flight {s : State} {uniqueId id : String} {f : Flight}
    (h : Orphaned s uniqueId) (hf : s.flights id = some f) : uniqueId ≠ id := by
  rintro rfl
  rw [h.idle] at hf
  cases hf

theorem step_orphaned {s s' : State} {e : Event} {l : Ledger Tap} (hl : Tracks s l)
    {uniqueId : String} (h : Orphaned s uniqueId) (hstep : step s e = some s') :
    Orphaned s' uniqueId := by
  rcases step_cases hstep with ⟨⟨screens, rfl⟩, -, -, -⟩ | ⟨k, tap, -, -, hs⟩ |
    ⟨id, result, k, path, data, doc, rfl, hf, rfl⟩ | ⟨id, error, k, doc, rfl, hf, rfl⟩
  · exact ⟨h.used, h.idle, h.stored, h.unnamed⟩
  · -- a tap draws another identifier
    obtain ⟨data, hfresh, -, -, rfl⟩ := hs
    have hne : uniqueId ≠ tap.uniqueId := by
      intro heq
      rw [heq] at h
      exact hfresh h.used
    refine ⟨List.mem_cons_of_mem _ h.used, ?_, h.stored, h.unnamed⟩
    show Function.update s.flights tap.uniqueId _ uniqueId = none
    rw [Function.update_of_ne hne]
    exact h.idle
  · -- another submission stores its image
    have hpathOf := hl.path_of_putData hf
    subst hpathOf
    have hne : uniqueId ≠ id := h.ne_of_flight hf
    have hpath : imagePath uniqueId ≠ imagePath id := fun heq => hne (imagePath_injective heq)
    refine ⟨h.used, ?_, ?_, h.unnamed⟩
    · rw [putDataDone_flights, Function.update_of_ne hne]
      exact h.idle
    · rw [putDataDone_objects]
      split
      · rw [Function.update_of_ne hpath]
        exact h.stored
      · exact h.stored
  · -- another submission adds its document
    have hne : uniqueId ≠ id := h.ne_of_flight hf
    refine ⟨h.used, ?_, h.stored, ?_⟩
    · rw [addDocumentDone_flights, Function.update_of_ne hne]
      exact h.idle
    · -- a document that names the image would have been there before
      rintro ⟨doc', hdoc', himage⟩
      rw [addDocumentDone_documents] at hdoc'
      have hmem : doc' ∈ s.documents ∨ doc' = doc := by
        split at hdoc'
        · exact (List.mem_append.mp hdoc').imp_right List.mem_singleton.mp
        · exact Or.inl hdoc'
      rcases hmem with hold | rfl
      · exact h.unnamed ⟨doc', hold, himage⟩
      · rw [(hl.image_of_addDocument hf).1] at himage
        have hpath : imagePath id = imagePath uniqueId := by simpa using himage
        exact hne (imagePath_injective hpath).symm

/-- A step that cuts a submission off orphans its image. -/
theorem orphaned_of_not_keeps {s s' : State} {e : Event} {l : Ledger Tap} (hl : Tracks s l)
    (hkeep : ¬KeepsSubmission s e) (hstep : step s e = some s') :
    ∃ uniqueId, Orphaned s' uniqueId := by
  rcases step_cases hstep with ⟨-, -, hput, hadd⟩ | ⟨k, tap, rfl, -, -⟩ |
    ⟨id, result, k, path, data, doc, rfl, hf, rfl⟩ | ⟨id, error, k, doc, rfl, hf, rfl⟩
  · refine absurd ?_ hkeep
    cases e with
    | putDataDone id result => exact absurd rfl (hput id result)
    | addDocumentDone id error => exact absurd rfl (hadd id error)
    | _ => trivial
  · exact absurd trivial hkeep
  · -- the image was stored, and the screen was gone
    simp only [KeepsSubmission, not_forall, Bool.not_eq_true] at hkeep
    obtain ⟨hstored, k', path', data', doc', hf', hdead⟩ := hkeep
    rw [hf] at hf'
    obtain ⟨rfl, rfl, rfl, rfl⟩ : k = k' ∧ path = path' ∧ data = data' ∧ doc = doc' := by
      simpa using hf'
    have hpathOf := hl.path_of_putData hf
    subst hpathOf
    refine ⟨id, hl.used_of_flight hf, ?_, ?_, hl.not_named_of_flight hf⟩
    · -- the callback finds no screen
      rw [putDataDone_flights, Function.update_self, hdead, Option.map_eq_none_iff]
      cases result <;> rfl
    · rw [putDataDone_objects, if_pos hstored, Function.update_self]
      exact nofun
  · -- the document was not added
    obtain ⟨someError, rfl⟩ := Option.ne_none_iff_exists'.mp hkeep
    refine ⟨id, hl.used_of_flight hf, ?_, (hl.image_of_addDocument hf).2,
      hl.not_named_of_flight hf⟩
    rw [addDocumentDone_flights, Function.update_self]

-- ---------------------------------------------------------------------------
-- The exact condition
-- ---------------------------------------------------------------------------

/-- **No orphaned image.** In a run whose successful uploads return the object's metadata, and
at whose end nothing is in flight, every stored image is named by a document exactly if no
step cut a submission off. -/
theorem stored_images_named_iff {screens : ScreenId → Screen} {es : List Event} {t : State}
    (h : Run step (initial screens) es t) (hmeta : Always step HasMetadata (initial screens) es)
    (hquiet : t.Quiescent) :
    (∀ path, t.objects path ≠ none → Named t path) ↔
      Always step KeepsSubmission (initial screens) es := by
  constructor
  · -- a submission cut off leaves an orphan, and the orphan is there at the end
    intro hnamed
    by_contra hkeep
    obtain ⟨pre, e, post, u, v, -, hpre, hbad, hstep, hpost⟩ := h.exists_of_not_always hkeep
    obtain ⟨l, hl, -⟩ := run_tracks hpre
    obtain ⟨uniqueId, horphan⟩ := orphaned_of_not_keeps hl hbad hstep
    obtain ⟨l', hl', -⟩ := step_tracks hl hstep
    have hend : (∃ l, Tracks t l) ∧ Orphaned t uniqueId := by
      refine hpost.invariant (I := fun s => (∃ l, Tracks s l) ∧ Orphaned s uniqueId) ?_
        ⟨⟨l', hl'⟩, horphan⟩
      rintro s e s' ⟨⟨l, hl⟩, hs⟩ hstep
      obtain ⟨l', hl', -⟩ := step_tracks hl hstep
      exact ⟨⟨l', hl'⟩, step_orphaned hl hs hstep⟩
    exact hend.2.unnamed (hnamed _ hend.2.stored)
  · -- otherwise every image is accounted for, and nothing is on the way any more
    intro hkeep path hpath
    have hend : (∃ l, Tracks t l) ∧ Accounted t := by
      refine h.invariant_of_always (I := fun s => (∃ l, Tracks s l) ∧ Accounted s) ?_
        (always_and.mpr ⟨hmeta, hkeep⟩)
        ⟨⟨_, tracks_initial screens⟩, fun _ hpath => absurd rfl hpath⟩
      rintro s e s' ⟨⟨l, hl⟩, hs⟩ ⟨hm, hk⟩ hstep
      obtain ⟨l', hl', -⟩ := step_tracks hl hstep
      exact ⟨⟨l', hl'⟩, step_accounted hl hs hm hk hstep⟩
    rcases hend.2 path hpath with hnamed | ⟨uniqueId, k, doc, hf, -⟩
    · exact hnamed
    · rw [hquiet uniqueId] at hf
      cases hf

/-- The tap starts one flight, its own. -/
private theorem flights_submit_filled {id : String} (h : id ≠ "U1") :
    (submit (initial filledScreens) 0 "U1").flights id = none :=
  Function.update_of_ne (f := fun _ => none) h _

theorem completed_upload_is_named :
    ∃ t, Run step (initial filledScreens)
        [.submit 0 "U1", .putDataDone "U1" .stored, .addDocumentDone "U1" none] t ∧
      ((∀ path, t.objects path ≠ none → Named t path) ↔
        Always step KeepsSubmission (initial filledScreens)
          [.submit 0 "U1", .putDataDone "U1" .stored, .addDocumentDone "U1" none]) := by
  refine ⟨_, rfl, stored_images_named_iff rfl ⟨trivial, nofun, trivial, trivial⟩ ?_⟩
  intro id
  by_cases hid : id = "U1"
  · simp [hid]
  · simp [hid, flights_submit_filled hid]

/-- Alice leaves the screen while her image is being uploaded: it is stored, nothing is in
flight any more, and no document names it. -/
theorem left_screen_orphans_image :
    ∃ t, Run step (initial filledScreens)
        [.submit 0 "U1", .exit 0, .putDataDone "U1" .stored] t ∧
      Always step HasMetadata (initial filledScreens)
        [.submit 0 "U1", .exit 0, .putDataDone "U1" .stored] ∧
      t.Quiescent ∧ t.objects "U1.png" ≠ none ∧ ¬Named t "U1.png" := by
  refine ⟨_, rfl, ⟨trivial, trivial, nofun, trivial⟩, ?_, by decide, ?_⟩
  · intro id
    by_cases hid : id = "U1"
    · simp [hid, State.setScreen, putDataCallback, PutResult.error, PutResult.metadata]
    · simp [hid, State.setScreen, flights_submit_filled hid]
  · rintro ⟨doc, hdoc, -⟩
    cases hdoc

end Bookshare.Upload
