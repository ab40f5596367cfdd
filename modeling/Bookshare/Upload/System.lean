import Bookshare.Library.Machine
import Bookshare.Model.Upload

/-!
# Upload screens and what they have in flight

Any number of upload screens, Cloud Storage and the `textbooks` collection. A
tap on Submit that reaches `putData` starts a *flight*, named by the identifier
drawn for it; the flight is first a `putData` call holding what its callback has
captured, then an `addDocument` call. Calls complete in any order, and a screen
can be edited, tapped again or left while they are in flight.

Assumed of the libraries: `UUID().uuidString` never repeats; a `putData` call
that succeeds has stored the object, and the metadata it returns, if any, has
the object's path. A `fatalError` takes the process down, so nothing of its
screens runs any more; calls already made can still succeed on the server.

`step_cases` says everything a step can do, and the proofs use it in place of
`step`.
-/

namespace Bookshare.Upload

open Dynamic Machine

abbrev ScreenId := Nat

structure Screen where
  form : Form
  /-- `Auth.auth().currentUser` as this screen finds it. -/
  currentUser : Option FIRUser
  /-- Not yet left and deallocated. -/
  alive : Bool
  alerts : List Alert

/-- A call in flight, with what its callback has captured. -/
inductive Flight where
  | putData (screen : ScreenId) (path : String) (data : Data) (doc : Document)
  | addDocument (screen : ScreenId) (doc : Document)

structure State where
  screens : ScreenId → Screen
  /-- The identifiers drawn so far. -/
  usedIds : List String
  flights : String → Option Flight
  /-- The objects these screens have stored, by path. -/
  objects : String → Option Data
  /-- The documents these screens have added, in order. -/
  documents : List Document

/-- How a `putData` call ends. -/
inductive PutResult where
  | failed (error : String)
  | stored
  /-- The upload succeeded and its response could not be read. -/
  | storedWithoutMetadata
  deriving DecidableEq

namespace PutResult

def isStored : PutResult → Bool
  | failed _ => false
  | stored | storedWithoutMetadata => true

/-- The `metadata` argument of the callback. -/
def metadata (path : String) : PutResult → Option StorageMetadata
  | stored => some { path := some path }
  | failed _ | storedWithoutMetadata => none

/-- The `error` argument of the callback. -/
def error : PutResult → Option String
  | failed error => some error
  | stored | storedWithoutMetadata => none

end PutResult

inductive Event where
  /-- The texts are edited to those of `texts`. -/
  | edit (k : ScreenId) (texts : Form)
  | pick (k : ScreenId) (originalImage : Option UIImage)
  | session (k : ScreenId) (user : Option FIRUser)
  | submit (k : ScreenId) (uniqueId : String)
  /-- The screen is popped and deallocated. -/
  | exit (k : ScreenId)
  | putDataDone (uniqueId : String) (result : PutResult)
  | addDocumentDone (uniqueId : String) (error : Option String)

def State.setScreen (s : State) (k : ScreenId) (screen : Screen) : State :=
  { s with screens := Function.update s.screens k screen }

def State.setFlight (s : State) (uniqueId : String) (flight : Option Flight) : State :=
  { s with flights := Function.update s.flights uniqueId flight }

/-- `submitTapped` on screen `k`, with `uniqueId` the identifier drawn if it draws one. -/
def submit (s : State) (k : ScreenId) (uniqueId : String) : State :=
  let screen := s.screens k
  match submitTapped screen.form screen.currentUser uniqueId with
  | .alert alert => s.setScreen k { screen with alerts := screen.alerts ++ [alert] }
  -- the process is gone, and the screen with it
  | .trap _ => s.setScreen k { screen with alive := false }
  | .nothing => s
  | .putData path data doc =>
    { s with usedIds := uniqueId :: s.usedIds }.setFlight uniqueId
      (some (.putData k path data doc))

/-- `putData` has ended: the object is there or not, and the callback runs. -/
def putDataDone (s : State) (uniqueId : String) (result : PutResult) (k : ScreenId)
    (path : String) (data : Data) (doc : Document) : State :=
  -- `self?` in the callback: without the screen, no document is added
  let added := putDataCallback (s.screens k).alive (result.metadata path) result.error doc
  { s with
    objects := if result.isStored then Function.update s.objects path (some data) else s.objects
    }.setFlight uniqueId (added.map (.addDocument k))

/-- `addDocument` has ended: the document is there or not, and the callback runs. -/
def addDocumentDone (s : State) (uniqueId : String) (error : Option String) (k : ScreenId)
    (doc : Document) : State :=
  let screen := s.screens k
  let alerts := screen.alerts ++ (addDocumentCallback screen.alive error).toList
  { s with documents := if error.isNone then s.documents ++ [doc] else s.documents
    }.setFlight uniqueId none |>.setScreen k { screen with alerts }

def step (s : State) : Event → Option State
  | .edit k texts =>
    let screen := s.screens k
    if screen.alive then some (s.setScreen k { screen with
      form := { texts with image := screen.form.image } }) else none
  | .pick k originalImage =>
    let screen := s.screens k
    if screen.alive then some (s.setScreen k { screen with
      form := didFinishPicking screen.form originalImage }) else none
  | .session k user => some (s.setScreen k { s.screens k with currentUser := user })
  | .submit k uniqueId =>
    if (s.screens k).alive ∧ uniqueId ∉ s.usedIds then some (submit s k uniqueId) else none
  | .exit k => some (s.setScreen k { s.screens k with alive := false })
  | .putDataDone uniqueId result =>
    match s.flights uniqueId with
    | some (.putData k path data doc) => some (putDataDone s uniqueId result k path data doc)
    | _ => none
  | .addDocumentDone uniqueId error =>
    match s.flights uniqueId with
    | some (.addDocument k doc) => some (addDocumentDone s uniqueId error k doc)
    | _ => none

/-- Screens in any state, and nothing uploaded yet. -/
def initial (screens : ScreenId → Screen) : State where
  screens := screens
  usedIds := []
  flights := fun _ => none
  objects := fun _ => none
  documents := []

/-- Screens on which Alice has filled in the form, for the runs on fixed inputs. -/
def filledScreens (_ : ScreenId) : Screen where
  form := hobbitForm
  currentUser := some alice
  alive := true
  alerts := []

/-- Nothing is in flight. -/
def State.Quiescent (s : State) : Prop := ∀ uniqueId, s.flights uniqueId = none

-- ---------------------------------------------------------------------------
-- Taps
-- ---------------------------------------------------------------------------

/-- A tap on Submit that started an upload: what it found and the identifier it drew. -/
structure Tap where
  form : Form
  user : FIRUser
  uniqueId : String
  deriving DecidableEq

/-- The upload a step starts, if it starts one. -/
def startedUpload (s : State) : Event → List Tap
  | .submit k uniqueId =>
    match submitTapped (s.screens k).form (s.screens k).currentUser uniqueId,
      (s.screens k).currentUser with
    | .putData _ _ _, some user => [{ form := (s.screens k).form, user, uniqueId }]
    | _, _ => []
  | _ => []

/-- A tap passed the form checks and found an image with a PNG encoding. -/
structure Tap.Valid (tap : Tap) : Prop where
  checks : formError tap.form = none
  png : (tap.form.image.bind UIImage.pngData).isSome

-- ---------------------------------------------------------------------------
-- What a step can do
-- ---------------------------------------------------------------------------

/-- Only screens changed: an edit, a picked image, a change of session, an exit, an alert, a
crash, or a tap that stopped short of `putData`. -/
def OnlyScreens (s s' : State) : Prop := ∃ screens, s' = { s with screens }

/-- A flight was started by a tap that found `user` signed in. -/
def Started (s : State) (k : ScreenId) (tap : Tap) (s' : State) : Prop :=
  ∃ data, tap.uniqueId ∉ s.usedIds ∧ formError tap.form = none ∧
    tap.form.image.bind UIImage.pngData = some data ∧
    s' = { s with
      usedIds := tap.uniqueId :: s.usedIds
      flights := Function.update s.flights tap.uniqueId
        (some (.putData k (imagePath tap.uniqueId) data (submittedDoc tap.form tap.user))) }

@[simp] theorem setScreen_same (s : State) (k : ScreenId) (screen : Screen) :
    (s.setScreen k screen).screens k = screen := Function.update_self ..

theorem setScreen_ne {k k' : ScreenId} (hk : k' ≠ k) (s : State) (screen : Screen) :
    (s.setScreen k' screen).screens k = s.screens k := by
  unfold State.setScreen
  exact Function.update_of_ne (Ne.symm hk) ..

theorem submitTapped_cases (form : Form) (currentUser : Option FIRUser) (uniqueId : String) :
    (∃ user data, currentUser = some user ∧ formError form = none ∧
      form.image.bind UIImage.pngData = some data ∧
      submitTapped form currentUser uniqueId =
        .putData (imagePath uniqueId) data (submittedDoc form user)) ∨
    (∀ path data doc, submitTapped form currentUser uniqueId ≠ .putData path data doc) := by
  by_cases h : ∃ path data doc, submitTapped form currentUser uniqueId = .putData path data doc
  · obtain ⟨path, data, doc, h⟩ := h
    obtain ⟨hform, rfl, hpng, user, huser, rfl⟩ := submitTapped_eq_putData.mp h
    exact Or.inl ⟨user, data, huser, hform, hpng, h⟩
  · refine Or.inr fun path data doc heq => h ⟨path, data, doc, heq⟩

theorem startedUpload_of_putData {s : State} {k : ScreenId} {uniqueId path : String} {data : Data}
    {doc : Document} {user : FIRUser} (huser : (s.screens k).currentUser = some user)
    (h : submitTapped (s.screens k).form (s.screens k).currentUser uniqueId =
      .putData path data doc) :
    startedUpload s (.submit k uniqueId) = [{ form := (s.screens k).form, user, uniqueId }] := by
  rw [huser] at h
  simp only [startedUpload, huser, h]

theorem startedUpload_of_not_putData {s : State} {k : ScreenId} {uniqueId : String}
    (h : ∀ path data doc, submitTapped (s.screens k).form (s.screens k).currentUser uniqueId ≠
      .putData path data doc) :
    startedUpload s (.submit k uniqueId) = [] := by
  simp only [startedUpload]
  split
  · next heq _ => exact absurd heq (h _ _ _)
  · rfl

theorem submit_of_putData {s : State} {k : ScreenId} {uniqueId path : String} {data : Data}
    {doc : Document} (h : submitTapped (s.screens k).form (s.screens k).currentUser uniqueId =
      .putData path data doc) :
    submit s k uniqueId = { s with
      usedIds := uniqueId :: s.usedIds
      flights := Function.update s.flights uniqueId (some (.putData k path data doc)) } := by
  simp only [submit, h, State.setFlight]

/-- A tap that stops short of `putData` shows an alert, or takes the screen down with it, or
does nothing. -/
theorem submit_of_not_putData {s : State} {k : ScreenId} {uniqueId : String}
    (h : ∀ path data doc, submitTapped (s.screens k).form (s.screens k).currentUser uniqueId ≠
      .putData path data doc) : OnlyScreens s (submit s k uniqueId) := by
  simp only [submit]
  split
  · exact ⟨_, rfl⟩
  · exact ⟨_, rfl⟩
  · exact ⟨_, rfl⟩
  · next heq => exact absurd heq (h _ _ _)

section Completions

variable (s : State) (uniqueId : String) (result : PutResult) (error : Option String)
  (k : ScreenId) (path : String) (data : Data) (doc : Document)

@[simp] theorem putDataDone_flights :
    (putDataDone s uniqueId result k path data doc).flights = Function.update s.flights uniqueId
      ((putDataCallback (s.screens k).alive (result.metadata path) result.error doc).map
        (.addDocument k)) := rfl

@[simp] theorem putDataDone_objects :
    (putDataDone s uniqueId result k path data doc).objects =
      if result.isStored then Function.update s.objects path (some data) else s.objects := rfl

@[simp] theorem addDocumentDone_flights :
    (addDocumentDone s uniqueId error k doc).flights =
      Function.update s.flights uniqueId none := rfl

@[simp] theorem addDocumentDone_documents :
    (addDocumentDone s uniqueId error k doc).documents =
      if error.isNone then s.documents ++ [doc] else s.documents := rfl

end Completions

/-- Everything a step can do. -/
theorem step_cases {s s' : State} {e : Event} (h : step s e = some s') :
    (OnlyScreens s s' ∧ startedUpload s e = [] ∧
      (∀ uniqueId result, e ≠ .putDataDone uniqueId result) ∧
      ∀ uniqueId error, e ≠ .addDocumentDone uniqueId error) ∨
    (∃ k tap, e = .submit k tap.uniqueId ∧ startedUpload s e = [tap] ∧ Started s k tap s') ∨
    (∃ uniqueId result k path data doc, e = .putDataDone uniqueId result ∧
      s.flights uniqueId = some (.putData k path data doc) ∧
      s' = putDataDone s uniqueId result k path data doc) ∨
    (∃ uniqueId error k doc, e = .addDocumentDone uniqueId error ∧
      s.flights uniqueId = some (.addDocument k doc) ∧
      s' = addDocumentDone s uniqueId error k doc) := by
  cases e with
  -- the events of one screen alone
  | edit k texts =>
    simp only [step, Option.ite_none_right_eq_some, Option.some.injEq] at h
    have hscreens : OnlyScreens s s' := ⟨_, h.2.symm⟩
    exact Or.inl ⟨hscreens, rfl, nofun, nofun⟩
  | pick k originalImage =>
    simp only [step, Option.ite_none_right_eq_some, Option.some.injEq] at h
    have hscreens : OnlyScreens s s' := ⟨_, h.2.symm⟩
    exact Or.inl ⟨hscreens, rfl, nofun, nofun⟩
  | session k user =>
    have hscreens : OnlyScreens s s' := ⟨_, (Option.some.inj h).symm⟩
    exact Or.inl ⟨hscreens, rfl, nofun, nofun⟩
  | exit k =>
    have hscreens : OnlyScreens s s' := ⟨_, (Option.some.inj h).symm⟩
    exact Or.inl ⟨hscreens, rfl, nofun, nofun⟩
  | submit k uniqueId =>
    simp only [step, Option.ite_none_right_eq_some, Option.some.injEq] at h
    obtain ⟨⟨-, hfresh⟩, rfl⟩ := h
    rcases submitTapped_cases (s.screens k).form (s.screens k).currentUser uniqueId with
      ⟨user, data, huser, hform, hpng, heq⟩ | hno
    · -- the tap reached `putData`
      have hstarted : Started s k ⟨(s.screens k).form, user, uniqueId⟩ (submit s k uniqueId) :=
        ⟨data, hfresh, hform, hpng, submit_of_putData heq⟩
      exact Or.inr (Or.inl ⟨k, _, rfl, startedUpload_of_putData huser heq, hstarted⟩)
    · -- it stopped short of it
      have hscreens : OnlyScreens s (submit s k uniqueId) := submit_of_not_putData hno
      have hnothing : startedUpload s (.submit k uniqueId) = [] := startedUpload_of_not_putData hno
      exact Or.inl ⟨hscreens, hnothing, nofun, nofun⟩
  | putDataDone uniqueId result =>
    simp only [step] at h
    split at h
    · next k path data doc hflight =>
      exact Or.inr (Or.inr (Or.inl ⟨uniqueId, result, k, path, data, doc, rfl, hflight,
        (Option.some.inj h).symm⟩))
    · cases h
  | addDocumentDone uniqueId error =>
    simp only [step] at h
    split at h
    · next k doc hflight =>
      exact Or.inr (Or.inr (Or.inr ⟨uniqueId, error, k, doc, rfl, hflight,
        (Option.some.inj h).symm⟩))
    · cases h

end Bookshare.Upload
