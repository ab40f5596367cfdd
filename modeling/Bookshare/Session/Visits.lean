import Bookshare.Catalogue.Reload
import Bookshare.Upload.Answers

/-!
# Visits to the upload screen

One user between the catalogue and the upload screen: the upload screen on top,
the alert or the image picker presented over it, the uploads in flight and the
collection they end in. A successful upload reaches the catalogue through an
alert: its OK calls `uploadCompleted`, which reloads the catalogue, and pops the
upload screen.

Assumed of UIKit: a screen that is presenting something presents nothing else, so
that `present` does nothing then; and what is presented has to be dismissed
before the user gets at the screen below.

A `fatalError` takes the process down, which ends the run.

Main results:

* `only_the_top_screen_presents` — no alert of an upload comes up once its screen was
  left;
* `every_upload_reloads_iff` — once no success is left to be acknowledged, a load has
  been issued for each book added exactly if every upload ended with its screen still
  there and nothing presented over it;
* `announced_books_are_loaded` — if loads succeed and do not go back, an announced book
  is in the catalogue once its alert is gone and no load is in flight.
-/

namespace Bookshare.Session.Visits

open Machine TextBooksViewController

open Catalogue.Reload (ids)

/-- What is presented over the upload screen. -/
inductive Presented where
  | imagePicker
  /-- `documentID` is that of the document whose success the alert reports, if it reports one. -/
  | alert (alert : Alert) (documentID : String)

structure State where
  uploads : Upload.State
  catalogue : Catalogue.Reload.State
  currentUser : Option FIRUser
  /-- The upload screen on top of the catalogue, if there is one. -/
  top : Option Upload.ScreenId
  /-- The upload screens shown so far. -/
  screens : List Upload.ScreenId
  presented : Option Presented

inductive Event where
  /-- The segue to the upload screen, which instantiates screen `k`. -/
  | showUpload (k : Upload.ScreenId)
  | uploadImageTapped
  | didCancel
  | didFinishPicking (originalImage : Option UIImage)
  | edit (texts : Form)
  | submitTapped (uniqueId : String)
  /-- The OK of the alert presented. -/
  | okTapped
  | back
  | session (user : Option FIRUser)
  | putDataDone (uniqueId : String) (result : Upload.PutResult)
  /-- `addDocument` ends; a document that is added gets `documentID`. -/
  | addDocumentDone (uniqueId : String) (error : Option String) (documentID : String)
  /-- What happens in the catalogue and to the collection besides. -/
  | catalogue (e : Catalogue.Reload.Event)

namespace State

def upload (s : State) (e : Upload.Event) : Option State :=
  (Upload.step s.uploads e).map fun uploads => { s with uploads }

def reload (s : State) (e : Catalogue.Reload.Event) : Option State :=
  (Catalogue.Reload.step s.catalogue e).map fun catalogue => { s with catalogue }

/-- The documents of the collection. -/
def collection (s : State) : List QueryDocument := (s.catalogue.history.getLast?).getD []

/-- `showalert(with:message:okAction:)` -/
def showalert (s : State) (alert : Alert) (documentID : String) : State :=
  match s.presented with
  | none => { s with presented := some (.alert alert documentID) }
  | some _ => s

/-- The document whose success is being reported. -/
def success (s : State) : Option String :=
  match s.presented with
  | some (.alert alert documentID) => if alert.popsOnOk then some documentID else none
  | _ => none

end State

/-- A tap on Submit, on screen `k`. -/
def submitTapped (s : State) (k : Upload.ScreenId) (uniqueId : String) : Option State :=
  let screen := s.uploads.screens k
  match Bookshare.submitTapped screen.form screen.currentUser uniqueId with
  | .alert alert => (s.upload (.submit k uniqueId)).map fun s => s.showalert alert ""
  | .trap _ => none
  | .putData _ _ _ | .nothing => s.upload (.submit k uniqueId)

/-- The OK of `alert`: `uploadCompleted?(true)` and `popViewController`, if it has an action. -/
def okTapped (s : State) (k : Upload.ScreenId) (alert : Alert) : Option State :=
  let s := { s with presented := none }
  if alert.popsOnOk then
    (s.reload (.uploadCompleted true)).bind fun s => { s with top := none }.upload (.exit k)
  else some s

/-- `addDocument` has ended for screen `k`: the document is in the collection or not, and the
callback runs. -/
def addDocumentDone (s : State) (uniqueId : String) (error : Option String) (documentID : String)
    (k : Upload.ScreenId) (doc : Document) : Option State :=
  let alert := addDocumentCallback (s.uploads.screens k).alive error
  (s.upload (.addDocumentDone uniqueId error)).bind fun s =>
    let s := alert.elim s fun alert => s.showalert alert documentID
    match error with
    | some _ => some s
    | none =>
      if documentID ∈ ids s.collection then none
      else s.reload (.grow (s.collection ++ [(documentID, doc)]))

def step (s : State) : Event → Option State
  | .showUpload k =>
    if s.top = none ∧ k ∉ s.screens then
      (s.upload (.session k s.currentUser)).map fun s =>
        { s with top := some k, screens := k :: s.screens }
    else none
  | .uploadImageTapped =>
    match s.top, s.presented with
    | some _, none => some { s with presented := some .imagePicker }
    | _, _ => none
  | .didCancel =>
    match s.presented with
    | some .imagePicker => some { s with presented := none }
    | _ => none
  | .didFinishPicking originalImage =>
    match s.top, s.presented with
    | some k, some .imagePicker => { s with presented := none }.upload (.pick k originalImage)
    | _, _ => none
  | .edit texts =>
    match s.top, s.presented with
    | some k, none => s.upload (.edit k texts)
    | _, _ => none
  | .submitTapped uniqueId =>
    match s.top, s.presented with
    | some k, none => submitTapped s k uniqueId
    | _, _ => none
  | .okTapped =>
    match s.top, s.presented with
    | some k, some (.alert alert _) => okTapped s k alert
    | _, _ => none
  | .back =>
    match s.top, s.presented with
    | some k, none => { s with top := none }.upload (.exit k)
    | _, _ => none
  | .session user =>
    match s.top with
    | some k => { s with currentUser := user }.upload (.session k user)
    | none => some { s with currentUser := user }
  | .putDataDone uniqueId result => s.upload (.putDataDone uniqueId result)
  | .addDocumentDone uniqueId error documentID =>
    match s.uploads.flights uniqueId with
    | some (.addDocument k doc) => addDocumentDone s uniqueId error documentID k doc
    | _ => none
  -- only an OK calls `uploadCompleted`
  | .catalogue (.uploadCompleted _) => none
  -- and the filter is out of reach below another screen
  | .catalogue (.gradeSelected grade) =>
    if s.top = none then s.reload (.gradeSelected grade) else none
  | .catalogue e => s.reload e

/-- The catalogue on its own, over a collection of `documents`. -/
def initial (screens : Upload.ScreenId → Upload.Screen) (documents : List QueryDocument)
    (currentUser : Option FIRUser) : State where
  uploads := Upload.initial screens
  catalogue := Catalogue.Reload.initial documents
  currentUser := currentUser
  top := none
  screens := []
  presented := none

/-- Alice uploads a book and acknowledges its success, and the loads deliver: for the runs on fixed
inputs. -/
def acknowledgedUpload : List Event :=
  [.catalogue .viewDidLoad, .showUpload 0, .submitTapped "u", .putDataDone "u" .stored,
    .addDocumentDone "u" none "B", .okTapped, .catalogue (.loadDone 0 0),
    .catalogue (.loadDone 0 1)]

/-- The documents a step adds for the user's uploads. -/
def added (s : State) : Event → List String
  | .addDocumentDone uniqueId none documentID =>
    match s.uploads.flights uniqueId with
    | some (.addDocument _ _) => [documentID]
    | _ => []
  | _ => []

/-- How many loads of the catalogue a step issues. -/
def loadsIssued (s : State) (e : Event) : Nat :=
  (step s e).elim 0 fun s' => s'.catalogue.issued.length - s.catalogue.issued.length

/-- The loads a step issues that are not the catalogue's own, each by the document whose success
is being reported. -/
def reloads (s : State) : Event → List String
  | .catalogue _ => []
  | e => List.replicate (loadsIssued s e) (s.success.getD "")

/-- A document is added while its upload screen is still there and presents nothing. -/
def Announced (s : State) : Event → Prop
  | .addDocumentDone uniqueId none _ =>
    match s.uploads.flights uniqueId with
    | some (.addDocument k _) => (s.uploads.screens k).alive = true ∧ s.presented.isNone
    | _ => True
  | _ => True

/-- The documents a step adds and tells the user of. -/
def announced (s : State) : Event → List String
  | .addDocumentDone uniqueId none documentID =>
    match s.uploads.flights uniqueId with
    | some (.addDocument k _) =>
      if (s.uploads.screens k).alive = true ∧ s.presented.isNone then [documentID] else []
    | _ => []
  | _ => []

/-- The documents a step adds and tells nobody of. -/
def unannounced (s : State) : Event → List String
  | .addDocumentDone uniqueId none documentID =>
    match s.uploads.flights uniqueId with
    | some (.addDocument k _) =>
      if (s.uploads.screens k).alive = true ∧ s.presented.isNone then [] else [documentID]
    | _ => []
  | _ => []

/-- Loads succeed, and deliver no moment before the one shown. -/
def Delivers (s : State) : Event → Prop
  | .catalogue e => Catalogue.Reload.Delivers s.catalogue e
  | _ => True

-- ---------------------------------------------------------------------------
-- What a step can do
-- ---------------------------------------------------------------------------

theorem State.upload_eq_some {s s' : State} {e : Upload.Event} :
    s.upload e = some s' ↔
      ∃ uploads, Upload.step s.uploads e = some uploads ∧ { s with uploads } = s' :=
  Option.map_eq_some_iff

theorem State.reload_eq_some {s s' : State} {e : Catalogue.Reload.Event} :
    s.reload e = some s' ↔
      ∃ catalogue, Catalogue.Reload.step s.catalogue e = some catalogue ∧
        { s with catalogue } = s' :=
  Option.map_eq_some_iff

/-- The form checks report no success. -/
theorem formError_popsOnOk {form : Form} {alert : Alert} (h : formError form = some alert) :
    alert.popsOnOk = false := by
  unfold formError at h
  repeat' split at h
  all_goals cases h
  all_goals rfl

@[simp] theorem showalert_catalogue (s : State) (alert : Alert) (documentID : String) :
    (s.showalert alert documentID).catalogue = s.catalogue := by
  unfold State.showalert
  split <;> rfl

/-- Only the alert of a success is one, and only over a screen that presents nothing. -/
theorem showalert_success (s : State) (alert : Alert) (documentID : String) :
    (s.showalert alert documentID).success =
      if s.presented.isNone ∧ alert.popsOnOk then some documentID else s.success := by
  unfold State.showalert
  cases hpresented : s.presented with
  | none => simp [State.success, hpresented]
  | some presented => simp

/-- The success reported once the callback of `addDocument` has run. -/
theorem callback_success (s : State) (selfAlive : Bool) (error : Option String)
    (documentID : String) :
    ((addDocumentCallback selfAlive error).elim s fun alert =>
      s.showalert alert documentID).success =
      if error = none ∧ selfAlive = true ∧ s.presented.isNone then some documentID
      else s.success := by
  cases selfAlive <;> cases error <;> simp [addDocumentCallback, showalert_success]

@[simp] theorem callback_catalogue (s : State) (alert : Option Alert) (documentID : String) :
    (alert.elim s fun alert => s.showalert alert documentID).catalogue = s.catalogue := by
  cases alert with
  | none => rfl
  | some alert => exact showalert_catalogue s alert documentID

/-- What a step can do: leave the catalogue and the success reported alone, acknowledge a success,
add a document, or what the catalogue does besides. -/
inductive Effect (s : State) : Event → State → Prop
  | quiet {e s'} : s'.catalogue = s.catalogue → s'.success = s.success →
      added s e = [] → announced s e = [] → unannounced s e = [] → Effect s e s'
  | acknowledged {documentID s'} : s.success = some documentID → s'.success = none →
      Catalogue.Reload.step s.catalogue (.uploadCompleted true) = some s'.catalogue →
      Effect s .okTapped s'
  | added {uniqueId k doc documentID s'} :
      s.uploads.flights uniqueId = some (.addDocument k doc) →
      s'.success = (if (s.uploads.screens k).alive = true ∧ s.presented.isNone
        then some documentID else s.success) →
      Catalogue.Reload.step s.catalogue (.grow (s.collection ++ [(documentID, doc)])) =
        some s'.catalogue →
      Effect s (.addDocumentDone uniqueId none documentID) s'
  | reloaded {e s'} : s'.success = s.success →
      Catalogue.Reload.step s.catalogue e = some s'.catalogue → Effect s (.catalogue e) s'

theorem success_eq_none {s : State} (h : s.presented = none) : s.success = none := by
  rw [State.success, h]

/-- A tap on Submit reports no success. -/
theorem submitTapped_effect {s s' : State} {k : Upload.ScreenId} {uniqueId : String}
    (h : submitTapped s k uniqueId = some s') :
    s'.catalogue = s.catalogue ∧ s'.success = s.success := by
  simp only [submitTapped] at h
  split at h
  · next alert htap =>
    obtain ⟨s₁, hupload, rfl⟩ := Option.map_eq_some_iff.mp h
    obtain ⟨uploads, -, rfl⟩ := State.upload_eq_some.mp hupload
    -- an alert of the form checks
    have hpops : alert.popsOnOk = false := formError_popsOnOk (submitTapped_eq_alert.mp htap)
    refine ⟨showalert_catalogue _ _ _, ?_⟩
    rw [showalert_success, if_neg (by simp [hpops])]
    rfl
  · cases h
  · obtain ⟨uploads, -, rfl⟩ := State.upload_eq_some.mp h
    exact ⟨rfl, rfl⟩
  · obtain ⟨uploads, -, rfl⟩ := State.upload_eq_some.mp h
    exact ⟨rfl, rfl⟩

theorem okTapped_effect {s s' : State} {k : Upload.ScreenId} {alert : Alert} {documentID : String}
    (hpresented : s.presented = some (.alert alert documentID)) (h : okTapped s k alert = some s') :
    Effect s .okTapped s' := by
  simp only [okTapped] at h
  cases hpops : alert.popsOnOk with
  | false =>
    rw [hpops, if_neg (by simp)] at h
    injection h with h
    subst h
    have hnone : s.success = none := by simp [State.success, hpresented, hpops]
    exact .quiet rfl hnone.symm rfl rfl rfl
  | true =>
    rw [hpops, if_pos rfl] at h
    obtain ⟨s₁, hreload, h⟩ := Option.bind_eq_some_iff.mp h
    obtain ⟨catalogue, hcatalogue, rfl⟩ := State.reload_eq_some.mp hreload
    obtain ⟨uploads, -, rfl⟩ := State.upload_eq_some.mp h
    have hsome : s.success = some documentID := by simp [State.success, hpresented, hpops]
    exact .acknowledged hsome rfl hcatalogue

theorem addDocumentDone_effect {s s' : State} {uniqueId documentID : String}
    {error : Option String} {k : Upload.ScreenId} {doc : Document}
    (hflight : s.uploads.flights uniqueId = some (.addDocument k doc))
    (h : addDocumentDone s uniqueId error documentID k doc = some s') :
    Effect s (.addDocumentDone uniqueId error documentID) s' := by
  simp only [addDocumentDone] at h
  obtain ⟨s₁, hupload, h⟩ := Option.bind_eq_some_iff.mp h
  obtain ⟨uploads, -, rfl⟩ := State.upload_eq_some.mp hupload
  cases error with
  | some err =>
    injection h with h
    subst h
    refine .quiet (callback_catalogue _ _ _) ?_ rfl rfl rfl
    rw [callback_success, if_neg (by simp)]
    rfl
  | none =>
    obtain ⟨-, h⟩ := Option.ite_none_left_eq_some.mp h
    obtain ⟨catalogue, hcatalogue, rfl⟩ := State.reload_eq_some.mp h
    refine .added hflight ?_ ?_
    · refine (callback_success _ _ _ _).trans ?_
      simp [State.success]
    · rw [State.collection, callback_catalogue] at hcatalogue
      exact hcatalogue

theorem step_effect {s s' : State} {e : Event} (h : step s e = some s') : Effect s e s' := by
  cases e with
  | showUpload k =>
    obtain ⟨-, h⟩ := Option.ite_none_right_eq_some.mp h
    obtain ⟨s₁, hupload, rfl⟩ := Option.map_eq_some_iff.mp h
    obtain ⟨uploads, -, rfl⟩ := State.upload_eq_some.mp hupload
    exact .quiet rfl rfl rfl rfl rfl
  | uploadImageTapped =>
    simp only [step] at h
    split at h
    · next hpresented =>
      injection h with h
      subst h
      exact .quiet rfl (success_eq_none hpresented).symm rfl rfl rfl
    · cases h
  | didCancel =>
    simp only [step] at h
    split at h
    · next hpresented =>
      injection h with h
      subst h
      have hnone : s.success = none := by rw [State.success, hpresented]
      exact .quiet rfl hnone.symm rfl rfl rfl
    · cases h
  | didFinishPicking originalImage =>
    simp only [step] at h
    split at h
    · next hpresented =>
      obtain ⟨uploads, -, rfl⟩ := State.upload_eq_some.mp h
      have hnone : s.success = none := by rw [State.success, hpresented]
      exact .quiet rfl hnone.symm rfl rfl rfl
    · cases h
  | edit texts =>
    simp only [step] at h
    split at h
    · obtain ⟨uploads, -, rfl⟩ := State.upload_eq_some.mp h
      exact .quiet rfl rfl rfl rfl rfl
    · cases h
  | submitTapped uniqueId =>
    simp only [step] at h
    split at h
    · obtain ⟨hcatalogue, hsuccess⟩ := submitTapped_effect h
      exact .quiet hcatalogue hsuccess rfl rfl rfl
    · cases h
  | okTapped =>
    simp only [step] at h
    split at h
    · next k alert documentID _ hpresented => exact okTapped_effect hpresented h
    · cases h
  | back =>
    simp only [step] at h
    split at h
    · obtain ⟨uploads, -, rfl⟩ := State.upload_eq_some.mp h
      exact .quiet rfl rfl rfl rfl rfl
    · cases h
  | session user =>
    simp only [step] at h
    split at h
    · obtain ⟨uploads, -, rfl⟩ := State.upload_eq_some.mp h
      exact .quiet rfl rfl rfl rfl rfl
    · injection h with h
      subst h
      exact .quiet rfl rfl rfl rfl rfl
  | putDataDone uniqueId result =>
    obtain ⟨uploads, -, rfl⟩ := State.upload_eq_some.mp h
    exact .quiet rfl rfl rfl rfl rfl
  | addDocumentDone uniqueId error documentID =>
    simp only [step] at h
    split at h
    · next k doc hflight => exact addDocumentDone_effect hflight h
    · cases h
  | catalogue e =>
    cases e with
    | uploadCompleted isSuccess => cases h
    | gradeSelected grade =>
      obtain ⟨-, h⟩ := Option.ite_none_right_eq_some.mp h
      obtain ⟨catalogue, hcatalogue, rfl⟩ := State.reload_eq_some.mp h
      exact .reloaded rfl hcatalogue
    | _ =>
      obtain ⟨catalogue, hcatalogue, rfl⟩ := State.reload_eq_some.mp h
      exact .reloaded rfl hcatalogue

-- ---------------------------------------------------------------------------
-- Screens
-- ---------------------------------------------------------------------------

/-- Of the upload screens shown so far only the one on top is still there, flights were started on
screens that were shown, and nothing is presented over the catalogue. -/
structure Fits (s : State) : Prop where
  alive : ∀ k ∈ s.screens, (s.uploads.screens k).alive = true → s.top = some k
  flights : ∀ uniqueId flight, s.uploads.flights uniqueId = some flight → flight.screen ∈ s.screens
  top : ∀ k, s.top = some k → k ∈ s.screens
  presented : s.top = none → s.presented = none

/-- A flight was there before, on the same screen, or a tap on Submit of its screen started it. -/
theorem step_flight_screen {s s' : Upload.State} {e : Upload.Event} (h : Upload.step s e = some s')
    {uniqueId : String} {flight : Upload.Flight} (hflight : s'.flights uniqueId = some flight) :
    (∃ before, s.flights uniqueId = some before ∧ before.screen = flight.screen) ∨
      ∃ id, e = .submit flight.screen id := by
  -- an update at the flight itself, or at another one
  have hupdate : ∀ id after, s'.flights = Function.update s.flights id after →
      s.flights uniqueId = some flight ∨ after = some flight ∧ uniqueId = id := by
    intro id after heq
    rw [heq] at hflight
    by_cases hid : uniqueId = id
    · subst hid
      rw [Function.update_self] at hflight
      exact Or.inr ⟨hflight, rfl⟩
    · rw [Function.update_of_ne hid] at hflight
      exact Or.inl hflight
  rcases Upload.step_cases h with ⟨⟨screens, rfl⟩, -, -, -⟩ | ⟨k, tap, rfl, -, hs⟩ |
    ⟨id, result, k, path, data, doc, -, hf, rfl⟩ | ⟨id, error, k, doc, -, hf, rfl⟩
  · exact Or.inl ⟨flight, hflight, rfl⟩
  · obtain ⟨data, -, -, -, rfl⟩ := hs
    rcases hupdate _ _ rfl with hold | ⟨hnew, -⟩
    · exact Or.inl ⟨flight, hold, rfl⟩
    · injection hnew with hnew
      subst hnew
      exact Or.inr ⟨tap.uniqueId, rfl⟩
  · rcases hupdate _ _ (Upload.putDataDone_flights ..) with hold | ⟨hnew, rfl⟩
    · exact Or.inl ⟨flight, hold, rfl⟩
    · obtain ⟨doc', -, rfl⟩ := Option.map_eq_some_iff.mp hnew
      exact Or.inl ⟨_, hf, rfl⟩
  · rcases hupdate _ _ (Upload.addDocumentDone_flights ..) with hold | ⟨hnew, -⟩
    · exact Or.inl ⟨flight, hold, rfl⟩
    · cases hnew

/-- What the upload screens do keeps the screens in place, as long as a tap is on one shown. -/
theorem Fits.upload {s s' : State} {e : Upload.Event} (hs : Fits s) (h : s.upload e = some s')
    (he : ∀ k uniqueId, e = .submit k uniqueId → k ∈ s.screens) : Fits s' := by
  obtain ⟨uploads, huploads, rfl⟩ := State.upload_eq_some.mp h
  refine ⟨fun k hk halive => ?_, fun uniqueId flight hflight => ?_, hs.top, hs.presented⟩
  · exact hs.alive k hk ((Upload.step_screen huploads).2 halive)
  · rcases step_flight_screen huploads hflight with ⟨before, hbefore, hscreen⟩ | ⟨id, heq⟩
    · exact hscreen ▸ hs.flights uniqueId before hbefore
    · exact he _ id heq

/-- What is presented over the screen on top changes nothing else. -/
theorem Fits.present {s : State} (hs : Fits s) {k : Upload.ScreenId} (hk : s.top = some k)
    (presented : Option Presented) : Fits { s with presented } := by
  refine ⟨hs.alive, hs.flights, hs.top, fun hnone => ?_⟩
  rw [show s.top = none from hnone] at hk
  cases hk

theorem Fits.showalert {s : State} (hs : Fits s) {k : Upload.ScreenId} (hk : s.top = some k)
    (alert : Alert) (documentID : String) : Fits (s.showalert alert documentID) := by
  unfold State.showalert
  split
  · exact hs.present hk _
  · exact hs

/-- The screen on top is left. -/
theorem Fits.exit {s s' : State} {k : Upload.ScreenId} (hs : Fits s) (hk : s.top = some k)
    (hpresented : s.presented = none) (h : { s with top := none }.upload (.exit k) = some s') :
    Fits s' := by
  obtain ⟨uploads, huploads, rfl⟩ := State.upload_eq_some.mp h
  injection huploads with huploads
  subst huploads
  refine ⟨fun k' hk' halive => ?_, hs.flights, nofun, fun _ => hpresented⟩
  -- the screen left is gone, and the others were gone before
  by_cases heq : k' = k
  · subst heq
    rw [Upload.setScreen_same] at halive
    cases halive
  · rw [Upload.setScreen_ne (Ne.symm heq)] at halive
    have htop : s.top = some k' := hs.alive k' hk' halive
    rw [hk] at htop
    exact absurd (Option.some.inj htop).symm heq

theorem Fits.reload {s s' : State} {e : Catalogue.Reload.Event} (hs : Fits s)
    (h : s.reload e = some s') : Fits s' := by
  obtain ⟨catalogue, -, rfl⟩ := State.reload_eq_some.mp h
  exact ⟨hs.alive, hs.flights, hs.top, hs.presented⟩

theorem Fits.submitTapped {s s' : State} {k : Upload.ScreenId} {uniqueId : String} (hs : Fits s)
    (hk : s.top = some k) (h : submitTapped s k uniqueId = some s') : Fits s' := by
  -- the tap is on the screen on top
  have hshown : ∀ k' uniqueId', Upload.Event.submit k uniqueId = .submit k' uniqueId' →
      k' ∈ s.screens := by
    rintro k' uniqueId' heq
    injection heq with heq
    exact heq ▸ hs.top k hk
  simp only [Visits.submitTapped] at h
  split at h
  · obtain ⟨s₁, hupload, rfl⟩ := Option.map_eq_some_iff.mp h
    have hs₁ : Fits s₁ := hs.upload hupload hshown
    obtain ⟨uploads, -, rfl⟩ := State.upload_eq_some.mp hupload
    exact hs₁.showalert hk _ _
  · cases h
  · exact hs.upload h hshown
  · exact hs.upload h hshown

theorem Fits.okTapped {s s' : State} {k : Upload.ScreenId} {alert : Alert} (hs : Fits s)
    (hk : s.top = some k) (h : okTapped s k alert = some s') : Fits s' := by
  have hdismissed : Fits { s with presented := none } := hs.present hk none
  simp only [Visits.okTapped] at h
  split at h
  · obtain ⟨s₁, hreload, h⟩ := Option.bind_eq_some_iff.mp h
    have hs₁ : Fits s₁ := hdismissed.reload hreload
    obtain ⟨catalogue, -, rfl⟩ := State.reload_eq_some.mp hreload
    exact hs₁.exit hk rfl h
  · injection h with h
    subst h
    exact hdismissed

theorem Fits.addDocumentDone {s s' : State} {uniqueId documentID : String} {error : Option String}
    {k : Upload.ScreenId} {doc : Document} (hs : Fits s)
    (hflight : s.uploads.flights uniqueId = some (.addDocument k doc))
    (h : addDocumentDone s uniqueId error documentID k doc = some s') : Fits s' := by
  simp only [Visits.addDocumentDone] at h
  obtain ⟨s₁, hupload, h⟩ := Option.bind_eq_some_iff.mp h
  have hs₁ : Fits s₁ := hs.upload hupload nofun
  obtain ⟨uploads, -, rfl⟩ := State.upload_eq_some.mp hupload
  -- the callback presents something only if its screen is still there, and so on top
  have hcallback : Fits ((addDocumentCallback (s.uploads.screens k).alive error).elim
      { s with uploads } fun alert => State.showalert { s with uploads } alert documentID) := by
    cases halive : (s.uploads.screens k).alive with
    | false => exact hs₁
    | true =>
      have hk : s.top = some k := hs.alive k (hs.flights uniqueId _ hflight) halive
      cases error <;> exact hs₁.showalert hk _ _
  cases error with
  | some err =>
    injection h with h
    subst h
    exact hcallback
  | none =>
    obtain ⟨-, h⟩ := Option.ite_none_left_eq_some.mp h
    exact hcallback.reload h

theorem step_fits {s s' : State} {e : Event} (hs : Fits s) (h : step s e = some s') : Fits s' := by
  cases e with
  | showUpload k =>
    obtain ⟨⟨htop, hnew⟩, h⟩ := Option.ite_none_right_eq_some.mp h
    obtain ⟨s₁, hupload, rfl⟩ := Option.map_eq_some_iff.mp h
    have hs₁ : Fits s₁ := hs.upload hupload nofun
    obtain ⟨uploads, -, rfl⟩ := State.upload_eq_some.mp hupload
    refine ⟨fun k' hk' halive => ?_, fun uniqueId flight hflight => ?_, fun k' hk' => ?_, nofun⟩
    · rcases List.mem_cons.mp hk' with rfl | hold
      · rfl
      · -- none of those shown before is left
        have hbefore : s.top = some k' := hs₁.alive k' hold halive
        rw [htop] at hbefore
        cases hbefore
    · exact List.mem_cons_of_mem _ (hs₁.flights uniqueId flight hflight)
    · injection hk' with hk'
      exact hk' ▸ List.mem_cons_self
  | uploadImageTapped =>
    simp only [step] at h
    split at h
    · next hk _ =>
      injection h with h
      subst h
      exact hs.present hk _
    · cases h
  | didCancel =>
    simp only [step] at h
    split at h
    · injection h with h
      subst h
      exact ⟨hs.alive, hs.flights, hs.top, fun _ => rfl⟩
    · cases h
  | didFinishPicking originalImage =>
    simp only [step] at h
    split at h
    · next hk _ => exact (hs.present hk none).upload h nofun
    · cases h
  | edit texts =>
    simp only [step] at h
    split at h
    · exact hs.upload h nofun
    · cases h
  | submitTapped uniqueId =>
    simp only [step] at h
    split at h
    · next k hk _ => exact hs.submitTapped hk h
    · cases h
  | okTapped =>
    simp only [step] at h
    split at h
    · next k alert _ hk _ => exact hs.okTapped hk h
    · cases h
  | back =>
    simp only [step] at h
    split at h
    · next hk hpresented => exact hs.exit hk hpresented h
    · cases h
  | session user =>
    have hsession : Fits { s with currentUser := user } :=
      ⟨hs.alive, hs.flights, hs.top, hs.presented⟩
    simp only [step] at h
    split at h
    · exact hsession.upload h nofun
    · injection h with h
      subst h
      exact hsession
  | putDataDone uniqueId result => exact hs.upload h nofun
  | addDocumentDone uniqueId error documentID =>
    simp only [step] at h
    split at h
    · next k doc hflight => exact hs.addDocumentDone hflight h
    · cases h
  | catalogue e =>
    cases e with
    | uploadCompleted isSuccess => cases h
    | gradeSelected grade =>
      obtain ⟨-, h⟩ := Option.ite_none_right_eq_some.mp h
      exact hs.reload h
    | _ => exact hs.reload h

theorem fits_initial (screens : Upload.ScreenId → Upload.Screen) (documents : List QueryDocument)
    (currentUser : Option FIRUser) : Fits (initial screens documents currentUser) :=
  ⟨nofun, nofun, nofun, fun _ => rfl⟩

/-- **Nothing is presented but over the upload screen on top**: in no state of a run is there an
alert or the image picker over the catalogue, or an upload screen left that could present one. -/
theorem only_the_top_screen_presents {screens : Upload.ScreenId → Upload.Screen}
    {documents : List QueryDocument} {currentUser : Option FIRUser} {es : List Event} {t : State}
    (h : Run step (initial screens documents currentUser) es t) :
    (t.presented ≠ none → ∃ k ∈ t.screens, t.top = some k) ∧
      ∀ uniqueId flight, t.uploads.flights uniqueId = some flight →
        (t.uploads.screens flight.screen).alive = true → t.top = some flight.screen := by
  have hfits : Fits t := h.invariant (fun _ _ _ => step_fits) (fits_initial _ _ _)
  constructor
  · intro hpresented
    obtain ⟨k, hk⟩ := Option.ne_none_iff_exists'.mp fun hnone => hpresented (hfits.presented hnone)
    exact ⟨k, hfits.top k hk, hk⟩
  · intro uniqueId flight hflight halive
    exact hfits.alive _ (hfits.flights uniqueId flight hflight) halive

theorem success_alert_is_over_its_screen :
    ∃ t, Run step (initial Upload.filledScreens [] (some alice))
        [.showUpload 0, .submitTapped "u", .putDataDone "u" .stored,
          .addDocumentDone "u" none "B"] t ∧
      t.presented ≠ none ∧ ∃ k ∈ t.screens, t.top = some k := by
  obtain ⟨t, hrun, hpresented⟩ : ∃ t, Run step (initial Upload.filledScreens [] (some alice))
      [.showUpload 0, .submitTapped "u", .putDataDone "u" .stored,
        .addDocumentDone "u" none "B"] t ∧ t.presented ≠ none :=
    ⟨_, rfl, Option.some_ne_none _⟩
  exact ⟨t, hrun, hpresented, (only_the_top_screen_presents hrun).1 hpresented⟩

-- ---------------------------------------------------------------------------
-- Reloads
-- ---------------------------------------------------------------------------

theorem unannounced_eq_nil_iff (s : State) (e : Event) : unannounced s e = [] ↔ Announced s e := by
  unfold unannounced Announced
  split
  · split
    · simp
    · simp
  · simp

theorem reloads_eq {s s' : State} {e : Event} (h : step s e = some s')
    (he : ∀ ce, e ≠ .catalogue ce) :
    reloads s e = List.replicate
      (s'.catalogue.issued.length - s.catalogue.issued.length) (s.success.getD "") := by
  cases e with
  | catalogue ce => exact absurd rfl (he ce)
  | _ => simp only [reloads, loadsIssued, h, Option.elim_some]

/-- A step that leaves the loads in flight as they are has issued none. -/
theorem reloads_eq_nil {s s' : State} {e : Event} (h : step s e = some s')
    (hsame : s'.catalogue.issued = s.catalogue.issued) : reloads s e = [] := by
  by_cases he : ∃ ce, e = .catalogue ce
  · obtain ⟨ce, rfl⟩ := he
    rfl
  · rw [reloads_eq h fun ce heq => he ⟨ce, heq⟩, hsame, Nat.sub_self, List.replicate_zero]

/-- Acknowledging a success issues one load. -/
theorem reloads_okTapped {s s' : State} {documentID : String} (h : step s .okTapped = some s')
    (hsome : s.success = some documentID)
    (hreload : Catalogue.Reload.step s.catalogue (.uploadCompleted true) = some s'.catalogue) :
    reloads s .okTapped = [documentID] := by
  have hissued := (Catalogue.Reload.step_uploadCompleted hreload).1
  rw [reloads_eq h (fun _ => nofun), hissued, hsome, List.length_append, Nat.add_sub_cancel_left]
  rfl

/-- A document added is reported or unannounced, and one reported is what the next reload is for. -/
theorem step_balance {s s' : State} {e : Event} (h : step s e = some s') (documentID : String) :
    s.success.toList.count documentID + (added s e).count documentID =
      (reloads s e ++ unannounced s e).count documentID + s'.success.toList.count documentID := by
  cases step_effect h with
  | quiet hcatalogue hsuccess hadded _ hunannounced =>
    rw [hsuccess, hadded, hunannounced, reloads_eq_nil h (by rw [hcatalogue])]
    simp
  | acknowledged hsome hnone hreload =>
    rw [reloads_okTapped h hsome hreload]
    simp [added, unannounced, hsome, hnone]
  | @added uniqueId k doc documentID' s' hflight hsuccess hgrow =>
    rw [reloads_eq_nil h (Catalogue.Reload.step_grow_issued hgrow)]
    simp only [added, unannounced, hflight, List.nil_append]
    rw [hsuccess]
    by_cases hannounced : (s.uploads.screens k).alive = true ∧ s.presented.isNone
    · have hnone : s.success = none := success_eq_none (by simpa using hannounced.2)
      rw [if_pos hannounced, if_pos hannounced, hnone]
      simp
    · rw [if_neg hannounced, if_neg hannounced]
      omega
  | reloaded hsuccess _ =>
    rw [hsuccess]
    simp [added, unannounced, reloads]

/-- **The catalogue is reloaded once for each book uploaded**: when no success is left to be
acknowledged, the loads issued besides the catalogue's own are one for each document added, exactly
if every upload ended with its screen still there and presenting nothing. -/
theorem every_upload_reloads_iff {screens : Upload.ScreenId → Upload.Screen}
    {documents : List QueryDocument} {currentUser : Option FIRUser} {es : List Event} {t : State}
    (h : Run step (initial screens documents currentUser) es t) (ht : t.success = none) :
    (collect step reloads (initial screens documents currentUser) es).Perm
        (collect step added (initial screens documents currentUser) es) ↔
      Always step Announced (initial screens documents currentUser) es := by
  refine h.perm_iff_always (I := fun _ => True) (fun s => s.success.toList.count) unannounced
    (fun _ _ _ _ _ => trivial) (fun s e s' _ hstep => step_balance hstep)
    (fun s e _ _ _ => unannounced_eq_nil_iff s e) trivial ?_ ?_
  · exact fun _ => rfl
  · intro documentID
    rw [ht]
    rfl

theorem acknowledged_upload_reloads :
    ∃ t, Run step (initial Upload.filledScreens [Catalogue.uploaded "A" "7"] (some alice))
        acknowledgedUpload t ∧
      collect step reloads
        (initial Upload.filledScreens [Catalogue.uploaded "A" "7"] (some alice))
        acknowledgedUpload = ["B"] ∧
      (collect step reloads
          (initial Upload.filledScreens [Catalogue.uploaded "A" "7"] (some alice))
          acknowledgedUpload).Perm
        (collect step added
          (initial Upload.filledScreens [Catalogue.uploaded "A" "7"] (some alice))
          acknowledgedUpload) := by
  obtain ⟨t, hrun, hsuccess, hreloads⟩ : ∃ t,
      Run step (initial Upload.filledScreens [Catalogue.uploaded "A" "7"] (some alice))
        acknowledgedUpload t ∧ t.success = none ∧
      collect step reloads
        (initial Upload.filledScreens [Catalogue.uploaded "A" "7"] (some alice))
        acknowledgedUpload = ["B"] := ⟨_, rfl, rfl, rfl⟩
  refine ⟨t, hrun, hreloads, (every_upload_reloads_iff hrun hsuccess).mpr ?_⟩
  exact ⟨trivial, trivial, trivial, trivial, ⟨rfl, rfl⟩, trivial, trivial, trivial, trivial⟩

/-- Alice leaves the screen while her book is being added. It is in the collection, and the
catalogue is not reloaded. -/
example : ∃ t, Run step (initial Upload.filledScreens [] (some alice))
      [.catalogue .viewDidLoad, .catalogue (.loadDone 0 0), .showUpload 0, .submitTapped "u",
        .putDataDone "u" .stored, .back, .addDocumentDone "u" none "B"] t ∧
    t.presented = none ∧ ids t.collection = ["B"] ∧ t.catalogue.issued = [] ∧
    t.catalogue.loadedIds = [] :=
  ⟨_, rfl, rfl, rfl, rfl, rfl⟩

-- ---------------------------------------------------------------------------
-- Loads
-- ---------------------------------------------------------------------------

/-- The catalogue is what overlapping loads leave it, and a success that is being reported is of a
document in the collection. -/
structure Sound (s : State) : Prop where
  consistent : Catalogue.Reload.Consistent s.catalogue
  issued : Catalogue.Reload.IssuedBefore s.catalogue
  success : ∀ documentID, s.success = some documentID →
    documentID ∈ s.catalogue.idsAt s.catalogue.now

theorem sound_initial (screens : Upload.ScreenId → Upload.Screen) (documents : List QueryDocument)
    (currentUser : Option FIRUser) : Sound (initial screens documents currentUser) where
  consistent := Catalogue.Reload.consistent_initial documents
  issued := Catalogue.Reload.issuedBefore_initial documents
  success := nofun

/-- A step of the catalogue keeps it sound, if the success reported after it is of a document then
in the collection or was reported before. -/
theorem Sound.reload {s s' : State} {e : Catalogue.Reload.Event} (hs : Sound s)
    (hstep : Catalogue.Reload.step s.catalogue e = some s'.catalogue)
    (hsuccess : ∀ documentID, s'.success = some documentID → s.success = some documentID ∨
      documentID ∈ s'.catalogue.idsAt s'.catalogue.now) : Sound s' := by
  have hconsistent := Catalogue.Reload.step_consistent hs.consistent hstep
  have hissued := Catalogue.Reload.step_issuedBefore hs.issued hstep
  refine ⟨hconsistent, hissued, fun documentID hid => ?_⟩
  rcases hsuccess documentID hid with hold | hnew
  · exact Catalogue.Reload.idsAt_now_subset hs.issued hissued hconsistent
      (Catalogue.Reload.step_history hstep) (hs.success documentID hold)
  · exact hnew

theorem step_sound {s s' : State} {e : Event} (hs : Sound s) (hstep : step s e = some s') :
    Sound s' := by
  cases step_effect hstep with
  | quiet hcatalogue hsuccess _ _ _ =>
    refine ⟨hcatalogue ▸ hs.consistent, hcatalogue ▸ hs.issued, ?_⟩
    rw [hsuccess, hcatalogue]
    exact hs.success
  | acknowledged _ hnone hreload =>
    refine hs.reload hreload fun documentID hid => ?_
    rw [hnone] at hid
    cases hid
  | @added uniqueId k doc documentID s' _ hsuccess hreload =>
    refine hs.reload hreload fun documentID' hid => ?_
    rw [hsuccess] at hid
    split at hid
    · -- the document just added
      injection hid with hid
      subst hid
      exact Or.inr (Catalogue.Reload.mem_idsAt_now_grow hreload (by simp [ids]))
    · exact Or.inl hid
  | reloaded hsuccess hreload =>
    refine hs.reload hreload fun documentID hid => ?_
    rw [hsuccess] at hid
    exact Or.inl hid

/-- A success is being reported, or its document is loaded or on its way. -/
def Underway (s : State) (documentID : String) : Prop :=
  s.success = some documentID ∨ Catalogue.Reload.Coming s.catalogue documentID

/-- What was announced stays underway as long as loads deliver. -/
theorem step_underway {s s' : State} {e : Event} {seen : List String} (hs : Sound s)
    (hseen : ∀ documentID ∈ seen, Underway s documentID) (hdelivers : Delivers s e)
    (hstep : step s e = some s') :
    ∀ documentID ∈ seen ++ announced s e, Underway s' documentID := by
  -- a step of the catalogue that delivers
  have hkeep : ∀ e, Catalogue.Reload.Delivers s.catalogue e →
      Catalogue.Reload.step s.catalogue e = some s'.catalogue → ∀ documentID,
      Catalogue.Reload.Coming s.catalogue documentID →
      Catalogue.Reload.Coming s'.catalogue documentID := by
    intro e hdelivers hreload documentID
    exact Catalogue.Reload.step_coming hs.consistent hs.issued hdelivers hreload
  cases step_effect hstep with
  | quiet hcatalogue hsuccess _ hannounced _ =>
    rw [hannounced, List.append_nil]
    unfold Underway
    rw [hsuccess, hcatalogue]
    exact hseen
  | @acknowledged documentID s' hsome _ hreload =>
    rw [show announced s .okTapped = [] from rfl, List.append_nil]
    intro documentID' hid
    rcases hseen documentID' hid with hreported | hcoming
    · -- the reload is issued with the document in the collection
      obtain ⟨hissued, hhistory⟩ := Catalogue.Reload.step_uploadCompleted hreload
      refine Or.inr (Or.inr ⟨s.catalogue.now, ?_, ?_⟩)
      · rw [hissued]
        exact List.mem_concat_self
      · rw [Catalogue.Reload.State.idsAt, hhistory]
        exact hs.success documentID' hreported
    · exact Or.inr (hkeep (.uploadCompleted true) trivial hreload documentID' hcoming)
  | @added uniqueId k doc documentID s' hflight hsuccess hreload =>
    have hcoming := hkeep (.grow _) trivial hreload
    simp only [announced, hflight]
    by_cases hannounced : (s.uploads.screens k).alive = true ∧ s.presented.isNone
    · rw [if_pos hannounced] at hsuccess ⊢
      -- nothing was being reported
      have hnone : s.success = none := success_eq_none (by simpa using hannounced.2)
      rw [List.forall_mem_append, List.forall_mem_singleton]
      refine ⟨fun documentID' hid => ?_, Or.inl hsuccess⟩
      rcases hseen documentID' hid with hreported | hold
      · rw [hnone] at hreported
        cases hreported
      · exact Or.inr (hcoming documentID' hold)
    · rw [if_neg hannounced] at hsuccess ⊢
      rw [List.append_nil]
      unfold Underway
      rw [hsuccess]
      exact fun documentID' hid => (hseen documentID' hid).imp_right (hcoming documentID')
  | reloaded hsuccess hreload =>
    rw [show announced s (.catalogue _) = [] from rfl, List.append_nil]
    unfold Underway
    rw [hsuccess]
    exact fun documentID hid =>
      (hseen documentID hid).imp_right (hkeep _ hdelivers hreload documentID)

/-- **A book whose upload was announced ends up in the catalogue**: if loads succeed and do not go
back, it is there once no success is left to be acknowledged and no load is in flight. -/
theorem announced_books_are_loaded {screens : Upload.ScreenId → Upload.Screen}
    {documents : List QueryDocument} {currentUser : Option FIRUser} {es : List Event} {t : State}
    (h : Run step (initial screens documents currentUser) es t)
    (hdelivers : Always step Delivers (initial screens documents currentUser) es)
    (hsuccess : t.success = none) (hissued : t.catalogue.issued = []) :
    ∀ documentID ∈ collect step announced (initial screens documents currentUser) es,
      documentID ∈ t.catalogue.loadedIds := by
  obtain ⟨-, hunderway⟩ := h.collect_invariant_of_always
    (I := fun seen s => Sound s ∧ ∀ documentID ∈ seen, Underway s documentID)
    (fun seen s e s' hI hG hstep => ⟨step_sound hI.1 hstep, step_underway hI.1 hI.2 hG hstep⟩)
    hdelivers ⟨sound_initial screens documents currentUser, List.forall_mem_nil _⟩
  intro documentID hid
  rcases hunderway documentID hid with hreported | hloaded | ⟨moment, hmoment, -⟩
  · rw [hsuccess] at hreported
    cases hreported
  · exact hloaded
  · rw [hissued] at hmoment
    cases hmoment

theorem acknowledged_upload_is_loaded :
    ∃ t, Run step (initial Upload.filledScreens [Catalogue.uploaded "A" "7"] (some alice))
        acknowledgedUpload t ∧ "B" ∈ t.catalogue.loadedIds := by
  obtain ⟨t, hrun, hsuccess, hissued, hannounced⟩ : ∃ t,
      Run step (initial Upload.filledScreens [Catalogue.uploaded "A" "7"] (some alice))
        acknowledgedUpload t ∧ t.success = none ∧ t.catalogue.issued = [] ∧
      collect step announced
        (initial Upload.filledScreens [Catalogue.uploaded "A" "7"] (some alice))
        acknowledgedUpload = ["B"] := ⟨_, rfl, rfl, rfl, rfl⟩
  refine ⟨t, hrun, announced_books_are_loaded hrun ?_ hsuccess hissued "B" ?_⟩
  · refine ⟨trivial, trivial, trivial, trivial, trivial, trivial, nofun, fun shown hshown => ?_,
      trivial⟩
    have hzero : 0 = shown := Option.some.inj hshown
    subst hzero
    exact Or.inl (Nat.zero_le 1)
  · rw [hannounced]
    exact List.mem_singleton_self "B"

end Bookshare.Session.Visits
