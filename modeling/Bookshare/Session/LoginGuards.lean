import Bookshare.Library.Machine
import Bookshare.Model.Details
import Bookshare.Model.Upload

/-!
# The login guards

The app from launch on: the root screen, the screen on top of it, the account
signed in, the sign-in results and reads not delivered yet. Login is checked
when the root screen is chosen, at launch and by `didSignInWith`; the guards of
`submitTapped` and of the `getDocument` callback take it for granted later. The
Auth SDK can end the session at any moment, and nothing observes that.

Main results:

* `no_trap_iff_session_kept` — a run from launch reaches neither trap exactly if,
  once the SDK has ended the session, no Submit that passes the form checks is
  tapped and no read is delivered;
* `ended_session_traps` — both traps are reached.
-/

namespace Bookshare.Session

open Dynamic Machine

/-- The screen on top of the catalogue's navigation controller. -/
inductive Screen where
  | catalogue
  | details (controller : BookDetailsViewController)
  | upload (form : Form)

/-- The root view controller: `MainNavController` with the login screen, or
`LoginNavController`. -/
inductive Root where
  | mainNav
  | loginNav (top : Screen)

structure State where
  currentUser : Option FIRUser
  root : Root
  /-- The calls of `didSignInWith` to come, by their error. -/
  signIns : List (Option String)
  /-- The number of `getDocument` calls in flight. -/
  reads : Nat
  trapped : Option Trap
  /-- The SDK has ended the session, and nobody has signed in since. -/
  ended : Bool

inductive Event where
  /-- The sign-in that `loginTapped` has presented ends. -/
  | signInDone (result : Except String FIRUser)
  | didSignInWith
  | sessionEnded
  | showBookDetails (book : Book)
  | showUpload
  | back
  | edit (form : Form)
  | submitTapped (uniqueId : String)
  | btnRequestTapped
  | getDocumentDone (snapshot : Option DocumentSnapshot) (error : Option String)

/-- `application(_:didFinishLaunchingWithOptions:)` -/
def launch (currentUser : Option FIRUser) : State where
  currentUser := currentUser
  root := if currentUser.isSome then .loginNav .catalogue else .mainNav
  signIns := []
  reads := 0
  trapped := none
  ended := false

/-- `authUI(_:didSignInWith:error:)` -/
def didSignInWith (root : Root) (error : Option String) : Root :=
  if error.isNone then .loginNav .catalogue else root

/-- The trap a tap on Submit ends in, if it does. -/
def trapOf : Submission → Option Trap
  | .trap message => some message
  | _ => none

def blankForm : Form where
  txtTitle := none
  txtSubject := none
  txtGrades := none
  txtAuthor := none
  txtCondition := none
  image := none

/-- A step of a process that has not trapped. -/
def running (s : State) : Event → Option State
  | .signInDone result =>
    -- signing in is only offered on the login screen
    match s.root, result with
    | .mainNav, .ok user =>
      some { s with currentUser := some user, signIns := s.signIns ++ [none], ended := false }
    | .mainNav, .error error => some { s with signIns := s.signIns ++ [some error] }
    | .loginNav _, _ => none
  | .didSignInWith =>
    match s.signIns with
    | error :: signIns => some { s with root := didSignInWith s.root error, signIns }
    | [] => none
  | .sessionEnded => some { s with currentUser := none, ended := true }
  | .showBookDetails book =>
    match s.root with
    | .loginNav .catalogue =>
      let controller := BookDetailsViewController.viewDidLoad s.currentUser book
      some { s with root := .loginNav (.details controller) }
    | _ => none
  | .showUpload =>
    match s.root with
    | .loginNav .catalogue => some { s with root := .loginNav (.upload blankForm) }
    | _ => none
  | .back =>
    match s.root with
    | .loginNav _ => some { s with root := .loginNav .catalogue }
    | .mainNav => none
  | .edit form =>
    match s.root with
    | .loginNav (.upload _) => some { s with root := .loginNav (.upload form) }
    | _ => none
  | .submitTapped uniqueId =>
    match s.root with
    | .loginNav (.upload form) =>
      -- the callbacks of the upload have no guard either
      some { s with trapped := trapOf (submitTapped form s.currentUser uniqueId) }
    | _ => none
  | .btnRequestTapped =>
    match s.root with
    | .loginNav (.details controller) =>
      if controller.btnRequestIsHidden then none else some { s with reads := s.reads + 1 }
    | _ => none
  | .getDocumentDone snapshot error =>
    match s.reads, getDocumentCallback s.currentUser snapshot error with
    -- the update that follows has no guard any more
    | reads + 1, .ok _ => some { s with reads }
    | reads + 1, .error trap => some { s with reads, trapped := some trap }
    | 0, _ => none

/-- A trap takes the process down. -/
def step (s : State) (e : Event) : Option State :=
  if s.trapped.isNone then running s e else none

/-- After the SDK has ended the session, no Submit passes the form checks and no read is
delivered. -/
def SessionKept (s : State) : Event → Prop
  | .submitTapped _ =>
    match s.root with
    | .loginNav (.upload form) => formError form = none → s.ended = false
    | _ => True
  | .getDocumentDone _ _ => s.ended = false
  | _ => True

/-- Somebody has signed in, and is still signed in unless the SDK has ended the session; or the
app is at the login screen and nobody has got past it yet. -/
def Consistent (s : State) : Prop :=
  (s.currentUser = none ↔ s.ended = true) ∨
    s.root = .mainNav ∧ s.reads = 0 ∧ none ∉ s.signIns

-- ---------------------------------------------------------------------------
-- What a step can do
-- ---------------------------------------------------------------------------

theorem consistent_launch (currentUser : Option FIRUser) : Consistent (launch currentUser) := by
  cases currentUser with
  | none => exact Or.inr ⟨rfl, rfl, List.not_mem_nil⟩
  | some user => exact Or.inl (by simp [launch])

/-- Past the login screen, being signed out means that the SDK has ended the session. -/
theorem Consistent.signedOut_iff {s : State} (h : Consistent s)
    (hpast : s.root ≠ .mainNav ∨ s.reads ≠ 0 ∨ none ∈ s.signIns) :
    s.currentUser = none ↔ s.ended = true := by
  rcases h with hsigned | ⟨hroot, hreads, hsignIns⟩
  · exact hsigned
  · rcases hpast with hpast | hpast | hpast
    · exact absurd hroot hpast
    · exact absurd hreads hpast
    · exact absurd hpast hsignIns

/-- What a step can do: trap at a guard, or leave the process running. -/
inductive Effect (s : State) : Event → State → Prop
  | signedIn {user} : s.root = .mainNav → Effect s (.signInDone (.ok user))
      { s with currentUser := some user, signIns := s.signIns ++ [none], ended := false }
  | signInFailed {error} : s.root = .mainNav → Effect s (.signInDone (.error error))
      { s with signIns := s.signIns ++ [some error] }
  | didSignInWith {error signIns} : s.signIns = error :: signIns →
      Effect s .didSignInWith { s with root := didSignInWith s.root error, signIns }
  | sessionEnded : Effect s .sessionEnded { s with currentUser := none, ended := true }
  /-- Moving among the screens past the login screen, editing included. -/
  | moved {e top top'} : s.root = .loginNav top → SessionKept s e →
      Effect s e { s with root := .loginNav top' }
  | submitted {uniqueId form} : s.root = .loginNav (.upload form) →
      Effect s (.submitTapped uniqueId)
        { s with trapped := trapOf (submitTapped form s.currentUser uniqueId) }
  | requested {top} : s.root = .loginNav top →
      Effect s .btnRequestTapped { s with reads := s.reads + 1 }
  | delivered {snapshot error reads} : s.reads = reads + 1 →
      Effect s (.getDocumentDone snapshot error)
        { s with reads, trapped := if s.currentUser.isNone then some notLoggedIn else s.trapped }

theorem step_effect {s s' : State} {e : Event} (h : step s e = some s') :
    s.trapped = none ∧ Effect s e s' := by
  obtain ⟨hnone, h⟩ := Option.ite_none_right_eq_some.mp h
  refine ⟨Option.isNone_iff_eq_none.mp hnone, ?_⟩
  cases e with
  | signInDone result =>
    cases hroot : s.root with
    | loginNav top => simp [running, hroot] at h
    | mainNav =>
      simp only [running, hroot] at h
      cases result with
      | ok user =>
        injection h with h
        subst h
        exact hroot ▸ Effect.signedIn hroot
      | error error =>
        injection h with h
        subst h
        exact hroot ▸ Effect.signInFailed hroot
  | didSignInWith =>
    simp only [running] at h
    split at h
    · next hsignIns =>
      injection h with h
      subst h
      exact Effect.didSignInWith hsignIns
    · cases h
  | sessionEnded =>
    injection h with h
    subst h
    exact Effect.sessionEnded
  | showBookDetails book =>
    simp only [running] at h
    split at h
    · next hroot =>
      injection h with h
      subst h
      exact Effect.moved hroot trivial
    · cases h
  | showUpload =>
    simp only [running] at h
    split at h
    · next hroot =>
      injection h with h
      subst h
      exact Effect.moved hroot trivial
    · cases h
  | back =>
    simp only [running] at h
    split at h
    · next hroot =>
      injection h with h
      subst h
      exact Effect.moved hroot trivial
    · cases h
  | edit form =>
    simp only [running] at h
    split at h
    · next hroot =>
      injection h with h
      subst h
      exact Effect.moved hroot trivial
    · cases h
  | submitTapped uniqueId =>
    simp only [running] at h
    split at h
    · next hroot =>
      injection h with h
      subst h
      exact Effect.submitted hroot
    · cases h
  | btnRequestTapped =>
    simp only [running] at h
    split at h
    · next hroot =>
      obtain ⟨-, h⟩ := Option.ite_none_left_eq_some.mp h
      injection h with h
      subst h
      exact Effect.requested hroot
    · cases h
  | getDocumentDone snapshot error =>
    simp only [running] at h
    split at h
    · -- somebody is signed in
      next reads fields hreads hok =>
      injection h with h
      subst h
      obtain ⟨user, huser, -⟩ := getDocumentCallback_eq_ok.mp hok
      have hdelivered : Effect s (.getDocumentDone snapshot error) { s with
          reads, trapped := if s.currentUser.isNone then some notLoggedIn else s.trapped } :=
        Effect.delivered hreads
      simpa [huser] using hdelivered
    · -- nobody is: the guard traps
      next reads trap hreads herror =>
      injection h with h
      subst h
      obtain ⟨huser, rfl⟩ := getDocumentCallback_eq_error.mp herror
      have hdelivered : Effect s (.getDocumentDone snapshot error) { s with
          reads, trapped := if s.currentUser.isNone then some notLoggedIn else s.trapped } :=
        Effect.delivered hreads
      simpa [huser] using hdelivered
    · cases h

theorem Effect.consistent {s s' : State} {e : Event} (heffect : Effect s e s')
    (h : Consistent s) : Consistent s' := by
  cases heffect with
  | signedIn _ => exact Or.inl (by simp)
  | signInFailed hroot =>
    refine h.imp_right fun ⟨_, hreads, hsignIns⟩ => ⟨hroot, hreads, ?_⟩
    simpa using hsignIns
  | @didSignInWith error signIns hsignIns =>
    cases error with
    | none =>
      -- a sign-in without an error to deliver: somebody has signed in
      have hmem : none ∈ s.signIns := by simp [hsignIns]
      exact Or.inl (h.signedOut_iff (Or.inr (Or.inr hmem)))
    | some error =>
      -- the login screen stays
      refine h.imp_right fun ⟨hroot, hreads, hnone⟩ => ⟨hroot, hreads, fun hmem => hnone ?_⟩
      rw [hsignIns]
      exact List.mem_cons_of_mem _ hmem
  | sessionEnded => exact Or.inl (by simp)
  -- the other steps are taken past the login screen
  | moved hroot _ =>
    have hpast : s.root ≠ .mainNav := by simp [hroot]
    exact Or.inl (h.signedOut_iff (Or.inl hpast))
  | submitted hroot =>
    have hpast : s.root ≠ .mainNav := by simp [hroot]
    exact Or.inl (h.signedOut_iff (Or.inl hpast))
  | requested hroot =>
    have hpast : s.root ≠ .mainNav := by simp [hroot]
    exact Or.inl (h.signedOut_iff (Or.inl hpast))
  | delivered hreads =>
    have hpast : s.reads ≠ 0 := by omega
    exact Or.inl (h.signedOut_iff (Or.inr (Or.inl hpast)))

theorem trapOf_submitTapped {form : Form} {currentUser : Option FIRUser} {uniqueId : String} :
    trapOf (submitTapped form currentUser uniqueId) = none ↔
      (formError form = none → currentUser ≠ none) := by
  constructor
  · intro h hform hnone
    have htrap : submitTapped form currentUser uniqueId = .trap notLoggedIn :=
      submitTapped_eq_trap.mpr ⟨hform, hnone, rfl⟩
    rw [htrap] at h
    cases h
  · intro h
    unfold trapOf
    split
    · next message htrap =>
      obtain ⟨hform, hnone, -⟩ := submitTapped_eq_trap.mp htrap
      exact absurd hnone (h hform)
    · rfl

/-- A step of a running process leaves it running exactly if it keeps the session. -/
theorem Effect.trapped_iff {s s' : State} {e : Event} (heffect : Effect s e s')
    (h : Consistent s) (hrunning : s.trapped = none) : s'.trapped = none ↔ SessionKept s e := by
  cases heffect with
  | @submitted uniqueId form hroot =>
    have hpast : s.root ≠ .mainNav := by simp [hroot]
    have hsigned := h.signedOut_iff (Or.inl hpast)
    simp only [SessionKept, hroot, trapOf_submitTapped, ne_eq, hsigned, Bool.not_eq_true]
  | delivered hreads =>
    have hpast : s.reads ≠ 0 := by omega
    have hsigned := h.signedOut_iff (Or.inr (Or.inl hpast))
    cases huser : s.currentUser with
    | none =>
      have hended : s.ended = true := hsigned.mp huser
      simp [SessionKept, hended]
    | some user =>
      have hended : s.ended = false := by
        rw [← Bool.not_eq_true, ← hsigned, huser]
        exact nofun
      simp [SessionKept, hended, hrunning]
  | moved _ hkept => exact iff_of_true hrunning hkept
  | _ => exact iff_of_true hrunning trivial

-- ---------------------------------------------------------------------------
-- The exact condition
-- ---------------------------------------------------------------------------

/-- **The login guards hold** throughout a run from launch exactly if, once the SDK has ended the
session and until somebody signs in, no Submit that passes the form checks is tapped and no read
is delivered. -/
theorem no_trap_iff_session_kept {currentUser : Option FIRUser} {es : List Event} {t : State}
    (h : Run step (launch currentUser) es t) :
    Throughout step (fun s => s.trapped = none) (launch currentUser) es ↔
      Always step SessionKept (launch currentUser) es :=
  throughout_iff_always (fun _ _ _ hs hstep => (step_effect hstep).2.consistent hs)
    (fun _ _ _ hs hrunning hstep => (step_effect hstep).2.trapped_iff hs hrunning) h
    (consistent_launch currentUser) rfl

/-- Bob's book, as the catalogue shows it. -/
def bobsBook : Book where
  id := "A"
  title := "The Hobbit"
  author := ["None Given"]
  image := none
  grade := 7
  subject := "English"
  condition := "Good"
  user := { name := "Bob", id := "bob", photo := none }

/-- Alice requests a book and uploads another; the SDK ends her session after that. -/
theorem request_and_upload_before_end :
    Throughout step (fun s => s.trapped = none) (launch (some alice))
      [.showBookDetails bobsBook, .btnRequestTapped, .getDocumentDone none none, .back, .showUpload,
        .edit hobbitForm, .submitTapped "U1", .sessionEnded] := by
  refine Iff.mpr (no_trap_iff_session_kept rfl) ?_
  exact ⟨trivial, trivial, rfl, trivial, trivial, trivial, fun _ => rfl, trivial, trivial⟩

/-- The SDK ends Alice's session while a read is in flight, or while she fills in the upload
form: both traps are reached. -/
theorem ended_session_traps :
    (∃ t, Run step (launch (some alice))
        [.showBookDetails bobsBook, .btnRequestTapped, .sessionEnded,
          .getDocumentDone (some { data := some (submittedDoc hobbitForm bob) }) none] t ∧
      t.trapped = some "User is not logged in") ∧
    ∃ t, Run step (launch (some alice))
        [.showUpload, .edit hobbitForm, .sessionEnded, .submitTapped "U1"] t ∧
      t.trapped = some "User is not logged in" :=
  ⟨⟨_, rfl, rfl⟩, _, rfl, rfl⟩

end Bookshare.Session
