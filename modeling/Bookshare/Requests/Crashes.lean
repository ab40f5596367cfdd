import Bookshare.Requests.Decoding

/-!
# What takes a client down

A client has five ways to die: the two decoders of a load, the index of a tapped
cell, and the login guards of Submit and of the callback of a read. From an empty
collection the decoders are out of the question, however old the snapshots are
that a load delivers, and the others are conditions on the client at the step.

Submit is tapped on an upload screen, so the upload screens have to belong to
clients here: `owner` says whose process a screen is in. The screens of a process
share its session and go down with it.

Main result: `clients_keep_running_iff`.
-/

namespace Bookshare.Requests

open Dynamic Machine TextBooksViewController

def AllRunning (s : State) : Prop := ∀ c, (s.clients c).running = true

/-- What no reachable collection lacks. -/
structure Loadable (s : State) : Prop where
  consistent : Consistent s
  uploads : ∃ l, Upload.Tracks s.uploads l
  decodable : ∀ path, ∀ doc ∈ s.documents path, Decodable doc

theorem loadable_initial (screens : Upload.ScreenId → Upload.Screen)
    (users : ClientId → Option FIRUser) : Loadable (initial screens (fun _ => none) users) :=
  ⟨consistent_initial _ _ _, ⟨_, Upload.tracks_initial screens⟩, fun _ _ hdoc => nomatch hdoc⟩

theorem step_loadable {s s' : State} {e : Event} (h : Loadable s) (hstep : step s e = some s') :
    Loadable s' :=
  ⟨step_consistent h.consistent hstep, step_uploads h.uploads hstep,
    step_decodable h.consistent h.uploads h.decodable hstep⟩

/-- Screens and clients have no part in it. -/
theorem Loadable.of_screens {s : State} (h : Loadable s)
    (screens : Upload.ScreenId → Upload.Screen) (clients : ClientId → Client) :
    Loadable { s with uploads := { s.uploads with screens }, clients } where
  consistent := {
    sent := fun _ _ _ _ _ hop => (h.consistent.sent _ _ _ _ _ hop).mono (List.Subset.refl _)
    sameFields := h.consistent.sameFields }
  uploads := by
    obtain ⟨l, hl⟩ := h.uploads
    exact ⟨l, hl.onlyScreens ⟨screens, rfl⟩⟩
  decodable := h.decodable

-- ---------------------------------------------------------------------------
-- Processes
-- ---------------------------------------------------------------------------

section

variable (owner : Upload.ScreenId → ClientId)

/-- The upload screens of a process find its account signed in, and are gone when it is down. -/
def State.sync (s : State) : State :=
  { s with uploads := { s.uploads with screens := fun k =>
    let screen := s.uploads.screens k
    let client := s.clients (owner k)
    { screen with
      currentUser := client.currentUser
      alive := screen.alive && client.running } } }

/-- A step of the system with the upload screens in the processes of their owners. -/
def processStep (s : State) : Event → Option State
  -- who is signed in changes for the whole process, by an event of the client
  | .upload (.session _ _) _ => none
  | .upload (.submit k uniqueId) documentID =>
    let screen := s.uploads.screens k
    (step s (.upload (.submit k uniqueId) documentID)).map fun s' =>
      match submitTapped screen.form screen.currentUser uniqueId with
      -- the login guard takes more down than the screen
      | .trap _ => (s'.setClient (owner k) (s'.clients (owner k)).crash).sync owner
      | _ => s'.sync owner
  | e => (step s e).map (State.sync owner)

/-- Nobody's upload screen is behind on who is signed in. -/
def Synced (s : State) : Prop :=
  ∀ k, (s.uploads.screens k).currentUser = (s.clients (owner k)).currentUser

/-- A tapped cell is still backed by a book, and somebody is signed in where a read arrives and
where Submit is tapped on a form that passes the checks. -/
def KeepsRunning (s : State) : Event → Prop
  | .client c (.openDetails item) => item < (s.clients c).catalogue.books.length
  | .readDone op _ =>
    match s.operations op with
    | some (.getDocument c _ _ _) => (s.clients c).currentUser ≠ none
    | _ => True
  | .upload (.submit k _) _ =>
    formError (s.uploads.screens k).form = none → (s.clients (owner k)).currentUser ≠ none
  | _ => True

end

-- ---------------------------------------------------------------------------
-- One client
-- ---------------------------------------------------------------------------

/-- No load of a loadable collection traps, whichever states of the documents it delivers. -/
theorem Loadable.load_ok {s : State} (h : Loadable s) (vc : TextBooksViewController)
    (result : Except String (List (String × Nat))) :
    ∃ vc', vc.getDocumentsCallback (result.map s.querySnapshot) = .ok vc' := by
  cases result with
  | error err => exact ⟨vc, rfl⟩
  | ok items =>
    have hbooks : ∀ document ∈ s.querySnapshot items, IsBook document.2 := by
      intro document hdocument
      exact (h.decodable _ _ (State.mem_querySnapshot hdocument)).book
    obtain ⟨books, hdecodes⟩ := exists_decodes_iff.mpr hbooks
    exact ⟨_, getDocumentsCallback_eq_ok.mpr ⟨books, hdecodes, rfl⟩⟩

theorem bookAt_eq_ok_iff {vc : TextBooksViewController} {item : Nat} :
    (∃ book, vc.bookAt item = .ok book) ↔ item < vc.books.length := by
  unfold bookAt
  cases hitem : vc.books[item]? with
  | none => simpa using List.getElem?_eq_none_iff.mp hitem
  | some book => simpa using (List.getElem?_eq_some_iff.mp hitem).1

section

variable {owner : Upload.ScreenId → ClientId}

/-- On a running client, only a tap on a cell that is no longer backed by a book traps. -/
theorem clientStep_running_iff {s : State} (h : Loadable s) {c : ClientId} {e : ClientEvent}
    (hrunning : (s.clients c).running = true) :
    (clientStep s (s.clients c) e).running = true ↔ KeepsRunning owner s (.client c e) := by
  cases e with
  | session user => exact iff_of_true hrunning trivial
  | gradeSelected grade => exact iff_of_true hrunning trivial
  | closeDetails => exact iff_of_true hrunning trivial
  | load result =>
    obtain ⟨vc, hload⟩ := h.load_ok (s.clients c).catalogue result
    simp only [clientStep, hload]
    exact iff_of_true hrunning trivial
  | openDetails item =>
    show _ ↔ item < (s.clients c).catalogue.books.length
    rw [← bookAt_eq_ok_iff]
    simp only [clientStep]
    cases (s.clients c).catalogue.bookAt item with
    | ok book => exact iff_of_true hrunning ⟨book, rfl⟩
    | error trap => simp [Client.crash]

-- ---------------------------------------------------------------------------
-- The system
-- ---------------------------------------------------------------------------

/-- Changing one client of a system whose clients all run. -/
theorem allRunning_setClient {s s' : State} {c : ClientId} {client : Client} (hs : AllRunning s)
    (hclients : s'.clients = Function.update s.clients c client) :
    AllRunning s' ↔ client.running = true := by
  unfold AllRunning
  rw [hclients]
  constructor
  · intro hall
    simpa using hall c
  · intro hclient c'
    by_cases heq : c' = c
    · rw [heq, Function.update_self]
      exact hclient
    · rw [Function.update_of_ne heq]
      exact hs c'

/-- The upload screens change no client. -/
theorem step_upload_clients {s s' : State} {e : Upload.Event} {documentID : String}
    (hstep : step s (.upload e documentID) = some s') : s'.clients = s.clients := by
  cases step_effect hstep <;> rfl

/-- What the upload screens do aside, the clients all run on exactly if the step keeps them
running. -/
theorem step_allRunning_iff {s s' : State} {e : Event} (h : Loadable s) (hs : AllRunning s)
    (hstep : step s e = some s') (he : ∀ ue documentID, e ≠ .upload ue documentID) :
    AllRunning s' ↔ KeepsRunning owner s e := by
  cases step_effect hstep with
  | uploads | added => exact absurd rfl (he _ _)
  | @client c ce =>
    rw [allRunning_setClient hs rfl]
    exact clientStep_running_iff h (hs c)
  | @dropped op result c path openedBy issuedAt hop hnobody =>
    -- a running client drops a read only for want of a user
    have hnone : (s.clients c).currentUser = none := by
      simpa [Client.answering, hs c] using hnobody
    have hclients : ((s.setOperation op none).setClient c (s.clients c).crash).clients =
        Function.update s.clients c (s.clients c).crash := rfl
    rw [allRunning_setClient hs hclients]
    simp [KeepsRunning, hop, hnone, Client.crash]
  | @answered op result c path openedBy issuedAt user hop huser =>
    have hsome := Client.currentUser_of_answering huser
    refine iff_of_true hs ?_
    simp [KeepsRunning, hop, hsome]
  | requested | updateFailed | updateApplied => exact iff_of_true hs trivial

/-- What a step of the processes can do: a step of the system, after which the login guard of
Submit may have taken down the owner of the screen. -/
inductive ProcessEffect (owner : Upload.ScreenId → ClientId) (s : State) : Event → State → Prop
  | clients {e s₁} : step s e = some s₁ → (∀ ue documentID, e ≠ .upload ue documentID) →
      ProcessEffect owner s e (s₁.sync owner)
  | uploads {ue documentID s₁} : step s (.upload ue documentID) = some s₁ →
      (∀ k uniqueId, ue = .submit k uniqueId → formError (s.uploads.screens k).form = none →
        (s.uploads.screens k).currentUser ≠ none) →
      ProcessEffect owner s (.upload ue documentID) (s₁.sync owner)
  | trapped {k uniqueId documentID s₁} :
      step s (.upload (.submit k uniqueId) documentID) = some s₁ →
      formError (s.uploads.screens k).form = none → (s.uploads.screens k).currentUser = none →
      ProcessEffect owner s (.upload (.submit k uniqueId) documentID)
        ((s₁.setClient (owner k) (s₁.clients (owner k)).crash).sync owner)

theorem processStep_effect {s s' : State} {e : Event} (h : processStep owner s e = some s') :
    ProcessEffect owner s e s' := by
  cases e with
  | upload ue documentID =>
    cases ue with
    | session k user => cases h
    | submit k uniqueId =>
      obtain ⟨s₁, hstep, rfl⟩ := Option.map_eq_some_iff.mp h
      split
      · next trap htrap =>
        obtain ⟨hform, hnobody, -⟩ := submitTapped_eq_trap.mp htrap
        exact .trapped hstep hform hnobody
      · next hnotrap =>
        refine .uploads hstep ?_
        rintro k' uniqueId' heq hform hnobody
        injection heq with hk _
        subst hk
        exact hnotrap notLoggedIn (submitTapped_eq_trap.mpr ⟨hform, hnobody, rfl⟩)
    | _ =>
      obtain ⟨s₁, hstep, rfl⟩ := Option.map_eq_some_iff.mp h
      refine .uploads hstep ?_
      intro k uniqueId heq
      cases heq
  | _ =>
    obtain ⟨s₁, hstep, rfl⟩ := Option.map_eq_some_iff.mp h
    refine .clients hstep ?_
    intro ue documentID heq
    cases heq

theorem synced_sync (s : State) : Synced owner (s.sync owner) := fun _ => rfl

theorem Loadable.sync {s : State} (h : Loadable s) : Loadable (s.sync owner) :=
  h.of_screens _ _

theorem processStep_loadable {s s' : State} {e : Event} (h : Loadable s)
    (hstep : processStep owner s e = some s') : Loadable s' ∧ Synced owner s' := by
  cases processStep_effect hstep with
  | clients hsystem _ => exact ⟨(step_loadable h hsystem).sync, synced_sync _⟩
  | uploads hsystem _ => exact ⟨(step_loadable h hsystem).sync, synced_sync _⟩
  | trapped hsystem _ _ => exact ⟨(step_loadable h hsystem).of_screens _ _, synced_sync _⟩

theorem processStep_allRunning_iff {s s' : State} {e : Event} (h : Loadable s)
    (hsynced : Synced owner s) (hs : AllRunning s) (hstep : processStep owner s e = some s') :
    AllRunning s' ↔ KeepsRunning owner s e := by
  cases processStep_effect hstep with
  | @clients e s₁ hsystem he =>
    show AllRunning s₁ ↔ _
    exact step_allRunning_iff h hs hsystem he
  | @uploads ue documentID s₁ hsystem hguard =>
    have hrunning : AllRunning s₁ := by
      unfold AllRunning
      rw [step_upload_clients hsystem]
      exact hs
    refine iff_of_true hrunning ?_
    cases ue with
    | submit k uniqueId =>
      intro hform
      rw [← hsynced k]
      exact hguard k uniqueId rfl hform
    | _ => trivial
  | @trapped k uniqueId documentID s₁ hsystem hform hnobody =>
    refine iff_of_false ?_ ?_
    · intro hall
      have hcrashed := hall (owner k)
      simp [State.sync, Client.crash] at hcrashed
    · intro hkeeps
      exact hkeeps hform (hsynced k ▸ hnobody)

end

-- ---------------------------------------------------------------------------
-- Runs
-- ---------------------------------------------------------------------------

/-- **What takes a client down.** From an empty collection, whoever owns which upload screen: no
load ever traps, and all clients keep running throughout a run exactly if every cell tapped is
still backed by a book, and somebody is signed in on a client whenever a read of it arrives or
Submit is tapped on one of its screens with a form that passes the checks. -/
theorem clients_keep_running_iff {owner : Upload.ScreenId → ClientId}
    {screens : Upload.ScreenId → Upload.Screen} {users : ClientId → Option FIRUser}
    {es : List Event} {t : State}
    (h : Run (processStep owner) ((initial screens (fun _ => none) users).sync owner) es t) :
    (∀ (vc : TextBooksViewController) (result : Except String (List (String × Nat))),
      ∃ vc', vc.getDocumentsCallback (result.map t.querySnapshot) = .ok vc') ∧
    (Throughout (processStep owner) AllRunning
        ((initial screens (fun _ => none) users).sync owner) es ↔
      Always (processStep owner) (KeepsRunning owner)
        ((initial screens (fun _ => none) users).sync owner) es) := by
  have hinv : ∀ s e s', Loadable s ∧ Synced owner s → processStep owner s e = some s' →
      Loadable s' ∧ Synced owner s' := fun s e s' hs hstep => processStep_loadable hs.1 hstep
  have hstart : Loadable ((initial screens (fun _ => none) users).sync owner) ∧
      Synced owner ((initial screens (fun _ => none) users).sync owner) :=
    ⟨(loadable_initial screens users).sync, synced_sync _⟩
  constructor
  · exact fun vc result => (h.invariant hinv hstart).1.load_ok vc result
  · exact throughout_iff_always hinv
      (fun _ _ _ hs hrunning hstep => processStep_allRunning_iff hs.1 hs.2 hrunning hstep) h hstart
      fun _ => rfl

/-- Bob and Alice, each with a client. -/
def bobAndAlice (c : ClientId) : Option FIRUser := if c = 0 then some bob else some alice

/-- Bob loads, opens and requests the book that Alice uploads on a screen of hers. -/
theorem upload_and_request_keeps_running :
    ∃ t, Run (processStep fun _ => 1)
        ((initial Upload.filledScreens (fun _ => none) bobAndAlice).sync fun _ => 1)
        uploadAndRequest t ∧
      Throughout (processStep fun _ => 1) AllRunning
        ((initial Upload.filledScreens (fun _ => none) bobAndAlice).sync fun _ => 1)
        uploadAndRequest := by
  obtain ⟨t, hrun⟩ : ∃ t, Run (processStep fun _ => 1)
      ((initial Upload.filledScreens (fun _ => none) bobAndAlice).sync fun _ => 1)
      uploadAndRequest t := ⟨_, rfl⟩
  refine ⟨t, hrun, (clients_keep_running_iff hrun).2.mpr ?_⟩
  refine ⟨fun _ => ?_, trivial, trivial, trivial, ?_, trivial, ?_, trivial, trivial⟩
  · exact Option.some_ne_none alice
  · exact Nat.zero_lt_one
  · exact Option.some_ne_none bob

/-- Alice's session ends before she taps Submit: her client goes down, and her screen with it. -/
example : ∃ t, Run (processStep fun _ => 1)
      ((initial Upload.filledScreens (fun _ => none) bobAndAlice).sync fun _ => 1)
      [.client 1 (.session none), .upload (.submit 0 "U1") "A"] t ∧
    (t.clients 0).running = true ∧ (t.clients 1).running = false ∧
    (t.uploads.screens 0).alive = false :=
  ⟨_, rfl, rfl, rfl, rfl⟩

end Bookshare.Requests
