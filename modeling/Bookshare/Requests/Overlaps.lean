import Bookshare.Library.Board
import Bookshare.Requests.Frame

/-!
# Overlapping requests

What the requests are meant to be is a board: a tap that is processed posts the
user's entry under the book. The callback rewrites the whole list instead, from
the snapshot it was given, so an entry written between the read and the update
is overwritten. As long as no update meets an entry its snapshot lacks, the
system follows the board.

Main results:

* `no_request_lost` — in a run whose updates are all fresh, once nothing is in
  flight, the entries of the start and of every processed tap are stored;
* `stored_requests_grow_iff` — no update of a run drops a stored entry exactly if
  they are all fresh;
* `overlapping_requests_lose_one` — two users request a book at once, and one
  request is lost.
-/

namespace Bookshare.Requests

open Dynamic Machine

/-- What is assumed of Firestore: a read succeeds with a state the document had since the read
was issued, and an update is applied. -/
def Assumed (s : State) : Event → Prop
  | .readDone op (.found version) =>
    match s.operations op with
    | some (.getDocument _ path _ issuedAt) =>
      issuedAt ≤ version + 1 ∧ version < (s.documents path).length
    | _ => True
  | .readDone _ _ => False
  | .updateDone _ applied => applied = true
  | _ => True

/-- An update is applied only to a document with no entry that the snapshot of its tap lacks, but
for the entry of the same user. -/
def Fresh (s : State) : Event → Prop
  | .updateDone op true =>
    match s.operations op with
    | some (.updateData path _ user snapshot) =>
      ∀ entry ∈ s.requests path, entry ∈ ((readRequests snapshot).getD []).map .map ∨
        ∃ u, user = some u ∧ entry = .map (userData u)
    | _ => True
  | _ => True

/-- The taps whose callback a step runs: the document and the user's entry. -/
def processed (s : State) : Event → List (String × Value String)
  | .readDone op _ =>
    match s.operations op with
    | some (.getDocument c path _ _) =>
      (s.clients c).answering.toList.map fun user => (path, .map (userData user))
    | _ => []
  | _ => []

-- ---------------------------------------------------------------------------
-- The stored requests
-- ---------------------------------------------------------------------------

theorem requests_write_same (s : State) (path : String) (doc : Document) :
    (s.write path doc).requests path = storedRequests doc := by
  simp [State.requests, State.current?]

theorem requests_write_ne (s : State) {path path' : String} (doc : Document) (h : path' ≠ path) :
    (s.write path doc).requests path' = s.requests path' := by
  simp [State.requests, State.current?, State.write_documents_ne s doc h]

theorem requests_of_no_document {s : State} {path : String} (h : s.documents path = []) :
    s.requests path = [] := by
  simp [State.requests, State.current?, h]

/-- A document that is added takes no entry away. -/
theorem requests_subset_added {s : State} {uploads : Upload.State} {path : String} {doc : Document}
    (hfresh : s.documents path = []) (path' : String) :
    s.requests path' ⊆ ({ s with uploads }.write path doc).requests path' := by
  by_cases hpath : path' = path
  · subst hpath
    rw [requests_of_no_document hfresh]
    exact List.nil_subset _
  · rw [requests_write_ne _ _ hpath]
    exact List.Subset.refl _

theorem fresh_updateDone {s : State} {op : Nat} {path : String} {fields : Document}
    {user : Option FIRUser} {snapshot : Option DocumentSnapshot}
    (hop : s.operations op = some (.updateData path fields user snapshot)) :
    Fresh s (.updateDone op true) ↔
      ∀ entry ∈ s.requests path, entry ∈ ((readRequests snapshot).getD []).map .map ∨
        ∃ u, user = some u ∧ entry = .map (userData u) := by
  simp only [Fresh, hop]

/-- An update stores what its snapshot gave and its user's entry. -/
theorem mem_requests_of_update {s : State} {path : String} {doc : Document} {user : FIRUser}
    {snapshot : Option DocumentSnapshot} {entry : Value String} :
    entry ∈ (s.write path (doc.merge (requestsField (newRequests (userData user) snapshot)))
        ).requests path ↔
      entry ∈ ((readRequests snapshot).getD []).map .map ∨ entry = .map (userData user) := by
  rw [requests_write_same, storedRequests_merge, newRequests_eq, List.map_append, List.mem_append,
    List.map_singleton, List.mem_singleton]

-- ---------------------------------------------------------------------------
-- The board
-- ---------------------------------------------------------------------------

/-- An update with the user's entry is in flight. -/
def InFlight (s : State) (path : String) (entry : Value String) : Prop :=
  ∃ op fields user snapshot,
    s.operations op = some (.updateData path fields (some user) snapshot) ∧
      entry = .map (userData user)

/-- What is on the board is stored, or about to be. -/
def Follows (s : State) (board : String → List (Value String)) : Prop :=
  ∀ path, ∀ entry ∈ board path, entry ∈ s.requests path ∨ InFlight s path entry

/-- An update in flight stays so while another operation changes. -/
theorem InFlight.setOperation {s : State} {path : String} {entry : Value String}
    (h : InFlight s path entry) {op : Nat} (operation : Option Operation)
    (hop : ∀ fields user snapshot,
      s.operations op ≠ some (.updateData path fields user snapshot)) :
    InFlight (s.setOperation op operation) path entry := by
  obtain ⟨op', fields, user, snapshot, hflight, heq⟩ := h
  have hne : op' ≠ op := by
    rintro rfl
    exact hop _ _ _ hflight
  have hflight' : (s.setOperation op operation).operations op' =
      some (.updateData path fields (some user) snapshot) := by
    rw [State.setOperation_ne s operation hne]
    exact hflight
  exact ⟨op', fields, user, snapshot, hflight', heq⟩

/-- An applied update keeps following the board if it is fresh. -/
theorem follows_update {s : State} {board : String → List (Value String)} (hs : Consistent s)
    (h : Follows s board) {op : Nat} {path : String} {fields : Document} {user : Option FIRUser}
    {snapshot : Option DocumentSnapshot} {doc : Document}
    (hop : s.operations op = some (.updateData path fields user snapshot))
    (hfresh : Fresh s (.updateDone op true)) :
    Follows ((s.setOperation op none).write path (doc.merge fields)) board := by
  obtain ⟨u, rfl, rfl⟩ := (hs.sent _ _ _ _ _ hop).fields
  intro path' entry hentry
  by_cases hpath : path' = path
  · -- the document updated
    subst hpath
    rw [mem_requests_of_update]
    rcases h path' entry hentry with hstored | ⟨op', fields, user, snapshot', hflight, rfl⟩
    · -- a stored entry was read, or is the user's own
      have hkept := (fresh_updateDone hop).mp hfresh entry hstored
      rcases hkept with hread | ⟨u', hu', rfl⟩
      · exact Or.inl (Or.inl hread)
      · have hsame : u = u' := Option.some.inj hu'
        rw [hsame]
        exact Or.inl (Or.inr rfl)
    · by_cases hop' : op' = op
      · -- the entry is the one this update stores
        subst hop'
        rw [hop, Option.some.injEq, Operation.updateData.injEq] at hflight
        have hsame : u = user := Option.some.inj hflight.2.2.1
        rw [hsame]
        exact Or.inl (Or.inr rfl)
      · -- it comes with another update
        have hflight' : (s.setOperation op none).operations op' =
            some (.updateData path' fields (some user) snapshot') := by
          rw [State.setOperation_ne s none hop']
          exact hflight
        exact Or.inr ⟨op', fields, user, snapshot', hflight', rfl⟩
  · -- another document: neither its entries nor its updates change
    rw [requests_write_ne _ _ hpath]
    have hother : ∀ fields user snapshot',
        s.operations op ≠ some (.updateData path' fields user snapshot') := by
      intro fields user snapshot' heq
      rw [hop, Option.some.injEq, Operation.updateData.injEq] at heq
      exact hpath heq.1.symm
    exact (h path' entry hentry).imp_right fun hflight => hflight.setOperation none hother

/-- A step is followed on the board by the posts of the taps it processes. -/
theorem step_follows {s s' : State} {e : Event} {board : String → List (Value String)}
    (hs : Consistent s) (h : Follows s board) (hassumed : Assumed s e) (hfresh : Fresh s e)
    (hstep : step s e = some s') :
    ∃ board', Run Board.post board (processed s e) board' ∧ Follows s' board' := by
  cases step_effect hstep with
  | uploads _ => exact ⟨board, run_nil.mpr rfl, h⟩
  | client => exact ⟨board, run_nil.mpr rfl, h⟩
  | @added e documentID uploads doc _ _ hfreshPath =>
    refine ⟨board, run_nil.mpr rfl, ?_⟩
    intro path entry hentry
    exact (h path entry hentry).imp_left fun hstored =>
      requests_subset_added hfreshPath path hstored
  | @requested c op details _ _ hop =>
    -- a read takes a place that was free
    refine ⟨board, run_nil.mpr rfl, ?_⟩
    intro path entry hentry
    exact (h path entry hentry).imp_right fun hflight => hflight.setOperation _ (by simp [hop])
  | @dropped op result c path openedBy issuedAt hop hnobody =>
    -- a read ends, and nobody posts
    have hprocessed : processed s (.readDone op result) = [] := by
      simp [processed, hop, hnobody]
    have hpost : Run Board.post board (processed s (.readDone op result)) board := by
      rw [hprocessed]
      exact run_nil.mpr rfl
    refine ⟨board, hpost, ?_⟩
    intro path entry hentry
    exact (h path entry hentry).imp_right fun hflight =>
      InFlight.setOperation hflight none (by simp [hop])
  | @answered op result c path openedBy issuedAt user hop huser =>
    -- the user posts, and the update that is to store the entry is in flight
    have hprocessed : processed s (.readDone op result) = [(path, .map (userData user))] := by
      simp [processed, hop, huser]
    obtain ⟨board', hpost⟩ :
        ∃ board', Board.post board (path, .map (userData user)) = some board' := ⟨_, rfl⟩
    refine ⟨board', ?_, ?_⟩
    · rw [hprocessed]
      exact run_singleton.mpr hpost
    · intro path' entry hentry
      rcases (Board.mem_of_post hpost).mp hentry with hold | hnew
      · exact (h path' entry hold).imp_right fun hflight => hflight.setOperation _ (by simp [hop])
      · obtain ⟨rfl, rfl⟩ := Prod.mk.inj hnew
        exact Or.inr ⟨op, _, user, _, State.setOperation_same _ _ _, rfl⟩
  | updateFailed hop => cases hassumed
  | @updateApplied op path fields user snapshot doc hop hdoc =>
    exact ⟨board, run_nil.mpr rfl, follows_update hs h hop hfresh⟩

-- ---------------------------------------------------------------------------
-- Runs
-- ---------------------------------------------------------------------------

/-- **No lost request.** In a run that meets the assumptions on Firestore and whose updates are
all fresh, once nothing is in flight, each document's requests contain every entry it had at the
start and the entry of every user whose tap on it was processed. -/
theorem no_request_lost {screens : Upload.ScreenId → Upload.Screen}
    {documents : String → Option Document} {users : ClientId → Option FIRUser}
    {es : List Event} {t : State} (h : Run step (initial screens documents users) es t)
    (hassumed : Always step Assumed (initial screens documents users) es)
    (hfresh : Always step Fresh (initial screens documents users) es) (hquiet : t.Quiescent) :
    (∀ path, (initial screens documents users).requests path ⊆ t.requests path) ∧
    ∀ path entry, (path, entry) ∈ collect step processed (initial screens documents users) es →
      entry ∈ t.requests path := by
  have hsim : ∀ s e s' board, Consistent s ∧ Follows s board → Assumed s e ∧ Fresh s e →
      step s e = some s' → ∃ board', Run Board.post board (processed s e) board' ∧
        (Consistent s' ∧ Follows s' board') := by
    rintro s e s' board ⟨hs, hfollows⟩ ⟨hassumed, hfresh⟩ hstep
    obtain ⟨board', hrun, hfollows'⟩ := step_follows hs hfollows hassumed hfresh hstep
    exact ⟨board', hrun, step_consistent hs hstep, hfollows'⟩
  obtain ⟨board, hrun, -, hfollows⟩ := h.simulate hsim (always_and.mpr ⟨hassumed, hfresh⟩)
    ⟨consistent_initial _ _ _, fun _ _ hentry => Or.inl hentry⟩
  -- nothing is in flight any more, so what is on the board is stored
  have hstored : ∀ path, ∀ entry ∈ board path, entry ∈ t.requests path := by
    intro path entry hentry
    refine (hfollows path entry hentry).resolve_right ?_
    rintro ⟨op, fields, user, snapshot, hop, -⟩
    rw [hquiet op] at hop
    cases hop
  constructor
  · -- the board held it at the start
    intro path entry hentry
    have hboard : entry ∈ board path := (Board.mem_of_run hrun).mpr (Or.inl hentry)
    exact hstored path entry hboard
  · -- it was posted
    intro path entry hentry
    have hboard : entry ∈ board path := (Board.mem_of_run hrun).mpr (Or.inr hentry)
    exact hstored path entry hboard

/-- A step drops a stored entry exactly if it is an update that is not fresh. -/
theorem step_requests_subset_iff {s s' : State} {e : Event} (hs : Consistent s)
    (hstep : step s e = some s') :
    (∀ path, s.requests path ⊆ s'.requests path) ↔ Fresh s e := by
  cases step_effect hstep with
  | @added e documentID uploads doc _ _ hfreshPath =>
    exact iff_of_true (requests_subset_added hfreshPath) trivial
  | @updateApplied op path fields user snapshot doc hop hdoc =>
    obtain ⟨u, rfl, rfl⟩ := (hs.sent _ _ _ _ _ hop).fields
    rw [fresh_updateDone hop]
    constructor
    · intro hsub entry hentry
      have hkept := mem_requests_of_update.mp (hsub path hentry)
      exact hkept.imp_right fun heq => ⟨u, rfl, heq⟩
    · intro hfresh path' entry hentry
      by_cases hpath : path' = path
      · subst hpath
        refine mem_requests_of_update.mpr ?_
        rcases hfresh entry hentry with hread | ⟨u', hu', rfl⟩
        · exact Or.inl hread
        · have hsame : u = u' := Option.some.inj hu'
          rw [hsame]
          exact Or.inr rfl
      · rw [requests_write_ne _ _ hpath]
        exact hentry
  | _ => exact iff_of_true (fun _ => List.Subset.refl _) trivial

/-- No stored entry is ever dropped along a run exactly if its updates are all fresh. -/
theorem stored_requests_grow_iff {screens : Upload.ScreenId → Upload.Screen}
    {documents : String → Option Document} {users : ClientId → Option FIRUser}
    {es : List Event} {t : State} (h : Run step (initial screens documents users) es t) :
    Grows step (fun s s' => ∀ path, s.requests path ⊆ s'.requests path)
        (initial screens documents users) es ↔
      Always step Fresh (initial screens documents users) es :=
  grows_iff_always (fun _ _ => List.Subset.refl _)
    (fun _ _ _ hst htu path => List.Subset.trans (hst path) (htu path))
    (fun _ _ _ hs hstep => step_consistent hs hstep)
    (fun _ _ _ hs hstep => step_requests_subset_iff hs hstep) h (consistent_initial _ _ _)

/-- Bob and Carol, each at the details of Alice's book. -/
def bobAndCarol (c : ClientId) : Option FIRUser := if c = 0 then some bob else some carol

def bothAtTheBook : List Event :=
  [.client 0 (.load (.ok [("A", 0)])), .client 0 (.openDetails 0),
    .client 1 (.load (.ok [("A", 0)])), .client 1 (.openDetails 0)]

/-- Bob's request is stored before Carol taps. -/
def requestsInTurn : List Event :=
  bothAtTheBook ++ [.request 0 0, .readDone 0 (.found 0), .updateDone 0 true,
    .request 1 1, .readDone 1 (.found 1), .updateDone 1 true]

theorem requests_in_turn_are_kept :
    ∃ t, Run step (initial Upload.filledScreens oneBook bobAndCarol) requestsInTurn t ∧
      (∀ path, (initial Upload.filledScreens oneBook bobAndCarol).requests path ⊆ t.requests path) ∧
      ∀ path entry, (path, entry) ∈ collect step processed
          (initial Upload.filledScreens oneBook bobAndCarol) requestsInTurn →
        entry ∈ t.requests path := by
  have hrun : ∃ t, Run step (initial Upload.filledScreens oneBook bobAndCarol) requestsInTurn t ∧
      t.Quiescent := ⟨_, rfl, fun | 0 => rfl | 1 => rfl | _ + 2 => rfl⟩
  obtain ⟨t, hrun, hquiet⟩ := hrun
  refine ⟨t, hrun, no_request_lost hrun ?_ ?_ hquiet⟩
  · refine ⟨trivial, trivial, trivial, trivial, trivial, ?_, rfl, trivial, ?_, rfl, trivial⟩
    · exact ⟨by decide, by decide⟩
    · exact ⟨by decide, by decide⟩
  · refine ⟨trivial, trivial, trivial, trivial, trivial, trivial, ?_, trivial, trivial, ?_, trivial⟩
    · exact List.forall_mem_nil _
    · exact List.forall_mem_singleton.mpr (Or.inl List.mem_cons_self)

/-- Both tap before either update is applied: Carol's update is computed from the document
without Bob's request. -/
def overlappingRequests : List Event :=
  bothAtTheBook ++ [.request 0 0, .request 1 1, .readDone 0 (.found 0), .readDone 1 (.found 0),
    .updateDone 0 true, .updateDone 1 true]

theorem overlapping_requests_lose_one :
    ∃ t, Run step (initial Upload.filledScreens oneBook bobAndCarol) overlappingRequests t ∧
      Always step Assumed (initial Upload.filledScreens oneBook bobAndCarol) overlappingRequests ∧
      t.Quiescent ∧
      (documentPath "A", .map (userData bob)) ∈ collect step processed
        (initial Upload.filledScreens oneBook bobAndCarol) overlappingRequests ∧
      t.requests (documentPath "A") = [.map (userData carol)] ∧
      .map (userData bob) ∉ t.requests (documentPath "A") := by
  have hrun : ∃ t, Run step (initial Upload.filledScreens oneBook bobAndCarol)
      overlappingRequests t ∧ t.Quiescent ∧
      t.requests (documentPath "A") = [.map (userData carol)] :=
    ⟨_, rfl, fun | 0 => rfl | 1 => rfl | _ + 2 => rfl, rfl⟩
  obtain ⟨t, hrun, hquiet, hrequests⟩ := hrun
  refine ⟨t, hrun, ?_, hquiet, List.mem_cons_self, hrequests, ?_⟩
  · refine ⟨trivial, trivial, trivial, trivial, trivial, trivial, ?_, ?_, rfl, rfl, trivial⟩
    · exact ⟨by decide, by decide⟩
    · exact ⟨by decide, by decide⟩
  · rw [hrequests, List.mem_singleton]
    exact fun heq => absurd (uid_of_userData_eq (Value.map_injective heq)) (by decide)

end Bookshare.Requests
