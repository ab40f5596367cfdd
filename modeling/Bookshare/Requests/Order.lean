import Bookshare.Requests.Overlaps

/-!
# The order of the requests

An update writes a whole list, computed from a state the document was in at some
earlier moment or from nothing at all, so entries get lost. This module is about
what an update cannot do: whatever overlaps, fails or is read late, it invents
no entry, repeats none and puts none before an earlier one.

Main result: `stored_requests_in_order`.
-/

namespace Bookshare.Requests

open Dynamic Machine

/-- The entries that taps have posted on the document at `path`, out of those of all taps. -/
def postedAt (path : String) (posts : List (String × Value String)) : List (Value String) :=
  (posts.filter fun post => post.1 == path).map Prod.snd

/-- The entries the document at `path` starts with. -/
def startRequests (documents : String → Option Document) (path : String) : List (Value String) :=
  (documents path).elim [] storedRequests

/-- What is stored, or about to be, is some of the entries of `log`, in order. -/
structure InOrder (log : String → List (Value String)) (s : State) : Prop where
  documents : ∀ path, ∀ doc ∈ s.documents path, (storedRequests doc).Sublist (log path)
  updates : ∀ op path fields user snapshot,
    s.operations op = some (.updateData path fields user snapshot) →
      (storedRequests fields).Sublist (log path)

-- ---------------------------------------------------------------------------
-- The log
-- ---------------------------------------------------------------------------

@[simp] theorem postedAt_nil (path : String) : postedAt path [] = [] := rfl

theorem postedAt_append (path : String) (posts posts' : List (String × Value String)) :
    postedAt path (posts ++ posts') = postedAt path posts ++ postedAt path posts' := by
  simp [postedAt]

theorem postedAt_self (path : String) (entry : Value String) :
    postedAt path [(path, entry)] = [entry] := by
  simp [postedAt]

theorem InOrder.mono {log log' : String → List (Value String)} {s : State} (h : InOrder log s)
    (hlog : ∀ path, (log path).Sublist (log' path)) : InOrder log' s where
  documents := fun path doc hdoc => (h.documents path doc hdoc).trans (hlog path)
  updates := fun op path fields user snapshot hop =>
    (h.updates op path fields user snapshot hop).trans (hlog path)

theorem storedRequests_of_none {doc : Document} (h : doc "requests" = none) :
    storedRequests doc = [] := by
  rw [storedRequests, h]
  rfl

@[simp] theorem storedRequests_requestsField (requests : List Document) :
    storedRequests (requestsField requests) = requests.map .map := by
  simp [storedRequests]

/-- The callback appends its entry to some of the log, whatever the read has given it. -/
theorem newRequests_sublist {log : List (Value String)} {snapshot : Option DocumentSnapshot}
    (h : ∀ data, snapshot = some ⟨some data⟩ → (storedRequests data).Sublist log)
    (entry : Document) :
    ((newRequests entry snapshot).map Value.map).Sublist (log ++ [.map entry]) := by
  rw [newRequests_eq, List.map_append, List.map_singleton]
  refine List.Sublist.append ?_ (List.Sublist.refl _)
  cases hread : readRequests snapshot with
  | none => exact List.nil_sublist _
  | some requests =>
    obtain ⟨data, hdata, hcast⟩ := readRequests_eq_some.mp hread
    rw [Option.getD_some, ← storedRequests_of_cast hcast]
    exact h data hdata

-- ---------------------------------------------------------------------------
-- Steps
-- ---------------------------------------------------------------------------

/-- An update in flight after a step was in flight before, or carries the entry that the step
posts. -/
theorem Effect.updateData_posted {s s' : State} {e : Event} (h : Effect s e s') {op : Nat}
    {path : String} {fields : Document} {user : Option FIRUser}
    {snapshot : Option DocumentSnapshot}
    (hop : s'.operations op = some (.updateData path fields user snapshot)) :
    s.operations op = some (.updateData path fields user snapshot) ∨
    ∃ u result, processed s e = [(path, .map (userData u))] ∧ snapshot = s.snapshot path result ∧
      fields = requestsField (newRequests (userData u) snapshot) := by
  cases h with
  | uploads _ => exact Or.inl hop
  | added _ _ _ => exact Or.inl hop
  | client => exact Or.inl hop
  -- what is put in its place is a read, or nothing
  | requested _ _ _ => exact Or.inl ((State.setOperation_cases hop).resolve_right (by simp))
  | dropped _ _ => exact Or.inl ((State.setOperation_cases hop).resolve_right (by simp))
  | updateFailed _ => exact Or.inl ((State.setOperation_cases hop).resolve_right (by simp))
  | updateApplied _ _ => exact Or.inl ((State.setOperation_cases hop).resolve_right (by simp))
  | @answered op' result c path' openedBy issuedAt u hread huser =>
    rcases State.setOperation_cases hop with hold | ⟨rfl, hnew⟩
    · exact Or.inl hold
    · rw [Option.some.injEq, Operation.updateData.injEq] at hnew
      obtain ⟨rfl, rfl, rfl, rfl⟩ := hnew
      have hposted : processed s (.readDone op result) = [(path', .map (userData u))] := by
        simp only [processed, hread, huser, Option.toList_some, List.map_singleton]
      exact Or.inr ⟨u, result, hposted, rfl, rfl⟩

/-- A step keeps the order, the entry its callback posts being the last. -/
theorem step_inOrder {start : String → List (Value String)} {posts : List (String × Value String)}
    {s s' : State} {e : Event} (hs : Consistent s) (huploads : ∃ l, Upload.Tracks s.uploads l)
    (h : InOrder (fun path => start path ++ postedAt path posts) s) (hstep : step s e = some s') :
    InOrder (fun path => start path ++ postedAt path (posts ++ processed s e)) s' := by
  -- what was in order still is
  have hlog : InOrder (fun path => start path ++ postedAt path (posts ++ processed s e)) s := by
    refine h.mono ?_
    intro path
    rw [postedAt_append, ← List.append_assoc]
    exact List.sublist_append_left _ _
  have heffect := step_effect hstep
  constructor
  · intro path doc hdoc
    rcases heffect.document_cases hdoc with hold | ⟨-, -, hadded⟩ |
      ⟨op, fields, user, snapshot, old, hop, -, rfl⟩
    · exact hlog.documents path doc hold
    · -- a document is added without requests
      obtain ⟨l, hl⟩ := step_uploads huploads hstep
      rw [hl.documents] at hadded
      obtain ⟨tap, -, rfl⟩ := List.mem_map.mp hadded
      rw [storedRequests_of_none tap.document_requests]
      exact List.nil_sublist _
    · -- an update stores what it carries
      have hcarried := hlog.updates _ _ _ _ _ hop
      obtain ⟨u, -, rfl⟩ := (hs.sent _ _ _ _ _ hop).fields
      rw [storedRequests_merge, ← storedRequests_requestsField]
      exact hcarried
  · intro op path fields user snapshot hop
    rcases heffect.updateData_posted hop with hold | ⟨u, result, hposted, rfl, rfl⟩
    · exact hlog.updates op path fields user snapshot hold
    · -- the snapshot is a state the document has been in, and the entry is the last of the log
      have hsnapshot : ∀ data, s.snapshot path result = some ⟨some data⟩ →
          (storedRequests data).Sublist (start path ++ postedAt path posts) :=
        fun data hdata => h.documents path data (State.mem_of_snapshot hdata)
      show (storedRequests _).Sublist (start path ++ postedAt path (posts ++ processed s e))
      rw [storedRequests_requestsField, hposted, postedAt_append, postedAt_self,
        ← List.append_assoc]
      exact newRequests_sublist hsnapshot _

theorem inOrder_initial (screens : Upload.ScreenId → Upload.Screen)
    (documents : String → Option Document) (users : ClientId → Option FIRUser) :
    InOrder (fun path => startRequests documents path ++ postedAt path [])
      (initial screens documents users) where
  documents := by
    intro path doc hdoc
    simp only [initial, Option.mem_toList] at hdoc
    have hstart : startRequests documents path = storedRequests doc := by
      rw [startRequests, hdoc]
      rfl
    rw [← hstart]
    exact List.sublist_append_left _ _
  updates := nofun

-- ---------------------------------------------------------------------------
-- Runs
-- ---------------------------------------------------------------------------

/-- What is known of every reachable state when `posts` have been posted. -/
structure Ordered (start : String → List (Value String)) (posts : List (String × Value String))
    (s : State) : Prop where
  consistent : Consistent s
  uploads : ∃ l, Upload.Tracks s.uploads l
  inOrder : InOrder (fun path => start path ++ postedAt path posts) s

theorem ordered_initial (screens : Upload.ScreenId → Upload.Screen)
    (documents : String → Option Document) (users : ClientId → Option FIRUser) :
    Ordered (startRequests documents) [] (initial screens documents users) :=
  ⟨consistent_initial _ _ _, ⟨_, Upload.tracks_initial screens⟩, inOrder_initial _ _ _⟩

theorem step_ordered {start : String → List (Value String)} {posts : List (String × Value String)}
    {s s' : State} {e : Event} (h : Ordered start posts s) (hstep : step s e = some s') :
    Ordered start (posts ++ processed s e) s' :=
  ⟨step_consistent h.consistent hstep, step_uploads h.uploads hstep,
    step_inOrder h.consistent h.uploads h.inOrder hstep⟩

/-- **Requests keep their order.** In every run, whatever overlaps, fails or is read late, and in
every state a document has been in, the entries it stores are some of those it started with,
followed by some of those whose taps have been processed, in the order they were processed. -/
theorem stored_requests_in_order {screens : Upload.ScreenId → Upload.Screen}
    {documents : String → Option Document} {users : ClientId → Option FIRUser} {es : List Event}
    {t : State} (h : Run step (initial screens documents users) es t) (path : String) :
    ∀ doc ∈ t.documents path, (storedRequests doc).Sublist (startRequests documents path ++
      postedAt path (collect step processed (initial screens documents users) es)) := by
  have hend : Ordered (startRequests documents)
      ([] ++ collect step processed (initial screens documents users) es) t :=
    h.collect_invariant (fun _ _ _ _ hs hstep => step_ordered hs hstep) (ordered_initial _ _ _)
  exact hend.inOrder.documents path

/-- Two requests overlap: one is lost, and what is left at each moment is in order. -/
theorem overlapping_requests_in_order :
    ∃ t, Run step (initial Upload.filledScreens oneBook bobAndCarol) overlappingRequests t ∧
      (t.documents (documentPath "A")).map storedRequests =
        [[], [.map (userData bob)], [.map (userData carol)]] ∧
      ∀ doc ∈ t.documents (documentPath "A"), (storedRequests doc).Sublist
        [.map (userData bob), .map (userData carol)] := by
  have hrun : ∃ t, Run step (initial Upload.filledScreens oneBook bobAndCarol)
      overlappingRequests t ∧ (t.documents (documentPath "A")).map storedRequests =
        [[], [.map (userData bob)], [.map (userData carol)]] := ⟨_, rfl, rfl⟩
  obtain ⟨t, hrun, hstates⟩ := hrun
  exact ⟨t, hrun, hstates, stored_requests_in_order hrun (documentPath "A")⟩

end Bookshare.Requests
