import Bookshare.Requests.System

/-!
# Failed reads

Runs of `btnRequestTapped` on one document, one after another, each with a read
that succeeds or fails and with its update applied. The callback builds the new
list from whatever the cast of the snapshot gives; where the cast gives nothing,
the user's entry becomes the whole list.

Main results:

* `requests_preserved_iff` — over any sequence of runs, no stored request is
  destroyed exactly if every read that succeeds finds a list that casts or no
  entries at all, and every read that fails finds no entry of anybody else;
* `run_of_runTap` — such a run is one of the whole system, in which nothing comes
  between the tap and the update;
* `failed_read_destroys_request` — a failed read replaces another user's entry.
-/

namespace Bookshare.Requests

open Dynamic Machine

/-- One run of `btnRequestTapped`: who is signed in when the callback runs, and the error of
the read if it failed. -/
structure TapRun where
  user : FIRUser
  error : Option String

/-- The snapshot the callback is given: of the current document, or nil. -/
def TapRun.snapshot (run : TapRun) (doc : Document) : Option DocumentSnapshot :=
  match run.error with
  | none => some { data := some doc }
  | some _ => none

/-- The run from the read to the applied update. -/
def runTap (doc : Document) (run : TapRun) : Option Document :=
  match getDocumentCallback (some run.user) (run.snapshot doc) run.error with
  | .error _ => none
  | .ok fields => some (doc.merge fields)

/-- `entry` was appended to the stored requests, and nothing else happened. -/
def Appended (entry doc doc' : Document) : Prop :=
  doc' "requests" = some (.array (storedRequests doc ++ [.map entry])) ∧
    ∀ k ≠ "requests", doc' k = doc k

/-- The stored requests are a prefix of what they become, and a failed read changes nothing or
only appends the user's entry. -/
def Preserves (doc : Document) (run : TapRun) : Prop :=
  ∀ doc', runTap doc run = some doc' → storedRequests doc <+: storedRequests doc' ∧
    (run.error ≠ none → doc' = doc ∨ Appended (userData run.user) doc doc')

/-- A read that succeeds finds entries that cast, or none; one that fails finds no entry but the
user's own. -/
def Harmless (doc : Document) (run : TapRun) : Prop :=
  match run.error with
  | none => (doc.maps? "requests").isSome ∨ storedRequests doc = []
  | some _ => storedRequests doc = [] ∨ storedRequests doc = [.map (userData run.user)]

-- ---------------------------------------------------------------------------
-- One run
-- ---------------------------------------------------------------------------

theorem runTap_eq (doc : Document) (run : TapRun) :
    runTap doc run =
      some (doc.merge (requestsField (newRequests (userData run.user) (run.snapshot doc)))) := rfl

/-- A list starts with the entries stored before exactly if there were none, or only that one. -/
private theorem prefix_singleton_iff {l : List (Value String)} {v : Value String} :
    l <+: [v] ↔ l = [] ∨ l = [v] := by
  constructor
  · intro h
    cases l with
    | nil => exact Or.inl rfl
    | cons w l =>
      obtain ⟨rfl, hl⟩ := List.cons_prefix_cons.mp h
      have hnil : l = [] := List.prefix_nil.mp hl
      rw [hnil]
      exact Or.inr rfl
  · rintro (rfl | rfl)
    · exact List.nil_prefix
    · exact List.prefix_refl _

/-- A document whose entries are a single dictionary casts. -/
private theorem cast_of_stored_singleton {doc entry : Document}
    (h : storedRequests doc = [.map entry]) : doc "requests" = some (.array [.map entry]) := by
  unfold storedRequests at h
  cases hdoc : doc "requests" with
  | none => simp [hdoc] at h
  | some v =>
    cases v <;> simp [hdoc, Value.items] at h
    rw [h]

theorem preserves_succeeded_iff (doc : Document) (user : FIRUser) :
    Preserves doc { user, error := none } ↔ Harmless doc { user, error := none } := by
  have hrun : ∀ doc', runTap doc { user, error := none } = some doc' →
      storedRequests doc' = (newRequests (userData user) (some ⟨some doc⟩)).map .map := by
    intro doc' hdoc'
    rw [runTap_eq] at hdoc'
    injection hdoc' with hdoc'
    subst hdoc'
    exact storedRequests_merge _ _
  have hpreserves : Preserves doc { user, error := none } ↔
      storedRequests doc <+: (newRequests (userData user) (some ⟨some doc⟩)).map .map := by
    constructor
    · intro h
      rw [← hrun _ (runTap_eq doc _)]
      exact (h _ (runTap_eq doc _)).1
    · intro h doc' hdoc'
      rw [hrun doc' hdoc']
      exact ⟨h, fun hne => absurd rfl hne⟩
  rw [hpreserves]
  rw [newRequests_eq, readRequests_data]
  cases hcast : doc.maps? "requests" with
  | some requests =>
    -- the list read is what is stored, and the entry goes to its end
    refine iff_of_true ?_ (Or.inl (by simp [hcast]))
    rw [storedRequests_of_cast hcast, Option.getD_some, List.map_append]
    exact List.prefix_append _ _
  | none =>
    -- the entry becomes the whole list
    rw [Option.getD_none, List.nil_append, List.map_singleton, prefix_singleton_iff]
    simp only [Harmless, hcast, Option.isSome_none, Bool.false_eq_true, false_or]
    -- a list with that one entry would have been cast
    refine or_iff_left fun hstored => ?_
    have hsome : doc.maps? "requests" = some [userData user] :=
      Dict.maps?_eq_some.mpr (cast_of_stored_singleton hstored)
    rw [hcast] at hsome
    cases hsome

theorem preserves_failed_iff (doc : Document) (user : FIRUser) (err : String) :
    Preserves doc { user, error := some err } ↔ Harmless doc { user, error := some err } := by
  -- nothing was read, and the entry becomes the whole list
  have hrun : runTap doc { user, error := some err } =
      some (doc.merge (requestsField [userData user])) := rfl
  have hstored : storedRequests (doc.merge (requestsField [userData user])) =
      [.map (userData user)] := storedRequests_merge _ _
  constructor
  · intro h
    have hprefix := (h _ hrun).1
    rw [hstored] at hprefix
    exact prefix_singleton_iff.mp hprefix
  · intro h doc' hdoc'
    have hwritten := Option.some.inj (hrun.symm.trans hdoc')
    subst hwritten
    rw [hstored]
    refine ⟨prefix_singleton_iff.mpr h, ?_⟩
    intro _
    rcases h with hnone | hown
    · -- there were no entries, and the user's was appended
      refine Or.inr ⟨?_, fun k hk => merge_requestsField_ne _ _ hk⟩
      rw [merge_requestsField, hnone]
      rfl
    · -- the entry written is the one that is there
      refine Or.inl (funext fun k => ?_)
      by_cases hk : k = "requests"
      · subst hk
        rw [merge_requestsField, cast_of_stored_singleton hown]
        rfl
      · exact merge_requestsField_ne _ _ hk

theorem preserves_iff (doc : Document) (run : TapRun) : Preserves doc run ↔ Harmless doc run := by
  obtain ⟨user, error⟩ := run
  cases error with
  | none => exact preserves_succeeded_iff doc user
  | some err => exact preserves_failed_iff doc user err

-- ---------------------------------------------------------------------------
-- A run within the system
-- ---------------------------------------------------------------------------

/-- How the read of the run ends, for a document that has been in `versions` states. -/
def TapRun.result (run : TapRun) (versions : Nat) : ReadResult :=
  match run.error with
  | none => .found (versions - 1)
  | some error => .failed error

/-- The callback is given the run's snapshot. -/
theorem TapRun.snapshot_eq (run : TapRun) {s : State} {path : String} {doc : Document}
    (hdoc : s.current? path = some doc) :
    s.snapshot path (run.result (s.documents path).length) = run.snapshot doc := by
  unfold TapRun.result TapRun.snapshot
  cases run.error with
  | some error => rfl
  | none =>
    rw [State.current?, List.getLast?_eq_getElem?] at hdoc
    simp only [State.snapshot, hdoc]

/-- A run of the whole system in which a client taps Request and nothing else happens until the
update is applied takes the document through `runTap`. -/
theorem run_of_runTap {s : State} {c : ClientId} {op : Nat} {details : DetailsScreen}
    {doc doc' : Document} {run : TapRun} (hdetails : (s.clients c).details = some details)
    (hvisible : details.controller.btnRequestIsHidden = false)
    (hanswering : (s.clients c).answering = some run.user) (hfree : s.operations op = none)
    (hdoc : s.current? (docId details.controller.book) = some doc)
    (hrun : runTap doc run = some doc') :
    ∃ s', Run step s [.request c op,
        .readDone op (run.result (s.documents (docId details.controller.book)).length),
        .updateDone op true] s' ∧
      s'.current? (docId details.controller.book) = some doc' := by
  obtain ⟨user, error⟩ := run
  obtain ⟨hrunning, huser⟩ := Option.ite_none_right_eq_some.mp hanswering
  rw [runTap_eq] at hrun
  injection hrun with hrun
  subst hrun
  -- the read, the update and the state it leaves, in turn
  let path := docId details.controller.book
  let result := TapRun.result { user, error } (s.documents path).length
  let snapshot := TapRun.snapshot { user, error } doc
  let fields := requestsField (newRequests (userData user) snapshot)
  let reading := s.setOperation op
    (some (.getDocument c path details.openedBy (s.documents path).length))
  let updating := reading.setOperation op (some (.updateData path fields (some user) snapshot))
  have hrequest : step s (.request c op) = some reading := by
    simp only [step, request, hdetails, hfree, hrunning, hvisible]
    rfl
  have hsnapshot : reading.snapshot path result = snapshot :=
    TapRun.snapshot_eq { user, error } hdoc
  have hread : step reading (.readDone op result) = some updating := by
    have hclients : reading.clients = s.clients := rfl
    have hop : reading.operations op =
        some (.getDocument c path details.openedBy (s.documents path).length) :=
      State.setOperation_same _ _ _
    simp only [step, hop, readDone, hclients, hrunning, huser, hsnapshot]
    rfl
  have hupdate : step updating (.updateDone op true) =
      some ((updating.setOperation op none).write path (doc.merge fields)) := by
    have hop : updating.operations op = some (.updateData path fields (some user) snapshot) :=
      State.setOperation_same _ _ _
    have hcurrent : updating.current? path = some doc := hdoc
    simp only [step, hop, updateDone, hcurrent]
  refine ⟨_, run_cons.mpr ⟨_, hrequest, run_cons.mpr ⟨_, hread, run_singleton.mpr hupdate⟩⟩, ?_⟩
  simp [State.current?, path, fields, snapshot]

-- ---------------------------------------------------------------------------
-- Any sequence of runs
-- ---------------------------------------------------------------------------

/-- **No stored request is destroyed**, by any run of the sequence, exactly if every run of it
is harmless where it starts. -/
theorem requests_preserved_iff (doc : Document) (runs : List TapRun) :
    Always runTap Preserves doc runs ↔ Always runTap Harmless doc runs :=
  always_congr preserves_iff doc runs

/-- Bob has requested Alice's book. Carol requests it, and her read fails: Bob's request is
gone. -/
theorem failed_read_destroys_request :
    ∃ doc' : Document,
      runTap ((submittedDoc hobbitForm alice).merge (requestsField [userData bob]))
        { user := carol, error := some "The client is offline." } = some doc' ∧
      storedRequests ((submittedDoc hobbitForm alice).merge (requestsField [userData bob])) =
        [.map (userData bob)] ∧
      storedRequests doc' = [.map (userData carol)] ∧
      ¬Always runTap Preserves
        ((submittedDoc hobbitForm alice).merge (requestsField [userData bob]))
        [{ user := carol, error := some "The client is offline." }] := by
  have hne : Value.map (userData bob) ≠ Value.map (userData carol) := fun heq =>
    absurd (uid_of_userData_eq (Value.map_injective heq)) (by decide)
  refine ⟨_, rfl, storedRequests_merge _ _, storedRequests_merge _ _, ?_⟩
  intro h
  have hprefix := (h.1 _ rfl).1
  rw [storedRequests_merge, storedRequests_merge] at hprefix
  exact hne (List.cons_prefix_cons.mp hprefix).1

end Bookshare.Requests
