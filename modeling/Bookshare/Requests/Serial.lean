import Bookshare.Requests.Order

/-!
# When every request is stored

`stored_requests_in_order` bounds what a document can store by what has been
posted on it. This module says when it stores all of it: exactly if the taps on
the book were processed one at a time, each from the document as it was and each
written before the next one was answered.

A run that misses this once never makes it good. Until then the document is
`InStep` with the posts; afterwards it is `Behind`, with no list long enough
stored or under way, and a later list is never more than one entry longer than
one it was computed from.

Main result: `requests_complete_iff`.
-/

namespace Bookshare.Requests

open Dynamic Machine

/-- The entries the callback finds in its snapshot. -/
def readEntries (snapshot : Option DocumentSnapshot) : List (Value String) :=
  ((readRequests snapshot).getD []).map .map

/-- No update of the document at `path` is in flight. -/
def NoUpdate (s : State) (path : String) : Prop :=
  ∀ op fields user snapshot, s.operations op ≠ some (.updateData path fields user snapshot)

/-- Taps on the book at `path` are processed one at a time: a callback that posts an entry finds
what is stored, with no update under way, and updates are applied. -/
def SerialAt (path : String) (s : State) : Event → Prop
  | .readDone op result =>
    match s.operations op with
    | some (.getDocument c path' _ _) => path' = path → (s.clients c).answering ≠ none →
        NoUpdate s path ∧ readEntries (s.snapshot path result) = s.requests path
    | _ => True
  | .updateDone op applied =>
    match s.operations op with
    | some (.updateData path' _ _ _) => path' = path → applied = true
    | _ => True
  | _ => True

-- ---------------------------------------------------------------------------
-- What a step can do to one document
-- ---------------------------------------------------------------------------

/-- What a step can do to the document at `path` and the updates of it. -/
inductive EffectAt (path : String) (s : State) (e : Event) (s' : State) : Prop
  | untouched : s'.documents path = s.documents path →
      (∀ op fields user snapshot,
        s'.operations op = some (.updateData path fields user snapshot) ↔
          s.operations op = some (.updateData path fields user snapshot)) →
      postedAt path (processed s e) = [] → SerialAt path s e → EffectAt path s e s'
  | added {doc} : s.documents path = [] → s'.documents path = [doc] →
      doc ∈ s'.uploads.documents → s'.operations = s.operations → processed s e = [] →
      SerialAt path s e → EffectAt path s e s'
  | posted {op result user} : s'.documents = s.documents →
      s'.operations = Function.update s.operations op (some (.updateData path
        (requestsField (newRequests (userData user) (s.snapshot path result))) (some user)
        (s.snapshot path result))) →
      processed s e = [(path, .map (userData user))] →
      (SerialAt path s e ↔
        NoUpdate s path ∧ readEntries (s.snapshot path result) = s.requests path) →
      EffectAt path s e s'
  | failed {op fields user snapshot} :
      s.operations op = some (.updateData path fields user snapshot) →
      s'.documents = s.documents → s'.operations = Function.update s.operations op none →
      processed s e = [] → ¬SerialAt path s e → EffectAt path s e s'
  | applied {op fields user snapshot} {doc : Document} :
      s.operations op = some (.updateData path fields user snapshot) →
      s'.documents path = s.documents path ++ [doc.merge fields] →
      s'.operations = Function.update s.operations op none →
      processed s e = [] → SerialAt path s e → EffectAt path s e s'

/-- Updates of other documents, and reads, are not updates of this one. -/
theorem updateData_update_iff {path : String} {operations : Nat → Option Operation} {op : Nat}
    {operation : Option Operation}
    (hold : ∀ fields user snapshot,
      operations op ≠ some (.updateData path fields user snapshot))
    (hnew : ∀ fields user snapshot, operation ≠ some (.updateData path fields user snapshot))
    (op' : Nat) (fields : Document) (user : Option FIRUser)
    (snapshot : Option DocumentSnapshot) :
    Function.update operations op operation op' = some (.updateData path fields user snapshot) ↔
      operations op' = some (.updateData path fields user snapshot) := by
  by_cases heq : op' = op
  · subst heq
    rw [Function.update_self]
    exact iff_of_false (hnew _ _ _) (hold _ _ _)
  · rw [Function.update_of_ne heq]

theorem Effect.at {s s' : State} {e : Event} (h : Effect s e s') (path : String) :
    EffectAt path s e s' := by
  cases h with
  | uploads _ => exact .untouched rfl (fun _ _ _ _ => Iff.rfl) rfl trivial
  | client => exact .untouched rfl (fun _ _ _ _ => Iff.rfl) rfl trivial
  | @added e documentID uploads doc huploads hdoc hfresh =>
    by_cases hpath : documentPath documentID = path
    · subst hpath
      refine .added hfresh ?_ hdoc rfl rfl trivial
      rw [State.write_documents_same, hfresh]
      rfl
    · refine .untouched ?_ (fun _ _ _ _ => Iff.rfl) rfl trivial
      exact State.write_documents_ne _ _ (Ne.symm hpath)
  | @requested c op details _ _ hop =>
    refine .untouched rfl (updateData_update_iff ?_ (by simp)) rfl trivial
    simp [hop]
  | @dropped op result c path' openedBy issuedAt hop hnobody =>
    refine .untouched rfl (updateData_update_iff (by simp [hop]) (by simp)) ?_ ?_
    · simp [processed, hop, hnobody, postedAt]
    · simp [SerialAt, hop, hnobody]
  | @answered op result c path' openedBy issuedAt user hop huser =>
    by_cases hpath : path' = path
    · subst hpath
      refine @EffectAt.posted _ _ _ _ op result user rfl rfl ?_ ?_
      · simp [processed, hop, huser]
      · simp [SerialAt, hop, huser]
    · refine .untouched rfl (updateData_update_iff (by simp [hop]) (by simp [hpath])) ?_ ?_
      · simp [processed, hop, huser, postedAt, hpath]
      · simp [SerialAt, hop, hpath]
  | @updateFailed op path' fields user snapshot hop =>
    by_cases hpath : path' = path
    · subst hpath
      refine .failed hop rfl rfl rfl ?_
      simp [SerialAt, hop]
    · refine .untouched rfl (updateData_update_iff (by simp [hop, hpath]) (by simp)) rfl ?_
      simp [SerialAt, hop, hpath]
  | @updateApplied op path' fields user snapshot doc hop hdoc =>
    by_cases hpath : path' = path
    · subst hpath
      refine .applied hop (State.write_documents_same _ _ _) rfl rfl ?_
      simp [SerialAt, hop]
    · refine .untouched (State.write_documents_ne _ _ (Ne.symm hpath))
        (updateData_update_iff (by simp [hop, hpath]) (by simp)) rfl ?_
      simp [SerialAt, hop]

-- ---------------------------------------------------------------------------
-- In step with the posts, and behind them
-- ---------------------------------------------------------------------------

/-- Everything posted is stored, and no update is under way. -/
structure Settled (path : String) (log : List (Value String)) (s : State) : Prop where
  stored : s.requests path = log
  quiet : NoUpdate s path

/-- Everything posted is in the one update under way, the last entry being new. -/
structure Pending (path : String) (log : List (Value String)) (s : State) (op : Nat) : Prop where
  carried : ∀ fields user snapshot,
    s.operations op = some (.updateData path fields user snapshot) → storedRequests fields = log
  only : ∀ op' fields user snapshot,
    s.operations op' = some (.updateData path fields user snapshot) → op' = op
  underWay : ¬NoUpdate s path
  short : ∀ doc ∈ s.documents path, (storedRequests doc).length < log.length
  nonempty : 0 < log.length

/-- An entry has been lost: no list that is stored or under way has them all. -/
structure Behind (path : String) (log : List (Value String)) (s : State) : Prop where
  documents : ∀ doc ∈ s.documents path, (storedRequests doc).length < log.length
  updates : ∀ op fields user snapshot,
    s.operations op = some (.updateData path fields user snapshot) →
      (storedRequests fields).length < log.length
  nonempty : 0 < log.length

def InStep (path : String) (log : List (Value String)) (s : State) : Prop :=
  Settled path log s ∨ ∃ op, Pending path log s op

theorem requests_congr {s s' : State} {path : String}
    (h : s'.documents path = s.documents path) : s'.requests path = s.requests path := by
  rw [State.requests, State.requests, State.current?, State.current?, h]

theorem storedRequests_newRequests (entry : Document) (snapshot : Option DocumentSnapshot) :
    storedRequests (requestsField (newRequests entry snapshot)) =
      readEntries snapshot ++ [.map entry] := by
  rw [storedRequests_requestsField, newRequests_eq, List.map_append, List.map_singleton,
    readEntries]

/-- A callback finds the entries of a state the document has been in, or none. -/
theorem readEntries_cases (s : State) (path : String) (result : ReadResult) :
    readEntries (s.snapshot path result) = [] ∨
      ∃ doc ∈ s.documents path, readEntries (s.snapshot path result) = storedRequests doc := by
  unfold readEntries
  cases hread : readRequests (s.snapshot path result) with
  | none => exact Or.inl rfl
  | some requests =>
    obtain ⟨data, hdata, hcast⟩ := readRequests_eq_some.mp hread
    have hmem : data ∈ s.documents path := State.mem_of_snapshot hdata
    exact Or.inr ⟨data, hmem, (storedRequests_of_cast hcast).symm⟩

section Steps

variable {path : String} {log : List (Value String)} {s s' : State} {e : Event}

/-- A callback finds some of the log, if the states of the document all hold some of it. -/
theorem readEntries_sublist (result : ReadResult)
    (hlog : ∀ doc ∈ s.documents path, (storedRequests doc).Sublist log) :
    (readEntries (s.snapshot path result)).Sublist log := by
  rcases readEntries_cases s path result with hnil | ⟨doc, hdoc, heq⟩
  · rw [hnil]
    exact List.nil_sublist _
  · rw [heq]
    exact hlog doc hdoc

/-- It finds less than the log, if they all hold less. -/
theorem readEntries_short (result : ReadResult)
    (hshort : ∀ doc ∈ s.documents path, (storedRequests doc).length < log.length)
    (hnonempty : 0 < log.length) : (readEntries (s.snapshot path result)).length < log.length := by
  rcases readEntries_cases s path result with hnil | ⟨doc, hdoc, heq⟩
  · rw [hnil]
    exact hnonempty
  · rw [heq]
    exact hshort doc hdoc

/-- The updates after a callback are those before it and its own. -/
theorem updateData_of_posted {op op' : Nat} {operation : Operation} {fields : Document}
    {user : Option FIRUser} {snapshot : Option DocumentSnapshot}
    (hops : s'.operations = Function.update s.operations op (some operation))
    (h : s'.operations op' = some (.updateData path fields user snapshot)) :
    (op' = op ∧ operation = .updateData path fields user snapshot) ∨
      s.operations op' = some (.updateData path fields user snapshot) := by
  rw [hops] at h
  by_cases heq : op' = op
  · rw [heq, Function.update_self, Option.some.injEq] at h
    exact Or.inl ⟨heq, h⟩
  · rw [Function.update_of_ne heq] at h
    exact Or.inr h

/-- The updates that are left when one has ended. -/
theorem updateData_of_ended {op op' : Nat} {fields : Document} {user : Option FIRUser}
    {snapshot : Option DocumentSnapshot}
    (hops : s'.operations = Function.update s.operations op none)
    (h : s'.operations op' = some (.updateData path fields user snapshot)) :
    op' ≠ op ∧ s.operations op' = some (.updateData path fields user snapshot) := by
  rw [hops] at h
  have hne : op' ≠ op := by
    rintro rfl
    rw [Function.update_self] at h
    cases h
  rw [Function.update_of_ne hne] at h
  exact ⟨hne, h⟩

/-- A callback that finds less than everything posted falls behind with its own entry. -/
theorem behind_of_posted {op : Nat} {user : FIRUser} {snapshot : Option DocumentSnapshot}
    (hdocuments : s'.documents = s.documents)
    (hops : s'.operations = Function.update s.operations op (some (.updateData path
      (requestsField (newRequests (userData user) snapshot)) (some user) snapshot)))
    (hstored : ∀ doc ∈ s.documents path, (storedRequests doc).length ≤ log.length)
    (hupdates : ∀ op fields user snapshot,
      s.operations op = some (.updateData path fields user snapshot) →
        (storedRequests fields).length ≤ log.length)
    (hread : (readEntries snapshot).length < log.length) :
    Behind path (log ++ [.map (userData user)]) s' := by
  have hlength : (log ++ [Value.map (userData user)]).length = log.length + 1 := by simp
  refine ⟨?_, ?_, by omega⟩
  · intro doc hdoc
    rw [hdocuments] at hdoc
    have := hstored doc hdoc
    omega
  · intro op' fields user' snapshot' hop'
    rcases updateData_of_posted hops hop' with ⟨-, hnew⟩ | hold
    · injection hnew with _ hfields
      rw [← hfields, storedRequests_newRequests, List.length_append, List.length_singleton]
      omega
    · have := hupdates op' fields user' snapshot' hold
      omega

variable (hnew : ∀ doc ∈ s'.uploads.documents, storedRequests doc = [])
include hnew

/-- From a settled state: a serial callback makes everything pending, another one falls behind. -/
theorem Settled.step (h : Settled path log s) (heffect : EffectAt path s e s')
    (hlog : ∀ doc ∈ s.documents path, (storedRequests doc).Sublist log) :
    (SerialAt path s e → InStep path (log ++ postedAt path (processed s e)) s') ∧
      (¬SerialAt path s e → Behind path (log ++ postedAt path (processed s e)) s') := by
  cases heffect with
  | untouched hdocuments hupdates hposted hserial =>
    rw [hposted, List.append_nil]
    refine ⟨fun _ => Or.inl ⟨?_, ?_⟩, fun hnot => absurd hserial hnot⟩
    · rw [requests_congr hdocuments]
      exact h.stored
    · intro op fields user snapshot hop
      exact h.quiet op fields user snapshot ((hupdates op fields user snapshot).mp hop)
  | @added doc hnone hone hdoc hops hposted hserial =>
    rw [hposted]
    refine ⟨fun _ => Or.inl ⟨?_, ?_⟩, fun hnot => absurd hserial hnot⟩
    · -- the document comes without requests, and there was none before
      have hempty : log = [] := h.stored.symm.trans (requests_of_no_document hnone)
      simp [State.requests, State.current?, hone, hnew doc hdoc, hempty, postedAt]
    · intro op fields user snapshot hop
      exact h.quiet op fields user snapshot (hops ▸ hop)
  | @posted op result user hdocuments hops hposted hserial =>
    rw [hposted, postedAt_self]
    constructor
    · intro hmet
      have hread : readEntries (s.snapshot path result) = log :=
        (hserial.mp hmet).2.trans h.stored
      refine Or.inr ⟨op, ?_, ?_, ?_, ?_, by simp⟩
      · intro fields user' snapshot hop
        rw [hops, Function.update_self, Option.some.injEq, Operation.updateData.injEq] at hop
        obtain ⟨-, rfl, -, -⟩ := hop
        rw [storedRequests_newRequests, hread]
      · intro op' fields user' snapshot hop'
        rcases updateData_of_posted hops hop' with ⟨heq, -⟩ | hold
        · exact heq
        · exact absurd hold (h.quiet _ _ _ _)
      · intro hquiet
        have hunderWay := congrFun hops op
        rw [Function.update_self] at hunderWay
        exact hquiet _ _ _ _ hunderWay
      · intro doc hdoc
        rw [hdocuments] at hdoc
        have hle := (hlog doc hdoc).length_le
        rw [List.length_append, List.length_singleton]
        omega
    · intro hnot
      have hread : (readEntries (s.snapshot path result)).length < log.length := by
        -- what was read is some of the log, and not all of it
        have hne : readEntries (s.snapshot path result) ≠ log := fun heq =>
          hnot (hserial.mpr ⟨h.quiet, heq.trans h.stored.symm⟩)
        have hsub : (readEntries (s.snapshot path result)).Sublist log :=
          readEntries_sublist result hlog
        exact Nat.lt_of_le_of_ne hsub.length_le fun hlen => hne (hsub.eq_of_length hlen)
      refine behind_of_posted hdocuments hops (fun doc hdoc => (hlog doc hdoc).length_le) ?_ hread
      intro op' fields user' snapshot hop'
      exact absurd hop' (h.quiet _ _ _ _)
  | failed hop _ _ _ _ => exact absurd hop (h.quiet _ _ _ _)
  | applied hop _ _ _ _ => exact absurd hop (h.quiet _ _ _ _)

variable (hmerge : ∀ op fields user snapshot (doc : Document),
  s.operations op = some (.updateData path fields user snapshot) →
    storedRequests (doc.merge fields) = storedRequests fields)
include hmerge

/-- From a pending state: the update is applied and everything is settled, or it fails, or a
callback comes in between and the document falls behind. -/
theorem Pending.step {op : Nat} (h : Pending path log s op) (heffect : EffectAt path s e s') :
    (SerialAt path s e → InStep path (log ++ postedAt path (processed s e)) s') ∧
      (¬SerialAt path s e → Behind path (log ++ postedAt path (processed s e)) s') := by
  cases heffect with
  | untouched hdocuments hupdates hposted hserial =>
    rw [hposted, List.append_nil]
    refine ⟨fun _ => Or.inr ⟨op, ?_, ?_, ?_, ?_, h.nonempty⟩, fun hnot => absurd hserial hnot⟩
    · intro fields user snapshot hop
      exact h.carried fields user snapshot ((hupdates _ _ _ _).mp hop)
    · intro op' fields user snapshot hop'
      exact h.only op' fields user snapshot ((hupdates _ _ _ _).mp hop')
    · intro hquiet
      refine h.underWay fun op' fields user snapshot hop' => ?_
      exact hquiet op' fields user snapshot ((hupdates _ _ _ _).mpr hop')
    · rw [hdocuments]
      exact h.short
  | @added doc _ hone hdoc hops hposted hserial =>
    rw [hposted, postedAt_nil, List.append_nil]
    refine ⟨fun _ => Or.inr ⟨op, ?_, ?_, ?_, ?_, h.nonempty⟩, fun hnot => absurd hserial hnot⟩
    · rw [hops]
      exact h.carried
    · rw [hops]
      exact h.only
    · unfold NoUpdate
      rw [hops]
      exact h.underWay
    · rw [hone]
      intro doc' hdoc'
      rw [List.mem_singleton.mp hdoc', hnew doc hdoc]
      exact h.nonempty
  | @posted op' result user hdocuments hops hposted hserial =>
    rw [hposted, postedAt_self]
    refine ⟨fun hmet => absurd (hserial.mp hmet).1 h.underWay, fun _ => ?_⟩
    refine behind_of_posted hdocuments hops (fun doc hdoc => (h.short doc hdoc).le) ?_ ?_
    · intro op₁ fields user' snapshot hop₁
      have heq : op₁ = op := h.only _ _ _ _ hop₁
      rw [heq] at hop₁
      exact (congrArg List.length (h.carried _ _ _ hop₁)).le
    · exact readEntries_short result h.short h.nonempty
  | @failed op' fields user snapshot hop hdocuments hops hposted hserial =>
    rw [hposted, postedAt_nil, List.append_nil]
    refine ⟨fun hmet => absurd hmet hserial, fun _ => ⟨?_, ?_, h.nonempty⟩⟩
    · rw [hdocuments]
      exact h.short
    · intro op₁ fields' user' snapshot' hop₁
      -- the update that has failed was the only one
      obtain ⟨hne, hold⟩ := updateData_of_ended hops hop₁
      exact absurd ((h.only _ _ _ _ hold).trans (h.only _ _ _ _ hop).symm) hne
  | @applied op' fields user snapshot doc hop hdocuments hops hposted hserial =>
    rw [hposted, postedAt_nil, List.append_nil]
    refine ⟨fun _ => Or.inl ⟨?_, ?_⟩, fun hnot => absurd hserial hnot⟩
    · have heq : op' = op := h.only _ _ _ _ hop
      rw [heq] at hop
      rw [State.requests, State.current?, hdocuments, List.getLast?_concat]
      exact (hmerge _ _ _ _ doc hop).trans (h.carried _ _ _ hop)
    · intro op₁ fields' user' snapshot' hop₁
      obtain ⟨hne, hold⟩ := updateData_of_ended hops hop₁
      exact hne ((h.only _ _ _ _ hold).trans (h.only _ _ _ _ hop).symm)

/-- A document that is behind stays behind. -/
theorem Behind.step (h : Behind path log s) (heffect : EffectAt path s e s') :
    Behind path (log ++ postedAt path (processed s e)) s' := by
  cases heffect with
  | untouched hdocuments hupdates hposted _ =>
    rw [hposted, List.append_nil]
    refine ⟨hdocuments ▸ h.documents, ?_, h.nonempty⟩
    intro op fields user snapshot hop
    exact h.updates op fields user snapshot ((hupdates _ _ _ _).mp hop)
  | @added doc _ hone hdoc hops hposted _ =>
    rw [hposted, postedAt_nil, List.append_nil]
    refine ⟨?_, hops ▸ h.updates, h.nonempty⟩
    rw [hone]
    intro doc' hdoc'
    rw [List.mem_singleton.mp hdoc', hnew doc hdoc]
    exact h.nonempty
  | @posted op result user hdocuments hops hposted _ =>
    rw [hposted, postedAt_self]
    refine behind_of_posted hdocuments hops (fun doc hdoc => (h.documents doc hdoc).le) ?_
      (readEntries_short result h.documents h.nonempty)
    exact fun op fields user snapshot hop => (h.updates op fields user snapshot hop).le
  | failed _ hdocuments hops hposted _ =>
    rw [hposted, postedAt_nil, List.append_nil]
    refine ⟨hdocuments ▸ h.documents, ?_, h.nonempty⟩
    intro op fields user snapshot hop
    exact h.updates op fields user snapshot (updateData_of_ended hops hop).2
  | @applied op' fields user snapshot doc hop hdocuments hops hposted _ =>
    rw [hposted, postedAt_nil, List.append_nil]
    refine ⟨?_, ?_, h.nonempty⟩
    · rw [hdocuments]
      intro doc' hdoc'
      rcases List.mem_append.mp hdoc' with hold | hlast
      · exact h.documents doc' hold
      · rw [List.mem_singleton.mp hlast, hmerge _ _ _ _ doc hop]
        exact h.updates _ _ _ _ hop
    · intro op₁ fields' user' snapshot' hop₁
      exact h.updates _ _ _ _ (updateData_of_ended hops hop₁).2

end Steps

-- ---------------------------------------------------------------------------
-- Runs
-- ---------------------------------------------------------------------------

/-- Documents are added without requests. -/
theorem storedRequests_uploaded {s : State} (h : ∃ l, Upload.Tracks s.uploads l) :
    ∀ doc ∈ s.uploads.documents, storedRequests doc = [] := by
  obtain ⟨l, hl⟩ := h
  intro doc hdoc
  rw [hl.documents] at hdoc
  obtain ⟨tap, -, rfl⟩ := List.mem_map.mp hdoc
  exact storedRequests_of_none tap.document_requests

/-- An update stores what it carries. -/
theorem Consistent.stored_of_merge {s : State} (h : Consistent s) (path : String) (op : Nat)
    (fields : Document) (user : Option FIRUser) (snapshot : Option DocumentSnapshot)
    (doc : Document) (hop : s.operations op = some (.updateData path fields user snapshot)) :
    storedRequests (doc.merge fields) = storedRequests fields := by
  obtain ⟨u, -, rfl⟩ := (h.sent _ _ _ _ _ hop).fields
  rw [storedRequests_merge, storedRequests_requestsField]

/-- In step with `posts`, the document at `path` included. -/
def OrderedInStep (start : String → List (Value String)) (path : String)
    (posts : List (String × Value String)) (s : State) : Prop :=
  Ordered start posts s ∧ InStep path (start path ++ postedAt path posts) s

def OrderedBehind (start : String → List (Value String)) (path : String)
    (posts : List (String × Value String)) (s : State) : Prop :=
  Ordered start posts s ∧ Behind path (start path ++ postedAt path posts) s

theorem step_inStep {start : String → List (Value String)} {path : String}
    {posts : List (String × Value String)} {s s' : State} {e : Event}
    (h : OrderedInStep start path posts s) (hstep : step s e = some s') :
    (SerialAt path s e → OrderedInStep start path (posts ++ processed s e) s') ∧
      (¬SerialAt path s e → OrderedBehind start path (posts ++ processed s e) s') := by
  obtain ⟨hordered, hinStep⟩ := h
  have hordered' := step_ordered hordered hstep
  have heffect := (step_effect hstep).at path
  have hnew := storedRequests_uploaded hordered'.uploads
  have hmerge := hordered.consistent.stored_of_merge path
  unfold OrderedInStep OrderedBehind
  rw [postedAt_append, ← List.append_assoc]
  rcases hinStep with hsettled | ⟨op, hpending⟩
  · have hnext := hsettled.step hnew heffect (hordered.inOrder.documents path)
    exact ⟨fun hmet => ⟨hordered', hnext.1 hmet⟩, fun hnot => ⟨hordered', hnext.2 hnot⟩⟩
  · have hnext := hpending.step hnew hmerge heffect
    exact ⟨fun hmet => ⟨hordered', hnext.1 hmet⟩, fun hnot => ⟨hordered', hnext.2 hnot⟩⟩

theorem step_behind {start : String → List (Value String)} {path : String}
    {posts : List (String × Value String)} {s s' : State} {e : Event}
    (h : OrderedBehind start path posts s) (hstep : step s e = some s') :
    OrderedBehind start path (posts ++ processed s e) s' := by
  obtain ⟨hordered, hbehind⟩ := h
  have hordered' := step_ordered hordered hstep
  refine ⟨hordered', ?_⟩
  rw [postedAt_append, ← List.append_assoc]
  exact hbehind.step (storedRequests_uploaded hordered'.uploads)
    (hordered.consistent.stored_of_merge path) ((step_effect hstep).at path)

theorem inStep_initial (screens : Upload.ScreenId → Upload.Screen)
    (documents : String → Option Document) (users : ClientId → Option FIRUser) (path : String) :
    OrderedInStep (startRequests documents) path [] (initial screens documents users) := by
  refine ⟨ordered_initial _ _ _, Or.inl ⟨?_, nofun⟩⟩
  rw [postedAt_nil, List.append_nil, startRequests]
  cases hdoc : documents path <;> simp [State.requests, State.current?, initial, hdoc]

/-- **Every request is stored**, in the order of the posts and after the entries the document
started with, once nothing is in flight any more, exactly if the taps on the book were processed
one at a time and their updates applied. -/
theorem requests_complete_iff {screens : Upload.ScreenId → Upload.Screen}
    {documents : String → Option Document} {users : ClientId → Option FIRUser} {es : List Event}
    {t : State} (h : Run step (initial screens documents users) es t) (hquiet : t.Quiescent)
    (path : String) :
    t.requests path = startRequests documents path ++
        postedAt path (collect step processed (initial screens documents users) es) ↔
      Always step (SerialAt path) (initial screens documents users) es := by
  let start := startRequests documents
  let posts := collect step processed (initial screens documents users) es
  have hend : (Always step (SerialAt path) (initial screens documents users) es ∧
        OrderedInStep start path ([] ++ posts) t) ∨
      (¬Always step (SerialAt path) (initial screens documents users) es ∧
        OrderedBehind start path ([] ++ posts) t) :=
    h.always_or (fun _ _ _ _ hs hmet hstep => (step_inStep hs hstep).1 hmet)
      (fun _ _ _ _ hs hnot hstep => (step_inStep hs hstep).2 hnot)
      (fun _ _ _ _ hs hstep => step_behind hs hstep) (inStep_initial screens documents users path)
  have hnoUpdate : NoUpdate t path := by
    intro op fields user snapshot hop
    rw [hquiet op] at hop
    cases hop
  rcases hend with ⟨hserial, -, hsettled | ⟨op, hpending⟩⟩ | ⟨hnot, -, hbehind⟩
  · exact iff_of_true hsettled.stored hserial
  · exact absurd hnoUpdate hpending.underWay
  · -- the list stored last is too short
    refine iff_of_false ?_ hnot
    intro hstored
    have hshort : (t.requests path).length < (start path ++ postedAt path posts).length := by
      unfold State.requests
      cases hdoc : t.current? path with
      | none => exact hbehind.nonempty
      | some doc => exact hbehind.documents doc (State.current?_mem hdoc)
    rw [hstored] at hshort
    exact Nat.lt_irrefl _ hshort

/-- Bob's and Carol's requests are both stored when they come in turn, and not when they overlap. -/
theorem requests_in_turn_are_complete :
    (∃ t, Run step (initial Upload.filledScreens oneBook bobAndCarol) requestsInTurn t ∧
      t.requests (documentPath "A") = [.map (userData bob), .map (userData carol)] ∧
      Always step (SerialAt (documentPath "A"))
        (initial Upload.filledScreens oneBook bobAndCarol) requestsInTurn) ∧
    ∃ t, Run step (initial Upload.filledScreens oneBook bobAndCarol) overlappingRequests t ∧
      t.requests (documentPath "A") = [.map (userData carol)] ∧
      ¬Always step (SerialAt (documentPath "A"))
        (initial Upload.filledScreens oneBook bobAndCarol) overlappingRequests := by
  have hturn : ∃ t, Run step (initial Upload.filledScreens oneBook bobAndCarol) requestsInTurn t ∧
      t.Quiescent ∧ t.requests (documentPath "A") = [.map (userData bob), .map (userData carol)] :=
    ⟨_, rfl, fun | 0 => rfl | 1 => rfl | _ + 2 => rfl, rfl⟩
  have hoverlap : ∃ t, Run step (initial Upload.filledScreens oneBook bobAndCarol)
      overlappingRequests t ∧ t.Quiescent ∧
      t.requests (documentPath "A") = [.map (userData carol)] :=
    ⟨_, rfl, fun | 0 => rfl | 1 => rfl | _ + 2 => rfl, rfl⟩
  obtain ⟨t, hrun, hquiet, hrequests⟩ := hturn
  obtain ⟨u, hrun', hquiet', hrequests'⟩ := hoverlap
  refine ⟨⟨t, hrun, hrequests, ?_⟩, u, hrun', hrequests', ?_⟩
  · exact (requests_complete_iff hrun hquiet (documentPath "A")).mp hrequests
  · rw [← requests_complete_iff hrun' hquiet' (documentPath "A"), hrequests']
    intro hstored
    have hlength := congrArg List.length hstored
    cases hlength

end Bookshare.Requests
