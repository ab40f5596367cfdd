import Bookshare.Requests.Provenance
import Bookshare.Requests.Taps
import Mathlib.Algebra.BigOperators.Group.Finset.Basic

/-!
# Requests come to an end

What the taps on Request have put in flight ends by itself. A read that ends leaves
an update or nothing, an update that ends leaves nothing, so that a tap brings two
completions at most. And what is in flight can always succeed, since a button shows
only on the details of a book whose document exists, and documents stay.

Main result: `requests_come_to_an_end`.
-/

namespace Bookshare.Requests

open Machine

def Event.isRequest : Event → Bool
  | .request _ _ => true
  | _ => false

/-- A read or an update ends, in whatever way. -/
def Event.isCompletion : Event → Bool
  | .readDone _ _ | .updateDone _ _ => true
  | _ => false

/-- It succeeds: a read finds the document as it is now, an update is applied. -/
def Succeeds (s : State) : Event → Prop
  | .readDone op (.found version) => ∃ operation doc, s.operations op = some operation ∧
      (s.documents operation.path)[version]? = some doc ∧ s.current? operation.path = some doc
  | .updateDone _ applied => applied = true
  | _ => False

/-- The completions that are left to an operation. -/
def completions : Option Operation → Nat
  | none => 0
  | some (.updateData _ _ _ _) => 1
  | some (.getDocument _ _ _ _) => 2

/-- The completions that are left to the operations `ops`. -/
def completionsLeft (ops : Finset Nat) (s : State) : Nat :=
  ∑ op ∈ ops, completions (s.operations op)

/-- `n` completions are left at most. What is in flight is on documents that exist, and so is what
clients show. -/
structure Completable (n : Nat) (s : State) : Prop where
  shows : ShowsDecoded s
  documents : ∀ op operation, s.operations op = some operation → s.documents operation.path ≠ []
  left : ∃ ops : Finset Nat, (∀ op ∉ ops, s.operations op = none) ∧ completionsLeft ops s = n

theorem completable_initial (screens : Upload.ScreenId → Upload.Screen)
    (documents : String → Option Document) (users : ClientId → Option FIRUser) :
    Completable 0 (initial screens documents users) where
  shows := showsDecoded_initial _ _ _
  documents := nofun
  left := ⟨∅, fun _ _ => rfl, rfl⟩

-- ---------------------------------------------------------------------------
-- Documents
-- ---------------------------------------------------------------------------

/-- Every operation in flight after a step is on a document that was there before. -/
theorem Effect.operation_document {s s' : State} {e : Event} (h : Effect s e s')
    (hshows : ShowsDecoded s)
    (hdocuments : ∀ op operation, s.operations op = some operation →
      s.documents operation.path ≠ []) {op : Nat} {operation : Operation}
    (hop : s'.operations op = some operation) : s.documents operation.path ≠ [] := by
  cases operation with
  | getDocument c path openedBy issuedAt =>
    rcases h.getDocument_cases hop with hold | ⟨details, hdetails, -, rfl, -⟩
    · exact hdocuments op _ hold
    · -- a tap, on a book that was decoded from its document
      obtain ⟨doc, hdoc, -⟩ := hshows c _ (Or.inr (Or.inr ⟨details, hdetails, rfl⟩))
      exact List.ne_nil_of_mem hdoc
  | updateData path fields user snapshot =>
    rcases h.updateData_cases hop with hold | ⟨c, openedBy, issuedAt, u, result, hread, -⟩
    · exact hdocuments op _ hold
    · have hne := hdocuments op _ hread
      exact hne

-- ---------------------------------------------------------------------------
-- What is left
-- ---------------------------------------------------------------------------

/-- A step that sets an operation changes what is left by that operation alone. -/
theorem completionsLeft_set {s s' : State} {op : Nat} {operation : Option Operation}
    {ops : Finset Nat} (hops : ∀ op ∉ ops, s.operations op = none)
    (h : s'.operations = (s.setOperation op operation).operations) :
    (∀ op' ∉ insert op ops, s'.operations op' = none) ∧
      completionsLeft (insert op ops) s' + completions (s.operations op) =
        completionsLeft ops s + completions operation := by
  constructor
  · intro op' hop'
    obtain ⟨hne, hmem⟩ := not_or.mp (mt Finset.mem_insert.mpr hop')
    rw [h, State.setOperation_ne s operation hne]
    exact hops op' hmem
  · have hbefore : completionsLeft (insert op ops) s = completionsLeft ops s :=
      Finset.sum_insert_of_eq_zero_if_notMem fun hmem => by rw [hops op hmem, completions]
    have hothers : ∀ op' ∈ (insert op ops).erase op,
        completions (s'.operations op') = completions (s.operations op') := by
      intro op' hop'
      rw [h, State.setOperation_ne s operation (Finset.ne_of_mem_erase hop')]
    have hafter : completions operation + ∑ op' ∈ (insert op ops).erase op,
        completions (s.operations op') = completionsLeft (insert op ops) s' := by
      rw [← Finset.sum_congr rfl hothers, completionsLeft,
        ← Finset.add_sum_erase _ _ (Finset.mem_insert_self op ops), h, State.setOperation_same]
    rw [← hafter, ← hbefore, completionsLeft,
      ← Finset.add_sum_erase _ _ (Finset.mem_insert_self op ops)]
    omega

/-- So a step keeps to what is left if the operation it sets does. -/
theorem completionsLeft_of_set {s s' : State} {e : Event} {ops : Finset Nat} (op : Nat)
    (operation : Option Operation) (hops : ∀ op ∉ ops, s.operations op = none)
    (h : s'.operations = (s.setOperation op operation).operations)
    (hle : completions operation + e.isCompletion.toNat ≤
      completions (s.operations op) + 2 * e.isRequest.toNat) :
    ∃ ops', (∀ op' ∉ ops', s'.operations op' = none) ∧
      completionsLeft ops' s' + e.isCompletion.toNat ≤
        completionsLeft ops s + 2 * e.isRequest.toNat := by
  obtain ⟨hnone, hsum⟩ := completionsLeft_set hops h
  exact ⟨insert op ops, hnone, by omega⟩

theorem Effect.completionsLeft_le {s s' : State} {e : Event} (h : Effect s e s') {ops : Finset Nat}
    (hops : ∀ op ∉ ops, s.operations op = none) :
    ∃ ops', (∀ op' ∉ ops', s'.operations op' = none) ∧
      completionsLeft ops' s' + e.isCompletion.toNat ≤
        completionsLeft ops s + 2 * e.isRequest.toNat := by
  cases h with
  | uploads | added | client => exact ⟨ops, hops, Nat.le_refl _⟩
  | requested hdetails _ hop =>
    refine completionsLeft_of_set _ _ hops rfl ?_
    rw [hop]
    exact Nat.le_refl _
  | dropped hop _ =>
    refine completionsLeft_of_set _ none hops rfl ?_
    rw [hop]
    exact Nat.le_succ 1
  | answered hop _ =>
    refine completionsLeft_of_set _ _ hops rfl ?_
    rw [hop]
    exact Nat.le_refl _
  | updateFailed hop =>
    refine completionsLeft_of_set _ none hops rfl ?_
    rw [hop]
    exact Nat.le_refl _
  | updateApplied hop _ =>
    refine completionsLeft_of_set _ none hops rfl ?_
    rw [hop]
    exact Nat.le_refl _

/-- A tap on Request brings two completions, and each completion is one less. -/
theorem step_completable {n : Nat} {s s' : State} {e : Event} (h : Completable n s)
    (hstep : step s e = some s') :
    ∃ m, Completable m s' ∧ m + e.isCompletion.toNat ≤ n + 2 * e.isRequest.toNat := by
  have heffect := step_effect hstep
  obtain ⟨ops, hops, rfl⟩ := h.left
  obtain ⟨ops', hops', hle⟩ := heffect.completionsLeft_le hops
  refine ⟨completionsLeft ops' s', ⟨step_showsDecoded h.shows hstep, ?_, ops', hops', rfl⟩, hle⟩
  intro op operation hop
  obtain ⟨doc, hdoc⟩ := List.exists_mem_of_ne_nil _
    (heffect.operation_document h.shows h.documents hop)
  exact List.ne_nil_of_mem (heffect.documents_subset _ hdoc)

/-- What is in flight can succeed. -/
theorem exists_succeeds {n : Nat} {s : State} (h : Completable n s) {op : Nat}
    {operation : Operation} (hop : s.operations op = some operation) :
    ∃ e s', step s e = some s' ∧ Succeeds s e ∧ e.isCompletion = true ∧ e.isRequest = false := by
  obtain ⟨doc, hdoc⟩ : ∃ doc, s.current? operation.path = some doc :=
    Option.isSome_iff_exists.mp (List.getLast?_isSome.mpr (h.documents op operation hop))
  cases operation with
  | getDocument c path openedBy issuedAt =>
    have hversion : (s.documents path)[(s.documents path).length - 1]? = some doc :=
      List.getLast?_eq_getElem?.symm.trans hdoc
    have hstep : ∀ result, step s (.readDone op result) = some (readDone s op result c path) := by
      intro result
      simp only [step, hop]
    exact ⟨_, _, hstep (.found _), ⟨_, doc, hop, hversion, hdoc⟩, rfl, rfl⟩
  | updateData path fields user snapshot =>
    have hdoc' : s.current? path = some doc := hdoc
    have hstep : step s (.updateDone op true) =
        some ((s.setOperation op none).write path (doc.merge fields)) := by
      simp only [step, hop, updateDone, hdoc']
    exact ⟨_, _, hstep, rfl, rfl, rfl⟩

-- ---------------------------------------------------------------------------
-- Runs
-- ---------------------------------------------------------------------------

theorem run_completable {screens : Upload.ScreenId → Upload.Screen}
    {documents : String → Option Document} {users : ClientId → Option FIRUser} {es : List Event}
    {t : State} (h : Run step (initial screens documents users) es t) :
    ∃ n, Completable n t ∧ n + es.countP Event.isCompletion ≤ 2 * es.countP Event.isRequest := by
  have hcount : ∃ n, Completable n t ∧
      n + ([] ++ collect step (fun _ e => [e]) (initial screens documents users) es).countP
          Event.isCompletion ≤
        2 * ([] ++ collect step (fun _ e => [e]) (initial screens documents users) es).countP
          Event.isRequest := by
    refine h.collect_invariant (I := fun seen s => ∃ n, Completable n s ∧
      n + seen.countP Event.isCompletion ≤ 2 * seen.countP Event.isRequest) ?_
      ⟨0, completable_initial _ _ _, Nat.le_refl _⟩
    rintro seen s e s' ⟨n, hn, hle⟩ hstep
    obtain ⟨m, hm, hless⟩ := step_completable hn hstep
    have hsingle : ∀ p : Event → Bool, [e].countP p = (p e).toNat := by
      intro p
      cases hp : p e <;> simp [hp]
    refine ⟨m, hm, ?_⟩
    rw [List.countP_append, List.countP_append, hsingle, hsingle]
    omega
  rw [h.collect_event, List.nil_append] at hcount
  exact hcount

/-- **Requests come to an end.** In every run at most two remote operations end for each tap on
Request, however they end; and at any time what is in flight can still succeed, all of it, with no
further tap, until nothing is. -/
theorem requests_come_to_an_end {screens : Upload.ScreenId → Upload.Screen}
    {documents : String → Option Document} {users : ClientId → Option FIRUser} {es : List Event}
    {t : State} (h : Run step (initial screens documents users) es t) :
    es.countP Event.isCompletion ≤ 2 * es.countP Event.isRequest ∧
      ∃ more u, Run step t more u ∧ u.Quiescent ∧ Always step Succeeds t more := by
  obtain ⟨n, hn, hle⟩ := run_completable h
  refine ⟨Nat.le_trans (Nat.le_add_left _ n) hle, ?_⟩
  refine exists_run_of_progress (I := Completable) ?_ n t hn
  intro n s hs
  by_cases hquiet : s.Quiescent
  · exact Or.inl hquiet
  · -- one of the operations in flight succeeds
    obtain ⟨op, hop⟩ := not_forall.mp hquiet
    obtain ⟨operation, hop⟩ := Option.ne_none_iff_exists'.mp hop
    obtain ⟨e, s', hstep, hsucceeds, hcompletion, hrequest⟩ := exists_succeeds hs hop
    obtain ⟨m, hm, hless⟩ := step_completable hs hstep
    refine Or.inr ⟨e, s', m, hstep, hsucceeds, ?_, hm⟩
    rw [hcompletion, hrequest, Bool.toNat_true, Bool.toNat_false] at hless
    omega

/-- Bob's and Carol's requests of one book, on their way together. -/
theorem overlapping_requests_come_to_an_end :
    ∃ t, Run step (initial Upload.filledScreens oneBook bobAndCarol)
        (bothAtTheBook ++ [Event.request 0 0, .request 1 1]) t ∧ ¬t.Quiescent ∧
      ∃ more u, Run step t more u ∧ u.Quiescent ∧ Always step Succeeds t more := by
  obtain ⟨t, hrun, hbusy⟩ : ∃ t, Run step (initial Upload.filledScreens oneBook bobAndCarol)
      (bothAtTheBook ++ [Event.request 0 0, .request 1 1]) t ∧ (t.operations 0).isSome :=
    ⟨_, rfl, rfl⟩
  refine ⟨t, hrun, ?_, (requests_come_to_an_end hrun).2⟩
  intro hquiet
  rw [hquiet 0] at hbusy
  cases hbusy

end Bookshare.Requests
