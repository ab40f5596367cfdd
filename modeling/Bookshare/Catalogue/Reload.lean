import Bookshare.Catalogue.Filter

/-!
# Overlapping loads

The catalogue screen beside a collection that only grows. A load that succeeds
delivers the collection as it was at some moment between its issue and its
completion, and nothing in the completion says which load it belongs to: with
two loads in flight, the one that looked at the collection earlier may complete
last, and then takes back what the other one showed.

Main results:

* `loaded_documents_stay_iff` — a document once loaded stays in `originalBooks`
  for the rest of the run exactly if no load delivers a moment before the one
  shown, with a document added in between;
* `overtaken_load_hides_upload` — a load issued before an upload and completed
  after the reload hides the uploaded book again.
-/

namespace Bookshare.Catalogue.Reload

open Machine TextBooksViewController

structure State where
  screen : Catalogue.State
  /-- The states the collection has been in, oldest first; a moment is an index into it. -/
  history : List (List QueryDocument)
  /-- The moments the loads in flight were issued at. -/
  issued : List Nat
  /-- The moment the last load that succeeded has delivered. -/
  shown : Option Nat

inductive Event where
  /-- The collection becomes `documents`. -/
  | grow (documents : List QueryDocument)
  | viewDidLoad
  | uploadCompleted (isSuccess : Bool)
  | gradeSelected (grade : Option Int)
  | loadFailed (load : Nat) (err : String)
  | loadDone (load : Nat) (moment : Nat)

def ids (documents : List QueryDocument) : List String := documents.map Prod.fst

/-- The moment a load issued now is issued at. -/
def State.now (s : State) : Nat := s.history.length - 1

/-- What the collection held at a moment. -/
def State.idsAt (s : State) (moment : Nat) : List String := ids ((s.history[moment]?).getD [])

def step (s : State) : Event → Option State
  | .grow documents =>
    -- documents are added and never removed
    if ∀ old ∈ s.history, ids old ⊆ ids documents then
      some { s with history := s.history ++ [documents] }
    else none
  | .viewDidLoad => (Catalogue.step s.screen .viewDidLoad).map fun screen =>
    { s with screen, issued := s.issued ++ [s.now] }
  | .uploadCompleted isSuccess =>
    (Catalogue.step s.screen (.uploadCompleted isSuccess)).map fun screen =>
      { s with screen, issued := if isSuccess then s.issued ++ [s.now] else s.issued }
  | .gradeSelected grade => (Catalogue.step s.screen (.gradeSelected grade)).map fun screen =>
    { s with screen }
  | .loadFailed load err =>
    if load < s.issued.length then
      (Catalogue.step s.screen (.loadDone (.error err))).map fun screen =>
        { s with screen, issued := s.issued.eraseIdx load }
    else none
  | .loadDone load moment =>
    match s.issued[load]?, s.history[moment]? with
    | some issuedAt, some documents =>
      -- no moment before the load was issued
      if issuedAt ≤ moment then
        (Catalogue.step s.screen (.loadDone (.ok documents))).map fun screen =>
          { s with screen, issued := s.issued.eraseIdx load, shown := some moment }
      else none
    | _, _ => none

def initial (documents : List QueryDocument) : State where
  screen := Catalogue.initial
  history := [documents]
  issued := []
  shown := none

/-- The `documentID`s in `originalBooks`. -/
def State.loadedIds (s : State) : List String := s.screen.controller.originalBooks.map Book.id

/-- What was loaded in `s` is still there in `s'`. -/
def Keeps (s s' : State) : Prop := s.loadedIds ⊆ s'.loadedIds

/-- A load does not go back in time: it delivers no moment before the one shown, unless nothing
was added between the two. -/
def NotBack (s : State) : Event → Prop
  | .loadDone _ moment => ∀ shown, s.shown = some shown →
      shown ≤ moment ∨ s.idsAt shown ⊆ s.idsAt moment
  | _ => True

/-- The collection has only grown, and `originalBooks` is what it held at the moment shown. -/
structure Consistent (s : State) : Prop where
  grows : s.history.Pairwise fun old new => ids old ⊆ ids new
  fresh : s.shown = none → s.loadedIds = []
  shown : ∀ shown, s.shown = some shown → shown < s.history.length ∧ s.loadedIds = s.idsAt shown

-- ---------------------------------------------------------------------------
-- What a step can do
-- ---------------------------------------------------------------------------

/-- A step of the screen that is not a load that succeeds keeps what is loaded. -/
theorem loadedIds_eq {s s' : State} {e : Catalogue.Event}
    (h : Catalogue.step s.screen e = some s'.screen)
    (he : ∀ documents, e ≠ .loadDone (.ok documents)) : s'.loadedIds = s.loadedIds :=
  congrArg (List.map Book.id) (step_originalBooks h he)

/-- Everything a step can do: the collection grows, or a load succeeds, or `originalBooks` stays
as it is. -/
theorem step_cases {s s' : State} {e : Event} (h : step s e = some s') :
    (∃ documents, e = .grow documents ∧ (∀ old ∈ s.history, ids old ⊆ ids documents) ∧
      s' = { s with history := s.history ++ [documents] }) ∨
    (s'.loadedIds = s.loadedIds ∧ s'.history = s.history ∧ s'.shown = s.shown ∧
      ∀ load moment, e ≠ .loadDone load moment) ∨
    (∃ load moment, e = .loadDone load moment ∧ moment < s.history.length ∧
      s'.loadedIds = s.idsAt moment ∧ s'.history = s.history ∧ s'.shown = some moment) := by
  cases e with
  | grow documents =>
    simp only [step, Option.ite_none_right_eq_some, Option.some.injEq] at h
    exact Or.inl ⟨documents, rfl, h.1, h.2.symm⟩
  -- the steps of the screen that are not a load that succeeds
  | viewDidLoad =>
    simp only [step, Option.map_eq_some_iff] at h
    obtain ⟨screen, hscreen, rfl⟩ := h
    exact Or.inr (Or.inl ⟨loadedIds_eq hscreen nofun, rfl, rfl, nofun⟩)
  | uploadCompleted isSuccess =>
    simp only [step, Option.map_eq_some_iff] at h
    obtain ⟨screen, hscreen, rfl⟩ := h
    exact Or.inr (Or.inl ⟨loadedIds_eq hscreen nofun, rfl, rfl, nofun⟩)
  | gradeSelected grade =>
    simp only [step, Option.map_eq_some_iff] at h
    obtain ⟨screen, hscreen, rfl⟩ := h
    exact Or.inr (Or.inl ⟨loadedIds_eq hscreen nofun, rfl, rfl, nofun⟩)
  | loadFailed load err =>
    simp only [step, Option.ite_none_right_eq_some, Option.map_eq_some_iff] at h
    obtain ⟨-, screen, hscreen, rfl⟩ := h
    exact Or.inr (Or.inl ⟨loadedIds_eq hscreen nofun, rfl, rfl, nofun⟩)
  | loadDone load moment =>
    simp only [step] at h
    split at h
    · next issuedAt documents _ hdocuments =>
      simp only [Option.ite_none_right_eq_some, Option.map_eq_some_iff] at h
      obtain ⟨-, screen, hscreen, rfl⟩ := h
      obtain ⟨books, hdecodes, hload⟩ := step_loadDone hscreen
      have hmoment : moment < s.history.length := (List.getElem?_eq_some_iff.mp hdocuments).1
      refine Or.inr (Or.inr ⟨load, moment, rfl, hmoment, ?_, rfl, rfl⟩)
      simp only [State.loadedIds, hload, hdecodes.map_id, State.idsAt, hdocuments,
        Option.getD_some, ids]
    · cases h

-- ---------------------------------------------------------------------------
-- Consistency
-- ---------------------------------------------------------------------------

theorem Consistent.idsAt_subset {s : State} (h : Consistent s) {m n : Nat} (hmn : m ≤ n)
    (hn : n < s.history.length) : s.idsAt m ⊆ s.idsAt n := by
  rcases Nat.eq_or_lt_of_le hmn with rfl | hlt
  · exact List.Subset.refl _
  · have hm : m < s.history.length := hlt.trans hn
    simpa [State.idsAt, hm, hn] using List.pairwise_iff_getElem.mp h.grows m n hm hn hlt

/-- A moment that has passed does not change. -/
theorem idsAt_grow {s : State} {documents : List QueryDocument} {m : Nat}
    (hm : m < s.history.length) :
    State.idsAt { s with history := s.history ++ [documents] } m = s.idsAt m := by
  simp [State.idsAt, List.getElem?_append_left hm]

theorem consistent_initial (documents : List QueryDocument) : Consistent (initial documents) where
  grows := List.pairwise_singleton _ _
  fresh := fun _ => rfl
  shown := nofun

theorem step_consistent {s s' : State} {e : Event} (h : Consistent s) (hstep : step s e = some s') :
    Consistent s' := by
  rcases step_cases hstep with ⟨documents, -, hgrow, rfl⟩ | ⟨hloaded, hhistory, hshown, -⟩ |
    ⟨load, moment, -, hmoment, hloaded, hhistory, hshown⟩
  · -- the collection grows, and the moment shown does not change
    refine ⟨?_, h.fresh, ?_⟩
    · rw [List.pairwise_append]
      refine ⟨h.grows, List.pairwise_singleton _ _, ?_⟩
      intro old hold new hnew
      have heq : new = documents := List.mem_singleton.mp hnew
      rw [heq]
      exact hgrow old hold
    · intro shown hs
      obtain ⟨hlt, hids⟩ := h.shown shown hs
      have hlt' : shown < (s.history ++ [documents]).length := by
        rw [List.length_append]
        omega
      refine ⟨hlt', ?_⟩
      rw [idsAt_grow hlt]
      exact hids
  · -- what is loaded does not change
    refine ⟨hhistory ▸ h.grows, ?_, ?_⟩
    · intro hs
      rw [hshown] at hs
      rw [hloaded]
      exact h.fresh hs
    · intro shown hs
      rw [hshown] at hs
      rw [hloaded, State.idsAt, hhistory]
      exact h.shown shown hs
  · -- a load succeeds
    refine ⟨hhistory ▸ h.grows, ?_, ?_⟩
    · intro hs
      rw [hshown] at hs
      cases hs
    · intro shown hs
      rw [hshown] at hs
      injection hs with hs
      subst hs
      rw [hloaded, State.idsAt, State.idsAt, hhistory]
      exact ⟨hmoment, rfl⟩

/-- A step takes back a loaded document exactly if it is a load that goes back in time. -/
theorem step_keeps_iff {s s' : State} {e : Event} (h : Consistent s) (hstep : step s e = some s') :
    Keeps s s' ↔ NotBack s e := by
  rcases step_cases hstep with ⟨documents, rfl, -, rfl⟩ | ⟨hloaded, -, -, hnot⟩ |
    ⟨load, moment, rfl, hmoment, hloaded, -, -⟩
  · exact iff_of_true (List.Subset.refl _) trivial
  · refine iff_of_true ?_ ?_
    · rw [Keeps, hloaded]
      exact List.Subset.refl _
    · cases e with
      | loadDone load moment => exact absurd rfl (hnot load moment)
      | _ => trivial
  · rw [Keeps, hloaded, NotBack]
    constructor
    · intro hkeeps shown hshown
      have hids : s.loadedIds = s.idsAt shown := (h.shown shown hshown).2
      rw [hids] at hkeeps
      exact Or.inr hkeeps
    · intro hback
      cases hshown : s.shown with
      | none =>
        -- nothing was shown before
        rw [h.fresh hshown]
        exact List.nil_subset _
      | some shown =>
        have hids : s.loadedIds = s.idsAt shown := (h.shown shown hshown).2
        rw [hids]
        rcases hback shown hshown with hle | hsub
        · exact h.idsAt_subset hle hmoment
        · exact hsub

-- ---------------------------------------------------------------------------
-- Documents on their way
-- ---------------------------------------------------------------------------

/-- A document is loaded, or was in the collection when a load still in flight was issued. -/
def Coming (s : State) (documentID : String) : Prop :=
  documentID ∈ s.loadedIds ∨ ∃ moment ∈ s.issued, documentID ∈ s.idsAt moment

/-- The loads in flight were issued at moments of the collection. -/
def IssuedBefore (s : State) : Prop :=
  s.now < s.history.length ∧ ∀ moment ∈ s.issued, moment < s.history.length

/-- Loads succeed, and do not go back in time. -/
def Delivers (s : State) : Event → Prop
  | .loadFailed _ _ => False
  | e => NotBack s e

/-- What a step does to the loads in flight: it completes none, and may issue one, or it completes
one. -/
theorem step_issued {s s' : State} {e : Event} (h : step s e = some s') :
    (s.issued ⊆ s'.issued ∧ (∀ moment ∈ s'.issued, moment ∈ s.issued ∨ moment = s.now) ∧
      s.history <+: s'.history ∧ s'.loadedIds = s.loadedIds) ∨
    (∃ load issuedAt, s.issued[load]? = some issuedAt ∧ s'.issued = s.issued.eraseIdx load ∧
      s'.history = s.history ∧
      ((∃ err, e = .loadFailed load err) ∨
        ∃ moment, e = .loadDone load moment ∧ issuedAt ≤ moment)) := by
  -- a load issued goes to the end of those in flight
  have hissue : ∀ moment ∈ s.issued ++ [s.now], moment ∈ s.issued ∨ moment = s.now := by
    intro moment hmoment
    simpa using hmoment
  cases e with
  | grow documents =>
    simp only [step, Option.ite_none_right_eq_some, Option.some.injEq] at h
    obtain ⟨-, rfl⟩ := h
    exact Or.inl ⟨List.Subset.refl _, fun _ => Or.inl, List.prefix_append _ _, rfl⟩
  | viewDidLoad =>
    simp only [step, Option.map_eq_some_iff] at h
    obtain ⟨screen, hscreen, rfl⟩ := h
    exact Or.inl ⟨List.subset_append_left _ _, hissue, List.prefix_rfl,
      loadedIds_eq hscreen nofun⟩
  | uploadCompleted isSuccess =>
    simp only [step, Option.map_eq_some_iff] at h
    obtain ⟨screen, hscreen, rfl⟩ := h
    refine Or.inl ⟨?_, ?_, List.prefix_rfl, loadedIds_eq hscreen nofun⟩
    · cases isSuccess
      · exact List.Subset.refl _
      · exact List.subset_append_left _ _
    · cases isSuccess
      · exact fun _ => Or.inl
      · exact hissue
  | gradeSelected grade =>
    simp only [step, Option.map_eq_some_iff] at h
    obtain ⟨screen, hscreen, rfl⟩ := h
    exact Or.inl ⟨List.Subset.refl _, fun _ => Or.inl, List.prefix_rfl,
      loadedIds_eq hscreen nofun⟩
  | loadFailed load err =>
    simp only [step, Option.ite_none_right_eq_some, Option.map_eq_some_iff] at h
    obtain ⟨hload, screen, -, rfl⟩ := h
    exact Or.inr ⟨load, _, List.getElem?_eq_getElem hload, rfl, rfl, Or.inl ⟨err, rfl⟩⟩
  | loadDone load moment =>
    simp only [step] at h
    split at h
    · next issuedAt documents hissuedAt _ =>
      simp only [Option.ite_none_right_eq_some, Option.map_eq_some_iff] at h
      obtain ⟨hle, screen, -, rfl⟩ := h
      exact Or.inr ⟨load, issuedAt, hissuedAt, rfl, rfl, Or.inr ⟨moment, rfl, hle⟩⟩
    · cases h

/-- The reload after an upload is one more load in flight. -/
theorem step_uploadCompleted {s s' : State} (h : step s (.uploadCompleted true) = some s') :
    s'.issued = s.issued ++ [s.now] ∧ s'.history = s.history := by
  simp only [step, Option.map_eq_some_iff] at h
  obtain ⟨screen, -, rfl⟩ := h
  exact ⟨rfl, rfl⟩

/-- No load is issued while the collection grows. -/
theorem step_grow_issued {s s' : State} {documents : List QueryDocument}
    (h : step s (.grow documents) = some s') : s'.issued = s.issued := by
  simp only [step, Option.ite_none_right_eq_some, Option.some.injEq] at h
  obtain ⟨-, rfl⟩ := h
  rfl

theorem step_history {s s' : State} {e : Event} (h : step s e = some s') :
    s.history <+: s'.history := by
  rcases step_issued h with ⟨-, -, hprefix, -⟩ | ⟨load, issuedAt, -, -, hhistory, -⟩
  · exact hprefix
  · rw [hhistory]

theorem idsAt_past {s s' : State} (h : s.history <+: s'.history) {moment : Nat}
    (hmoment : moment < s.history.length) : s'.idsAt moment = s.idsAt moment := by
  obtain ⟨later, hlater⟩ := h
  rw [State.idsAt, State.idsAt, ← hlater, List.getElem?_append_left hmoment]

theorem issuedBefore_initial (documents : List QueryDocument) :
    IssuedBefore (initial documents) := ⟨Nat.zero_lt_one, nofun⟩

theorem step_issuedBefore {s s' : State} {e : Event} (h : IssuedBefore s)
    (hstep : step s e = some s') : IssuedBefore s' := by
  obtain ⟨hnow, hissued⟩ := h
  -- the collection has been in no fewer states
  have hkeep : s.history.length ≤ s'.history.length → s'.now < s'.history.length := by
    intro hle
    have hdef : s'.now = s'.history.length - 1 := rfl
    omega
  rcases step_issued hstep with ⟨-, hcome, hprefix, -⟩ |
    ⟨load, issuedAt, -, herase, hhistory, -⟩
  · have hle : s.history.length ≤ s'.history.length := hprefix.length_le
    refine ⟨hkeep hle, fun moment hmoment => ?_⟩
    rcases hcome moment hmoment with hold | rfl
    · exact lt_of_lt_of_le (hissued moment hold) hle
    · exact lt_of_lt_of_le hnow hle
  · refine ⟨hkeep (hhistory ▸ Nat.le_refl _), fun moment hmoment => ?_⟩
    rw [herase] at hmoment
    rw [hhistory]
    exact hissued moment (List.mem_of_mem_eraseIdx hmoment)

/-- What is in the collection now stays in it. -/
theorem idsAt_now_subset {s s' : State} (hs : IssuedBefore s) (hs' : IssuedBefore s')
    (hconsistent : Consistent s') (h : s.history <+: s'.history) :
    s.idsAt s.now ⊆ s'.idsAt s'.now := by
  have hle : s.now ≤ s'.now := Nat.sub_le_sub_right h.length_le 1
  rw [← idsAt_past h hs.1]
  exact hconsistent.idsAt_subset hle hs'.1

/-- What the collection becomes is what is in it now. -/
theorem mem_idsAt_now_grow {s s' : State} {documents : List QueryDocument} {documentID : String}
    (h : step s (.grow documents) = some s') (hid : documentID ∈ ids documents) :
    documentID ∈ s'.idsAt s'.now := by
  simp only [step, Option.ite_none_right_eq_some, Option.some.injEq] at h
  obtain ⟨-, rfl⟩ := h
  simpa [State.idsAt, State.now] using hid

/-- A document stays loaded or on its way as long as loads succeed and do not go back. -/
theorem step_coming {s s' : State} {e : Event} {documentID : String} (hs : Consistent s)
    (hissued : IssuedBefore s) (hdelivers : Delivers s e) (hstep : step s e = some s')
    (h : Coming s documentID) : Coming s' documentID := by
  rcases step_issued hstep with ⟨hsub, -, hprefix, hloaded⟩ |
    ⟨load, issuedAt, hload, herase, hhistory, ⟨err, rfl⟩ | ⟨moment, rfl, hle⟩⟩
  · rcases h with hid | ⟨moment, hmoment, hid⟩
    · exact Or.inl (hloaded ▸ hid)
    · refine Or.inr ⟨moment, hsub hmoment, ?_⟩
      rw [idsAt_past hprefix (hissued.2 moment hmoment)]
      exact hid
  · exact absurd hdelivers id
  · have hkeeps : Keeps s s' := (step_keeps_iff hs hstep).mpr hdelivers
    rcases step_cases hstep with ⟨documents, heq, -⟩ | ⟨-, -, -, hnot⟩ |
      ⟨load', moment', heq, hmoment, hshows, -, -⟩
    · cases heq
    · exact absurd rfl (hnot load moment)
    · injection heq with _ heq
      subst heq
      rcases h with hid | ⟨other, hother, hid⟩
      · exact Or.inl (hkeeps hid)
      · obtain ⟨i, hi⟩ := List.mem_iff_getElem?.mp hother
        by_cases hsame : i = load
        · -- the load that completes: it delivers no moment before its issue
          subst hsame
          have heq : other = issuedAt := Option.some.inj (hi.symm.trans hload)
          subst heq
          rw [Coming, hshows]
          exact Or.inl (hs.idsAt_subset hle hmoment hid)
        · -- another one, still in flight
          refine Or.inr ⟨other, ?_, ?_⟩
          · rw [herase, List.mem_eraseIdx_iff_getElem?]
            exact ⟨i, hsame, hi⟩
          · rw [State.idsAt, hhistory]
            exact hid

-- ---------------------------------------------------------------------------
-- The exact condition
-- ---------------------------------------------------------------------------

/-- **A loaded document stays**, from any state of a run to any later one, exactly if no load of
the run delivers a moment before the one shown with a document added in between. -/
theorem loaded_documents_stay_iff {documents : List QueryDocument} {es : List Event} {t : State}
    (h : Run step (initial documents) es t) :
    Grows step Keeps (initial documents) es ↔ Always step NotBack (initial documents) es :=
  grows_iff_always (fun _ => List.Subset.refl _) (fun _ _ _ => List.Subset.trans)
    (fun _ _ _ hs hstep => step_consistent hs hstep)
    (fun _ _ _ hs hstep => step_keeps_iff hs hstep) h (consistent_initial documents)

/-- The first load and the reload after an upload, completing in the order they were issued. -/
theorem loads_in_order_keep :
    Grows step Keeps (initial [uploaded "A" "7"])
      [.viewDidLoad, .grow [uploaded "A" "7", uploaded "B" "8"], .uploadCompleted true,
        .loadDone 0 0, .loadDone 0 1] := by
  refine Iff.mpr (loaded_documents_stay_iff rfl) ?_
  refine ⟨trivial, trivial, trivial, nofun, fun shown hshown => Or.inl ?_, trivial⟩
  have hzero : 0 = shown := Option.some.inj hshown
  subst hzero
  exact Nat.zero_le 1

/-- The first load is still in flight when a book is uploaded. The reload shows the book; then
the first load completes, with the collection as it was before, and the book is gone. -/
theorem overtaken_load_hides_upload :
    ∃ s t, Run step (initial [uploaded "A" "7"])
        [.viewDidLoad, .grow [uploaded "A" "7", uploaded "B" "8"], .uploadCompleted true,
          .loadDone 1 1] s ∧
      Run step s [.loadDone 0 0] t ∧ "B" ∈ s.loadedIds ∧ "B" ∉ t.loadedIds :=
  ⟨_, _, rfl, rfl, by decide, by decide⟩

end Bookshare.Catalogue.Reload
