import Bookshare.Catalogue.Filter
import Bookshare.Library.Positions
import Bookshare.Model.Details

/-!
# From a cell to its document

The collection view keeps what it took from its data source, and a tap on a cell
is resolved against `books` as it is at the tap. Between the two lie any number
of loads and filter choices, and between the tap and a request lie more of them,
with the details screen on top.

Assumed of UIKit: after `reloadData` the view queries its data source again
before the next tap, and it does so only then.

Main result: `tapped_cell_leads_to_its_document`.
-/

namespace Bookshare.Catalogue.Cells

open Machine TextBooksViewController

/-- The details screen, and the book of the cell that was tapped to open it. -/
structure OpenScreen where
  controller : BookDetailsViewController
  cell : Book

/-- What a Request calls on a document. -/
inductive Operation where
  | getDocument
  | updateData (fields : Document)

/-- A call on the document at `path`, from the screen opened by a tap on the cell of `cell`. -/
structure Call where
  operation : Operation
  path : String
  cell : Book

structure State where
  screen : Catalogue.State
  /-- The books of the cells, as the view last took them. -/
  cells : List Book
  /-- `reloadData` was called, and the view has not queried its data source since. -/
  needsReload : Bool
  details : Option OpenScreen
  /-- The `getDocument` calls in flight. -/
  reads : List Call
  /-- The calls of `getDocument` and `updateData` so far. -/
  calls : List Call
  /-- A tap on a cell has ended in a trap. -/
  trapped : Option Trap

inductive Event where
  | catalogue (e : Catalogue.Event)
  /-- The view queries its data source. -/
  | layout
  | tapCell (currentUser : Option FIRUser) (item : Nat)
  | closeDetails
  | btnRequestTapped
  | getDocumentDone (read : Nat) (currentUser : Option FIRUser)
    (snapshot : Option DocumentSnapshot) (error : Option String)

/-- The steps of the catalogue that end in `collectionView?.reloadData()`. -/
def reloadsData : Catalogue.Event → Bool
  | .loadDone (.ok _) => true
  | .gradeSelected _ => true
  | _ => false

/-- What the view takes from its data source: as many cells as it is told there are items. -/
def queryDataSource (vc : TextBooksViewController) : Except Trap (List Book) :=
  (List.range vc.numberOfItemsInSection).mapM vc.cellForItemAt

/-- A tap on the cell of `cell`, at `item`: `prepare(for:sender:)` and the screen it leads to. -/
def tapCell (s : State) (currentUser : Option FIRUser) (item : Nat) (cell : Book) : State :=
  match s.screen.controller.bookAt item with
  | .ok book =>
    let controller := BookDetailsViewController.viewDidLoad currentUser book
    { s with details := some { controller, cell } }
  | .error trap => { s with trapped := some trap }

/-- A step of a process that has not trapped. -/
def running (s : State) : Event → Option State
  | .catalogue e => (Catalogue.step s.screen e).map fun screen =>
    { s with screen, needsReload := s.needsReload || reloadsData e }
  | .layout =>
    match s.needsReload, queryDataSource s.screen.controller with
    | true, .ok cells => some { s with cells, needsReload := false }
    | true, .error trap => some { s with trapped := some trap }
    | false, _ => none
  | .tapCell currentUser item =>
    match s.needsReload, s.details, s.cells[item]? with
    | false, none, some cell => some (tapCell s currentUser item cell)
    | _, _, _ => none
  | .closeDetails => some { s with details := none }
  | .btnRequestTapped =>
    match s.details with
    | some details =>
      if details.controller.btnRequestIsHidden then none
      else
        let call : Call := {
          operation := .getDocument
          path := docId details.controller.book
          cell := details.cell }
        some { s with reads := s.reads ++ [call], calls := s.calls ++ [call] }
    | none => none
  | .getDocumentDone read currentUser snapshot error =>
    match s.reads[read]?, getDocumentCallback currentUser snapshot error with
    -- `updateData` on the `docId` that the callback has captured
    | some call, .ok fields => some { s with
      reads := s.reads.eraseIdx read
      calls := s.calls ++ [{ call with operation := .updateData fields }] }
    -- the login guard takes the process down, which ends the run
    | _, _ => none

def step (s : State) (e : Event) : Option State :=
  if s.trapped.isNone then running s e else none

/-- The screen before `viewDidLoad`; the view has its data source still to query. -/
def initial : State where
  screen := Catalogue.initial
  cells := []
  needsReload := true
  details := none
  reads := []
  calls := []
  trapped := none

/-- The documents a step loads. -/
def loaded (_ : State) : Event → List QueryDocument
  | .catalogue (.loadDone (.ok documents)) => documents
  | _ => []

/-- What a step is to call: a Request reads the document of the book whose cell was tapped, and a
read that is delivered updates the same document with the user's entry. -/
def issued (s : State) : Event → List Call
  | .btnRequestTapped =>
    s.details.toList.map fun details =>
      { operation := .getDocument, path := docId details.cell, cell := details.cell }
  | .getDocumentDone read currentUser snapshot _ =>
    match s.reads[read]?, currentUser with
    | some { cell, .. }, some user =>
      [{ operation := .updateData (requestsField (newRequests (userData user) snapshot))
         path := docId cell
         cell }]
    | _, _ => []
  | _ => []

/-- `book` was decoded from one of the documents. -/
def DecodedFrom (documents : List QueryDocument) (book : Book) : Prop :=
  ∃ document ∈ documents, Book.init document.1 document.2 = .ok book

/-- The call is on the document that the tapped cell's book was decoded from. -/
def OnOwnDocument (documents : List QueryDocument) (call : Call) : Prop :=
  ∃ document ∈ documents, Book.init document.1 document.2 = .ok call.cell ∧
    call.path = documentPath document.1

/-- The view is up to date unless it has its data source still to query, and the screen and the
calls are those of the cells tapped. -/
structure Faithful (documents : List QueryDocument) (s : State) : Prop where
  untrapped : s.trapped = none
  cells : s.needsReload = false → s.cells = s.screen.controller.books
  books : ∀ book, book ∈ s.screen.controller.originalBooks ∨ book ∈ s.screen.controller.books →
    DecodedFrom documents book
  details : ∀ details, s.details = some details →
    details.controller.book = details.cell ∧ DecodedFrom documents details.cell
  reads : ∀ call ∈ s.reads, OnOwnDocument documents call
  calls : ∀ call ∈ s.calls, OnOwnDocument documents call

-- ---------------------------------------------------------------------------
-- The data source
-- ---------------------------------------------------------------------------

/-- The view takes one cell for each book, and no index is out of range. -/
theorem queryDataSource_eq (vc : TextBooksViewController) : queryDataSource vc = .ok vc.books := by
  refine Positions.mapM_range_eq fun item hitem => ?_
  rw [cellForItemAt, bookAt, List.getElem?_eq_getElem hitem]

theorem DecodedFrom.mono {documents : List QueryDocument} {book : Book}
    (h : DecodedFrom documents book) (more : List QueryDocument) :
    DecodedFrom (documents ++ more) book := by
  obtain ⟨document, hdocument, hok⟩ := h
  exact ⟨document, List.mem_append_left _ hdocument, hok⟩

/-- The document of the cell's book is the one by its identifier. -/
theorem OnOwnDocument.path_eq {documents : List QueryDocument} {call : Call}
    (h : OnOwnDocument documents call) : call.path = docId call.cell := by
  obtain ⟨document, -, hok, hpath⟩ := h
  rw [hpath, docId, (book_init_owner hok).1]

theorem OnOwnDocument.mono {documents : List QueryDocument} {call : Call}
    (h : OnOwnDocument documents call) (more : List QueryDocument) :
    OnOwnDocument (documents ++ more) call := by
  obtain ⟨document, hdocument, hok⟩ := h
  exact ⟨document, List.mem_append_left _ hdocument, hok⟩

-- ---------------------------------------------------------------------------
-- What a step can do
-- ---------------------------------------------------------------------------

/-- A step of the catalogue that changes `books` reloads the view. -/
theorem books_eq_of_not_reloadsData {s s' : Catalogue.State} {e : Catalogue.Event}
    (h : Catalogue.step s e = some s') (hreloads : reloadsData e = false) :
    s'.controller.books = s.controller.books := by
  rcases step_cases h with ⟨hsame, -⟩ | ⟨grade, rfl, -⟩ | ⟨documents, books, rfl, -⟩
  · rw [hsame]
  · cases hreloads
  · cases hreloads

/-- The books after a step of the catalogue are those before it and those it loads. -/
theorem decodedFrom_of_step {s : State} {screen : Catalogue.State} {e : Catalogue.Event}
    {documents : List QueryDocument} (h : Catalogue.step s.screen e = some screen)
    (hbooks : ∀ book, book ∈ s.screen.controller.originalBooks ∨ book ∈ s.screen.controller.books →
      DecodedFrom documents book) {book : Book}
    (hbook : book ∈ screen.controller.originalBooks ∨ book ∈ screen.controller.books) :
    DecodedFrom (documents ++ loaded s (.catalogue e)) book := by
  rcases step_cases h with ⟨hsame, -⟩ | ⟨grade, -, hgrade⟩ | ⟨more, books, rfl, hdecodes, hload⟩
  · -- the same books
    rw [hsame] at hbook
    exact (hbooks book hbook).mono _
  · -- a part of those loaded
    rw [hgrade] at hbook
    have hold : DecodedFrom documents book := hbooks book (Or.inl (mem_of_mem_gradeSelected hbook))
    exact hold.mono _
  · -- those just decoded
    rw [hload] at hbook
    obtain ⟨document, hdocument, hok⟩ := hdecodes.mem (or_self_iff.mp hbook)
    exact ⟨document, List.mem_append_right _ hdocument, hok⟩

inductive Effect (s : State) : Event → State → Prop
  | catalogue {e screen} : Catalogue.step s.screen e = some screen →
      Effect s (.catalogue e) { s with screen, needsReload := s.needsReload || reloadsData e }
  | layout : Effect s .layout { s with cells := s.screen.controller.books, needsReload := false }
  | tapped {user item cell} : s.needsReload = false → s.details = none →
      s.cells[item]? = some cell → Effect s (.tapCell user item) (tapCell s user item cell)
  | closed : Effect s .closeDetails { s with details := none }
  | requested {details call} : s.details = some details →
      call = { operation := .getDocument
               path := docId details.controller.book
               cell := details.cell } →
      Effect s .btnRequestTapped { s with reads := s.reads ++ [call], calls := s.calls ++ [call] }
  | delivered {read user snapshot error call} : s.reads[read]? = some call →
      Effect s (.getDocumentDone read (some user) snapshot error)
        { s with
          reads := s.reads.eraseIdx read
          calls := s.calls ++ [{ call with
            operation := .updateData (requestsField (newRequests (userData user) snapshot)) }] }

theorem step_effect {s s' : State} {e : Event} (h : step s e = some s') : Effect s e s' := by
  obtain ⟨-, h⟩ := Option.ite_none_right_eq_some.mp h
  cases e with
  | catalogue e =>
    obtain ⟨screen, hscreen, rfl⟩ := Option.map_eq_some_iff.mp h
    exact Effect.catalogue hscreen
  | layout =>
    simp only [running, queryDataSource_eq] at h
    split at h
    · next hcells =>
      injection h with h
      subst h
      injection hcells with hcells
      subst hcells
      exact Effect.layout
    · next htrap => cases htrap
    · cases h
  | tapCell user item =>
    simp only [running] at h
    split at h
    · next hfresh hdetails hcell =>
      injection h with h
      subst h
      exact Effect.tapped hfresh hdetails hcell
    · cases h
  | closeDetails =>
    injection h with h
    subst h
    exact Effect.closed
  | btnRequestTapped =>
    simp only [running] at h
    split at h
    · next details hdetails =>
      obtain ⟨-, h⟩ := Option.ite_none_left_eq_some.mp h
      injection h with h
      subst h
      exact Effect.requested hdetails rfl
    · cases h
  | getDocumentDone read user snapshot error =>
    simp only [running] at h
    split at h
    · next call fields hcall hok =>
      injection h with h
      subst h
      obtain ⟨user, rfl, rfl⟩ := getDocumentCallback_eq_ok.mp hok
      exact Effect.delivered hcall
    · cases h

-- ---------------------------------------------------------------------------
-- The view and the array keep in step
-- ---------------------------------------------------------------------------

/-- A tap on a cell of a view that is up to date opens the screen of the cell's own book. -/
theorem tapCell_eq {documents : List QueryDocument} {s : State} (h : Faithful documents s)
    (hfresh : s.needsReload = false) {user : Option FIRUser} {item : Nat} {cell : Book}
    (hcell : s.cells[item]? = some cell) :
    tapCell s user item cell =
      { s with details := some ⟨BookDetailsViewController.viewDidLoad user cell, cell⟩ } := by
  have hbook : s.screen.controller.bookAt item = .ok cell := by
    rw [h.cells hfresh] at hcell
    rw [bookAt, hcell]
  simp only [tapCell, hbook]

theorem Effect.faithful {documents : List QueryDocument} {s s' : State} {e : Event}
    (heffect : Effect s e s') (h : Faithful documents s) :
    Faithful (documents ++ loaded s e) s' := by
  -- what was decoded from the documents before is decoded from more of them
  have hdetails : ∀ details, s.details = some details →
      details.controller.book = details.cell ∧
        DecodedFrom (documents ++ loaded s e) details.cell := by
    intro details hopen
    obtain ⟨hbook, hdecoded⟩ := h.details details hopen
    exact ⟨hbook, hdecoded.mono _⟩
  have hbooks : ∀ book, book ∈ s.screen.controller.originalBooks ∨
      book ∈ s.screen.controller.books → DecodedFrom (documents ++ loaded s e) book :=
    fun book hbook => (h.books book hbook).mono _
  have hreads : ∀ call ∈ s.reads, OnOwnDocument (documents ++ loaded s e) call :=
    fun call hcall => (h.reads call hcall).mono _
  have hcalls : ∀ call ∈ s.calls, OnOwnDocument (documents ++ loaded s e) call :=
    fun call hcall => (h.calls call hcall).mono _
  cases heffect with
  | @catalogue e screen hscreen =>
    refine ⟨h.untrapped, ?_, ?_, hdetails, hreads, hcalls⟩
    · -- the view is up to date, or is to be reloaded
      intro hfresh
      obtain ⟨hfresh, hreloads⟩ := Bool.or_eq_false_iff.mp hfresh
      rw [books_eq_of_not_reloadsData hscreen hreloads]
      exact h.cells hfresh
    · intro book hbook
      exact decodedFrom_of_step hscreen h.books hbook
  | layout => exact ⟨h.untrapped, fun _ => rfl, hbooks, hdetails, hreads, hcalls⟩
  | @tapped user item cell hfresh _ hcell =>
    rw [tapCell_eq h hfresh hcell]
    refine ⟨h.untrapped, h.cells, hbooks, ?_, hreads, hcalls⟩
    -- the book of the cell is one of `books`
    intro details hopen
    injection hopen with hopen
    subst hopen
    have hmem : cell ∈ s.screen.controller.books := by
      rw [← h.cells hfresh]
      exact List.mem_of_getElem? hcell
    exact ⟨rfl, hbooks cell (Or.inr hmem)⟩
  | closed =>
    refine ⟨h.untrapped, h.cells, hbooks, ?_, hreads, hcalls⟩
    intro details hopen
    cases hopen
  | @requested details call hopen hcall =>
    -- the call is on the document of the screen's book, which is the cell's
    have hown : OnOwnDocument (documents ++ loaded s .btnRequestTapped) call := by
      obtain ⟨hbook, document, hdocument, hok⟩ := hdetails details hopen
      obtain ⟨hid, -⟩ := book_init_owner hok
      refine ⟨document, hdocument, hcall ▸ hok, ?_⟩
      rw [hcall, hbook, docId, hid]
    refine ⟨h.untrapped, h.cells, hbooks, hdetails, ?_, ?_⟩
    · exact List.forall_mem_append.mpr ⟨hreads, List.forall_mem_singleton.mpr hown⟩
    · exact List.forall_mem_append.mpr ⟨hcalls, List.forall_mem_singleton.mpr hown⟩
  | @delivered read user snapshot error call hcall =>
    have hown : OnOwnDocument (documents ++
        loaded s (.getDocumentDone read (some user) snapshot error)) call :=
      hreads call (List.mem_of_getElem? hcall)
    refine ⟨h.untrapped, h.cells, hbooks, hdetails, ?_, ?_⟩
    · intro other hother
      exact hreads other (List.mem_of_mem_eraseIdx hother)
    · exact List.forall_mem_append.mpr ⟨hcalls, List.forall_mem_singleton.mpr hown⟩

theorem faithful_initial : Faithful [] initial where
  untrapped := rfl
  cells := nofun
  books := by
    intro book hbook
    rcases hbook with hbook | hbook <;> cases hbook
  details := by
    intro details hopen
    cases hopen
  reads := List.forall_mem_nil _
  calls := List.forall_mem_nil _

theorem run_faithful {es : List Event} {t : State} (h : Run step initial es t) :
    Faithful (collect step loaded initial es) t := by
  have hstep : ∀ documents s e s', Faithful documents s → step s e = some s' →
      Faithful (documents ++ loaded s e) s' := by
    intro documents s e s' hs hstep
    exact (step_effect hstep).faithful hs
  have hend : Faithful ([] ++ collect step loaded initial es) t :=
    h.collect_invariant hstep faithful_initial
  rw [List.nil_append] at hend
  exact hend

-- ---------------------------------------------------------------------------
-- The calls
-- ---------------------------------------------------------------------------

/-- A step makes the calls it is to make. -/
theorem step_calls {documents : List QueryDocument} {s s' : State} {e : Event}
    (hs : Faithful documents s) (hstep : step s e = some s') :
    s'.calls = s.calls ++ issued s e := by
  cases step_effect hstep with
  | @tapped user item cell hfresh _ hcell =>
    rw [tapCell_eq hs hfresh hcell]
    exact (List.append_nil _).symm
  | @requested details call hopen hcall =>
    obtain ⟨hbook, -⟩ := hs.details details hopen
    simp [issued, hopen, hcall, hbook]
  | @delivered read user snapshot error call hcall =>
    have hpath : call.path = docId call.cell :=
      (hs.reads call (List.mem_of_getElem? hcall)).path_eq
    simp [issued, hcall, hpath]
  | _ => exact (List.append_nil _).symm

theorem run_calls {es : List Event} {t : State} (h : Run step initial es t) :
    t.calls = collect step issued initial es := by
  have hstep : ∀ calls s e s', (∃ documents, Faithful documents s) ∧ s.calls = calls →
      step s e = some s' → (∃ documents, Faithful documents s') ∧ s'.calls = calls ++ issued s e := by
    rintro calls s e s' ⟨⟨documents, hs⟩, rfl⟩ hstep
    exact ⟨⟨_, (step_effect hstep).faithful hs⟩, step_calls hs hstep⟩
  exact (h.collect_invariant hstep ⟨⟨[], faithful_initial⟩, rfl⟩).2

-- ---------------------------------------------------------------------------
-- From a cell to its document
-- ---------------------------------------------------------------------------

/-- **A tapped cell leads to its own document.** Whenever the view is up to date, its cells are
those of `books`; a tap on one opens the screen of the very book, without a trap; and all calls
made from such a screen, whatever has been loaded and filtered since, are on the document that
the cell's book was decoded from. There is one read for each Request, then one update for each
read delivered, and no other call. -/
theorem tapped_cell_leads_to_its_document {es : List Event} {t : State}
    (h : Run step initial es t) :
    t.trapped = none ∧
    (t.needsReload = false → t.cells = t.screen.controller.books ∧
      ∀ user item cell, t.details = none → t.cells[item]? = some cell →
        step t (.tapCell user item) =
          some { t with details := some ⟨BookDetailsViewController.viewDidLoad user cell, cell⟩ }) ∧
    (∀ details, t.details = some details → details.controller.book = details.cell) ∧
    (∀ call ∈ t.calls, ∃ document ∈ collect step loaded initial es,
      Book.init document.1 document.2 = .ok call.cell ∧ call.path = documentPath document.1) ∧
    t.calls = collect step issued initial es := by
  have hfaithful := run_faithful h
  refine ⟨hfaithful.untrapped, ?_, ?_, hfaithful.calls, run_calls h⟩
  · intro hfresh
    refine ⟨hfaithful.cells hfresh, ?_⟩
    intro user item cell hdetails hcell
    rw [← tapCell_eq hfaithful hfresh hcell]
    simp only [step, hfaithful.untrapped, Option.isNone_none, if_true, running, hfresh, hdetails,
      hcell]
  · intro details hdetails
    exact (hfaithful.details details hdetails).1

/-- Bob taps the only cell left by the filter; the catalogue is emptied by a reload while he is
at the details screen, and he requests the book. -/
def tapThenReload : List Event :=
  [.catalogue .viewDidLoad,
    .catalogue (.loadDone (.ok [uploaded "A" "7", uploaded "B" "8"])),
    .catalogue (.gradeSelected (some 8)), .layout, .tapCell (some bob) 0,
    .catalogue (.uploadCompleted true), .catalogue (.loadDone (.ok [])), .btnRequestTapped,
    .getDocumentDone 0 (some bob) none none]

theorem tap_then_reload_reaches_own_document :
    ∃ t, Run step initial tapThenReload t ∧
      t.calls.map Call.path = [documentPath "B", documentPath "B"] ∧
      t.calls.map Call.operation =
        [.getDocument, .updateData (requestsField [userData bob])] ∧ t.trapped = none ∧
      (∀ call ∈ t.calls, ∃ document ∈ collect step loaded initial tapThenReload,
        Book.init document.1 document.2 = .ok call.cell ∧
          call.path = documentPath document.1) ∧
      t.calls = collect step issued initial tapThenReload := by
  obtain ⟨t, hrun, hpaths, hoperations⟩ : ∃ t, Run step initial tapThenReload t ∧
      t.calls.map Call.path = [documentPath "B", documentPath "B"] ∧
      t.calls.map Call.operation =
        [.getDocument, .updateData (requestsField [userData bob])] := ⟨_, rfl, rfl, rfl⟩
  obtain ⟨huntrapped, -, -, hcalls, hissued⟩ := tapped_cell_leads_to_its_document hrun
  exact ⟨t, hrun, hpaths, hoperations, huntrapped, hcalls, hissued⟩

end Bookshare.Catalogue.Cells
