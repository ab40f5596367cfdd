import Bookshare.Requests.Crashes
import Bookshare.Requests.Provenance
import Mathlib.Data.List.Perm.Basic

/-!
# Loads of the whole collection

What a load shows stems from uploads; here is the other half, that no upload is
missing. `getDocuments` asks for the whole collection, so a load that succeeds
delivers every document once. Requests may have rewritten the documents since, and
the states delivered may be old ones.

Main result: `full_load_shows_every_upload`.
-/

namespace Bookshare.Requests

open Machine TextBooksViewController

/-- Every document once, each in some state it has been in. -/
structure Full (s : State) (items : List (String × Nat)) : Prop where
  nodup : (items.map Prod.fst).Nodup
  all : ∀ path, s.documents path ≠ [] → ∃ item ∈ items, documentPath item.1 = path
  found : ∀ item ∈ items, item.2 < (s.documents (documentPath item.1)).length

-- ---------------------------------------------------------------------------
-- The documents delivered
-- ---------------------------------------------------------------------------

theorem documentPath_injective : Function.Injective documentPath :=
  fun _ _ h => (String.append_right_inj _).mp h

/-- All documents asked for are delivered. -/
theorem querySnapshot_ids {s : State} {items : List (String × Nat)}
    (hfound : ∀ item ∈ items, item.2 < (s.documents (documentPath item.1)).length) :
    (s.querySnapshot items).map Prod.fst = items.map Prod.fst := by
  induction items with
  | nil => rfl
  | cons item items ih =>
    obtain ⟨hitem, hitems⟩ := List.forall_mem_cons.mp hfound
    have hrest := ih hitems
    simp only [State.querySnapshot] at hrest ⊢
    simp [List.getElem?_eq_getElem hitem, hrest]

/-- The books of a full load are one for each document. -/
theorem Full.perm_paths {s : State} {items : List (String × Nat)} (h : Full s items)
    {paths : List String} (hlisted : Listed s paths) {books : List Book}
    (hdecodes : Decodes (s.querySnapshot items) books) : (books.map docId).Perm paths := by
  have hids : books.map docId = (items.map Prod.fst).map documentPath := by
    rw [← querySnapshot_ids h.found, ← hdecodes.map_id, List.map_map]
    rfl
  rw [hids, List.perm_ext_iff_of_nodup (h.nodup.map documentPath_injective) hlisted.nodup]
  intro path
  rw [hlisted.mem]
  constructor
  · intro hpath
    obtain ⟨id, hid, rfl⟩ := List.mem_map.mp hpath
    obtain ⟨item, hitem, rfl⟩ := List.mem_map.mp hid
    exact List.ne_nil_of_length_pos (Nat.zero_lt_of_lt (h.found item hitem))
  · intro hpath
    obtain ⟨item, hitem, rfl⟩ := h.all path hpath
    exact List.mem_map_of_mem (List.mem_map_of_mem hitem)

-- ---------------------------------------------------------------------------
-- The taps the documents stem from
-- ---------------------------------------------------------------------------

/-- Each document shows, whatever state of it is decoded, the tap that has uploaded it. -/
theorem Listed.shown {s : State} {l : Ledger Upload.Tap} {paths : List String}
    (h : Listed s paths) (hl : Upload.Tracks s.uploads l) :
    List.Forall₂ (fun path tap => ∀ book, docId book = path → DecodedAt s book →
      ShownFor s.uploads.objects book tap) paths l.settled := by
  obtain ⟨hlength, hsources⟩ := List.forall₂_iff_zip.mp (h.sources hl)
  refine List.forall₂_iff_zip.mpr ⟨hlength, ?_⟩
  rintro path tap hzip book rfl ⟨doc, hdoc, hok⟩
  have hsettled : tap ∈ l.settled := (List.of_mem_zip hzip).2
  exact shownFor_of_decoded (hl.valid tap (hl.kept.subset hsettled)) (hl.stored tap hsettled)
    ((hsources hzip).fields doc hdoc) hok

/-- **A full load shows every upload.** From an empty collection, whatever has happened: the load
does not trap, and the catalogue then shows, without a filter, one book for each document that an
upload has added, with what was entered and stored for it. -/
theorem full_load_shows_every_upload {screens : Upload.ScreenId → Upload.Screen}
    {users : ClientId → Option FIRUser} {es : List Event} {t u : State}
    (h : Run step (initial screens (fun _ => none) users) es t) {items : List (String × Nat)}
    (hitems : Full t items) {c : ClientId}
    (hload : step t (.client c (.load (.ok items))) = some u) :
    (u.clients c).running = true ∧
      (u.clients c).catalogue.books = (u.clients c).catalogue.originalBooks ∧
      ∃ taps, (taps.map Upload.Tap.document).Perm t.uploads.documents ∧
        taps.Subperm (collect step startedUploads (initial screens (fun _ => none) users) es) ∧
        List.Forall₂ (ShownFor t.uploads.objects) (u.clients c).catalogue.originalBooks taps := by
  have hloadable : Loadable t :=
    h.invariant (fun _ _ _ hs hstep => step_loadable hs hstep) (loadable_initial screens users)
  have hsourced := run_sourced h
  obtain ⟨l, hl, hissued⟩ := hsourced.ledger
  obtain ⟨paths, hlisted⟩ := hsourced.listed
  -- the books the load leaves
  obtain ⟨hrunning, hu⟩ := Option.ite_none_right_eq_some.mp hload
  injection hu with hu
  subst hu
  obtain ⟨vc, hvc⟩ := hloadable.load_ok (t.clients c).catalogue (.ok items)
  obtain ⟨books, hdecodes, rfl⟩ := getDocumentsCallback_eq_ok.mp hvc
  simp only [State.setClient_same, clientStep, hvc]
  refine ⟨hrunning, trivial, ?_⟩
  -- and the taps of their documents
  have hshown := List.perm_comp_forall₂ (hitems.perm_paths hlisted hdecodes) (hlisted.shown hl)
  obtain ⟨taps, hbooks, hperm⟩ := hshown
  rw [List.forall₂_map_left_iff] at hbooks
  refine ⟨taps, ?_, ?_, ?_⟩
  · rw [hl.documents]
    exact hperm.map _
  · rw [← hissued]
    exact hperm.subperm.trans hl.kept.subperm
  · have hmem := (List.forall₂_and_left _ _).mpr ⟨fun book hbook => hbook, hbooks⟩
    refine hmem.imp fun book tap hbook => hbook.2 book rfl ?_
    exact decodedAt_of_load hvc (Or.inl hbook.1)

/-- Bob loads the catalogue with his own request of Alice's book in it. -/
theorem requested_book_is_in_full_load :
    ∃ t u, Run step (initial Upload.filledScreens (fun _ => none) fun _ => some bob)
        uploadAndRequest t ∧ step t (.client 0 (.load (.ok [("A", 1)]))) = some u ∧
      ∃ taps, (taps.map Upload.Tap.document).Perm t.uploads.documents ∧
        List.Forall₂ (ShownFor t.uploads.objects) (u.clients 0).catalogue.originalBooks taps := by
  obtain ⟨t, u, hrun, hload, hone, hfound⟩ : ∃ t u,
      Run step (initial Upload.filledScreens (fun _ => none) fun _ => some bob)
        uploadAndRequest t ∧ step t (.client 0 (.load (.ok [("A", 1)]))) = some u ∧
      (∀ path, path ≠ documentPath "A" → t.documents path = []) ∧
      1 < (t.documents (documentPath "A")).length := by
    refine ⟨_, _, rfl, rfl, fun path hpath => ?_, Nat.one_lt_two⟩
    exact (Function.update_of_ne hpath _ _).trans (Function.update_of_ne hpath _ _)
  have hfull : Full t [("A", 1)] := by
    refine ⟨List.nodup_singleton _, fun path hpath => ?_, fun item hitem => ?_⟩
    · refine ⟨("A", 1), List.mem_singleton_self _, ?_⟩
      by_contra hne
      exact hpath (hone path (Ne.symm hne))
    · rw [List.mem_singleton.mp hitem]
      exact hfound
  obtain ⟨-, -, taps, hdocuments, -, hshown⟩ := full_load_shows_every_upload hrun hfull hload
  exact ⟨t, u, hrun, hload, taps, hdocuments, hshown⟩

end Bookshare.Requests
