import Bookshare.Upload.Orphans

/-!
# Answers to Submit

A tap on Submit is answered by one `showalert`, from a form check or from the
callback of `addDocument`. In between lie three ends that report nothing: an
image without a PNG encoding, a `putData` that fails, and one that succeeds
without metadata.

The taps are accounted for by identifier: a tap is answered, or dropped, or its
flight is still under way (`step_balance`).

Main results:

* `every_tap_answered_iff` — on a screen that stays open, once nothing is in
  flight, every tap was answered once exactly if none met such an end;
* `failed_upload_says_nothing` — one that did.
-/

namespace Bookshare.Upload

open Machine

def Flight.screen : Flight → ScreenId
  | .putData k _ _ _ => k
  | .addDocument k _ => k

/-- The taps on Submit of screen `k`. -/
def tapped (k : ScreenId) (_ : State) : Event → List String
  | .submit k' uniqueId => if k' = k then [uniqueId] else []
  | _ => []

/-- The calls of `showalert` on screen `k`, each with the tap it answers. -/
def answers (k : ScreenId) (s : State) : Event → List (String × Alert)
  | .submit k' uniqueId =>
    if k' = k then
      match submitTapped (s.screens k).form (s.screens k).currentUser uniqueId with
      | .alert alert => [(uniqueId, alert)]
      | _ => []
    else []
  | .addDocumentDone uniqueId error =>
    match s.flights uniqueId with
    | some (.addDocument k' _) =>
      if k' = k then
        (addDocumentCallback (s.screens k).alive error).toList.map fun alert => (uniqueId, alert)
      else []
    | _ => []
  | _ => []

/-- The documents added for screen `k`, each with the tap it comes from. -/
def added (k : ScreenId) (s : State) : Event → List (String × Document)
  | .addDocumentDone uniqueId none =>
    match s.flights uniqueId with
    | some (.addDocument k' doc) => if k' = k then [(uniqueId, doc)] else []
    | _ => []
  | _ => []

/-- A tap on Submit of screen `k` that the form checks reject leaves what is in flight as it is. -/
def RejectedStartsNothing (k : ScreenId) (s : State) (e : Event) : Prop :=
  ∀ uniqueId s', e = .submit k uniqueId → formError (s.screens k).form ≠ none →
    step s e = some s' → s'.flights = s.flights ∧ startedUpload s e = []

/-- In the run of `es` that leads to `t`, the alerts shown on screen `k` answer its taps one to
one, as many report a success as documents were added, and rejected taps started no upload. -/
structure EveryTapAnswered (k : ScreenId) (screens : ScreenId → Screen) (es : List Event)
    (t : State) : Prop where
  shown : (t.screens k).alerts = (screens k).alerts ++
    (collect step (answers k) (initial screens) es).map Prod.snd
  once : ((collect step (answers k) (initial screens) es).map Prod.fst).Perm
    (collect step (tapped k) (initial screens) es)
  successes : ((collect step (answers k) (initial screens) es).filter
      fun answer => answer.2.title == "Success").length =
    (collect step (added k) (initial screens) es).length
  rejected : Always step (RejectedStartsNothing k) (initial screens) es

/-- A tap on screen `k` that passes the checks, with someone signed in, finds an image with a PNG
encoding, and its upload ends with metadata. -/
def Answered (k : ScreenId) (s : State) : Event → Prop
  | .submit k' _ => k' = k → formError (s.screens k).form = none →
      (s.screens k).currentUser.isSome → ((s.screens k).form.image.bind UIImage.pngData).isSome
  | .putDataDone uniqueId result =>
      (s.flights uniqueId).map Flight.screen = some k → result = .stored
  | _ => True

instance (k : ScreenId) (s : State) : DecidablePred (Answered k s)
  | .submit _ _ => inferInstanceAs (Decidable (_ → _ → _ → _))
  | .putDataDone _ _ => inferInstanceAs (Decidable (_ → _))
  | .edit _ _ | .pick _ _ | .session _ _ | .exit _ | .addDocumentDone _ _ =>
    inferInstanceAs (Decidable True)

/-- The identifier of an event's submission. -/
def Event.submission : Event → List String
  | .submit _ uniqueId | .putDataDone uniqueId _ | .addDocumentDone uniqueId _ => [uniqueId]
  | _ => []

/-- The taps on screen `k` that end without a word. -/
def dropped (k : ScreenId) (s : State) (e : Event) : List String :=
  if Answered k s e then [] else e.submission

theorem dropped_eq_nil_iff (k : ScreenId) (s : State) (e : Event) :
    dropped k s e = [] ↔ Answered k s e := by
  by_cases h : Answered k s e
  · exact iff_of_true (if_pos h) h
  · -- only a tap or the end of an upload can fail to answer
    rw [dropped, if_neg h]
    cases e with
    | submit => exact iff_of_false (List.cons_ne_nil _ _) h
    | putDataDone => exact iff_of_false (List.cons_ne_nil _ _) h
    | _ => exact absurd trivial h

/-- How many flights of screen `k` go by the name of `uniqueId`: one or none. -/
def inFlight (k : ScreenId) (s : State) (uniqueId : String) : Nat :=
  if (s.flights uniqueId).map Flight.screen = some k then 1 else 0

-- ---------------------------------------------------------------------------
-- A step, seen from a screen
-- ---------------------------------------------------------------------------

/-- Where a tap ends: at a form check, at the login guard, at an image without a PNG encoding, or
at `putData`. -/
theorem submit_cases (s : State) (k : ScreenId) (uniqueId : String) :
    (∃ alert, formError (s.screens k).form = some alert ∧
      submitTapped (s.screens k).form (s.screens k).currentUser uniqueId = .alert alert ∧
      submit s k uniqueId =
        s.setScreen k { s.screens k with alerts := (s.screens k).alerts ++ [alert] }) ∨
    (formError (s.screens k).form = none ∧
      submitTapped (s.screens k).form (s.screens k).currentUser uniqueId = .trap notLoggedIn ∧
      submit s k uniqueId = s.setScreen k { s.screens k with alive := false }) ∨
    (formError (s.screens k).form = none ∧ (s.screens k).currentUser.isSome ∧
      (s.screens k).form.image.bind UIImage.pngData = none ∧
      submitTapped (s.screens k).form (s.screens k).currentUser uniqueId = .nothing ∧
      submit s k uniqueId = s) ∨
    (∃ path data doc, formError (s.screens k).form = none ∧
      ((s.screens k).form.image.bind UIImage.pngData).isSome ∧
      submitTapped (s.screens k).form (s.screens k).currentUser uniqueId =
        .putData path data doc ∧
      submit s k uniqueId = { s with
        usedIds := uniqueId :: s.usedIds
        flights := Function.update s.flights uniqueId (some (.putData k path data doc)) }) := by
  cases hform : formError (s.screens k).form with
  | some alert =>
    have htap : submitTapped (s.screens k).form (s.screens k).currentUser uniqueId =
        .alert alert := by simp only [submitTapped, hform]
    exact Or.inl ⟨alert, rfl, htap, by simp only [submit, htap]⟩
  | none =>
    cases huser : (s.screens k).currentUser with
    | none =>
      have htap : submitTapped (s.screens k).form none uniqueId = .trap notLoggedIn := by
        simp only [submitTapped, hform]
      exact Or.inr (Or.inl ⟨rfl, htap, by simp only [submit, huser, htap]⟩)
    | some user =>
      cases hpng : (s.screens k).form.image.bind UIImage.pngData with
      | none =>
        have htap : submitTapped (s.screens k).form (some user) uniqueId = .nothing := by
          simp only [submitTapped, hform, hpng]
        exact Or.inr (Or.inr (Or.inl ⟨rfl, rfl, rfl, htap, by simp only [submit, huser, htap]⟩))
      | some data =>
        have htap : submitTapped (s.screens k).form (some user) uniqueId =
            .putData (imagePath uniqueId) data (submittedDoc (s.screens k).form user) := by
          simp only [submitTapped, hform, hpng]
        refine Or.inr (Or.inr (Or.inr ⟨_, data, _, rfl, rfl, htap, ?_⟩))
        exact submit_of_putData (huser ▸ htap)

theorem submit_screens_of_ne {s : State} {k k' : ScreenId} (hk : k' ≠ k) (uniqueId : String) :
    (submit s k' uniqueId).screens k = s.screens k := by
  rcases submit_cases s k' uniqueId with ⟨_, -, -, heq⟩ | ⟨-, -, heq⟩ | ⟨-, -, -, -, heq⟩ |
    ⟨_, _, _, -, -, -, heq⟩
  · rw [heq, setScreen_ne hk]
  · rw [heq, setScreen_ne hk]
  · rw [heq]
  · rw [heq]

/-- An event of no submission sets one screen, which shows no alert by it and does not come back. -/
theorem step_setScreen {s s' : State} {e : Event} (h : step s e = some s')
    (he : e.submission = []) :
    ∃ k screen, s' = s.setScreen k screen ∧ screen.alerts = (s.screens k).alerts ∧
      (screen.alive = true → (s.screens k).alive = true) := by
  cases e with
  | edit k texts =>
    obtain ⟨-, h⟩ := Option.ite_none_right_eq_some.mp h
    exact ⟨k, _, (Option.some.inj h).symm, rfl, id⟩
  | pick k originalImage =>
    obtain ⟨-, h⟩ := Option.ite_none_right_eq_some.mp h
    exact ⟨k, _, (Option.some.inj h).symm, rfl, id⟩
  | session k user => exact ⟨k, _, (Option.some.inj h).symm, rfl, id⟩
  | exit k => exact ⟨k, _, (Option.some.inj h).symm, rfl, nofun⟩
  | submit => cases he
  | putDataDone => cases he
  | addDocumentDone => cases he

/-- A screen that is set keeps its alerts and does not come back, and the others are as before. -/
theorem setScreen_screen {s : State} {k' : ScreenId} {screen : Screen}
    (halerts : screen.alerts = (s.screens k').alerts)
    (halive : screen.alive = true → (s.screens k').alive = true) (k : ScreenId) :
    ((s.setScreen k' screen).screens k).alerts = (s.screens k).alerts ∧
      (((s.setScreen k' screen).screens k).alive = true → (s.screens k).alive = true) := by
  by_cases hk : k' = k
  · subst hk
    rw [setScreen_same]
    exact ⟨halerts, halive⟩
  · rw [setScreen_ne hk]
    exact ⟨rfl, id⟩

/-- A step shows on screen `k` the alerts that `answers` tells of, and does not bring the screen
back once it has been left. -/
theorem step_screen {k : ScreenId} {s s' : State} {e : Event} (h : step s e = some s') :
    (s'.screens k).alerts = (s.screens k).alerts ++ (answers k s e).map Prod.snd ∧
      ((s'.screens k).alive = true → (s.screens k).alive = true) := by
  cases e with
  | submit k' uniqueId =>
    obtain ⟨-, h⟩ := Option.ite_none_right_eq_some.mp h
    injection h with h
    subst h
    by_cases hk : k' = k
    · subst hk
      rcases submit_cases s k' uniqueId with ⟨alert, -, htap, heq⟩ | ⟨-, htap, heq⟩ |
        ⟨-, -, -, htap, heq⟩ | ⟨path, data, doc, -, -, htap, heq⟩ <;>
        simp [heq, answers, htap]
    · have hanswers : answers k s (.submit k' uniqueId) = [] := if_neg hk
      rw [submit_screens_of_ne hk, hanswers]
      simp
  | putDataDone uniqueId result =>
    simp only [step] at h
    split at h
    · injection h with h
      subst h
      simp [answers, putDataDone, State.setFlight]
    · cases h
  | addDocumentDone uniqueId error =>
    simp only [step] at h
    split at h
    · next k' doc hflight =>
      injection h with h
      subst h
      by_cases hk : k' = k
      · subst hk
        simp [answers, hflight, addDocumentDone, State.setFlight, Function.comp_def]
      · simp [answers, hflight, hk, addDocumentDone, setScreen_ne hk, State.setFlight]
    · cases h
  | _ =>
    obtain ⟨k', screen, rfl, halerts, halive⟩ := step_setScreen h rfl
    simp only [answers, List.map_nil, List.append_nil]
    exact setScreen_screen halerts halive k

theorem rejectedStartsNothing (k : ScreenId) (s : State) (e : Event) :
    RejectedStartsNothing k s e := by
  rintro uniqueId s' rfl hrejected h
  obtain ⟨-, h⟩ := Option.ite_none_right_eq_some.mp h
  injection h with h
  subst h
  rcases submit_cases s k uniqueId with ⟨alert, -, htap, heq⟩ | ⟨hnone, -⟩ | ⟨hnone, -⟩ |
    ⟨_, _, _, hnone, -⟩
  · rw [heq]
    refine ⟨rfl, startedUpload_of_not_putData ?_⟩
    intro path data doc hput
    rw [htap] at hput
    cases hput
  · exact absurd hnone hrejected
  · exact absurd hnone hrejected
  · exact absurd hnone hrejected

-- ---------------------------------------------------------------------------
-- Every tap is accounted for
-- ---------------------------------------------------------------------------

theorem inFlight_of_update {k : ScreenId} {s s' : State} {uniqueId : String} {flight : Option Flight}
    (h : s'.flights = Function.update s.flights uniqueId flight) (x : String) :
    inFlight k s' x =
      if x = uniqueId then if flight.map Flight.screen = some k then 1 else 0
      else inFlight k s x := by
  unfold inFlight
  rw [h]
  by_cases hx : x = uniqueId
  · rw [hx, Function.update_self, if_pos rfl]
  · rw [Function.update_of_ne hx, if_neg hx]

/-- A tap on screen `k` is answered, or dropped, or under way. -/
theorem submit_balance {k : ScreenId} {s : State} {uniqueId : String}
    (hfresh : s.flights uniqueId = none)
    (halive : ((submit s k uniqueId).screens k).alive = true) (x : String) :
    inFlight k s x + (tapped k s (.submit k uniqueId)).count x =
      ((answers k s (.submit k uniqueId)).map Prod.fst ++
        dropped k s (.submit k uniqueId)).count x + inFlight k (submit s k uniqueId) x := by
  have htapped : tapped k s (.submit k uniqueId) = [uniqueId] := if_pos rfl
  rw [htapped]
  rcases submit_cases s k uniqueId with ⟨alert, hform, htap, heq⟩ | ⟨-, -, heq⟩ |
    ⟨hform, huser, hpng, htap, heq⟩ | ⟨path, data, doc, hform, hpng, htap, heq⟩
  · -- answered at once
    have hanswers : answers k s (.submit k uniqueId) = [(uniqueId, alert)] := by
      simp [answers, htap]
    have hdropped : dropped k s (.submit k uniqueId) = [] := by simp [dropped, Answered, hform]
    have hflights : inFlight k (submit s k uniqueId) x = inFlight k s x := by
      rw [heq]
      rfl
    rw [hanswers, hdropped, hflights, Nat.add_comm]
    rfl
  · -- the screen goes down with the process
    rw [heq] at halive
    simp [State.setScreen] at halive
  · -- dropped at once
    have hanswers : answers k s (.submit k uniqueId) = [] := by simp [answers, htap]
    have hdropped : dropped k s (.submit k uniqueId) = [uniqueId] := by
      simp [dropped, Answered, hform, huser, hpng, Event.submission]
    rw [hanswers, hdropped, heq, Nat.add_comm]
    rfl
  · -- under way
    have hanswers : answers k s (.submit k uniqueId) = [] := by simp [answers, htap]
    have hdropped : dropped k s (.submit k uniqueId) = [] := by simp [dropped, Answered, hpng]
    have hflights : (submit s k uniqueId).flights =
        Function.update s.flights uniqueId (some (.putData k path data doc)) := by rw [heq]
    rw [hanswers, hdropped, inFlight_of_update hflights]
    by_cases hx : x = uniqueId
    · simp [inFlight, hx, hfresh, Flight.screen]
    · simp [hx, Ne.symm hx]

/-- What the other screens do is none of screen `k`'s. -/
theorem submit_balance_of_ne {k k' : ScreenId} {s : State} {uniqueId : String} (hk : k' ≠ k)
    (hfresh : s.flights uniqueId = none) (x : String) :
    inFlight k s x + (tapped k s (.submit k' uniqueId)).count x =
      ((answers k s (.submit k' uniqueId)).map Prod.fst ++
        dropped k s (.submit k' uniqueId)).count x + inFlight k (submit s k' uniqueId) x := by
  have htapped : tapped k s (.submit k' uniqueId) = [] := if_neg hk
  have hanswers : answers k s (.submit k' uniqueId) = [] := if_neg hk
  have hdropped : dropped k s (.submit k' uniqueId) = [] := by simp [dropped, Answered, hk]
  have hflights : inFlight k (submit s k' uniqueId) x = inFlight k s x := by
    rcases submit_cases s k' uniqueId with ⟨_, -, -, heq⟩ | ⟨-, -, heq⟩ | ⟨-, -, -, -, heq⟩ |
      ⟨path, data, doc, -, -, -, heq⟩
    · rw [heq]
      rfl
    · rw [heq]
      rfl
    · rw [heq]
    · have hupdate : (submit s k' uniqueId).flights =
          Function.update s.flights uniqueId (some (.putData k' path data doc)) := by rw [heq]
      rw [inFlight_of_update hupdate]
      by_cases hx : x = uniqueId
      · simp [inFlight, hx, hfresh, Flight.screen, hk]
      · rw [if_neg hx]
  rw [htapped, hanswers, hdropped, hflights]
  simp

/-- An upload that has ended goes on to `addDocument`, or the tap is dropped. -/
theorem putDataDone_balance {k k' : ScreenId} {s : State} {uniqueId path : String} {data : Data}
    {doc : Document} (result : PutResult)
    (hflight : s.flights uniqueId = some (.putData k' path data doc))
    (halive : (s.screens k).alive = true) (x : String) :
    inFlight k s x = (dropped k s (.putDataDone uniqueId result)).count x +
      inFlight k (putDataDone s uniqueId result k' path data doc) x := by
  rw [inFlight_of_update (putDataDone_flights ..)]
  by_cases hk : k' = k
  · subst hk
    rw [halive]
    by_cases hx : x = uniqueId
    · cases result <;>
        simp [inFlight, hx, hflight, dropped, Answered, Flight.screen, PutResult.metadata,
          PutResult.error, putDataCallback, Event.submission]
    · cases result <;>
        simp [hx, Ne.symm hx, hflight, dropped, Answered, Flight.screen, Event.submission]
  · -- not screen `k`'s, before or after
    have hdropped : dropped k s (.putDataDone uniqueId result) = [] := by
      simp [dropped, Answered, hflight, Flight.screen, hk]
    have hafter : ((putDataCallback (s.screens k').alive (result.metadata path) result.error doc).map
        (Flight.addDocument k')).map Flight.screen ≠ some k := by
      simp [Option.map_map, Function.comp_def, Flight.screen, hk]
    rw [hdropped, if_neg hafter]
    by_cases hx : x = uniqueId
    · simp [inFlight, hx, hflight, Flight.screen, hk]
    · simp [hx]

/-- An `addDocument` that has ended is answered. -/
theorem addDocumentDone_balance {k k' : ScreenId} {s : State} {uniqueId : String} {doc : Document}
    (error : Option String) (hflight : s.flights uniqueId = some (.addDocument k' doc))
    (halive : (s.screens k).alive = true) (x : String) :
    inFlight k s x = ((answers k s (.addDocumentDone uniqueId error)).map Prod.fst).count x +
      inFlight k (addDocumentDone s uniqueId error k' doc) x := by
  rw [inFlight_of_update (addDocumentDone_flights ..)]
  by_cases hk : k' = k
  · subst hk
    have hanswers : (answers k' s (.addDocumentDone uniqueId error)).map Prod.fst = [uniqueId] := by
      cases error <;> simp [answers, hflight, addDocumentCallback, halive]
    rw [hanswers]
    by_cases hx : x = uniqueId
    · simp [inFlight, hx, hflight, Flight.screen]
    · simp [hx, Ne.symm hx]
  · have hanswers : answers k s (.addDocumentDone uniqueId error) = [] := by
      simp [answers, hflight, hk]
    rw [hanswers]
    by_cases hx : x = uniqueId
    · simp [inFlight, hx, hflight, Flight.screen, hk]
    · simp [hx]

/-- Every step of screen `k` is accounted for, as long as it stays open. -/
theorem step_balance {k : ScreenId} {s s' : State} {e : Event}
    (hused : ∀ uniqueId f, s.flights uniqueId = some f → uniqueId ∈ s.usedIds)
    (halive : (s.screens k).alive = true) (halive' : (s'.screens k).alive = true)
    (h : step s e = some s') (x : String) :
    inFlight k s x + (tapped k s e).count x =
      ((answers k s e).map Prod.fst ++ dropped k s e).count x + inFlight k s' x := by
  cases e with
  | submit k' uniqueId =>
    obtain ⟨⟨-, hnew⟩, h⟩ := Option.ite_none_right_eq_some.mp h
    injection h with h
    subst h
    have hfresh : s.flights uniqueId = none := by
      rw [Option.eq_none_iff_forall_ne_some]
      exact fun f hf => hnew (hused uniqueId f hf)
    by_cases hk : k' = k
    · subst hk
      exact submit_balance hfresh halive' x
    · exact submit_balance_of_ne hk hfresh x
  | putDataDone uniqueId result =>
    simp only [step] at h
    split at h
    · next k' path data doc hflight =>
      injection h with h
      subst h
      simpa [tapped, answers] using putDataDone_balance result hflight halive x
    · cases h
  | addDocumentDone uniqueId error =>
    simp only [step] at h
    split at h
    · next k' doc hflight =>
      injection h with h
      subst h
      have hdropped : dropped k s (.addDocumentDone uniqueId error) = [] := if_pos trivial
      rw [hdropped, List.append_nil]
      exact addDocumentDone_balance error hflight halive x
    · cases h
  | _ =>
    obtain ⟨k', screen, rfl, -⟩ := step_setScreen h rfl
    simp [tapped, answers, dropped, Answered, inFlight, State.setScreen]

-- ---------------------------------------------------------------------------
-- Successes
-- ---------------------------------------------------------------------------

theorem formError_title {form : Form} {alert : Alert} (h : formError form = some alert) :
    alert.title = "Error" := by
  unfold formError at h
  repeat' split at h
  all_goals cases h
  all_goals rfl

/-- On a screen that is there, the answers that report a success are those of documents added. -/
theorem step_successes {k : ScreenId} {s : State} (halive : (s.screens k).alive = true)
    (e : Event) :
    ((answers k s e).filter fun answer => answer.2.title == "Success").map Prod.fst =
      (added k s e).map Prod.fst := by
  cases e with
  | submit k' uniqueId =>
    simp only [answers, added]
    split
    · split
      · next alert htap =>
        have hform : formError (s.screens k).form = some alert := submitTapped_eq_alert.mp htap
        simp [formError_title hform]
      · rfl
    · rfl
  | addDocumentDone uniqueId error =>
    cases hflight : s.flights uniqueId with
    | none => cases error <;> simp [answers, added, hflight]
    | some flight =>
      cases flight with
      | putData => cases error <;> simp [answers, added, hflight]
      | addDocument k' doc =>
        by_cases hk : k' = k <;> cases error <;>
          simp [answers, added, hflight, hk, addDocumentCallback, halive]
  | _ => rfl

-- ---------------------------------------------------------------------------
-- The exact condition
-- ---------------------------------------------------------------------------

/-- Screen `k` is there before the step and after it. -/
def StaysOpen (k : ScreenId) (s : State) (e : Event) : Prop :=
  (s.screens k).alive = true ∧ ∀ s', step s e = some s' → (s'.screens k).alive = true

/-- The taps of a screen that stays open, once nothing is in flight, are those answered and those
dropped. -/
theorem tapped_perm {screens : ScreenId → Screen} {k : ScreenId} {es : List Event} {t : State}
    (h : Run step (initial screens) es t) (hopen : Always step (StaysOpen k) (initial screens) es)
    (hquiet : t.Quiescent) :
    (collect step (tapped k) (initial screens) es).Perm
      ((collect step (answers k) (initial screens) es).map Prod.fst ++
        collect step (dropped k) (initial screens) es) := by
  have hinv : ∀ s e s', (∃ l, Tracks s l) → step s e = some s' → ∃ l, Tracks s' l := by
    rintro s e s' ⟨l, hl⟩ hstep
    obtain ⟨l', hl', -⟩ := step_tracks hl hstep
    exact ⟨l', hl'⟩
  have hstep : ∀ s e s', (∃ l, Tracks s l) → StaysOpen k s e → step s e = some s' → ∀ x,
      inFlight k s x + (tapped k s e).count x =
        ((answers k s e).map Prod.fst ++ dropped k s e).count x + inFlight k s' x := by
    rintro s e s' ⟨l, hl⟩ ⟨halive, halive'⟩ hstep x
    exact step_balance (fun _ _ hf => hl.used_of_flight hf) halive (halive' s' hstep) hstep x
  have hnone : ∀ x, inFlight k t x = 0 := by
    intro x
    simp [inFlight, hquiet x]
  have hperm : (collect step (tapped k) (initial screens) es).Perm
      (collect step (fun s e => (answers k s e).map Prod.fst ++ dropped k s e)
        (initial screens) es) := by
    rw [List.perm_iff_count]
    intro x
    have hbalance := h.balance hinv hstep hopen ⟨Ledger.empty, tracks_initial screens⟩ x
    rw [hnone] at hbalance
    simpa [inFlight, initial] using hbalance
  rw [← collect_map]
  exact hperm.trans (collect_append_perm _ _ _ _)

/-- **Every tap on Submit is answered**, on a screen that stays open and once nothing is in
flight, exactly if each tap that passes the form checks finds an image with a PNG encoding and
each upload ends with metadata. -/
theorem every_tap_answered_iff {screens : ScreenId → Screen} {k : ScreenId} {es : List Event}
    {t : State} (h : Run step (initial screens) es t) (halive : (t.screens k).alive = true)
    (hquiet : t.Quiescent) :
    EveryTapAnswered k screens es t ↔ Always step (Answered k) (initial screens) es := by
  have hopen : Always step (StaysOpen k) (initial screens) es :=
    (h.always_of_end (fun _ _ _ hstep => (step_screen hstep).2) halive).2
  have hperm := tapped_perm h hopen hquiet
  -- nothing is dropped exactly if every step answers
  have hdropped : collect step (dropped k) (initial screens) es = [] ↔
      Always step (Answered k) (initial screens) es := by
    rw [collect_eq_nil_iff]
    exact always_congr (dropped_eq_nil_iff k) _ _
  rw [← hdropped]
  constructor
  · intro hanswered
    have hlength := (hanswered.once.trans hperm).length_eq
    rw [List.length_append] at hlength
    exact List.length_eq_zero_iff.mp (by omega)
  · intro hnone
    refine ⟨?_, ?_, ?_, ?_⟩
    · -- the alerts are the answers
      have hshown : ∀ seen s e s',
          (s.screens k).alerts = (screens k).alerts ++ seen.map Prod.snd → step s e = some s' →
          (s'.screens k).alerts =
            (screens k).alerts ++ (seen ++ answers k s e).map Prod.snd := by
        intro seen s e s' hs hstep
        rw [(step_screen hstep).1, hs, List.map_append, List.append_assoc]
      have hend : (t.screens k).alerts = (screens k).alerts ++
          ([] ++ collect step (answers k) (initial screens) es).map Prod.snd :=
        h.collect_invariant hshown (List.append_nil _).symm
      rw [List.nil_append] at hend
      exact hend
    · rw [hnone, List.append_nil] at hperm
      exact hperm.symm
    · -- the successes are the documents added, tap by tap
      have hsame : collect step (fun s e => ((answers k s e).filter fun answer =>
            answer.2.title == "Success").map Prod.fst) (initial screens) es =
          collect step (fun s e => (added k s e).map Prod.fst) (initial screens) es :=
        collect_congr (hopen.mono fun s e hs => step_successes hs.1 e)
      rw [collect_map, collect_map, collect_filter] at hsame
      simpa using congrArg List.length hsame
    · exact always_of_forall_mem (fun e _ s => rejectedStartsNothing k s e) _

/-- A tap that is uploaded, and one on an emptied form while the upload is under way. -/
def tapsAnswered : List Event :=
  [.submit 0 "U1", .putDataDone "U1" .stored, .edit 0 { hobbitForm with txtTitle := some "" },
    .submit 0 "U2", .addDocumentDone "U1" none]

theorem taps_are_answered :
    ∃ t, Run step (initial filledScreens) tapsAnswered t ∧
      (t.screens 0).alerts.map Alert.message =
        ["Title not entered", "Book Uploaded Successfully"] ∧
      EveryTapAnswered 0 filledScreens tapsAnswered t := by
  refine ⟨_, rfl, rfl, Iff.mpr (every_tap_answered_iff rfl rfl ?_) ?_⟩
  · intro id
    by_cases hid : id = "U1"
    · subst hid
      rfl
    · exact (Function.update_of_ne hid _ _).trans ((Function.update_of_ne hid _ _).trans
        (Function.update_of_ne hid _ _))
  · refine ⟨fun _ _ _ => rfl, fun _ => rfl, trivial, ?_, trivial, trivial⟩
    -- the second tap does not pass the checks
    intro _ hform
    cases hform

/-- The tap passes all checks, and its upload fails: nothing is in flight any more, the screen is
still there, and no alert was shown. -/
theorem failed_upload_says_nothing :
    ∃ t, Run step (initial filledScreens)
        [.submit 0 "U1", .putDataDone "U1" (.failed "offline")] t ∧
      (t.screens 0).alive = true ∧ t.Quiescent ∧ (t.screens 0).alerts = [] ∧
      ¬EveryTapAnswered 0 filledScreens
        [.submit 0 "U1", .putDataDone "U1" (.failed "offline")] t := by
  refine ⟨_, rfl, rfl, ?_, rfl, ?_⟩
  · intro id
    by_cases hid : id = "U1"
    · subst hid
      rfl
    · exact (Function.update_of_ne hid _ _).trans (Function.update_of_ne hid _ _)
  · intro hanswered
    have hlength := hanswered.once.length_eq
    cases hlength

end Bookshare.Upload
