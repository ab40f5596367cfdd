import Bookshare.Library.Machine
import Bookshare.Model.Otp

/-!
# The boxes of the one-time password as a row

The four boxes are meant to be a row with a cursor: each takes one character,
filling one moves the cursor to the right and clearing one moves it to the left.
`edit_eq` says what an edit does to the texts and to the cursor: the box takes the
string whole, and the cursor moves as in a row, but that the third box keeps it
when it is cleared.

Main results:

* `boxes_are_row_iff` — the boxes are such a row exactly if no edit brings more
  than one character and none clears the third box;
* `third_box_keeps_cursor` — one that does.
-/

namespace Bookshare.Otp

open Machine OTPViewController

variable {Character : Type*}

/-- An edit of a text field, which is the first responder then. -/
structure Edit (Character : Type*) where
  textField : OTPField
  range : NSRange
  string : List Character

/-- What an edit does: what the delegate does, and what the text field does if it is let to. -/
def edit (vc : OTPViewController Character) (e : Edit Character) : OTPViewController Character :=
  let answer := (vc.becomeFirstResponder e.textField).shouldChangeCharacters e.textField e.range
    e.string
  if answer.2 then answer.1.replaceCharacters e.textField e.range e.string else answer.1

def step (vc : OTPViewController Character) (e : Edit Character) :
    Option (OTPViewController Character) := some (edit vc e)

/-- The box on the right, if there is one. -/
def right : OTPField → Option OTPField
  | .txtFirst => some .txtSecond
  | .txtSecond => some .txtThird
  | .txtThird => some .txtFourth
  | .txtFourth => none

/-- The box on the left, if there is one. -/
def left : OTPField → Option OTPField
  | .txtFirst => none
  | .txtSecond => some .txtFirst
  | .txtThird => some .txtSecond
  | .txtFourth => some .txtThird

def OneCharacterEach (vc : OTPViewController Character) : Prop :=
  ∀ textField, (vc.text textField).length ≤ 1

/-- An edit changes no other box; filling the box moves the cursor to the right, and clearing it
to the left, and either ends editing where there is no box. -/
structure Moves (vc : OTPViewController Character) (e : Edit Character) : Prop where
  others : ∀ other ≠ e.textField, (edit vc e).text other = vc.text other
  fills : vc.text e.textField = [] → (edit vc e).text e.textField ≠ [] →
    (edit vc e).firstResponder = right e.textField
  clears : vc.text e.textField ≠ [] → (edit vc e).text e.textField = [] →
    (edit vc e).firstResponder = left e.textField

/-- The edit brings at most one character. -/
def BringsOne (_ : OTPViewController Character) (e : Edit Character) : Prop := e.string.length ≤ 1

/-- The edit does not clear the third box. -/
def KeepsThird (vc : OTPViewController Character) (e : Edit Character) : Prop :=
  ¬(e.textField = .txtThird ∧ vc.text .txtThird ≠ [] ∧ e.string = [])

-- ---------------------------------------------------------------------------
-- An edit
-- ---------------------------------------------------------------------------

/-- Where an edit leaves the cursor. -/
def cursorAfter (vc : OTPViewController Character) (e : Edit Character) : Option OTPField :=
  if vc.text e.textField = [] ∧ e.string ≠ [] then right e.textField
  else if vc.text e.textField ≠ [] ∧ e.string = [] then
    if e.textField = .txtThird then some .txtThird else left e.textField
  else some e.textField

/-- After an edit the box holds the string, whatever it held before. -/
theorem edit_eq (vc : OTPViewController Character) (e : Edit Character) :
    edit vc e =
      { text := Function.update vc.text e.textField e.string
        firstResponder := cursorAfter vc e } := by
  obtain ⟨textField, range, string⟩ := e
  cases htext : vc.text textField with
  | nil =>
    cases string with
    | nil =>
      -- the text field makes the edit itself
      simp [edit, cursorAfter, shouldChangeCharacters, replaceCharacters, becomeFirstResponder,
        setText, htext]
    | cons c cs =>
      -- filled, and the cursor goes to the right
      cases textField <;>
        simp [edit, cursorAfter, shouldChangeCharacters, becomeFirstResponder,
          resignFirstResponder, setText, right, htext]
  | cons old rest =>
    cases string with
    | nil =>
      -- cleared, and the cursor goes to the left, or stays in the third box
      cases textField <;>
        simp [edit, cursorAfter, shouldChangeCharacters, becomeFirstResponder,
          resignFirstResponder, setText, left, htext]
    | cons c cs =>
      -- replaced
      simp [edit, cursorAfter, shouldChangeCharacters, becomeFirstResponder, setText, htext]

@[simp] theorem edit_text (vc : OTPViewController Character) (e : Edit Character) :
    (edit vc e).text = Function.update vc.text e.textField e.string := by
  rw [edit_eq]

@[simp] theorem edit_firstResponder (vc : OTPViewController Character) (e : Edit Character) :
    (edit vc e).firstResponder = cursorAfter vc e := by
  rw [edit_eq]

/-- A box holds one character after an edit exactly if the edit brought no more. -/
theorem step_oneCharacterEach_iff {vc vc' : OTPViewController Character} {e : Edit Character}
    (hvc : OneCharacterEach vc) (h : step vc e = some vc') :
    OneCharacterEach vc' ↔ BringsOne vc e := by
  injection h with h
  subst h
  rw [OneCharacterEach, edit_text]
  constructor
  · intro hone
    have hbox := hone e.textField
    rw [Function.update_self] at hbox
    exact hbox
  · intro hstring textField
    by_cases heq : textField = e.textField
    · rw [heq, Function.update_self]
      exact hstring
    · rw [Function.update_of_ne heq]
      exact hvc textField

/-- The cursor moves as in a row, but when the third box is cleared. -/
theorem moves_iff (vc : OTPViewController Character) (e : Edit Character) :
    Moves vc e ↔ KeepsThird vc e := by
  constructor
  · rintro hmoves ⟨hthird, htext, hstring⟩
    -- the cursor stays in the third box
    have hcursor : (edit vc e).firstResponder = some .txtThird := by
      simp [cursorAfter, hthird, htext, hstring]
    have hcleared : (edit vc e).text e.textField = [] := by simp [hstring]
    rw [← hthird] at htext
    have hleft := hmoves.clears htext hcleared
    rw [hcursor, hthird] at hleft
    cases hleft
  · intro hkeeps
    refine ⟨?_, ?_, ?_⟩
    · intro other hother
      rw [edit_text]
      exact Function.update_of_ne hother _ _
    · intro htext hfilled
      rw [edit_text, Function.update_self] at hfilled
      rw [edit_firstResponder]
      exact if_pos ⟨htext, hfilled⟩
    · intro htext hcleared
      rw [edit_text, Function.update_self] at hcleared
      have hnot : e.textField ≠ .txtThird := fun hthird =>
        hkeeps ⟨hthird, hthird ▸ htext, hcleared⟩
      simp [cursorAfter, htext, hcleared, hnot]

-- ---------------------------------------------------------------------------
-- The exact condition
-- ---------------------------------------------------------------------------

/-- **The boxes are a row with a moving cursor**, in every state of a run and at each of its
edits, exactly if no edit brings more than one character and none clears the third box. -/
theorem boxes_are_row_iff {es : List (Edit Character)} {t : OTPViewController Character}
    (h : Run step initial es t) :
    (Throughout step OneCharacterEach initial es ∧ Always step Moves initial es) ↔
      Always step (fun vc e => BringsOne vc e ∧ KeepsThird vc e) initial es := by
  have hempty : OneCharacterEach (initial : OTPViewController Character) :=
    fun _ => Nat.zero_le 1
  have hone : Throughout step OneCharacterEach initial es ↔ Always step BringsOne initial es :=
    throughout_iff_always (J := fun _ => True) (fun _ _ _ _ _ => trivial)
      (fun _ _ _ _ hvc hstep => step_oneCharacterEach_iff hvc hstep) h trivial hempty
  rw [hone, always_congr moves_iff, always_and]

/-- A code is typed from left to right and deleted again down to its third digit. -/
def typedCode : List (Edit Char) :=
  [⟨.txtFirst, ⟨0, 0⟩, ['1']⟩, ⟨.txtSecond, ⟨0, 0⟩, ['2']⟩, ⟨.txtThird, ⟨0, 0⟩, ['3']⟩,
    ⟨.txtFourth, ⟨0, 0⟩, ['4']⟩, ⟨.txtFourth, ⟨0, 1⟩, []⟩]

theorem typed_code_moves :
    Throughout step OneCharacterEach initial typedCode ∧ Always step Moves initial typedCode := by
  refine Iff.mpr (boxes_are_row_iff rfl) ?_
  simp [Always, typedCode, BringsOne, KeepsThird, step]

/-- The third box is filled and cleared again: the cursor stays there. A password is pasted into
the first box: all of it goes there. -/
theorem third_box_keeps_cursor :
    (∃ s t, Run step initial [(⟨.txtThird, ⟨0, 0⟩, ['3']⟩ : Edit Char)] s ∧
      Run step s [⟨.txtThird, ⟨0, 1⟩, []⟩] t ∧ t.text .txtThird = [] ∧
      t.firstResponder = some .txtThird ∧ ¬Moves s ⟨.txtThird, ⟨0, 1⟩, []⟩) ∧
    (∃ t, Run step initial [(⟨.txtFirst, ⟨0, 0⟩, ['1', '2', '3', '4']⟩ : Edit Char)] t ∧
      t.text .txtFirst = ['1', '2', '3', '4'] ∧ ¬OneCharacterEach t) := by
  refine ⟨⟨_, _, rfl, rfl, rfl, rfl, ?_⟩, _, rfl, rfl, ?_⟩
  · intro hmoves
    have hleft := hmoves.clears (List.cons_ne_nil _ _) rfl
    cases hleft
  · intro hone
    have hfour : 4 ≤ 1 := hone .txtFirst
    omega

end Bookshare.Otp
