import Bookshare.Otp.Row

/-!
# The boxes under the keyboard

The row of boxes as the user of the keyboard meets it: a key goes to the first
responder, with the caret at the end of its text, and there is no key when editing
is over. A character typed moves the cursor to an empty box, where Backspace finds
nothing to delete; so the boxes always read what was typed, and Backspace does not
take any of it back.

Main result: `code_is_typed`.
-/

namespace Bookshare.Otp

open Machine OTPViewController

variable {Character : Type*}

inductive Key (Character : Type*) where
  | character (c : Character)
  | backspace

/-- The string that a key puts in the place of the range. -/
def Key.string : Key Character → List Character
  | .character c => [c]
  | .backspace => []

/-- The range that a key replaces in `text`, with the caret at its end. -/
def Key.range (text : List Character) : Key Character → NSRange
  | .character _ => { location := text.length, length := 0 }
  | .backspace => { location := text.length - 1, length := min 1 text.length }

/-- A key is pressed. -/
def press (vc : OTPViewController Character) (key : Key Character) :
    Option (OTPViewController Character) :=
  vc.firstResponder.map fun textField =>
    edit vc { textField, range := key.range (vc.text textField), string := key.string }

/-- The boxes from left to right. -/
def row : List OTPField := [.txtFirst, .txtSecond, .txtThird, .txtFourth]

/-- What the boxes read. -/
def code (vc : OTPViewController Character) : List Character := row.flatMap vc.text

def typed (keys : List (Key Character)) : List Character := keys.flatMap Key.string

/-- What the box at `i` holds after `chars` were typed from the box at `start` on. -/
def boxText (start : Nat) (chars : List Character) (i : Nat) : List Character :=
  if i < start then [] else chars[i - start]?.toList

/-- `chars` were typed from the box at `start` on, and the cursor is at the next box. -/
structure Filled (start : Nat) (chars : List Character) (vc : OTPViewController Character) :
    Prop where
  text : ∀ i textField, row[i]? = some textField → vc.text textField = boxText start chars i
  firstResponder : vc.firstResponder = row[start + chars.length]?
  length : start + chars.length ≤ row.length

-- ---------------------------------------------------------------------------
-- The row
-- ---------------------------------------------------------------------------

theorem row_idxOf (textField : OTPField) : row[row.idxOf textField]? = some textField := by
  cases textField <;> rfl

/-- The box on the right is the next in the row. -/
theorem right_eq {i : Nat} {textField : OTPField} (h : row[i]? = some textField) :
    right textField = row[i + 1]? := by
  match i with
  | 0 | 1 | 2 | 3 =>
    injection h with h
    subst h
    rfl
  | i + 4 => cases h

theorem row_injective {i j : Nat} {textField : OTPField} (hi : row[i]? = some textField)
    (hj : row[j]? = some textField) : i = j := by
  have hlt := (List.getElem?_eq_some_iff.mp hi).1
  exact (List.getElem?_inj hlt (by decide)).mp (hi.trans hj.symm)

/-- Typing one more character changes the next box alone. -/
theorem boxText_concat (start : Nat) (chars : List Character) (c : Character) (i : Nat) :
    boxText start (chars ++ [c]) i =
      if i = start + chars.length then [c] else boxText start chars i := by
  unfold boxText
  by_cases hbefore : i < start
  · rw [if_pos hbefore, if_pos hbefore, if_neg (by omega)]
  · rw [if_neg hbefore, if_neg hbefore]
    rcases Nat.lt_trichotomy (i - start) chars.length with hlt | heq | hgt
    · rw [List.getElem?_append_left hlt, if_neg (by omega)]
    · rw [heq, List.getElem?_concat_length, if_pos (by omega)]
      rfl
    · have hlength : (chars ++ [c]).length ≤ i - start := by
        rw [List.length_append, List.length_singleton]
        exact hgt
      rw [List.getElem?_eq_none hlength, List.getElem?_eq_none (Nat.le_of_lt hgt),
        if_neg (by omega)]

/-- Boxes that hold `chars` from one of them on read `chars`. -/
theorem flatMap_boxText {l : List OTPField} {text : OTPField → List Character} {start : Nat}
    {chars : List Character} (hlength : start + chars.length ≤ l.length)
    (htext : ∀ i textField, l[i]? = some textField → text textField = boxText start chars i) :
    l.flatMap text = chars := by
  induction l generalizing start chars with
  | nil =>
    have hnone : chars = [] := by
      rw [List.length_nil] at hlength
      exact List.eq_nil_of_length_eq_zero (by omega)
    rw [hnone, List.flatMap_nil]
  | cons textField l ih =>
    rw [List.length_cons] at hlength
    rw [List.flatMap_cons, htext 0 textField rfl]
    cases start with
    | succ start =>
      -- the first box is before those typed in
      refine @ih start chars (by omega) fun i other hother => ?_
      rw [htext (i + 1) other hother]
      simp [boxText]
    | zero =>
      cases chars with
      | nil =>
        refine @ih 0 [] (Nat.zero_le _) fun i other hother => ?_
        rw [htext (i + 1) other hother]
        simp [boxText]
      | cons c cs =>
        rw [List.length_cons] at hlength
        have hrest : l.flatMap text = cs := by
          refine @ih 0 cs (by omega) fun i other hother => ?_
          rw [htext (i + 1) other hother]
          simp [boxText]
        rw [hrest]
        rfl

-- ---------------------------------------------------------------------------
-- Keys
-- ---------------------------------------------------------------------------

theorem filled_initial (start : OTPField) :
    Filled (row.idxOf start) []
      ((initial : OTPViewController Character).becomeFirstResponder start) where
  text := by
    intro i textField _
    simp [boxText, becomeFirstResponder, initial]
  firstResponder := (row_idxOf start).symm
  length := Nat.le_of_lt (List.getElem?_eq_some_iff.mp (row_idxOf start)).1

theorem step_filled {start : Nat} {chars : List Character} {vc vc' : OTPViewController Character}
    {key : Key Character} (h : Filled start chars vc) (hpress : press vc key = some vc') :
    Filled start (chars ++ key.string) vc' := by
  obtain ⟨textField, hfocus, rfl⟩ := Option.map_eq_some_iff.mp hpress
  have hrow : row[start + chars.length]? = some textField := h.firstResponder ▸ hfocus
  -- the cursor is at an empty box
  have hempty : vc.text textField = [] := by
    rw [h.text _ _ hrow]
    simp [boxText]
  cases key with
  | backspace =>
    have hsame : Function.update vc.text textField [] = vc.text := by
      rw [← hempty, Function.update_eq_self]
    refine ⟨fun i other hother => ?_, ?_, ?_⟩
    · rw [edit_text, Key.string, hsame, List.append_nil]
      exact h.text i other hother
    · rw [edit_firstResponder, Key.string, List.append_nil, ← h.firstResponder, hfocus]
      simp [cursorAfter, hempty]
    · rw [Key.string, List.append_nil]
      exact h.length
  | character c =>
    refine ⟨fun i other hother => ?_, ?_, ?_⟩
    · rw [edit_text, Key.string, boxText_concat]
      by_cases hi : i = start + chars.length
      · subst hi
        have hsame : textField = other := Option.some.inj (hrow.symm.trans hother)
        rw [← hsame, Function.update_self, if_pos rfl]
      · have hother' : other ≠ textField := by
          rintro rfl
          exact hi (row_injective hother hrow)
        rw [Function.update_of_ne hother', if_neg hi]
        exact h.text i other hother
    · rw [edit_firstResponder, Key.string, List.length_append, List.length_singleton,
        ← Nat.add_assoc, ← right_eq hrow]
      simp [cursorAfter, hempty]
    · have hlt := (List.getElem?_eq_some_iff.mp hrow).1
      rw [Key.string, List.length_append, List.length_singleton]
      omega

/-- **The boxes read what was typed.** Whichever empty box it starts in, and whatever keys are
pressed: the boxes read the characters typed, in order and each in a box of its own, the cursor is
at the box after the last, or nowhere when there is none, and Backspace has taken nothing back. -/
theorem code_is_typed {start : OTPField} {keys : List (Key Character)}
    {t : OTPViewController Character}
    (h : Run press (initial.becomeFirstResponder start) keys t) :
    code t = typed keys ∧ OneCharacterEach t ∧
      t.firstResponder = row[row.idxOf start + (typed keys).length]? := by
  have hend : Filled (row.idxOf start) (typed ([] ++ collect press (fun _ key => [key])
      (initial.becomeFirstResponder start) keys)) t := by
    refine h.collect_invariant (I := fun seen vc => Filled (row.idxOf start) (typed seen) vc) ?_
      (filled_initial start)
    intro seen vc key vc' hvc hpress
    rw [typed, List.flatMap_append, List.flatMap_singleton]
    exact step_filled hvc hpress
  rw [h.collect_event, List.nil_append] at hend
  refine ⟨flatMap_boxText hend.length hend.text, fun textField => ?_, hend.firstResponder⟩
  rw [hend.text _ _ (row_idxOf textField)]
  unfold boxText
  split
  · exact Nat.zero_le 1
  · cases (typed keys)[row.idxOf textField - row.idxOf start]? <;> simp

/-- Backspace after the second character finds the third box empty. -/
theorem backspace_takes_nothing_back :
    ∃ t, Run press ((initial : OTPViewController Char).becomeFirstResponder .txtFirst)
        [.character '1', .character '2', .backspace, .character '3', .character '4'] t ∧
      code t = ['1', '2', '3', '4'] ∧ t.firstResponder = none := by
  obtain ⟨t, hrun⟩ : ∃ t,
      Run press ((initial : OTPViewController Char).becomeFirstResponder .txtFirst)
        [.character '1', .character '2', .backspace, .character '3', .character '4'] t := ⟨_, rfl⟩
  obtain ⟨hcode, -, hcursor⟩ := code_is_typed hrun
  exact ⟨t, hrun, hcode, hcursor⟩

end Bookshare.Otp
