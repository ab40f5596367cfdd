import Mathlib.Logic.Function.Basic

/-!
# Controllers/OTPViewController.swift

The four boxes of the one-time password and the delegate method that is asked
before one of them changes. A text is the list of its characters, as `count`
counts them.

Assumed of UIKit: an edit goes to the first responder, and the text field makes
it itself if the delegate lets it through.
-/

namespace Bookshare

/-- The text fields of the screen, from left to right. -/
inductive OTPField where
  | txtFirst
  | txtSecond
  | txtThird
  | txtFourth
  deriving DecidableEq, Repr

structure NSRange where
  location : Nat
  length : Nat
  deriving DecidableEq, Repr

structure OTPViewController (Character : Type*) where
  text : OTPField → List Character
  firstResponder : Option OTPField

namespace OTPViewController

variable {Character : Type*}

/-- The screen with its boxes empty. -/
def initial : OTPViewController Character where
  text := fun _ => []
  firstResponder := none

def becomeFirstResponder (vc : OTPViewController Character) (textField : OTPField) :
    OTPViewController Character :=
  { vc with firstResponder := some textField }

def resignFirstResponder (vc : OTPViewController Character) (textField : OTPField) :
    OTPViewController Character :=
  if vc.firstResponder = some textField then { vc with firstResponder := none } else vc

/-- `textField.text = text` -/
def setText (vc : OTPViewController Character) (textField : OTPField) (text : List Character) :
    OTPViewController Character :=
  { vc with text := Function.update vc.text textField text }

/-- `textField(_:shouldChangeCharactersIn:replacementString:)`; `range` is not looked at. -/
def shouldChangeCharacters (vc : OTPViewController Character) (textField : OTPField)
    (_range : NSRange) (string : List Character) : OTPViewController Character × Bool :=
  if (vc.text textField).length < 1 ∧ string.length > 0 then
    let vc := if textField = .txtFirst then vc.becomeFirstResponder .txtSecond else vc
    let vc := if textField = .txtSecond then vc.becomeFirstResponder .txtThird else vc
    let vc := if textField = .txtThird then vc.becomeFirstResponder .txtFourth else vc
    let vc := if textField = .txtFourth then vc.resignFirstResponder .txtFourth else vc
    (vc.setText textField string, false)
  -- not working
  else if (vc.text textField).length ≥ 1 ∧ string.length = 0 then
    let vc := if textField = .txtSecond then vc.becomeFirstResponder .txtFirst else vc
    -- not the box on its left
    let vc := if textField = .txtThird then vc.becomeFirstResponder .txtThird else vc
    let vc := if textField = .txtFourth then vc.becomeFirstResponder .txtThird else vc
    let vc := if textField = .txtFirst then vc.resignFirstResponder .txtFirst else vc
    (vc.setText textField [], false)
  else if (vc.text textField).length ≥ 1 then
    (vc.setText textField string, false)
  else (vc, true)

/-- The text field replaces the characters in `range` itself. -/
def replaceCharacters (vc : OTPViewController Character) (textField : OTPField) (range : NSRange)
    (string : List Character) : OTPViewController Character :=
  let text := vc.text textField
  vc.setText textField
    (text.take range.location ++ string ++ text.drop (range.location + range.length))

end OTPViewController

end Bookshare
