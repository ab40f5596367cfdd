import Mathlib.Data.Nat.Digits.Defs
import Mathlib.Data.List.Basic
import Mathlib.Tactic.Ring

/-!
# Decimal integers in text

`Denotes text n` says what it is for a text to be a decimal integer: an optional
sign and at least one digit, read in base ten. `parse` is the left-to-right scan
a standard library performs, with the bounds check of a `w`-bit two's complement
integer. `parse_of_denotes` relates the two: on a decimal integer, `parse` yields
it if it fits the width, and fails if not. `denotes_toString` is the way back: what
a number is printed as denotes it.
-/

namespace Decimal

/-! ## What a decimal integer is -/

def digitChar (d : Fin 10) : Char := Char.ofNat (48 + d.val)

/-- The natural number a sequence of digits stands for, most significant first. -/
def value (ds : List (Fin 10)) : Nat := Nat.ofDigits 10 (ds.reverse.map Fin.val)

/-- `text` is a decimal integer, and the integer is `n`. -/
inductive Denotes : List Char → Int → Prop
  | plain (ds : List (Fin 10)) (h : ds ≠ []) : Denotes (ds.map digitChar) (value ds)
  | plus (ds : List (Fin 10)) (h : ds ≠ []) : Denotes ('+' :: ds.map digitChar) (value ds)
  | minus (ds : List (Fin 10)) (h : ds ≠ []) : Denotes ('-' :: ds.map digitChar) (-value ds)

/-- `n` is an integer of `w` bits. -/
def Fits (w : Nat) (n : Int) : Prop := -2 ^ (w - 1) ≤ n ∧ n < 2 ^ (w - 1)

instance (w : Nat) (n : Int) : Decidable (Fits w n) := inferInstanceAs (Decidable (_ ∧ _))

/-! ## The scan -/

def digit (c : Char) : Option Nat :=
  if 48 ≤ c.toNat ∧ c.toNat ≤ 57 then some (c.toNat - 48) else none

/-- Read digits to the end of the text, `acc` being the value of those read. -/
def scan : Nat → List Char → Option Nat
  | acc, [] => some acc
  | acc, c :: cs => (digit c).bind fun d => scan (10 * acc + d) cs

/-- A nonempty sequence of digits. -/
def natural : List Char → Option Nat
  | [] => none
  | c :: cs => scan 0 (c :: cs)

def integer : List Char → Option Int
  | '-' :: cs => (natural cs).map fun n : Nat => -(n : Int)
  | '+' :: cs => (natural cs).map fun n : Nat => (n : Int)
  | cs => (natural cs).map fun n : Nat => (n : Int)

def parse (w : Nat) (text : String) : Option Int :=
  (integer text.toList).bind fun n => if Fits w n then some n else none

/-! ## The scan finds what the text denotes -/

theorem digit_digitChar (d : Fin 10) : digit (digitChar d) = some d.val := by
  revert d
  decide

theorem digit_eq_some {c : Char} {n : Nat} (h : digit c = some n) :
    ∃ d : Fin 10, c = digitChar d ∧ n = d.val := by
  unfold digit at h
  split at h
  · next hc =>
    refine ⟨⟨c.toNat - 48, by omega⟩, ?_, (Option.some.inj h).symm⟩
    have hcode : 48 + (c.toNat - 48) = c.toNat := by omega
    rw [digitChar, hcode, Char.ofNat_toNat]
  · cases h

theorem value_cons (d : Fin 10) (ds : List (Fin 10)) :
    value (d :: ds) = 10 ^ ds.length * d.val + value ds := by
  simp [value, Nat.ofDigits_append]
  ring

theorem scan_digits (acc : Nat) (ds : List (Fin 10)) :
    scan acc (ds.map digitChar) = some (10 ^ ds.length * acc + value ds) := by
  induction ds generalizing acc with
  | nil => simp [scan, value]
  | cons d ds ih =>
    rw [List.map_cons, scan, digit_digitChar, Option.bind_some, ih, value_cons, List.length_cons]
    congr 1
    ring

/-- Only sequences of digits are scanned to the end. -/
theorem digits_of_scan {acc n : Nat} {cs : List Char} (h : scan acc cs = some n) :
    ∃ ds : List (Fin 10), cs = ds.map digitChar := by
  induction cs generalizing acc with
  | nil => exact ⟨[], rfl⟩
  | cons c cs ih =>
    obtain ⟨m, hm, hrest⟩ := Option.bind_eq_some_iff.mp h
    obtain ⟨d, rfl, -⟩ := digit_eq_some hm
    obtain ⟨ds, rfl⟩ := ih hrest
    exact ⟨d :: ds, rfl⟩

theorem natural_eq_some {cs : List Char} {n : Nat} :
    natural cs = some n ↔ ∃ ds : List (Fin 10), ds ≠ [] ∧ cs = ds.map digitChar ∧ n = value ds := by
  constructor
  · intro h
    cases cs with
    | nil => cases h
    | cons c cs =>
      obtain ⟨ds, hds⟩ := digits_of_scan h
      rw [natural, hds, scan_digits] at h
      refine ⟨ds, ?_, hds, ?_⟩
      · rintro rfl
        cases hds
      · simpa using h.symm
  · rintro ⟨ds, hne, rfl, rfl⟩
    cases ds with
    | nil => exact absurd rfl hne
    | cons d ds => simpa [natural] using scan_digits 0 (d :: ds)

/-- A sign is not a digit. -/
theorem digitChar_ne_sign (d : Fin 10) : digitChar d ≠ '-' ∧ digitChar d ≠ '+' := by
  revert d
  decide

theorem integer_digits {ds : List (Fin 10)} (h : ds ≠ []) :
    integer (ds.map digitChar) = some (value ds : Int) := by
  have hnat : natural (ds.map digitChar) = some (value ds) := natural_eq_some.mpr ⟨ds, h, rfl, rfl⟩
  cases ds with
  | nil => exact absurd rfl h
  | cons d ds =>
    obtain ⟨hminus, hplus⟩ := digitChar_ne_sign d
    rw [List.map_cons] at hnat ⊢
    unfold integer
    split
    · next heq => exact absurd (List.cons.inj heq).1 hminus
    · next heq => exact absurd (List.cons.inj heq).1 hplus
    · rw [hnat, Option.map_some]

theorem integer_eq_some {cs : List Char} {n : Int} : integer cs = some n ↔ Denotes cs n := by
  constructor
  · intro h
    unfold integer at h
    split at h
    all_goals
      obtain ⟨m, hm, rfl⟩ := Option.map_eq_some_iff.mp h
      obtain ⟨ds, hne, rfl, rfl⟩ := natural_eq_some.mp hm
    · exact Denotes.minus ds hne
    · exact Denotes.plus ds hne
    · exact Denotes.plain ds hne
  · intro h
    cases h with
    | plain ds hne => exact integer_digits hne
    | plus ds hne => simp [integer, natural_eq_some.mpr ⟨ds, hne, rfl, rfl⟩]
    | minus ds hne => simp [integer, natural_eq_some.mpr ⟨ds, hne, rfl, rfl⟩]

/-- A text denotes at most one integer. -/
theorem Denotes.unique {cs : List Char} {m n : Int} (hm : Denotes cs m) (hn : Denotes cs n) :
    m = n :=
  Option.some.inj ((integer_eq_some.mpr hm).symm.trans (integer_eq_some.mpr hn))

/-- On a decimal integer, `parse` yields it if it fits the width and fails if not. -/
theorem parse_of_denotes {w : Nat} {text : String} {n : Int} (h : Denotes text.toList n) :
    parse w text = if Fits w n then some n else none := by
  rw [parse, integer_eq_some.mpr h, Option.bind_some]

/-! ## Printing -/

theorem natDigitChar_eq (d : Fin 10) : d.val.digitChar = digitChar d := by
  revert d
  decide

theorem value_concat (ds : List (Fin 10)) (d : Fin 10) :
    value (ds ++ [d]) = 10 * value ds + d.val := by
  simp [value, Nat.ofDigits_cons]
  ring

/-- The decimal representation of a natural number is a sequence of digits that stands for it. -/
theorem exists_digits (n : Nat) :
    ∃ ds : List (Fin 10), ds ≠ [] ∧ Nat.toDigits 10 n = ds.map digitChar ∧ value ds = n := by
  induction n using Nat.strongRecOn with
  | ind n ih =>
    by_cases hn : n < 10
    · refine ⟨[⟨n, hn⟩], List.cons_ne_nil _ _, ?_, by simp [value]⟩
      rw [Nat.toDigits_of_lt_base hn, List.map_singleton, ← natDigitChar_eq]
    · -- the digits of the quotient, and the remainder
      have hbase : 10 ≤ n := by omega
      obtain ⟨ds, -, hds, hvalue⟩ := ih (n / 10) (by omega)
      have hlast : n % 10 < 10 := Nat.mod_lt n (by omega)
      refine ⟨ds ++ [⟨n % 10, hlast⟩], by simp, ?_, ?_⟩
      · rw [Nat.toDigits_of_base_le (by omega) hbase, hds, List.map_append, List.map_singleton,
          ← natDigitChar_eq]
      · rw [value_concat, hvalue]
        show 10 * (n / 10) + n % 10 = n
        omega

/-- What a number is printed as denotes it. -/
theorem denotes_toString (n : Nat) : Denotes (toString n).toList n := by
  obtain ⟨ds, hne, hds, hvalue⟩ := exists_digits n
  have hlist : (toString n).toList = ds.map digitChar := by
    rw [Nat.toString_eq_ofList_toDigits, String.toList_ofList, hds]
  rw [hlist, ← hvalue]
  exact Denotes.plain ds hne

end Decimal
