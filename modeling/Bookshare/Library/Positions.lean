import Mathlib.Data.List.Basic
import Mathlib.Data.List.Nodup

/-!
# Positions in a list

Where in a list the elements with a property stand. `map_getElem?_positions` says
that these positions are what a filter keeps, in order, and `lastIndex` is the
last of them. `mapM_range_eq` is for a reader that asks position by position.
-/

namespace Positions

variable {α : Type*}

/-- The positions of the elements that satisfy `p`, from the front. -/
def positions (p : α → Bool) (l : List α) : List Nat :=
  (List.range l.length).filter fun i => l[i]?.any p

/-- The position of the last element that satisfies `p`. -/
def lastIndex (p : α → Bool) (l : List α) : Option Nat := (positions p l).getLast?

variable {p : α → Bool} {l : List α} {i : Nat}

-- ---------------------------------------------------------------------------
-- All positions
-- ---------------------------------------------------------------------------

theorem mem_positions : i ∈ positions p l ↔ ∃ x, l[i]? = some x ∧ p x = true := by
  rw [positions, List.mem_filter, List.mem_range, Option.any_eq_true]
  constructor
  · rintro ⟨-, x, hx, hp⟩
    exact ⟨x, hx, hp⟩
  · rintro ⟨x, hx, hp⟩
    have hlt : i < l.length := (List.getElem?_eq_some_iff.mp hx).1
    exact ⟨hlt, x, hx, hp⟩

/-- Positions come in increasing order. -/
theorem positions_pairwise (p : α → Bool) (l : List α) : (positions p l).Pairwise (· < ·) :=
  List.pairwise_lt_range.filter _

/-- What a filter keeps is what stands at the positions, in their order. -/
theorem map_getElem?_positions (p : α → Bool) (l : List α) :
    (l.filter p).map some = (positions p l).map fun i => l[i]? := by
  unfold positions
  induction l with
  | nil => rfl
  | cons x l ih =>
    rw [List.length_cons, List.range_succ_eq_map, List.filter_cons, List.filter_cons,
      List.filter_map]
    simp only [Function.comp_def, List.getElem?_cons_succ, List.getElem?_cons_zero,
      Option.any_some]
    -- the first element is kept or not; the positions after it are those of `l`, one further on
    cases p x <;> simp [ih]

-- ---------------------------------------------------------------------------
-- The last position
-- ---------------------------------------------------------------------------

theorem lastIndex_mem (h : lastIndex p l = some i) : ∃ x, l[i]? = some x ∧ p x = true :=
  mem_positions.mp (List.mem_of_getLast? h)

theorem lastIndex_eq_none : lastIndex p l = none ↔ ∀ x ∈ l, p x = false := by
  rw [lastIndex, List.getLast?_eq_none_iff, List.eq_nil_iff_forall_not_mem]
  constructor
  · intro h x hx
    obtain ⟨i, hi⟩ := List.mem_iff_getElem?.mp hx
    rw [← Bool.not_eq_true]
    exact fun hp => h i (mem_positions.mpr ⟨x, hi, hp⟩)
  · intro h i hi
    obtain ⟨x, hx, hp⟩ := mem_positions.mp hi
    rw [h x (List.mem_of_getElem? hx)] at hp
    cases hp

/-- Where no element occurs twice, an element's last position is its only one. -/
theorem lastIndex_eq_some_of_nodup [DecidableEq α] (hl : l.Nodup) {x : α} :
    lastIndex (fun y => x == y) l = some i ↔ l[i]? = some x := by
  constructor
  · intro h
    obtain ⟨y, hy, hxy⟩ := lastIndex_mem h
    rw [beq_iff_eq] at hxy
    rw [hxy]
    exact hy
  · intro h
    cases hlast : lastIndex (fun y => x == y) l with
    | none =>
      have hne := lastIndex_eq_none.mp hlast x (List.mem_of_getElem? h)
      simp at hne
    | some j =>
      obtain ⟨y, hy, hxy⟩ := lastIndex_mem hlast
      rw [beq_iff_eq] at hxy
      rw [← hxy] at hy
      -- two positions of one element
      obtain ⟨hi, hix⟩ := List.getElem?_eq_some_iff.mp h
      obtain ⟨hj, hjx⟩ := List.getElem?_eq_some_iff.mp hy
      rw [Option.some.injEq]
      exact (List.Nodup.getElem_inj_iff hl).mp (hjx.trans hix.symm)

/-- Where no element occurs twice, the last position of an element is the first. -/
theorem lastIndex_eq_idxOf? [DecidableEq α] (hl : l.Nodup) (x : α) :
    lastIndex (fun y => x == y) l = l.idxOf? x := by
  apply Option.ext
  intro i
  rw [lastIndex_eq_some_of_nodup hl, List.idxOf?_eq_some_iff, List.getElem?_eq_some_iff]
  constructor
  · rintro ⟨hi, hx⟩
    refine ⟨hi, hx, ?_⟩
    intro j hji hjx
    have hj : j < l.length := Nat.lt_trans hji hi
    have hsame : j = i := (List.Nodup.getElem_inj_iff hl).mp (hjx.trans hx.symm)
    omega
  · rintro ⟨hi, hx, -⟩
    exact ⟨hi, hx⟩

-- ---------------------------------------------------------------------------
-- Reading position by position
-- ---------------------------------------------------------------------------

/-- What is read at each position in turn is the list, if it is the element there each time. -/
theorem mapM_range_eq {ε : Type*} {read : Nat → Except ε α} {l : List α}
    (h : ∀ i (hi : i < l.length), read i = .ok l[i]) :
    (List.range l.length).mapM read = .ok l := by
  have htake : ∀ n ≤ l.length, (List.range n).mapM read = .ok (l.take n) := by
    intro n hn
    induction n with
    | zero => rfl
    | succ n ih =>
      rw [List.range_succ, List.mapM_append, ih (by omega), List.take_succ_eq_append_getElem hn]
      simp [h n hn, bind, Except.bind, pure, Except.pure]
  rw [htake _ (Nat.le_refl _), List.take_length]

end Positions
