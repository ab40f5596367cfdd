import Mathlib.Data.List.Perm.Subperm
import Mathlib.Data.List.Nodup

/-!
# Ledgers of things issued and settled

Tokens are issued, each under a key of its own, and an issued token is settled at
most once; some never are. This is the abstract side of a system that starts
work, loses track of some of it, and must finish none of it twice.

`step_wellKept` says every step of the ledger keeps it well kept, and
`WellKept.subperm` and `WellKept.settled_keys` what that gives about the settled
tokens: they come from distinct issued ones, under distinct keys.
-/

structure Ledger (τ : Type*) where
  issued : List τ
  settled : List τ

namespace Ledger

variable {τ κ : Type*}

inductive Entry (τ : Type*) where
  | issue (x : τ)
  | settle (x : τ)

def empty : Ledger τ := { issued := [], settled := [] }

def step [DecidableEq τ] [DecidableEq κ] (key : τ → κ) (l : Ledger τ) :
    Entry τ → Option (Ledger τ)
  | .issue x =>
    if key x ∈ l.issued.map key then none else some { l with issued := l.issued ++ [x] }
  | .settle x =>
    if x ∈ l.issued ∧ x ∉ l.settled then some { l with settled := l.settled ++ [x] } else none

structure WellKept (key : τ → κ) (l : Ledger τ) : Prop where
  keys : (l.issued.map key).Nodup
  settled : l.settled.Nodup
  subset : l.settled ⊆ l.issued

theorem wellKept_empty (key : τ → κ) : WellKept key (empty : Ledger τ) :=
  ⟨List.nodup_nil, List.nodup_nil, List.Subset.refl _⟩

/-- Issued tokens are told apart by their keys. -/
theorem WellKept.eq_of_key {key : τ → κ} {l : Ledger τ} (h : WellKept key l) {x y : τ}
    (hx : x ∈ l.issued) (hy : y ∈ l.issued) (hxy : key x = key y) : x = y :=
  List.inj_on_of_nodup_map h.keys hx hy hxy

/-- Distinct settled tokens come from distinct issued ones. -/
theorem WellKept.subperm {key : τ → κ} {l : Ledger τ} (h : WellKept key l) :
    l.settled.Subperm l.issued :=
  h.settled.subperm h.subset

theorem WellKept.settled_keys {key : τ → κ} {l : Ledger τ} (h : WellKept key l) :
    (l.settled.map key).Nodup :=
  h.settled.map_on fun _ hx _ hy hxy => h.eq_of_key (h.subset hx) (h.subset hy) hxy

variable [DecidableEq τ] [DecidableEq κ]

theorem step_issue {key : τ → κ} {l : Ledger τ} {x : τ} (h : key x ∉ l.issued.map key) :
    step key l (.issue x) = some { l with issued := l.issued ++ [x] } :=
  if_neg h

theorem step_settle {key : τ → κ} {l : Ledger τ} {x : τ} (hi : x ∈ l.issued)
    (hs : x ∉ l.settled) :
    step key l (.settle x) = some { l with settled := l.settled ++ [x] } :=
  if_pos ⟨hi, hs⟩

theorem step_wellKept {key : τ → κ} (l : Ledger τ) (e : Entry τ) (l' : Ledger τ)
    (h : WellKept key l) (hstep : step key l e = some l') : WellKept key l' := by
  cases e with
  | issue x =>
    simp only [step, Option.ite_none_left_eq_some, Option.some.injEq] at hstep
    obtain ⟨hfresh, rfl⟩ := hstep
    refine ⟨?_, h.settled, ?_⟩
    · rw [List.map_append, List.map_singleton, List.nodup_append']
      exact ⟨h.keys, List.nodup_singleton _, by simpa using hfresh⟩
    · intro y hy
      exact List.mem_append_left _ (h.subset hy)
  | settle x =>
    simp only [step, Option.ite_none_right_eq_some, Option.some.injEq] at hstep
    obtain ⟨⟨hissued, hnew⟩, rfl⟩ := hstep
    refine ⟨h.keys, ?_, ?_⟩
    · rw [List.nodup_append']
      exact ⟨h.settled, List.nodup_singleton _, by simpa using hnew⟩
    · intro y hy
      rcases List.mem_append.mp hy with hy | hy
      · exact h.subset hy
      · exact List.mem_singleton.mp hy ▸ hissued

end Ledger
