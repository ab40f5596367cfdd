import Bookshare.Library.Machine

/-!
# Boards

A board keeps a list of entries under each key, and the only thing that happens
to it is that an entry is posted. It is the abstract machine for collections that
are meant to be append-only; `mem_of_run` says what a board holds after a run.
-/

namespace Board

open Machine

variable {κ ε : Type*} [DecidableEq κ]

/-- Append `p.2` to the entries under `p.1`. -/
def post (board : κ → List ε) (p : κ × ε) : Option (κ → List ε) :=
  some (Function.update board p.1 (board p.1 ++ [p.2]))

variable {board board' : κ → List ε} {posts : List (κ × ε)}

theorem mem_of_post {p : κ × ε} (h : post board p = some board') {k : κ} {e : ε} :
    e ∈ board' k ↔ e ∈ board k ∨ (k, e) = p := by
  injection h with h
  subst h
  obtain ⟨key, entry⟩ := p
  by_cases hk : k = key
  · subst hk
    simp
  · simp [hk]

/-- After a run, a board holds what it held and what was posted. -/
theorem mem_of_run (h : Run post board posts board') {k : κ} {e : ε} :
    e ∈ board' k ↔ e ∈ board k ∨ (k, e) ∈ posts := by
  induction posts generalizing board with
  | nil => simp [run_nil.mp h]
  | cons p posts ih =>
    obtain ⟨middle, hmiddle, hrun⟩ := run_cons.mp h
    rw [ih hrun, mem_of_post hmiddle, List.mem_cons, or_assoc]

end Board
