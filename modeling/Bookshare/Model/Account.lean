import Bookshare.Model.Book

/-!
# The signed-in account

What the app reads of `Auth.auth().currentUser`, and the `userData` dictionary
that `submitTapped` and the `getDocument` callback of `btnRequestTapped` both
build from it, line for line alike.
-/

namespace Bookshare

open Dynamic

structure URL where
  path : String
  deriving DecidableEq, Repr

/-- `FIRUser`, as far as the app reads it. -/
structure FIRUser where
  uid : String
  displayName : Option String
  photoURL : Option URL
  deriving DecidableEq, Repr

/-! Three accounts, for the runs on fixed inputs further on. -/

def alice : FIRUser where
  uid := "alice"
  displayName := some "Alice"
  photoURL := none

def bob : FIRUser where
  uid := "bob"
  displayName := none
  photoURL := some { path := "/bob.jpg" }

def carol : FIRUser where
  uid := "carol"
  displayName := some "Carol"
  photoURL := none

/-- The message of both login guards. -/
def notLoggedIn : Trap := "User is not logged in"

def userData (user : FIRUser) : Document :=
  let name := user.displayName.getD "Some Student"
  let data := (Dict.empty.set "id" (.string user.uid)).set "name" (.string name)
  match user.photoURL with
  | some picture => data.set "photo" (.string picture.path)
  | none => data

@[simp] theorem userData_id (user : FIRUser) : userData user "id" = some (.string user.uid) := by
  unfold userData
  cases user.photoURL <;> simp

@[simp] theorem userData_name (user : FIRUser) :
    userData user "name" = some (.string (user.displayName.getD "Some Student")) := by
  unfold userData
  cases user.photoURL <;> simp

@[simp] theorem userData_photo (user : FIRUser) :
    userData user "photo" = user.photoURL.map fun picture => .string picture.path := by
  unfold userData
  cases user.photoURL <;> simp

/-- Entries of different accounts differ. -/
theorem uid_of_userData_eq {user other : FIRUser} (h : userData user = userData other) :
    user.uid = other.uid := by
  have hid := congrFun h "id"
  simpa using hid

/-- `User.init` reads back what `userData` wrote. -/
theorem user_init_userData (user : FIRUser) :
    User.init (userData user) = .ok
      { name := user.displayName.getD "Some Student"
        id := user.uid
        photo := user.photoURL.map URL.path } := by
  refine user_init_eq_ok.mpr ⟨userData_name user, userData_id user, ?_⟩
  rw [Dict.string?, userData_photo]
  cases user.photoURL <;> rfl

end Bookshare
