import Bookshare.Library.Decimal
import Bookshare.Library.Dynamic

/-!
# Models/Book.swift

The two decoders every document of the `textbooks` collection goes through,
`User.init(with:)` and `Book.init(with:dict:)`. A `fatalError` is the error
branch, with its message; a field read by a conditional cast that fails falls
back to its default.

`IsUser` and `IsBook` say which dictionaries decode, and `user_init_isOk_iff`
and `book_init_isOk_iff` that these are exactly the ones on which the decoders
do not trap.
-/

namespace Bookshare

open Dynamic

/-- `[String: Any]`. -/
abbrev Document := Dict String

/-- A `fatalError`: the message the process dies with. -/
abbrev Trap := String

/-- The width of Swift's `Int` on the platforms the app is built for. -/
def intWidth : Nat := 64

structure User where
  name : String
  id : String
  photo : Option String
  deriving DecidableEq, Repr

/-- `User.init(with:)` -/
def User.init (dict : Document) : Except Trap User :=
  match dict.string? "name", dict.string? "id" with
  | some name, some id => .ok { name, id, photo := dict.string? "photo" }
  | _, _ => .error "Book Title was not given"

structure Book where
  id : String
  title : String
  author : List String
  image : Option String
  grade : Int
  subject : String
  condition : String
  user : User
  deriving DecidableEq, Repr

/-- A book without an image. -/
def hobbit : Book where
  id := "A"
  title := "The Hobbit"
  author := ["Tolkien"]
  image := none
  grade := 7
  subject := "English"
  condition := "Good"
  user := { name := "Alice", id := "alice", photo := none }

/-- `if let grade = dict["grade"] as? String { Int(grade) ?? -1 } else { -1 }` -/
def decodeGrade (dict : Document) : Int :=
  match dict.string? "grade" with
  | some grade => (Decimal.parse intWidth grade).getD (-1)
  | none => -1

/-- `Book.init(with:dict:)` -/
def Book.init (id : String) (dict : Document) : Except Trap Book :=
  match dict.string? "title" with
  | none => .error "Book Title was not given"
  | some title =>
    match dict.map? "user" with
    | none => .error "User data was not given"
    -- every other field has a default
    | some _user => do
      let user ← User.init _user
      return {
        id
        title
        author := (dict.strings? "author").getD ["None Given"]
        image := dict.string? "image"
        grade := decodeGrade dict
        subject := (dict.string? "subject").getD "-"
        condition := (dict.string? "condition").getD "-"
        user }

/-! ## Which dictionaries decode -/

/-- A dictionary with a name and an id, both strings. -/
structure IsUser (dict : Document) : Prop where
  name : ∃ name, dict "name" = some (.string name)
  id : ∃ id, dict "id" = some (.string id)

/-- A dictionary with a string title and a user. -/
structure IsBook (dict : Document) : Prop where
  title : ∃ title, dict "title" = some (.string title)
  user : ∃ user, dict "user" = some (.map user) ∧ IsUser user

theorem user_init_eq_ok {dict : Document} {u : User} :
    User.init dict = .ok u ↔
      dict "name" = some (.string u.name) ∧ dict "id" = some (.string u.id) ∧
        dict.string? "photo" = u.photo := by
  obtain ⟨name, id, photo⟩ := u
  rw [← Dict.string?_eq_some, ← Dict.string?_eq_some]
  unfold User.init
  cases dict.string? "name" <;> cases dict.string? "id" <;> simp

theorem user_init_isOk_iff {dict : Document} : (∃ u, User.init dict = .ok u) ↔ IsUser dict := by
  constructor
  · rintro ⟨u, hu⟩
    obtain ⟨hname, hid, -⟩ := user_init_eq_ok.mp hu
    exact ⟨⟨u.name, hname⟩, ⟨u.id, hid⟩⟩
  · rintro ⟨⟨name, hname⟩, ⟨id, hid⟩⟩
    exact ⟨⟨name, id, dict.string? "photo"⟩, user_init_eq_ok.mpr ⟨hname, hid, rfl⟩⟩

theorem book_init_eq_ok {id : String} {dict : Document} {b : Book} :
    Book.init id dict = .ok b ↔
      ∃ title user u, dict "title" = some (.string title) ∧ dict "user" = some (.map user) ∧
        User.init user = .ok u ∧
        b = { id, title
              author := (dict.strings? "author").getD ["None Given"]
              image := dict.string? "image"
              grade := decodeGrade dict
              subject := (dict.string? "subject").getD "-"
              condition := (dict.string? "condition").getD "-"
              user := u } := by
  simp only [← Dict.string?_eq_some, ← Dict.map?_eq_some]
  unfold Book.init
  cases dict.string? "title" with
  | none => simp
  | some title =>
    cases dict.map? "user" with
    | none => simp
    | some user =>
      cases hu : User.init user with
      | error e => simp [hu, bind, Except.bind]
      | ok u => simp [hu, bind, Except.bind, pure, Except.pure, eq_comm]

theorem book_init_isOk_iff {id : String} {dict : Document} :
    (∃ b, Book.init id dict = .ok b) ↔ IsBook dict := by
  constructor
  · rintro ⟨b, hb⟩
    obtain ⟨title, user, u, htitle, huser, hu, -⟩ := book_init_eq_ok.mp hb
    have hisUser : IsUser user := user_init_isOk_iff.mp ⟨u, hu⟩
    exact ⟨⟨title, htitle⟩, user, huser, hisUser⟩
  · rintro ⟨⟨title, htitle⟩, user, huser, hu⟩
    obtain ⟨u, hu⟩ := user_init_isOk_iff.mpr hu
    exact ⟨_, book_init_eq_ok.mpr ⟨title, user, u, htitle, huser, hu, rfl⟩⟩

/-- The document names `owner` in its `user` field. -/
def OwnedBy (dict : Document) (owner : String) : Prop :=
  ∃ user, dict "user" = some (.map user) ∧ user "id" = some (.string owner)

/-- The decoded owner is the one stored in the `user` field. -/
theorem book_init_owner {id : String} {dict : Document} {b : Book} (h : Book.init id dict = .ok b) :
    b.id = id ∧ OwnedBy dict b.user.id := by
  obtain ⟨title, user, u, -, huser, hu, rfl⟩ := book_init_eq_ok.mp h
  exact ⟨rfl, user, huser, (user_init_eq_ok.mp hu).2.1⟩

theorem book_init_grade {id : String} {dict : Document} {b : Book} (h : Book.init id dict = .ok b) :
    b.grade = decodeGrade dict := by
  obtain ⟨title, user, u, -, -, -, rfl⟩ := book_init_eq_ok.mp h
  rfl

end Bookshare
