import Bookshare.Model.Upload

/-!
# The document format: what is uploaded and what is decoded

`submitTapped` writes a `textbooks` document and `Book.init` reads it, with no
schema shared between the two. This module follows one document from the form it
was filled in to the book it decodes to.

Main results:

* `book_init_addedDocument` — the decode of an uploaded document, field by field;
* `isBook_withImage_submittedDoc` — no uploaded document traps the decoder;
* `addedDocument_agrees_iff` — the book is the submitted data exactly when the
  author is the decoder's own default and the grade fits `Int`: the author is
  written as a string and read as an array of strings.
-/

namespace Bookshare

open Dynamic

/-- The dictionary a tap on Submit passes to `addDocument` when `putData` succeeds with
`metadata`. -/
def addedDocument (form : Form) (currentUser : Option FIRUser) (uniqueId : String)
    (metadata : StorageMetadata) : Option Document :=
  match submitTapped form currentUser uniqueId with
  | .putData _ _ doc => putDataCallback true (some metadata) none doc
  | _ => none

/-- `b` is what `user` submitted with `form`, for an image stored at `path`. -/
structure IsSubmitted (form : Form) (user : FIRUser) (path id : String) (b : Book) : Prop where
  id : b.id = id
  title : form.txtTitle = some b.title
  subject : form.txtSubject = some b.subject
  condition : form.txtCondition = some b.condition
  author : ∃ author, form.txtAuthor = some author ∧ b.author = [author]
  grade : ∃ grade, form.txtGrades = some grade ∧ Decimal.Denotes grade.toList b.grade
  image : b.image = some path
  userId : userData user "id" = some (.string b.user.id)
  userName : userData user "name" = some (.string b.user.name)
  userPhoto : userData user "photo" = b.user.photo.map .string

-- ---------------------------------------------------------------------------
-- Decoding an uploaded document
-- ---------------------------------------------------------------------------

theorem addedDocument_eq_some {form : Form} {currentUser : Option FIRUser} {uniqueId : String}
    {metadata : StorageMetadata} {doc : Document} :
    addedDocument form currentUser uniqueId metadata = some doc ↔
      formError form = none ∧ (form.image.bind UIImage.pngData).isSome ∧
        ∃ user, currentUser = some user ∧ doc = withImage (submittedDoc form user) metadata := by
  unfold addedDocument
  constructor
  · intro h
    split at h
    · next heq =>
      obtain ⟨hform, -, hpng, user, huser, rfl⟩ := submitTapped_eq_putData.mp heq
      obtain ⟨-, -, m, hm, rfl⟩ := putDataCallback_eq_some.mp h
      injection hm with hm
      subst hm
      exact ⟨hform, Option.isSome_iff_exists.mpr ⟨_, hpng⟩, user, huser, rfl⟩
    · cases h
  · rintro ⟨hform, hpng, user, rfl, rfl⟩
    obtain ⟨data, hdata⟩ := Option.isSome_iff_exists.mp hpng
    rw [submitTapped_eq_putData.mpr ⟨hform, rfl, hdata, user, rfl, rfl⟩]
    exact putDataCallback_eq_some.mpr ⟨rfl, rfl, metadata, rfl, rfl⟩

/-- Every field but the author comes back as it was entered; the author comes back as the
decoder's default, since the field is a string and not an array of strings. -/
theorem book_init_addedDocument {form : Form} (hform : formError form = none) (user : FIRUser)
    (metadata : StorageMetadata) (id : String) :
    ∃ title grade subject condition,
      form.txtTitle = some title ∧ form.txtGrades = some grade ∧ form.txtSubject = some subject ∧
      form.txtCondition = some condition ∧
      Book.init id (withImage (submittedDoc form user) metadata) = .ok
        { id, title, subject, condition
          author := ["None Given"]
          image := some (metadata.path.getD "nil")
          grade := (Decimal.parse intWidth grade).getD (-1)
          user := { name := user.displayName.getD "Some Student"
                    id := user.uid
                    photo := user.photoURL.map URL.path } } := by
  obtain ⟨htitle, hsubject, hgrade, hauthor, hcondition, -⟩ := formError_eq_none.mp hform
  obtain ⟨title, htitle, -⟩ := isMissing_eq_false.mp htitle
  obtain ⟨subject, hsubject, -⟩ := isMissing_eq_false.mp hsubject
  obtain ⟨grade, hgrade, -⟩ := isMissing_eq_false.mp hgrade
  obtain ⟨author, hauthor, -⟩ := isMissing_eq_false.mp hauthor
  obtain ⟨condition, hcondition, -⟩ := isMissing_eq_false.mp hcondition
  refine ⟨title, grade, subject, condition, htitle, hgrade, hsubject, hcondition, ?_⟩
  refine book_init_eq_ok.mpr ⟨title, userData user, _, ?_, ?_, user_init_userData user, ?_⟩
  · simp [withImage_ne, htitle]
  · simp [withImage_ne]
  · simp [withImage_ne, Dict.strings?, Dict.string?, decodeGrade, hauthor, hgrade, hsubject,
      hcondition]

theorem isBook_withImage_submittedDoc {form : Form} (hform : formError form = none)
    (user : FIRUser) (metadata : StorageMetadata) :
    IsBook (withImage (submittedDoc form user) metadata) := by
  obtain ⟨_, _, _, _, -, -, -, -, hok⟩ := book_init_addedDocument hform user metadata ""
  exact book_init_isOk_iff.mp ⟨_, hok⟩

-- ---------------------------------------------------------------------------
-- When the book is what was submitted
-- ---------------------------------------------------------------------------

/-- Only an author who is the decoder's default survives. -/
theorem author_of_isSubmitted {form : Form} {user : FIRUser} {metadata : StorageMetadata}
    {path id : String} {b : Book} (hform : formError form = none)
    (hb : Book.init id (withImage (submittedDoc form user) metadata) = .ok b)
    (hsub : IsSubmitted form user path id b) : form.txtAuthor = some "None Given" := by
  obtain ⟨_, _, _, _, -, -, -, -, hok⟩ := book_init_addedDocument hform user metadata id
  have hbook := Except.ok.inj (hok.symm.trans hb)
  subst hbook
  obtain ⟨author, hauthor, hlist⟩ := hsub.author
  have heq : "None Given" = author := (List.cons.inj hlist).1
  rw [hauthor, heq]

/-- Only a grade that fits `Int` survives: one that does not is read as -1, which fits. -/
theorem fits_of_isSubmitted {form : Form} {user : FIRUser} {metadata : StorageMetadata}
    {path id grade : String} {n : Int} {b : Book} (hform : formError form = none)
    (hgrade : form.txtGrades = some grade) (hn : Decimal.Denotes grade.toList n)
    (hb : Book.init id (withImage (submittedDoc form user) metadata) = .ok b)
    (hsub : IsSubmitted form user path id b) : Decimal.Fits intWidth n := by
  obtain ⟨_, grade', _, _, -, hgrade', -, -, hok⟩ := book_init_addedDocument hform user metadata id
  have hsame : grade = grade' := Option.some.inj (hgrade.symm.trans hgrade')
  subst hsame
  have hbook := Except.ok.inj (hok.symm.trans hb)
  subst hbook
  obtain ⟨g, hg, hdenotes⟩ := hsub.grade
  have hentered : grade = g := Option.some.inj (hgrade.symm.trans hg)
  subst hentered
  rw [Decimal.parse_of_denotes hn] at hdenotes
  by_contra hfits
  -- the decoder's fallback would have to be the integer that was entered
  rw [if_neg hfits] at hdenotes
  have hminus : n = -1 := hn.unique hdenotes
  have hone : Decimal.Fits intWidth (-1) := by decide
  rw [hminus] at hfits
  exact hfits hone

/-- **Agreement of upload and decode.** For a form whose grade text is a decimal integer `n`,
the decoded book is the submitted data exactly when the author text is the decoder's default
and `n` is an `Int`. -/
theorem addedDocument_agrees_iff {form : Form} {user : FIRUser} {uniqueId path grade : String}
    {n : Int} {doc : Document} (id : String)
    (hdoc : addedDocument form (some user) uniqueId { path := some path } = some doc)
    (hgrade : form.txtGrades = some grade) (hn : Decimal.Denotes grade.toList n) :
    (∃ b, Book.init id doc = .ok b ∧ IsSubmitted form user path id b) ↔
      form.txtAuthor = some "None Given" ∧ Decimal.Fits intWidth n := by
  obtain ⟨hform, -, u, hu, rfl⟩ := addedDocument_eq_some.mp hdoc
  injection hu with hu
  subst hu
  constructor
  · rintro ⟨b, hb, hsub⟩
    exact ⟨author_of_isSubmitted hform hb hsub, fits_of_isSubmitted hform hgrade hn hb hsub⟩
  · rintro ⟨hauthor, hfits⟩
    obtain ⟨title, grade', subject, condition, htitle, hgrade', hsubject, hcondition, hok⟩ :=
      book_init_addedDocument hform user { path := some path } id
    have hsame : grade = grade' := Option.some.inj (hgrade.symm.trans hgrade')
    subst hsame
    rw [Decimal.parse_of_denotes hn, if_pos hfits] at hok
    refine ⟨_, hok, ⟨rfl, htitle, hsubject, hcondition, ⟨_, hauthor, rfl⟩, ⟨grade, hgrade, hn⟩,
      rfl, by simp, by simp, ?_⟩⟩
    cases hphoto : user.photoURL <;> simp [hphoto]

def noneGivenForm : Form := { hobbitForm with txtAuthor := some "None Given" }

theorem denotes_seven : Decimal.Denotes "7".toList 7 := Decimal.Denotes.plain [7] (by simp)

/-- The author entered is lost: the uploaded document decodes to a book by "None Given". -/
theorem author_lost :
    ∃ doc, addedDocument hobbitForm (some alice) "U1" { path := some "U1.png" } = some doc ∧
      hobbitForm.txtGrades = some "7" ∧ Decimal.Denotes "7".toList 7 ∧
      ¬∃ b, Book.init "D1" doc = .ok b ∧ IsSubmitted hobbitForm alice "U1.png" "D1" b := by
  have hform : formError hobbitForm = none := by decide
  refine ⟨_, addedDocument_eq_some.mpr ⟨hform, by decide, alice, rfl, rfl⟩, rfl, denotes_seven, ?_⟩
  rintro ⟨b, hb, hsub⟩
  exact absurd (author_of_isSubmitted hform hb hsub) (by decide)

/-- An author literally called "None Given" survives. -/
theorem none_given_survives :
    ∃ doc, addedDocument noneGivenForm (some alice) "U1" { path := some "U1.png" } = some doc ∧
      ∃ b, Book.init "D1" doc = .ok b ∧ IsSubmitted noneGivenForm alice "U1.png" "D1" b := by
  have hdoc : addedDocument noneGivenForm (some alice) "U1" { path := some "U1.png" } = some _ :=
    addedDocument_eq_some.mpr ⟨by decide, by decide, alice, rfl, rfl⟩
  exact ⟨_, hdoc, (addedDocument_agrees_iff "D1" hdoc rfl denotes_seven).mpr ⟨rfl, by decide⟩⟩

end Bookshare
