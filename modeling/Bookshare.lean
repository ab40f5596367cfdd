import Bookshare.Catalogue.Cells
import Bookshare.Catalogue.Filter
import Bookshare.Catalogue.Grades
import Bookshare.Catalogue.Pictures
import Bookshare.Catalogue.Reload
import Bookshare.Catalogue.VisibleCells
import Bookshare.FilterScreen.Checkmarks
import Bookshare.FilterScreen.Session
import Bookshare.FilterScreen.System
import Bookshare.GradesTable.Outline
import Bookshare.Library.Board
import Bookshare.Library.Decimal
import Bookshare.Library.Dynamic
import Bookshare.Library.Ledger
import Bookshare.Library.Machine
import Bookshare.Library.Positions
import Bookshare.Model.Account
import Bookshare.Model.Book
import Bookshare.Model.Catalogue
import Bookshare.Model.Cell
import Bookshare.Model.Details
import Bookshare.Model.FilterScreen
import Bookshare.Model.GradesTable
import Bookshare.Model.Otp
import Bookshare.Model.Upload
import Bookshare.Model.UploadInput
import Bookshare.Otp.Keyboard
import Bookshare.Otp.Row
import Bookshare.Requests.Completion
import Bookshare.Requests.Crashes
import Bookshare.Requests.Decoding
import Bookshare.Requests.FailedReads
import Bookshare.Requests.Frame
import Bookshare.Requests.FullLoad
import Bookshare.Requests.Order
import Bookshare.Requests.Overlaps
import Bookshare.Requests.OwnBook
import Bookshare.Requests.PickedGrades
import Bookshare.Requests.Provenance
import Bookshare.Requests.Serial
import Bookshare.Requests.System
import Bookshare.Requests.Taps
import Bookshare.Session.LoginGuards
import Bookshare.Session.Visits
import Bookshare.Upload.Answers
import Bookshare.Upload.Format
import Bookshare.Upload.Input
import Bookshare.Upload.Orphans
import Bookshare.Upload.Submissions
import Bookshare.Upload.System
