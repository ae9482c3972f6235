import Lodging.Calendar.Day
import Lodging.RecordId

/-!
# Errors of the ledger

Why a call is refused, the class of each reason, and the words in which it is reported.
-/

namespace Lodging

/-- The limit that a call exceeds. -/
inductive Limit
  | hotelName
  | location
  | rating
  | userName
  | email
  | price
  | stayLength
  | noGuests
  | tooManyGuests
deriving DecidableEq

def Limit.message : Limit → String
  | hotelName => "hotel name too long"
  | location => "location too long"
  | rating => "rating out of range"
  | userName => "user name too long"
  | email => "email too long"
  | price => "price must be a finite non-negative amount"
  | stayLength => "stay too long"
  | noGuests => "guest count must be at least 1"
  | tooManyGuests => "too many guests"

/-- What the operating system refuses. -/
inductive SystemError
  | noSuchFile
  | fileExists
  | notADirectory
  | isADirectory
  | tooManyOpenFiles
  | fileTooLarge
deriving DecidableEq

namespace SystemError

def number : SystemError → Nat
  | noSuchFile => 2
  | fileExists => 17
  | notADirectory => 20
  | isADirectory => 21
  | tooManyOpenFiles => 24
  | fileTooLarge => 27

def kind : SystemError → String
  | noSuchFile => "NotFound"
  | fileExists => "AlreadyExists"
  | notADirectory => "NotADirectory"
  | isADirectory => "IsADirectory"
  | tooManyOpenFiles => "Uncategorized"
  | fileTooLarge => "FileTooLarge"

def text : SystemError → String
  | noSuchFile => "No such file or directory"
  | fileExists => "File exists"
  | notADirectory => "Not a directory"
  | isADirectory => "Is a directory"
  | tooManyOpenFiles => "Too many open files"
  | fileTooLarge => "File too large"

end SystemError

/-- What the operating system or the log itself refuses. -/
inductive IoError
  | system (cause : SystemError)
  | eventTooLarge
  | logUnusable
  | other (text : String)
deriving DecidableEq

def IoError.message : IoError → String
  | system cause => cause.text ++ " (os error " ++ toString cause.number ++ ")"
  | eventTooLarge => "event too large for WAL frame"
  | logUnusable => "WAL is unusable after a failed rollback"
  | other text => text

/-- Why a change could not be committed. Nothing was applied, and the call may be made again. -/
inductive CommitFailure
  | io (cause : IoError)
  | idsExhausted
  | other (text : String)
deriving DecidableEq

def CommitFailure.message : CommitFailure → String
  | io cause => cause.message
  | idsExhausted => "id space exhausted"
  | other text => text

/-- What a call was refused for. -/
inductive LedgerError
  | invalidIdentifier (text : String)
  | invalidStay (checkIn checkOut : Day)
  | notFound (id : RecordId)
  | roomUnavailable (room conflicting : RecordId)
  | alreadyCanceled (booking : RecordId)
  | alreadyExists (what : String)
  | limitExceeded (limit : Limit)
  | transactionFailed (failure : CommitFailure)
deriving DecidableEq

/-- The classes of errors, for whoever reports them. -/
inductive ErrorClass
  | badRequest
  | notFound
  | conflict
  | unavailable
deriving DecidableEq

namespace LedgerError

def ofMalformed (e : MalformedId) : LedgerError := .invalidIdentifier e.kept

def errorClass : LedgerError → ErrorClass
  | invalidIdentifier _ | invalidStay _ _ | limitExceeded _ => .badRequest
  | notFound _ => .notFound
  | roomUnavailable _ _ | alreadyCanceled _ | alreadyExists _ => .conflict
  | transactionFailed _ => .unavailable

/-- Whether the same call may succeed when it is made again. -/
def isRetryable : LedgerError → Bool
  | transactionFailed _ => true
  | _ => false

def message : LedgerError → String
  | invalidIdentifier text => (MalformedId.mk text).message
  | invalidStay checkIn checkOut =>
    "invalid stay: check-in " ++ checkIn.text ++ " is not before check-out " ++ checkOut.text
  | notFound id => "not found: " ++ id.hex
  | roomUnavailable room conflicting =>
    "room " ++ room.hex ++ " is not available: overlaps booking " ++ conflicting.hex
  | alreadyCanceled booking => "booking already canceled: " ++ booking.hex
  | alreadyExists what => "already exists: " ++ what
  | limitExceeded limit => "limit exceeded: " ++ limit.message
  | transactionFailed failure => "transaction failed: " ++ failure.message

end LedgerError

end Lodging
