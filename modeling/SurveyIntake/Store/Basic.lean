import SurveyIntake.Assoc
import SurveyIntake.Json.Printer
import SurveyIntake.Json.Reader
import SurveyIntake.SurveyKey
import SurveyIntake.Time.Instant
import SurveyIntake.Token

/-!
# SurveyIntake.Store.Basic

The store of submissions.

* `PendingRow`  — a submission that waits for verification. Rows are under their tokens, which no two
  surveys share, and never change.
* `VerifiedRow` — the latest verified submission of an identity. Rows are under their surveys and
  identities.
* `StoreError`  — why a store does not do what it is asked to.
* `Store.insertPending`, `Store.purgeBefore`, `Store.promote`, `Store.upsertVerified` — what changes a
  store.
* `Store.pendingEntries`, `Store.verifiedEntries` — what a store holds of a survey, read back.

Answers are stored as texts. A row that is read back has to have an instant and answers that are JSON, a
row that is promoted has not.
-/

namespace SurveyIntake

structure PendingRow where
  survey : String
  identity : String
  millis : Int
  answers : String
  deriving DecidableEq

structure VerifiedRow where
  millis : Int
  answers : String
  deriving DecidableEq

/-- A pending submission as it is read back. -/
structure PendingEntry where
  token : Token
  identity : String
  timestamp : Instant
  answers : Json
  deriving DecidableEq

/-- A verified submission as it is read back. -/
structure VerifiedEntry where
  identity : String
  timestamp : Instant
  answers : Json
  deriving DecidableEq

structure Store where
  pending : Table Token PendingRow
  verified : Table String (Table String VerifiedRow)

inductive StoreError where
  /-- A statement that breaks a constraint, or a file that is no database. -/
  | refused
  /-- A directory that cannot be made. -/
  | io
  | notFound (path : String)
  /-- A stored timestamp that is no instant. -/
  | outOfRange (millis : Int)
  /-- Stored answers that are no JSON. -/
  | unreadable (cause : Json.ReadError)

/-- The message of an error whose wording is the store's own. -/
def StoreError.message? : StoreError → Option String
  | .refused | .io | .unreadable _ => none
  | .notFound path => some ("Not found: Database not found: " ++ path)
  | .outOfRange millis => some ("Corrupt record: timestamp out of range: " ++ toString millis)

namespace Store

def empty : Store := ⟨.empty, .empty⟩

instance : Inhabited Store := ⟨empty⟩

/-! ## Rows -/

def pendingRow? (survey : String) (token : Token) (s : Store) : Option PendingRow :=
  (s.pending.find? token).filter fun r => r.survey == survey

/-- Whether a row comes before another: by time, then by token. -/
def rowLe (a b : Token × PendingRow) : Bool :=
  decide (a.2.millis < b.2.millis) || (a.2.millis == b.2.millis && !decide (b.1 < a.1))

/-- The pending rows of a survey in the order of their times. -/
def pendingRows (survey : String) (s : Store) : List (Token × PendingRow) :=
  (s.pending.entries.filter fun r => r.2.survey == survey).mergeSort rowLe

def verifiedTable (survey : String) (s : Store) : Table String VerifiedRow :=
  (s.verified.find? survey).getD .empty

def verifiedRow? (survey identity : String) (s : Store) : Option VerifiedRow :=
  (s.verifiedTable survey).find? identity

/-- Adds a pending row, unless its token is taken. -/
def insertPending (token : Token) (row : PendingRow) (s : Store) : Except StoreError Store :=
  if s.pending.contains token then .error .refused
  else .ok { s with pending := s.pending.insert token row }

def upsertVerified (survey identity : String) (row : VerifiedRow) (s : Store) : Store :=
  { s with verified := s.verified.insert survey ((s.verifiedTable survey).insert identity row) }

/-- Copies a pending row to the verified ones, in place of what is there under its identity. -/
def promote (survey : String) (token : Token) (s : Store) : Option (String × Store) :=
  (s.pendingRow? survey token).map fun r =>
    (r.identity, s.upsertVerified survey r.identity ⟨r.millis, r.answers⟩)

def isExpired (survey : String) (cutoff : Int) (r : Token × PendingRow) : Bool :=
  r.2.survey == survey && decide (r.2.millis < cutoff)

/-- Deletes the pending rows of a survey from before an instant, and counts them. -/
def purgeBefore (survey : String) (cutoff : Int) (s : Store) : Store × Nat :=
  ({ s with pending := s.pending.filter fun r => !isExpired survey cutoff r },
    (s.pending.entries.filter (isExpired survey cutoff)).length)

/-- Changes the pending rows of a survey, which works only where there are none. -/
def updatePending (survey : String) (s : Store) : Except StoreError Nat :=
  if s.pending.entries.any fun r => r.2.survey == survey then .error .refused else .ok 0

/-! ## Entries -/

def readInstant (millis : Int) : Except StoreError Instant :=
  match Instant.ofMillis? millis with
  | some i => .ok i
  | none => .error (.outOfRange millis)

def readAnswers (answers : String) : Except StoreError Json :=
  match Json.parse answers with
  | .ok v => .ok v
  | .error e => .error (.unreadable e)

def readPending (r : Token × PendingRow) : Except StoreError PendingEntry :=
  match readInstant r.2.millis with
  | .error e => .error e
  | .ok timestamp =>
    match readAnswers r.2.answers with
    | .error e => .error e
    | .ok answers => .ok ⟨r.1, r.2.identity, timestamp, answers⟩

def readVerified (r : String × VerifiedRow) : Except StoreError VerifiedEntry :=
  match readInstant r.2.millis with
  | .error e => .error e
  | .ok timestamp =>
    match readAnswers r.2.answers with
    | .error e => .error e
    | .ok answers => .ok ⟨r.1, timestamp, answers⟩

/-- Reads rows one after the other, up to the first that cannot be read. -/
def readAll {α β : Type} (read : α → Except StoreError β) : List α → Except StoreError (List β)
  | [] => .ok []
  | r :: rs =>
    match read r with
    | .error e => .error e
    | .ok x =>
      match readAll read rs with
      | .error e => .error e
      | .ok xs => .ok (x :: xs)

/-- The row that is there, read back. -/
def readOptional {α β : Type} (read : α → Except StoreError β) :
    Option α → Except StoreError (Option β)
  | none => .ok none
  | some r =>
    match read r with
    | .error e => .error e
    | .ok x => .ok (some x)

def insertEntry (key : SurveyKey) (e : PendingEntry) (s : Store) : Except StoreError Store :=
  s.insertPending e.token ⟨key.text, e.identity, e.timestamp.millis, e.answers.render⟩

def upsertEntry (key : SurveyKey) (e : VerifiedEntry) (s : Store) : Store :=
  s.upsertVerified key.text e.identity ⟨e.timestamp.millis, e.answers.render⟩

def pendingEntry (key : SurveyKey) (token : Token) (s : Store) :
    Except StoreError (Option PendingEntry) :=
  readOptional (fun r => readPending (token, r)) (s.pendingRow? key.text token)

def pendingEntries (key : SurveyKey) (s : Store) : Except StoreError (List PendingEntry) :=
  readAll readPending (s.pendingRows key.text)

def pendingCount (key : SurveyKey) (s : Store) : Nat := (s.pendingRows key.text).length

def verifiedEntry (key : SurveyKey) (identity : String) (s : Store) :
    Except StoreError (Option VerifiedEntry) :=
  readOptional (fun r => readVerified (identity, r)) (s.verifiedRow? key.text identity)

def verifiedEntries (key : SurveyKey) (s : Store) : Except StoreError (List VerifiedEntry) :=
  readAll readVerified (s.verifiedTable key.text).entries

def verifiedCount (key : SurveyKey) (s : Store) : Nat := (s.verifiedTable key.text).entries.length

end Store
end SurveyIntake
