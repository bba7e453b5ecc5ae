import DocQuery.Entries
import DocQuery.Settings.Basic
import DocQuery.Text.Blank
import DocQuery.Text.Decimal

/-!
# Settings from variables

Each setting has a variable that overrides its default. The variables are looked up in a fixed
order, and the first one with an unacceptable text ends the reading.
-/

namespace DocQuery.Settings

open Text

inductive Variable where
  | createConcurrency
  | recoverConflicts
  | retryAttempts
  | retryBaseDelay
  | retryMaxDelay
deriving DecidableEq, Repr

namespace Variable

/-- All variables, in the order in which they are looked up. -/
def all : List Variable :=
  [.createConcurrency, .recoverConflicts, .retryAttempts, .retryBaseDelay, .retryMaxDelay]

def name : Variable → String
  | .createConcurrency => "UDF_CREATE_CONCURRENCY"
  | .recoverConflicts => "UDF_RECOVER_CONFLICTS"
  | .retryAttempts => "UDF_RETRY_ATTEMPTS"
  | .retryBaseDelay => "UDF_RETRY_BASE_DELAY_MS"
  | .retryMaxDelay => "UDF_RETRY_MAX_DELAY_MS"

end Variable

inductive Reason where
  | emptyNumber
  | invalidDigit
  | tooLarge
  | belowOne
  | notBoolean
deriving DecidableEq, Repr

def Reason.message : Reason → String
  | .emptyNumber => "cannot parse integer from empty string"
  | .invalidDigit => "invalid digit found in string"
  | .tooLarge => "number too large to fit in target type"
  | .belowOne => "must be at least 1"
  | .notBoolean => "expected a boolean"

structure Error where
  key : Variable
  text : String
  reason : Reason
deriving DecidableEq, Repr

def Error.message (e : Error) : String :=
  "Invalid value `" ++ e.text ++ "` for " ++ e.key.name ++ ": " ++ e.reason.message

/-- The number that digits denote after those that denote `high`. The first character that is no
digit or that makes the number too large decides the reason. -/
def readDigits (high : Nat) : List Char → Except Reason Nat
  | [] => .ok high
  | c :: cs =>
    if isDecimal c then
      let n := 10 * high + decimalValue [c]
      if n < 0x10000000000000000 then readDigits n cs else .error .tooLarge
    else .error .invalidDigit

/-- A number: digits, with a plus sign or without. -/
def readNumber : List Char → Except Reason Nat
  | [] => .error .emptyNumber
  | ['+'] => .error .invalidDigit
  | '+' :: cs => readDigits 0 cs
  | cs => readDigits 0 cs

def number (text : String) : Except Reason UInt64 :=
  (readNumber (trim text.toList)).map UInt64.ofNat

/-- The words for true and false, in any case and with blanks around them. -/
def boolean (text : String) : Except Reason Bool :=
  let word := String.ofList ((trim text.toList).map Char.toLower)
  if word ∈ ["1", "true", "yes", "on"] then .ok true
  else if word ∈ ["0", "false", "no", "off"] then .ok false
  else .error .notBoolean

def assign (s : Settings) (v : Variable) (text : String) : Except Reason Settings :=
  match v with
  | .createConcurrency => do
    let n ← number text
    if n = 0 then .error .belowOne else return { s with createConcurrency := n }
  | .recoverConflicts => do return { s with recoverConflicts := ← boolean text }
  | .retryAttempts => do return { s with retryAttempts := ← number text }
  | .retryBaseDelay => do return { s with retryBaseDelay := ← number text }
  | .retryMaxDelay => do return { s with retryMaxDelay := ← number text }

section

variable {m : Type → Type} [Monad m]

def readVariables (lookup : String → m (Option String)) :
    List Variable → Settings → m (Except Error Settings)
  | [], s => return .ok s
  | v :: vs, s => do
    match ← lookup v.name with
    | none => readVariables lookup vs s
    | some text =>
      match s.assign v text with
      | .ok s => readVariables lookup vs s
      | .error reason => return .error ⟨v, text, reason⟩

/-- The defaults, overridden by the variables that are set. -/
def ofLookup (lookup : String → m (Option String)) : m (Except Error Settings) :=
  readVariables lookup Variable.all default

end

/-- A lookup that also keeps the names it is asked for, the newest in front. -/
def watched (lookup : String → Option String) (name : String) :
    StateM (List String) (Option String) := do
  modify (name :: ·)
  return lookup name

def ofWatched (lookup : String → Option String) : Except Error Settings × List String :=
  let (result, asked) := (ofLookup (watched lookup)).run []
  (result, asked.reverse)

def ofVariables (table : Entries String String) : Except Error Settings × List String :=
  ofWatched table.get?

end DocQuery.Settings
