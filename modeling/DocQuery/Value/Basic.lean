import DocQuery.Calendar.Timestamp
import DocQuery.Json.Printer
import DocQuery.Value.RegexSource
import DocQuery.Value.Uuid

/-!
# Values of a filter

A value has two forms. Its *literal* is the text that stands for it in a query; its *JSON form* is
used where it is nested in an argument. The two agree on every value but a regular expression, whose
literal is written between slashes.
-/

namespace DocQuery

open Text Numeric Calendar

/-- A scalar that a filter compares with. -/
inductive Value where
  | int (n : Int64)
  | uint (n : UInt64)
  | float (x : Binary64)
  | string (s : String)
  | boolean (b : Bool)
  | json (j : Json)
  | uuid (u : Uuid)
  | bytes (bs : List UInt8)
  | date (d : Date)
  | timestamp (t : Timestamp)
  | regex (pattern flags : String)
  | null
deriving Repr

namespace Value

def hexText (bs : List UInt8) : String := String.ofList (bs.flatMap fun b => hexDigits 2 b.toNat)

/-- The text of a value in a query. A double that is not finite is written as `null`. -/
def literal : Value → String
  | .int n => String.ofList (intChars n.toInt)
  | .uint n => String.ofList (decimalChars n.toNat)
  | .float x => if x.isFinite then String.ofList (Json.numberStyle.writeBinary64 x) else "null"
  | .string s => Json.quote s
  | .boolean b => if b then "true" else "false"
  | .json j => j.compact
  | .uuid u => Json.quote (String.ofList u.chars)
  | .bytes bs => Json.quote (hexText bs)
  | .date d => Json.quote (String.ofList d.chars)
  | .timestamp t => Json.quote (String.ofList t.milliChars)
  | .regex pattern flags => "/" ++ regexSource pattern ++ "/" ++ flags
  | .null => "null"

/-- The value as JSON. A regular expression becomes an object of its pattern and its flags. -/
def toJson : Value → Json
  | .int n => .num (.int (.ofInt64 n))
  | .uint n => .num (.int (.ofUInt64 n))
  | .float x => .ofBinary64 x
  | .string s => .str s
  | .boolean b => .bool b
  | .json j => j
  | .uuid u => .str (String.ofList u.chars)
  | .bytes bs => .str (hexText bs)
  | .date d => .str (String.ofList d.chars)
  | .timestamp t => .str (String.ofList t.milliChars)
  | .regex pattern flags => .obj [("$regex", .str pattern), ("$options", .str flags)]
  | .null => .null

/-- The value of a JSON scalar; containers are kept as JSON. An integer is signed if it fits. -/
def ofJson : Json → Value
  | .null => .null
  | .bool b => .boolean b
  | .num (.int n) =>
    match n.toInt64? with
    | some i => .int i
    | none => .uint (UInt64.ofNat n.val.toNat)
  | .num (.float x) => .float x.val
  | .str s => .string s
  | .arr elements => .json (.arr elements)
  | .obj members => .json (.obj members)

/-- Equality of values of one kind. Doubles are compared numerically and JSON without regard to the
order of members. -/
def same : Value → Value → Bool
  | .int a, .int b => a = b
  | .uint a, .uint b => a = b
  | .float a, .float b => a.numEq b
  | .string a, .string b => a = b
  | .boolean a, .boolean b => a = b
  | .json a, .json b => a.same b
  | .uuid a, .uuid b => a = b
  | .bytes a, .bytes b => a = b
  | .date a, .date b => a = b
  | .timestamp a, .timestamp b => a = b
  | .regex p f, .regex q g => p = q ∧ f = g
  | .null, .null => true
  | _, _ => false

/-- What a hash of a value is computed from: its kind, and its content in a form whose parts compare
exactly. -/
inductive Digest where
  | int (n : Int64)
  | uint (n : UInt64)
  | float (bits : UInt64)
  | string (s : String)
  | boolean (b : Bool)
  | json (text : String)
  | uuid (u : Uuid)
  | bytes (bs : List UInt8)
  | date (d : Date)
  | timestamp (t : Timestamp)
  | regex (pattern flags : String)
  | null
deriving DecidableEq, Repr

/-- The input of the hash of a value: doubles by their bits, JSON by its text. -/
def digest : Value → Digest
  | .int n => .int n
  | .uint n => .uint n
  | .float x => .float x.bits
  | .string s => .string s
  | .boolean b => .boolean b
  | .json j => .json j.compact
  | .uuid u => .uuid u
  | .bytes bs => .bytes bs
  | .date d => .date d
  | .timestamp t => .timestamp t
  | .regex pattern flags => .regex pattern flags
  | .null => .null

end Value
end DocQuery
