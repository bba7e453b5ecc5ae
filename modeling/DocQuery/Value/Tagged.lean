import DocQuery.Value.Basic

/-!
# The tagged form of a value

For interchange a value is an object of one member: the name of its kind, and its content. The kind
without content may also be written as its bare name.
-/

namespace DocQuery.Value

open Numeric Calendar

def kind : Value → String
  | .int _ => "Int"
  | .uint _ => "Uint"
  | .float _ => "Float"
  | .string _ => "String"
  | .boolean _ => "Boolean"
  | .json _ => "Json"
  | .uuid _ => "Uuid"
  | .bytes _ => "Bytes"
  | .date _ => "Date"
  | .timestamp _ => "Timestamp"
  | .regex .. => "Regex"
  | .null => "Null"

def content : Value → Json
  | .int n => .num (.int (.ofInt64 n))
  | .uint n => .num (.int (.ofUInt64 n))
  | .float x => .ofBinary64 x
  | .string s => .str s
  | .boolean b => .bool b
  | .json j => j
  | .uuid u => .str (String.ofList u.chars)
  | .bytes bs => .arr (bs.map fun b => Json.ofNat b.toNat)
  | .date d => .str (String.ofList d.chars)
  | .timestamp t => .str (String.ofList t.exactChars)
  | .regex pattern flags => .obj [("pattern", .str pattern), ("flags", .str flags)]
  | .null => .null

def toTagged : Value → Json
  | .null => .str "Null"
  | v => .obj [(v.kind, v.content)]

def byte? (j : Json) : Option UInt8 := do
  let n ← j.uint64?
  if n.toNat < 256 then return UInt8.ofNat n.toNat else none

def ofContent? (tag : String) (content : Json) : Option Value :=
  match tag with
  | "Int" => content.int64?.map .int
  | "Uint" => content.uint64?.map .uint
  | "Float" =>
    match content with
    | .num n => some (.float n.toBinary64)
    | _ => none
  | "String" => content.str?.map .string
  | "Boolean" => content.bool?.map .boolean
  | "Json" => some (.json content)
  | "Uuid" => (content.str?.bind Uuid.parse?).map .uuid
  | "Bytes" => (content.arr?.bind (·.mapM byte?)).map .bytes
  | "Date" => (content.str?.bind Date.parse?).map .date
  | "Timestamp" => (content.str?.bind Timestamp.parse?).map .timestamp
  | "Regex" =>
    match content with
    | .obj _ => do
      let pattern ← (← content.get? "pattern").str?
      let flags ← (← content.get? "flags").str?
      return .regex pattern flags
    | _ => none
  | "Null" =>
    match content with
    | .null => some .null
    | _ => none
  | _ => none

def ofTagged? : Json → Option Value
  | .str tag => if tag = "Null" then some .null else none
  | .obj [(tag, content)] => ofContent? tag content
  | _ => none

end DocQuery.Value
