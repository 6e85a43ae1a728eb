import ClusterConsole.Json.Printer
import ClusterConsole.Text.Quoted

/-!
# Values with a known form

A structure is read from an object or from the array of its fields in order. In an object unknown
fields are skipped, the first field in the object's own order that does not fit is reported, and
only then the first missing one in the structure's order. A choice without content is read from its
name, or from an object with that name and null.
-/

namespace ClusterConsole.Json

inductive Mismatch where
  | badType (found : Value) (expected : String)
  | badValue (found : Value) (expected : String)
  | unknownChoice (name : String) (choices : List String)
  | missingField (name : String)
  | badLength (length : Nat) (expected : String)
  | unreadable (reason : String)

def Value.describe : Value → String
  | .null => "null"
  | .bool b => "boolean `" ++ toString b ++ "`"
  | .number (.real x) => "floating point `" ++ (Number.real x).text ++ "`"
  | .number n => "integer `" ++ n.text ++ "`"
  | .string s => "string " ++ Text.quoted s
  | .array _ => "sequence"
  | .object _ => "map"

def ticked (s : String) : String := "`" ++ s ++ "`"

def oneOf : List String → String
  | [a] => ticked a
  | [a, b] => ticked a ++ " or " ++ ticked b
  | names => "one of " ++ ", ".intercalate (names.map ticked)

def Mismatch.message : Mismatch → String
  | .badType found expected => "invalid type: " ++ found.describe ++ ", expected " ++ expected
  | .badValue found expected => "invalid value: " ++ found.describe ++ ", expected " ++ expected
  | .unknownChoice name choices =>
    "unknown variant " ++ ticked name ++ ", expected " ++ oneOf choices
  | .missingField name => "missing field " ++ ticked name
  | .badLength n expected => "invalid length " ++ toString n ++ ", expected " ++ expected
  | .unreadable reason => reason

abbrev Decoder (α : Type) := Value → Except Mismatch α

namespace Decoder

variable {α β : Type}

def any : Decoder Value := .ok

def string : Decoder String
  | .string s => .ok s
  | v => .error (.badType v "a string")

def natural (limit : Nat) (expected : String) : Decoder Nat
  | .number (.natural n) =>
    if n.toNat < limit then .ok n.toNat else .error (.badValue (.number (.natural n)) expected)
  | .number (.negative n) => .error (.badValue (.number (.negative n)) expected)
  | v => .error (.badType v expected)

def real : Decoder Binary64
  | .number n => .ok n.toBinary64
  | v => .error (.badType v "f64")

def listOf (item : Decoder α) : Decoder (List α)
  | .array vs => vs.mapM item
  | v => .error (.badType v "a sequence")

def fieldsOf (item : Decoder α) : Decoder (List (String × α))
  | .object fs => fs.mapM fun f => (item f.2).map fun a => (f.1, a)
  | v => .error (.badType v "a map")

def optional (item : Decoder α) : Decoder (Option α)
  | .null => .ok none
  | v => (item v).map some

def choose (choices : List (String × α)) (name : String) : Except Mismatch α :=
  match Fields.get? name choices with
  | some a => .ok a
  | none => .error (.unknownChoice name (Fields.names choices))

def choice (choices : List (String × α)) : Decoder α
  | .string s => choose choices s
  | .object [(name, content)] => do
    let a ← choose choices name
    match content with
    | .null => .ok a
    | v => .error (.badType v "unit")
  | .object fs => .error (.badValue (.object fs) "map with a single key")
  | v => .error (.badType v "string or map")

structure Member (α : Type) where
  place : Nat
  name : String
  read : Decoder α
  absent : Option α

inductive Parts where
  | named (fields : Fields)
  | listed (items : List Value)

structure Form where
  title : String
  size : Nat

def Form.lengthText (form : Form) : String :=
  form.title ++ " with " ++ toString form.size ++ " elements"

def Member.take (form : Form) (parts : Parts) (field : Member α) : Except Mismatch α :=
  match parts with
  | .named fs =>
    match Fields.get? field.name fs, field.absent with
    | some v, _ => field.read v
    | none, some a => .ok a
    | none, none => .error (.missingField field.name)
  | .listed vs =>
    match vs[field.place]?, field.absent with
    | some v, _ => field.read v
    | none, some a => .ok a
    | none, none => .error (.badLength field.place form.lengthText)

abbrev Check := String × (Value → Except Mismatch Unit)

def Member.check (field : Member α) : Check :=
  (field.name, fun v => (field.read v).map fun _ => ())

def checkFields (checks : List Check) (fs : Fields) : Except Mismatch Unit :=
  fs.forM fun f =>
    match Fields.get? f.1 checks with
    | some check => check f.2
    | none => .ok ()

def build (form : Form) (checks : List Check) (make : Parts → Except Mismatch α) : Decoder α
  | .object fs => do
    checkFields checks fs
    make (.named fs)
  | .array vs => do
    let a ← make (.listed vs)
    if form.size < vs.length then .error (.badLength vs.length "fewer elements in array")
    else .ok a
  | v => .error (.badType v form.title)

end Decoder

end ClusterConsole.Json
