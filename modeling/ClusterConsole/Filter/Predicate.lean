import ClusterConsole.Json.Decoder
import ClusterConsole.Text.Blank

/-!
# Filter predicates

A predicate compares one property with one value. It is active when neither its property nor its
value is blank; only active predicates reach the backend. On a command line it is written
`property:Operator:value`, where the value may hold further colons.
-/

namespace ClusterConsole.Filter

inductive Operator where
  | equal
  | like
  deriving DecidableEq, Repr

inductive Logic where
  | and
  | or
  deriving DecidableEq, Repr

structure Predicate where
  property : String
  operator : Operator
  value : String
  deriving DecidableEq, Repr

inductive ArgumentError where
  | unsupportedOperator (name : String)
  | notPredicate (argument : String)
  deriving DecidableEq, Repr

def ArgumentError.message : ArgumentError → String
  | .unsupportedOperator name => "unsupported filter operator: " ++ name
  | .notPredicate s => "invalid filter '" ++ s ++ "': expected property:Operator:value"

namespace Operator

def name : Operator → String
  | .equal => "Equal"
  | .like => "Like"

def parse (s : String) : Except ArgumentError Operator :=
  match Text.lowerAscii (Text.trim s) with
  | "equal" => .ok .equal
  | "eq" => .ok .equal
  | "=" => .ok .equal
  | "like" => .ok .like
  | "~" => .ok .like
  | other => .error (.unsupportedOperator other)

def toJson (o : Operator) : Json.Value := .string o.name

def decoder : Json.Decoder Operator := Json.Decoder.choice [("Equal", .equal), ("Like", .like)]

end Operator

namespace Logic

def name : Logic → String
  | .and => "And"
  | .or => "Or"

def parse (s : String) : Logic :=
  if Text.sameIgnoringCase (Text.trim s) "or" then .or else .and

def toJson (l : Logic) : Json.Value := .string l.name

def decoder : Json.Decoder Logic := Json.Decoder.choice [("And", .and), ("Or", .or)]

end Logic

def splitColon : List Char → Option (List Char × List Char)
  | [] => none
  | ':' :: cs => some ([], cs)
  | c :: cs => (splitColon cs).map fun r => (c :: r.1, r.2)

namespace Predicate

def parse (s : String) : Except ArgumentError Predicate :=
  match splitColon s.toList with
  | none => .error (.notPredicate s)
  | some (property, rest) =>
    match splitColon rest with
    | none => .error (.notPredicate s)
    | some (operator, value) => do
      let o ← Operator.parse (String.ofList operator)
      return ⟨Text.trim (String.ofList property), o, String.ofList value⟩

def argument (p : Predicate) : String := p.property ++ ":" ++ p.operator.name ++ ":" ++ p.value

def isActive (p : Predicate) : Bool := !Text.allBlank p.property && !Text.allBlank p.value

def toJson (p : Predicate) : Json.Value :=
  .object [("property", .string p.property), ("operator", p.operator.toJson),
    ("value", .string p.value)]

open Json.Decoder (Member string)

def propertyField : Member String := ⟨0, "property", string, none⟩
def operatorField : Member Operator := ⟨1, "operator", Operator.decoder, none⟩
def valueField : Member String := ⟨2, "value", string, none⟩

def form : Json.Decoder.Form := ⟨"struct FilterPredicate", 3⟩

def ofParts (parts : Json.Decoder.Parts) : Except Json.Mismatch Predicate := do
  let property ← propertyField.take form parts
  let operator ← operatorField.take form parts
  let value ← valueField.take form parts
  return ⟨property, operator, value⟩

def decoder : Json.Decoder Predicate :=
  Json.Decoder.build form [propertyField.check, operatorField.check, valueField.check] ofParts

end Predicate

end ClusterConsole.Filter
