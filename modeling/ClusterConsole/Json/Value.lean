import ClusterConsole.Number.Binary64

/-!
# JSON values

An object is the list of its fields in the order they were first written. A number is a natural
number of 64 bits, a negative integer of 64 bits, or a finite binary64 number; `0` is natural and
`-0` is the number minus zero, so every number has one form.
-/

namespace ClusterConsole.Json

inductive Number where
  | natural (n : UInt64)
  /-- The integer `-(n + 1)`. -/
  | negative (n : Fin 0x8000000000000000)
  | real (x : Binary64)
  deriving DecidableEq, Repr

inductive Value where
  | null
  | bool (b : Bool)
  | number (n : Number)
  | string (s : String)
  | array (items : List Value)
  | object (fields : List (String × Value))
  deriving Repr

abbrev Fields := List (String × Value)

namespace Fields

variable {α : Type}

def insert (name : String) (v : α) : List (String × α) → List (String × α)
  | [] => [(name, v)]
  | f :: fs => if f.1 = name then (name, v) :: fs else f :: insert name v fs

def ofList (fs : List (String × α)) : List (String × α) :=
  fs.foldl (fun acc f => insert f.1 f.2 acc) []

def get? (name : String) (fs : List (String × α)) : Option α :=
  (fs.find? fun f => f.1 = name).map (·.2)

def swapRemove (name : String) (fs : List (String × α)) : List (String × α) :=
  match fs.findIdx? fun f => f.1 = name with
  | none => fs
  | some i =>
    match fs.getLast? with
    | none => fs
    | some last => (fs.set i last).dropLast

def names (fs : List (String × α)) : List String := fs.map (·.1)

end Fields

namespace Number

def int64? : Number → Option Int
  | .natural n => if n.toNat < 0x8000000000000000 then some n.toNat else none
  | .negative n => some (Int.negSucc n)
  | .real _ => none

def toBinary64 : Number → Binary64
  | .natural n => (Binary64.ofNat? n.toNat).getD .greatest
  | .negative n => ((Binary64.ofNat? (n.val + 1)).getD .greatest).neg
  | .real x => x

end Number

namespace Value

def field? (name : String) : Value → Option Value
  | .object fs => Fields.get? name fs
  | _ => none

def fields? : Value → Option Fields
  | .object fs => some fs
  | _ => none

def items? : Value → Option (List Value)
  | .array vs => some vs
  | _ => none

def string? : Value → Option String
  | .string s => some s
  | _ => none

def isNull : Value → Bool
  | .null => true
  | _ => false

def at? (v : Value) : List String → Option Value
  | [] => some v
  | name :: rest => (v.field? name).bind (·.at? rest)

end Value

example : Fields.ofList [("a", 1), ("b", 2), ("a", 3)] = [("a", 3), ("b", 2)] := by decide
example : Fields.swapRemove "a" [("a", 1), ("b", 2), ("c", 3)] = [("c", 3), ("b", 2)] := by decide

end ClusterConsole.Json
