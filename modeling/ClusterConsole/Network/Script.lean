import ClusterConsole.Network.Arrival

/-!
# Scripted servers

A server that answers the requests it takes by a list, one after the other, and keeps what it has
taken. Every answer says that the connection is closed after it.
-/

namespace ClusterConsole.Network

inductive Script.Reply where
  | drop
  /-- `announced` is the length that the answer gives for its body, the true one if none. -/
  | answer (status : UInt16) (headers : List (String × String)) (body : List UInt8)
    (announced : Option Nat)
  deriving DecidableEq, Repr

structure Script.Taken where
  method : Http.Method
  target : String
  headers : List (String × String)
  body : String
  deriving DecidableEq, Repr

structure Script where
  host : Url.Host
  port : Nat
  replies : List Script.Reply
  taken : List Script.Taken
  deriving DecidableEq, Repr

namespace Script

def exhausted : Reply := .answer 500 [] (Text.utf8Bytes "script exhausted".toList) none

def usualHeaders : List String := ["host", "accept", "content-length"]

def isPadding (c : Char) : Bool := c == ' ' || c == '\t'

def unpadded (s : String) : String :=
  String.ofList ((s.toList.dropWhile isPadding).reverse.dropWhile isPadding).reverse

def headerLe (a b : String × String) : Bool := a.1 < b.1 || (a.1 == b.1 && a.2 ≤ b.2)

def takenOf (out : Outgoing) : Taken where
  method := out.method
  target := out.target
  headers := ((out.headers.filter fun h => h.1 ∉ usualHeaders).map fun h =>
    (h.1, unpadded h.2)).mergeSort headerLe
  body := out.body.getD ""

def arrivalOf (status : UInt16) (headers : List (String × String)) (body : List UInt8)
    (announced : Option Nat) : Arrival :=
  let length := announced.getD body.length
  let all := headers ++ [("content-length", toString length), ("connection", "close")]
  let bodied := Http.hasBody status
  { status
    headers := all.map fun h => (Text.lowerAscii h.1, Text.utf8Bytes (unpadded h.2).toList)
    body := if bodied then body.take length else []
    whole := !bodied || length ≤ body.length }

def deliver : Reply → Delivery
  | .drop => .dropped
  | .answer status headers body announced => .answered (arrivalOf status headers body announced)

def respond (s : Script) (out : Outgoing) : Delivery × Script :=
  if out.secure = false ∧ out.host = s.host ∧ out.port = s.port then
    (deliver (s.replies.headD exhausted),
      { s with replies := s.replies.tail, taken := s.taken ++ [takenOf out] })
  else (.refused, s)

end Script

end ClusterConsole.Network
