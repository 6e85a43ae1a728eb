import ClusterConsole.Network.Arrival
import ClusterConsole.Text.Integer

/-!
# HTTP on the wire

A request as the bytes that a server reads, and an answer from all the bytes that came before the
server closed the connection. A body is as long as announced, or comes in chunks of announced
length, or reaches to the end.
-/

namespace ClusterConsole.Network

def bytesOf (s : String) : List UInt8 := Text.utf8Bytes s.toList

def headerLine (name value : String) : String := name ++ ": " ++ value ++ "\r\n"

namespace Outgoing

def hostText (o : Outgoing) : String :=
  String.ofList o.host.chars ++ if o.port = 80 then "" else ":" ++ toString o.port

/-- Every request has these. A request without a body announces none if its method expects none. -/
def ownHeaders (o : Outgoing) : List (String × String) :=
  [("host", o.hostText), ("connection", "close")] ++
    (if o.headers.any (·.1 = "accept") then [] else [("accept", "*/*")]) ++
    match o.body with
    | some b => [("content-length", toString (bytesOf b).length)]
    | none => []

def bytes (o : Outgoing) : List UInt8 :=
  bytesOf (o.method.name ++ " " ++ o.target ++ " HTTP/1.1\r\n" ++
    String.join ((o.ownHeaders ++ o.headers).map fun h => headerLine h.1 h.2) ++ "\r\n" ++
    o.body.getD "")

end Outgoing

def splitHead : List UInt8 → Option (List UInt8 × List UInt8)
  | [] => none
  | 13 :: 10 :: 13 :: 10 :: rest => some ([], rest)
  | b :: bs => (splitHead bs).map fun s => (b :: s.1, s.2)

def splitLine : List UInt8 → Option (List UInt8 × List UInt8)
  | [] => none
  | 13 :: 10 :: rest => some ([], rest)
  | b :: bs => (splitLine bs).map fun s => (b :: s.1, s.2)

def headLines : List UInt8 → List (List UInt8)
  | [] => [[]]
  | 13 :: 10 :: rest => [] :: headLines rest
  | b :: bs =>
    match headLines bs with
    | line :: lines => (b :: line) :: lines
    | [] => [[b]]

def isPad (b : UInt8) : Bool := b == 0x20 || b == 0x09

def withoutPads (bs : List UInt8) : List UInt8 :=
  ((bs.dropWhile isPad).reverse.dropWhile isPad).reverse

def charsOf (bs : List UInt8) : List Char := Text.utf8Lossy bs

def statusOf? (line : List UInt8) : Option UInt16 :=
  let digits := ((charsOf line).dropWhile (· ≠ ' ')).drop 1 |>.take 3
  (Text.natural? digits).map Nat.toUInt16

def headerOf (line : List UInt8) : String × List UInt8 :=
  (Text.lowerAscii (String.ofList (charsOf (line.takeWhile (· ≠ 0x3A)))),
    withoutPads ((line.dropWhile (· ≠ 0x3A)).drop 1))

def chunkLength? (line : List UInt8) : Option Nat :=
  let digits := (charsOf line).takeWhile Text.isHexDigit
  if digits.isEmpty then none
  else some (digits.foldl (fun n c => 16 * n + Text.hexValue c) 0)

/-- The content of chunks, and whether the last one came. Every chunk takes a byte, so fuel as long
as the text is enough. -/
def chunks : Nat → List UInt8 → List UInt8 × Bool
  | 0, _ => ([], false)
  | fuel + 1, bs =>
    match splitLine bs with
    | none => ([], false)
    | some (line, rest) =>
      match chunkLength? line with
      | none => ([], false)
      | some 0 => ([], true)
      | some n =>
        if rest.length < n then (rest, false)
        else
          let (more, whole) := chunks fuel ((rest.drop n).drop 2)
          (rest.take n ++ more, whole)

def headerText? (headers : List (String × List UInt8)) (name : String) : Option String :=
  (headers.lookup name).map fun v => Text.lowerAscii (String.ofList (charsOf v))

def bodyOf (status : UInt16) (headers : List (String × List UInt8)) (bs : List UInt8) :
    List UInt8 × Bool :=
  if !Http.hasBody status then ([], true)
  else if headerText? headers "transfer-encoding" = some "chunked" then
    chunks (bs.length + 1) bs
  else
    match (headerText? headers "content-length").bind fun s => Text.natural? s.toList with
    | some n => (bs.take n, n ≤ bs.length)
    | none => (bs, true)

def Arrival.ofBytes? (bs : List UInt8) : Option Arrival := do
  let (head, rest) ← splitHead bs
  match headLines head with
  | [] => none
  | first :: lines =>
    let status ← statusOf? first
    let headers := lines.map headerOf
    let (body, whole) := bodyOf status headers rest
    return ⟨status, headers, body, whole⟩

example : Arrival.ofBytes? (bytesOf "HTTP/1.1 200 OK\r\nA: b \r\nContent-Length: 2\r\n\r\nhi") =
    some ⟨200, [("a", bytesOf "b"), ("content-length", bytesOf "2")], bytesOf "hi", true⟩ := by
  decide +kernel

example : chunks 9 (bytesOf "2\r\nab\r\n1;x\r\nc\r\n0\r\n\r\n") = (bytesOf "abc", true) := by
  decide +kernel

end ClusterConsole.Network
