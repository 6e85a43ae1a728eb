import ClusterConsole.Http.Message
import ClusterConsole.Text.Base64
import ClusterConsole.Url.Parser

/-!
# Outgoing requests

A request goes out when its URL has a host, its headers can be written on a line each, and its
scheme is one that can be spoken. A user in the URL is sent as a header instead.
-/

namespace ClusterConsole.Network

open Http (Request)

inductive Fault where
  /-- It cannot be written down; the URL is given where that is what is wrong. -/
  | unsendable (url : Option String)
  | unanswered (url : String)
  | brokenOff
  deriving DecidableEq, Repr

def forUrl (url : String) : String := " for url (" ++ url ++ ")"

def Fault.message : Fault → String
  | .unsendable none => "builder error"
  | .unsendable (some url) => "builder error" ++ forUrl url
  | .unanswered url => "error sending request" ++ forUrl url
  | .brokenOff => "error decoding response body"

structure Outgoing where
  method : Http.Method
  secure : Bool
  host : Url.Host
  port : Nat
  target : String
  /-- Names in lowercase; a name may occur more than once. -/
  headers : List (String × String)
  body : Option String
  url : String
  deriving DecidableEq, Repr

def isNameChar (c : Char) : Bool :=
  c.isAlphanum || "!#$%&'*+-.^_`|~".toList.contains c

def isHeaderName (s : String) : Bool := !s.isEmpty && s.toList.all isNameChar

def isValueChar (c : Char) : Bool := c == '\t' || (0x20 ≤ c.toNat && c.toNat ≠ 0x7F)

def isHeader (h : String × String) : Bool := isHeaderName h.1 && h.2.toList.all isValueChar

def credentials? (a : Url.Authority) : Option (List Char) := do
  let user ← Url.decode? a.user
  let password := a.password.bind Url.decode?
  if user.isEmpty && password.isNone then none else some (user ++ ':' :: password.getD [])

def basicHeader (credentials : List Char) : String × String :=
  ("authorization", "Basic " ++ String.ofList (Text.base64 (Text.utf8Bytes credentials)))

def withoutUser (u : Url) : Url :=
  { u with authority := u.authority.map fun a => { a with user := [], password := none } }

def takeUser (u : Url) : List (String × String) × Url :=
  match u.authority.bind credentials? with
  | some credentials => ([basicHeader credentials], withoutUser u)
  | none => ([], u)

def spoken? (scheme : List Char) : Option Bool :=
  if scheme = "http".toList then some false
  else if scheme = "https".toList then some true
  else none

def targetOf (u : Url) : String := String.ofList (u.path.chars ++ u.queryChars)

def portOf (u : Url) : Nat :=
  ((u.authority.bind (·.port)).or (Url.defaultPort u.scheme)).getD 0

def prepare (r : Request) : Except Fault Outgoing :=
  match Url.parse r.url with
  | .error _ => .error (.unsendable none)
  | .ok given =>
    match given.host? with
    | none => .error (.unsendable (some given.text))
    | some host =>
      if !r.headers.entries.all isHeader then .error (.unsendable none)
      else
        let (userHeaders, u) := takeUser given
        match spoken? u.scheme with
        | none => .error (.unsendable (some u.text))
        | some secure =>
          .ok {
            method := r.method
            secure, host
            port := portOf u
            target := targetOf u
            headers := userHeaders ++ r.headers.entries.map fun h => (Text.lowerAscii h.1, h.2)
            body := r.body
            url := u.text }

end ClusterConsole.Network
