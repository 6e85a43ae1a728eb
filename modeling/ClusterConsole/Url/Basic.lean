import ClusterConsole.Url.Host
import ClusterConsole.Url.Path

/-!
# URLs

An absolute URL is a scheme, an authority or none, a path, and perhaps a query and a fragment. The
path of a URL that begins with no slash is kept as text, and nothing can be put behind it.
-/

namespace ClusterConsole

namespace Url

structure Authority where
  user : List Char
  password : Option (List Char)
  host : Host
  port : Option Nat
  deriving DecidableEq, Repr

inductive Path where
  | text (chars : List Char)
  | segments (segs : Segments)
  deriving DecidableEq, Repr

end Url

structure Url where
  scheme : List Char
  authority : Option Url.Authority
  path : Url.Path
  query : Option (List Char)
  fragment : Option (List Char)
  deriving DecidableEq, Repr

namespace Url

def familyOf (scheme : List Char) : Family :=
  if scheme = "file".toList then .file
  else if ["http", "https", "ws", "wss", "ftp"].any fun s => s.toList = scheme then .special
  else .plain

def defaultPort (scheme : List Char) : Option Nat :=
  if scheme = "http".toList ∨ scheme = "ws".toList then some 80
  else if scheme = "https".toList ∨ scheme = "wss".toList then some 443
  else if scheme = "ftp".toList then some 21
  else none

def family (u : Url) : Family := familyOf u.scheme

namespace Authority

def userChars (a : Authority) : List Char :=
  match a.user, a.password with
  | [], none => []
  | user, none => user ++ ['@']
  | user, some p => user ++ ':' :: p ++ ['@']

def chars (a : Authority) : List Char :=
  a.userChars ++ a.host.chars ++
    match a.port with
    | some p => ':' :: (toString p).toList
    | none => []

end Authority

namespace Path

def chars : Path → List Char
  | .text cs => cs
  | .segments segs => pathChars segs

end Path

/-- Two slashes before the authority; without one, a path that would be taken for an authority has
a dot before it. -/
def authorityChars (u : Url) : List Char :=
  match u.authority, u.path with
  | some a, _ => '/' :: '/' :: a.chars
  | none, .segments ([] :: _ :: _) => ['/', '.']
  | none, _ => []

def queryChars (u : Url) : List Char :=
  match u.query with
  | some q => '?' :: q
  | none => []

def fragmentChars (u : Url) : List Char :=
  match u.fragment with
  | some f => '#' :: f
  | none => []

def chars (u : Url) : List Char :=
  u.scheme ++ ':' :: u.authorityChars ++ u.path.chars ++ u.queryChars ++ u.fragmentChars

def text (u : Url) : String := String.ofList u.chars

def isBase (u : Url) : Bool :=
  match u.path with
  | .text _ => false
  | .segments _ => true

def join (u : Url) (more : Segments) : Url :=
  match u.path with
  | .text _ => u
  | .segments segs => { u with path := .segments (extend u.family (dropEmptyEnd segs) more) }

def host? (u : Url) : Option Host := (u.authority.map (·.host)).filter (!·.isEmpty)

end Url

end ClusterConsole
