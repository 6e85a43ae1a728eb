import ClusterConsole.Url.Basic

/-!
# Reading URLs

Only absolute URLs are read. Controls and spaces around the text and tabs and line breaks within it
are left out. What stands before the last `@` of an authority is a user and a password.
-/

namespace ClusterConsole.Url

def isEdge (c : Char) : Bool := c.toNat ≤ 0x20

def cleaned (cs : List Char) : List Char :=
  (((cs.dropWhile isEdge).reverse.dropWhile isEdge).reverse).filter (!isIgnored ·)

def isSchemeChar (c : Char) : Bool := c.isAlphanum || c == '+' || c == '-' || c == '.'

def scheme? (cs : List Char) : Option (List Char × List Char) :=
  match cs with
  | c :: _ =>
    if !c.isAlpha then none
    else match cs.dropWhile isSchemeChar with
      | ':' :: rest => some (lowered (cs.takeWhile isSchemeChar), rest)
      | _ => none
  | [] => none

def endsAuthority (family : Family) (c : Char) : Bool := isSlash family c || c == '?' || c == '#'

def splitLastAt (cs : List Char) : Option (List Char × List Char) :=
  match cs.reverse.span (· != '@') with
  | (back, _ :: front) => some (front.reverse, back.reverse)
  | (_, []) => none

structure Credentials where
  user : List Char
  password : Option (List Char)

def credentials (cs : List Char) : Credentials :=
  match cs.span (· != ':') with
  | (user, ':' :: p :: ps) => ⟨encode userSet user, some (encode userSet (p :: ps))⟩
  | (user, _) => ⟨encode userSet user, none⟩

/-- Host and port: the port is after the first colon outside brackets. -/
def splitPort (inBrackets : Bool) : List Char → List Char × Option (List Char)
  | [] => ([], none)
  | c :: cs =>
    if c = ':' ∧ ¬inBrackets then ([], some cs)
    else
      let r := splitPort (if c = '[' then true else if c = ']' then false else inBrackets) cs
      (c :: r.1, r.2)

def portOf (scheme : List Char) (cs : List Char) : Except Fault (Option Nat) :=
  if !cs.all Char.isDigit then .error .badPort
  else
    let n := Ipv4.valueIn 10 cs
    if 65535 < n then .error .badPort
    else .ok (if cs.isEmpty ∨ defaultPort scheme = some n then none else some n)

def authorityOf (scheme : List Char) (cs : List Char) : Except Fault Authority := do
  let family := familyOf scheme
  let (who, rest) := match splitLastAt cs with
    | some (front, back) => (credentials front, back)
    | none => (⟨[], none⟩, cs)
  let (hostText, port) := splitPort false rest
  if hostText.isEmpty ∧ (family.isSpecial ∨ port.isSome) then .error .emptyHost
  else
    let host ← if family.isSpecial then Host.parse hostText else Host.parsePlain hostText
    let port ← match port with
      | some p => portOf scheme p
      | none => .ok none
    if host.isEmpty ∧ (who.user ≠ [] ∨ who.password.isSome) then .error .emptyHost
    else .ok ⟨who.user, who.password, host, port⟩

def tailOf (family : Family) (cs : List Char) : Option (List Char) × Option (List Char) :=
  let set := if family.isSpecial then specialQuerySet else querySet
  let fragmentOf := fun (cs : List Char) => match cs with
    | '#' :: f => some (encode fragmentSet f)
    | _ => none
  match cs with
  | '?' :: rest =>
    (some (encode set (rest.takeWhile (· != '#'))), fragmentOf (rest.dropWhile (· != '#')))
  | cs => (none, fragmentOf cs)

def isTailMark (c : Char) : Bool := c == '?' || c == '#'

def assemble (scheme : List Char) (authority : Option Authority) (path : Path) (rest : List Char) :
    Url :=
  let t := tailOf (familyOf scheme) rest
  ⟨scheme, authority, path, t.1, t.2⟩

/-- The path after an authority. Only a special URL has one when nothing is written. -/
def pathAfterHost (family : Family) (cs : List Char) : Path :=
  match cs with
  | [] => .segments (if family.isSpecial then [[]] else [])
  | c :: rest => .segments (pathOf family (if isSlash family c then rest else c :: rest))

def afterSlashes (scheme : List Char) (cs : List Char) : Except Fault Url := do
  let family := familyOf scheme
  let front := cs.takeWhile (!endsAuthority family ·)
  let rest := cs.dropWhile (!endsAuthority family ·)
  if front = ['@'] ∧ rest ≠ [] then throw .emptyHost
  let authority ← authorityOf scheme front
  let path := pathAfterHost family (rest.takeWhile (!isTailMark ·))
  .ok (assemble scheme (some authority) path (rest.dropWhile (!isTailMark ·)))

def plainUrl (scheme : List Char) (cs : List Char) : Except Fault Url :=
  match cs with
  | '/' :: '/' :: rest => afterSlashes scheme rest
  | '/' :: rest =>
    let path := pathOf .plain (rest.takeWhile (!isTailMark ·))
    .ok (assemble scheme none (.segments path) (rest.dropWhile (!isTailMark ·)))
  | rest =>
    let path := encode [] (rest.takeWhile (!isTailMark ·))
    .ok (assemble scheme none (.text path) (rest.dropWhile (!isTailMark ·)))

def localHost : List Char := "localhost".toList

/-- A file's host is empty when it is the local one or stands before a drive letter. -/
def fileHost (host : List Char) (path : List Char) : Except Fault Host := do
  if host.isEmpty then return .name []
  let h ← Host.parse host
  let drive := match splitSlashes .file path with
    | s :: _ => isDriveLetter s
    | [] => false
  return if h == .name localHost || drive then .name [] else h

def assembleFile (scheme : List Char) (host : Host) (path : List Char) (rest : List Char) : Url :=
  assemble scheme (some ⟨[], none, host, none⟩) (.segments (pathOf .file path)) rest

def fileUrl (scheme : List Char) (cs : List Char) : Except Fault Url := do
  let rest := cs.dropWhile (!isTailMark ·)
  match cs.takeWhile (!isTailMark ·) with
  | a :: b :: path =>
    if isSlash .file a && isSlash .file b then
      let hostText := path.takeWhile (!isSlash .file ·)
      if isDriveLetter hostText then
        return assembleFile scheme (.name []) path rest
      let path := (path.dropWhile (!isSlash .file ·)).drop 1
      let host ← fileHost hostText path
      return assembleFile scheme host path rest
    else
      let path := if isSlash .file a then b :: path else a :: b :: path
      return assembleFile scheme (.name []) path rest
  | path => return assembleFile scheme (.name []) (path.dropWhile (isSlash .file)) rest

def parseChars (cs : List Char) : Except Fault Url :=
  match scheme? (cleaned cs) with
  | none => .error .relative
  | some (scheme, rest) =>
    match familyOf scheme with
    | .file => fileUrl scheme rest
    | .special => afterSlashes scheme (rest.dropWhile (isSlash .special))
    | .plain => plainUrl scheme rest

def parse (s : String) : Except Fault Url := parseChars s.toList

end ClusterConsole.Url
