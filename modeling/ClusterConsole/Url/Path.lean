import ClusterConsole.Url.Percent

/-!
# Paths

A path is the list of its segments. A segment of two dots takes the one before it away, unless that
has the form of a drive letter, and one of a single dot takes nothing; at the end of a path both
leave an empty segment behind.
-/

namespace ClusterConsole.Url

inductive Family where
  | special
  | file
  | plain
  deriving DecidableEq, Repr

namespace Family

def isSpecial : Family → Bool
  | .plain => false
  | _ => true

end Family

abbrev Segments := List (List Char)

def isSlash (family : Family) (c : Char) : Bool := c == '/' || (family.isSpecial && c == '\\')

def lowered (cs : List Char) : List Char := cs.map Char.toLower

def isSingleDot (s : List Char) : Bool := s == ['.'] || lowered s == ['%', '2', 'e']

def isDoubleDot (s : List Char) : Bool :=
  s == ['.', '.'] || lowered s == ['.', '%', '2', 'e'] || lowered s == ['%', '2', 'e', '.'] ||
    lowered s == ['%', '2', 'e', '%', '2', 'e']

def isDriveLetter : List Char → Bool
  | [a, b] => a.isAlpha && (b == ':' || b == '|')
  | _ => false

def climb (segs : Segments) : Segments :=
  match segs.getLast? with
  | some last => if isDriveLetter last then segs else segs.dropLast
  | none => []

def normalizeDrive (family : Family) (before : Segments) (s : List Char) : List Char :=
  match s with
  | [a, '|'] => if family = .file ∧ before = [] ∧ a.isAlpha then [a, ':'] else s
  | s => s

/-- A drive letter that begins a file path ends there, and what follows is the next segment. -/
def splitDrive (family : Family) (before : Segments) (s : List Char) : Segments :=
  match s with
  | a :: ':' :: c :: cs =>
    if family = .file ∧ before = [] ∧ a.isAlpha then [[a, ':'], c :: cs] else [s]
  | s => [s]

def addInner (family : Family) (before : Segments) (s : List Char) : Segments :=
  if isDoubleDot s then climb before
  else if isSingleDot s then before
  else before ++ splitDrive family before (normalizeDrive family before s)

def addLast (family : Family) (before : Segments) (s : List Char) : Segments :=
  if isDoubleDot s then climb before ++ [[]]
  else if isSingleDot s then before ++ [[]]
  else before ++ splitDrive family before (normalizeDrive family before s)

def addAll (family : Family) (before : Segments) : Segments → Segments
  | [] => before
  | [s] => addLast family before s
  | s :: rest => addAll family (addInner family before s) rest

def splitSlashes (family : Family) : List Char → Segments
  | [] => [[]]
  | c :: cs =>
    if isSlash family c then [] :: splitSlashes family cs
    else match splitSlashes family cs with
      | part :: parts => (c :: part) :: parts
      | [] => [[c]]

/-- A file path does not begin with an empty segment, unless it is its only one. -/
def trimFile (family : Family) (segs : Segments) : Segments :=
  if family = .file then
    match segs.dropWhile (·.isEmpty) with
    | [] => [[]]
    | segs => segs
  else segs

def pathOf (family : Family) (cs : List Char) : Segments :=
  trimFile family (addAll family [] ((splitSlashes family cs).map (encode pathSet)))

def pathChars (segs : Segments) : List Char := segs.flatMap ('/' :: ·)

def isIgnored (c : Char) : Bool := c == '\t' || c == '\n' || c == '\r'

def dropEmptyEnd (segs : Segments) : Segments :=
  match segs with
  | [] => []
  | [s] => [s]
  | segs => if segs.getLast? = some [] then segs.dropLast else segs

/-- The path of one empty segment gives way to the first segment that is put behind it. -/
def base (segs : Segments) : Segments := if segs = [[]] then [] else segs

/-- The path with a segment put behind it. A segment that is written as one dot or two is skipped;
one that becomes so when line breaks and tabs are taken out counts as such in a path. -/
def push (family : Family) (segs : Segments) (s : List Char) : Segments :=
  if s = ['.'] ∨ s = ['.', '.'] then segs
  else
    let set := if family.isSpecial then specialSegmentSet else segmentSet
    trimFile family (addLast family (base segs) (encode set (s.filter (!isIgnored ·))))

def extend (family : Family) (segs : Segments) (more : Segments) : Segments :=
  more.foldl (push family) segs

end ClusterConsole.Url
