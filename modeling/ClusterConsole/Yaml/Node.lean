import ClusterConsole.Yaml.Scalar

/-!
# YAML nodes

Reads one document of block and flow collections with plain and quoted scalars. Anchors, tags, block
scalars, directives and keys behind a question mark are not read. A key is on one line, and the
entries of a block collection begin in one column.
-/

namespace ClusterConsole.Yaml

inductive Node where
  | scalar (text : String) (quoted : Bool)
  | sequence (items : List Node)
  | mapping (entries : List (Node × Node))
  deriving Repr

namespace Node

def empty : Node := .scalar "" false

structure Read where
  node : Node
  line : Nat
  rest : List Spot

def ofFound (quoted : Bool) (f : Found) : Read :=
  ⟨.scalar (String.ofList f.chars) quoted, f.line, f.rest⟩

def colon? (flow : Bool) (s : List Spot) : Option (Spot × List Spot) :=
  match if flow then flowContent s else s.dropWhile Spot.isSpace with
  | c :: rest => if c.char == ':' && (flow || atBlank rest) then some (c, rest) else none
  | [] => none

def isItem : List Spot → Bool
  | s :: rest => s.char == '-' && atBlank rest
  | [] => false

def endsBlock (column : Nat) : List Spot → Bool
  | [] => true
  | s :: rest => s.column < column || atMarker (s :: rest)

def onLine (line : Nat) : List Spot → Bool
  | [] => false
  | s :: _ => s.line == line

mutual

/-- A scalar or a flow collection. Every call takes a character or ends the reading, so fuel of
several times the text's length is enough. -/
def atom (flow : Bool) (lowest : Nat) : Nat → List Spot → Option Read
  | 0, _ => none
  | _ + 1, [] => none
  | fuel + 1, s :: rest =>
    if atMarker (s :: rest) then none
    else if s.char == '"' then (doubleQuoted (rest.length + 1) rest).map (ofFound true)
    else if s.char == '\'' then (singleQuoted (rest.length + 1) rest).map (ofFound true)
    else if s.char == '[' then do
      let (items, line, more) ← flowItems lowest fuel rest
      return ⟨.sequence items, line, more⟩
    else if s.char == '\x7b' then do
      let (entries, line, more) ← flowEntries lowest fuel rest
      return ⟨.mapping entries, line, more⟩
    else if startsPlain flow (s :: rest) then
      (plain flow lowest (rest.length + 1) (s :: rest)).map (ofFound false)
    else none

def flowPair (lowest : Nat) : Nat → List Spot → Option (Node × Option Node × List Spot)
  | 0, _ => none
  | fuel + 1, s => do
    let key ← atom true lowest fuel s
    match colon? true key.rest with
    | none => return (key.node, none, key.rest)
    | some (colon, rest) =>
      if !onLine colon.line s then none
      else
        let start := flowContent rest
        if start.head?.any fun c => isBracket c.char && !"[\x7b".toList.contains c.char then
          return (key.node, some empty, start)
        else
          let value ← atom true lowest fuel start
          return (key.node, some value.node, value.rest)

/-- The items up to a closing bracket. A pair among them is a mapping of its own. -/
def flowItems (lowest : Nat) : Nat → List Spot → Option (List Node × Nat × List Spot)
  | 0, _ => none
  | fuel + 1, s =>
    match flowContent s with
    | [] => none
    | c :: rest =>
      if c.char == ']' then some ([], c.line, rest)
      else do
        let (key, value?, rest) ← flowPair lowest fuel (c :: rest)
        let item := match value? with
          | some value => mapping [(key, value)]
          | none => key
        match flowContent rest with
        | [] => none
        | d :: rest =>
          if d.char == ']' then return ([item], d.line, rest)
          else if d.char == ',' then
            let (items, line, rest) ← flowItems lowest fuel rest
            return (item :: items, line, rest)
          else none

def flowEntries (lowest : Nat) : Nat → List Spot → Option (List (Node × Node) × Nat × List Spot)
  | 0, _ => none
  | fuel + 1, s =>
    match flowContent s with
    | [] => none
    | c :: rest =>
      if c.char == '\x7d' then some ([], c.line, rest)
      else do
        let (key, value?, rest) ← flowPair lowest fuel (c :: rest)
        let entry := (key, value?.getD empty)
        match flowContent rest with
        | [] => none
        | d :: rest =>
          if d.char == '\x7d' then return ([entry], d.line, rest)
          else if d.char == ',' then
            let (entries, line, rest) ← flowEntries lowest fuel rest
            return (entry :: entries, line, rest)
          else none

end

def key? (lowest : Nat) (fuel : Nat) (s : List Spot) : Option (Node × Spot × List Spot) := do
  let key ← atom false lowest fuel s
  let (colon, rest) ← colon? false key.rest
  if onLine colon.line s then some (key.node, colon, rest) else none

mutual

/-- A node outside brackets, at the lowest column or behind it, and the content after it, which is
on a line of its own. `nested` says whether a block collection may begin here, `beside` whether the
items of one may begin a column before the lowest. -/
def block (lowest : Nat) (nested beside : Bool) : Nat → List Spot → Option (Node × List Spot)
  | 0, _ => none
  | _ + 1, [] => some (empty, [])
  | fuel + 1, s :: rest =>
    if atMarker (s :: rest) then some (empty, s :: rest)
    else if isItem (s :: rest) && nested &&
        (lowest ≤ s.column || (beside && lowest == s.column + 1)) then do
      let (items, rest) ← blockItems s.column fuel rest
      return (sequence items, rest)
    else if s.column < lowest then some (empty, s :: rest)
    else do
      let first ← atom false lowest fuel (s :: rest)
      match colon? false first.rest with
      | some (colon, after) =>
        if nested && colon.line == s.line then
          let (entries, rest) ← blockEntries s.column first.node colon.line fuel after
          return (mapping entries, rest)
        else none
      | none =>
        let next := nextContent first.rest
        if onLine first.line next then none else return (first.node, next)
termination_by structural fuel => fuel

def blockItems (column : Nat) : Nat → List Spot → Option (List Node × List Spot)
  | 0, _ => none
  | fuel + 1, s => do
    let (item, next) ← block (column + 1) true false fuel (indentedContent s)
    if endsBlock column next then return ([item], next)
    else
      match next with
      | [] => return ([item], [])
      | d :: rest =>
        if d.column ≠ column then none
        else if isItem (d :: rest) then
          let (items, last) ← blockItems column fuel rest
          return (item :: items, last)
        else return ([item], d :: rest)
termination_by structural fuel => fuel

def blockEntries (column : Nat) (key : Node) (line : Nat) :
    Nat → List Spot → Option (List (Node × Node) × List Spot)
  | 0, _ => none
  | fuel + 1, s => do
    let start := nextContent s
    let inLine := onLine line start
    let (value, next) ← block (column + 1) (!inLine) (!inLine) fuel start
    if endsBlock column next then return ([(key, value)], next)
    else
      match next with
      | [] => return ([(key, value)], [])
      | d :: rest =>
        if d.column ≠ column || isItem (d :: rest) then none
        else
          let (key', colon, after) ← key? (column + 1) fuel (d :: rest)
          let (entries, last) ← blockEntries column key' colon.line fuel after
          return ((key, value) :: entries, last)
termination_by structural fuel => fuel

end

def document (s : List Spot) : Option Node := do
  let fuel := 3 * s.length + 4
  let start := indentedContent s
  let marked := isMarker '-' start
  let content := if marked then nextContent (start.drop 3) else start
  let inLine := marked && onLine ((start.head?.map (·.line)).getD 0) content
  let (node, next) ← block 0 (!inLine) false fuel content
  match next with
  | [] => some node
  | _ => if isMarker '.' next && (nextContent (next.drop 3)).isEmpty then some node else none

def parse? (text : String) : Option Node :=
  let cs := match text.toList with
    | '\ufeff' :: cs => cs
    | cs => cs
  if cs.all isPrintable then document (place cs) else none

end Node

end ClusterConsole.Yaml
