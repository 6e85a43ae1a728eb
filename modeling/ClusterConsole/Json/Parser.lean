import ClusterConsole.Json.Numeral

/-!
# Reading JSON

`parse?` reads one value with blanks around it. Of several faults the first in the text counts.
Arrays and objects may be nested 127 deep. Escapes of surrogates must come in pairs.
-/

namespace ClusterConsole.Json

def isLayout (c : Char) : Bool := c == ' ' || c == '\n' || c == '\t' || c == '\r'

def skipLayout (cs : List Char) : List Char := cs.dropWhile isLayout

def keyword (v : Value) : List Char → List Char → Except Stop (Value × List Char)
  | [], cs => .ok (v, cs)
  | _ :: _, [] => stopHere .endInValue []
  | k :: ks, c :: cs => if c = k then keyword v ks cs else stopAt .noKeyword (c :: cs)

/-- Four hexadecimal digits. A fault counts four bytes as read, or all if there are fewer. -/
def hexQuad (cs : List Char) : Except Stop (Nat × List Char) :=
  match cs with
  | a :: b :: c :: d :: rest =>
    if [a, b, c, d].all Text.isHexDigit then
      .ok ([a, b, c, d].foldl (fun n x => 16 * n + Text.hexValue x) 0, rest)
    else .error ⟨.badEscape, byteCount cs - 4⟩
  | _ => if byteCount cs < 4 then stopHere .endInString [] else
    .error ⟨.badEscape, byteCount cs - 4⟩

def lowSurrogate (high : Nat) (cs : List Char) : Except Stop (Char × List Char) :=
  match cs with
  | [] => stopHere .endInString []
  | '\\' :: [] => stopHere .endInString []
  | '\\' :: 'u' :: rest => do
    let (low, after) ← hexQuad rest
    if low < 0xDC00 ∨ 0xDFFF < low then stopHere .loneSurrogate after
    else .ok (Char.ofNat ((high - 0xD800) * 0x400 + (low - 0xDC00) + 0x10000), after)
  | '\\' :: rest => stopAt .unpairedEscape rest
  | cs => stopAt .unpairedEscape cs

def hexEscape (cs : List Char) : Except Stop (Char × List Char) := do
  let (n, rest) ← hexQuad cs
  if 0xDC00 ≤ n ∧ n ≤ 0xDFFF then stopHere .loneSurrogate rest
  else if 0xD800 ≤ n ∧ n ≤ 0xDBFF then lowSurrogate n rest
  else .ok (Char.ofNat n, rest)

def escape (cs : List Char) : Except Stop (Char × List Char) :=
  match cs with
  | [] => stopHere .endInString []
  | '"' :: rest => .ok ('"', rest)
  | '\\' :: rest => .ok ('\\', rest)
  | '/' :: rest => .ok ('/', rest)
  | 'b' :: rest => .ok ('\x08', rest)
  | 'f' :: rest => .ok ('\x0c', rest)
  | 'n' :: rest => .ok ('\n', rest)
  | 'r' :: rest => .ok ('\r', rest)
  | 't' :: rest => .ok ('\t', rest)
  | 'u' :: rest => hexEscape rest
  | cs => stopAt .badEscape cs

/-- The characters of a string up to its closing quote. Each step takes a character at least, so
fuel as long as the text is enough. -/
def stringChars : Nat → List Char → Except Stop (List Char × List Char)
  | 0, _ => stopHere .endInString []
  | _ + 1, [] => stopHere .endInString []
  | _ + 1, '"' :: cs => .ok ([], cs)
  | fuel + 1, '\\' :: cs => do
    let (c, rest) ← escape cs
    let (more, after) ← stringChars fuel rest
    return (c :: more, after)
  | fuel + 1, c :: cs =>
    if c.toNat < 0x20 then stopAt .controlCharacter (c :: cs)
    else do
      let (more, after) ← stringChars fuel cs
      return (c :: more, after)

def string (cs : List Char) : Except Stop (String × List Char) := do
  let (content, rest) ← stringChars (cs.length + 1) cs
  return (String.ofList content, rest)

section Sequences

variable (item : List Char → Except Stop (Value × List Char))

def moreItems : Nat → List Char → Except Stop (List Value × List Char)
  | 0, _ => stopHere .endInList []
  | fuel + 1, cs =>
    match skipLayout cs with
    | [] => stopHere .endInList []
    | ']' :: rest => .ok ([], rest)
    | ',' :: rest =>
      match skipLayout rest with
      | [] => stopHere .endInValue []
      | ']' :: after => stopAt .trailingComma (']' :: after)
      | start => do
        let (v, after) ← item start
        let (vs, last) ← moreItems fuel after
        return (v :: vs, last)
    | rest => stopAt .noListSeparator rest

def items (cs : List Char) : Except Stop (List Value × List Char) :=
  match skipLayout cs with
  | [] => stopHere .endInList []
  | ']' :: rest => .ok ([], rest)
  | start => do
    let (v, after) ← item start
    let (vs, last) ← moreItems item (after.length + 1) after
    return (v :: vs, last)

def field (cs : List Char) : Except Stop ((String × Value) × List Char) := do
  let (name, rest) ← string cs
  match skipLayout rest with
  | [] => stopHere .endInObject []
  | ':' :: after =>
    let (v, last) ← item after
    return ((name, v), last)
  | rest => stopAt .noColon rest

def moreFields : Nat → List Char → Except Stop (List (String × Value) × List Char)
  | 0, _ => stopHere .endInObject []
  | fuel + 1, cs =>
    match skipLayout cs with
    | [] => stopHere .endInObject []
    | '}' :: rest => .ok ([], rest)
    | ',' :: rest =>
      match skipLayout rest with
      | [] => stopHere .endInValue []
      | '"' :: after => do
        let (f, next) ← field item after
        let (fs, last) ← moreFields fuel next
        return (f :: fs, last)
      | '}' :: after => stopAt .trailingComma ('}' :: after)
      | after => stopAt .keyNotString after
    | rest => stopAt .noObjectSeparator rest

def fields (cs : List Char) : Except Stop (List (String × Value) × List Char) :=
  match skipLayout cs with
  | [] => stopHere .endInObject []
  | '}' :: rest => .ok ([], rest)
  | '"' :: after => do
    let (f, next) ← field item after
    let (fs, last) ← moreFields item (next.length + 1) next
    return (f :: fs, last)
  | rest => stopAt .keyNotString rest

end Sequences

def value (levels : Nat) (cs : List Char) : Except Stop (Value × List Char) :=
  match skipLayout cs with
  | [] => stopHere .endInValue []
  | 'n' :: rest => keyword .null ['u', 'l', 'l'] rest
  | 't' :: rest => keyword (.bool true) ['r', 'u', 'e'] rest
  | 'f' :: rest => keyword (.bool false) ['a', 'l', 's', 'e'] rest
  | '-' :: rest => do
    let (n, after) ← Numeral.unsigned true rest
    return (.number n, after)
  | '"' :: rest => do
    let (s, after) ← string rest
    return (.string s, after)
  | '[' :: rest =>
    match levels with
    | 0 => stopAt .tooDeep ('[' :: rest)
    | n + 1 => do
      let (vs, after) ← items (value n) rest
      return (.array vs, after)
  | '{' :: rest =>
    match levels with
    | 0 => stopAt .tooDeep ('{' :: rest)
    | n + 1 => do
      let (fs, after) ← fields (value n) rest
      return (.object (Fields.ofList fs), after)
  | c :: rest =>
    if c.isDigit then do
      let (n, after) ← Numeral.unsigned false (c :: rest)
      return (.number n, after)
    else stopAt .noValue (c :: rest)

def maxDepth : Nat := 127

def parseChars (text : List Char) : Except Stop Value := do
  let (v, rest) ← value maxDepth text
  match skipLayout rest with
  | [] => .ok v
  | rest => stopAt .trailingCharacters rest

def parse (text : String) : Except SyntaxFault Value :=
  (parseChars text.toList).mapError (SyntaxFault.locate text.toList)

end ClusterConsole.Json
