/-!
# Arguments

A command line has levels: what comes before the command and what comes after it. On a level stand
options with a value each, the switch for verbosity, and words. An option has its value in the same
argument behind `=` or in the next one, which then must not look like an option. Behind `--`
everything is a word.
-/

namespace ClusterConsole.Console

structure Level where
  options : List (String × String)
  verbose : Nat
  words : List String
  deriving DecidableEq, Repr

inductive Argument where
  | word
  | short (letters : List Char)
  | long (name : String) (value : Option String)
  deriving DecidableEq, Repr

namespace Argument

def ofLong (cs : List Char) : Argument :=
  .long (String.ofList (cs.takeWhile (· ≠ '=')))
    (match cs.dropWhile (· ≠ '=') with
      | [] => none
      | _ :: value => some (String.ofList value))

def ofText (s : String) : Argument :=
  match s.toList with
  | ['-'] => .word
  | '-' :: '-' :: cs => ofLong cs
  | '-' :: cs => .short cs
  | _ => .word

end Argument

def isValue (s : String) : Bool := Argument.ofText s == .word

namespace Level

def empty : Level := ⟨[], 0, []⟩

def addOption (name value : String) (l : Level) : Level :=
  { l with options := (name, value) :: l.options }

def addVerbose (times : Nat) (l : Level) : Level := { l with verbose := times + l.verbose }

def addWord (word : String) (l : Level) : Level := { l with words := word :: l.words }

def read? (names : List String) : List String → Option Level
  | [] => some empty
  | "--" :: args => some { empty with words := args }
  | arg :: args =>
    match Argument.ofText arg with
    | .word => (read? names args).map (addWord arg)
    | .short letters =>
      if letters.all (· == 'v') then (read? names args).map (addVerbose letters.length) else none
    | .long "verbose" none => (read? names args).map (addVerbose 1)
    | .long name (some value) =>
      if name ∈ names then (read? names args).map (addOption name value) else none
    | .long name none =>
      match args with
      | value :: rest =>
        if name ∈ names ∧ isValue value = true then (read? names rest).map (addOption name value)
        else none
      | [] => none

def split? (names : List String) : List String → Option (List String × String × List String)
  | [] => none
  | "--" :: _ => none
  | arg :: args =>
    match Argument.ofText arg with
    | .word => some ([], arg, args)
    | .long name none =>
      if name ∈ names then
        match args with
        | value :: rest => (split? names rest).map fun s => (arg :: value :: s.1, s.2)
        | [] => none
      else (split? names args).map fun s => (arg :: s.1, s.2)
    | _ => (split? names args).map fun s => (arg :: s.1, s.2)

def single? (l : Level) (name : String) : Option (Option String) :=
  match l.options.filter (·.1 = name) with
  | [] => some none
  | [o] => some (some o.2)
  | _ => none

def all (l : Level) (name : String) : List String :=
  (l.options.filter (·.1 = name)).map (·.2)

end Level

end ClusterConsole.Console
