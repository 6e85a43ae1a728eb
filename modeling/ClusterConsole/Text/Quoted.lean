import ClusterConsole.Text.AsciiCase
import ClusterConsole.Text.Blank
import ClusterConsole.Text.InvisibleTable

/-!
# Quoted text in messages

A string is shown between quotes, with a backslash before a quote or a backslash and with the code
of every character that could not be seen.
-/

namespace ClusterConsole.Text

def hexChars (n : Nat) : List Char := Nat.toDigits 16 n

def showChar (c : Char) : List Char :=
  match c with
  | '\x00' => ['\\', '0']
  | '\t' => ['\\', 't']
  | '\r' => ['\\', 'r']
  | '\n' => ['\\', 'n']
  | '"' => ['\\', '"']
  | '\\' => ['\\', '\\']
  | c =>
    if inRanges invisibleRanges c.toNat then
      ['\\', 'u', '\x7b'] ++ hexChars c.toNat ++ ['\x7d']
    else [c]

def quoted (s : String) : String := String.ofList ('"' :: s.toList.flatMap showChar ++ ['"'])

end ClusterConsole.Text
