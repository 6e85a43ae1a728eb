import ClusterConsole.Json.Decoder
import ClusterConsole.Text.Blank

/-! URL schemes of a cluster. -/

namespace ClusterConsole

inductive Scheme where
  | http
  | https
  deriving DecidableEq, Repr

namespace Scheme

def name : Scheme → String
  | .http => "http"
  | .https => "https"

/-- Reads a scheme as a user writes it; nothing written is `http`. The error is the name that no
scheme has, without blanks around it and in lowercase. -/
def parse (s : String) : Except String Scheme :=
  match Text.lowerAscii (Text.trim s) with
  | "" => .ok .http
  | "http" => .ok .http
  | "https" => .ok .https
  | other => .error other

def unsupportedMessage (name : String) : String := "unsupported scheme: " ++ name

def toJson (s : Scheme) : Json.Value := .string s.name

def decoder : Json.Decoder Scheme := Json.Decoder.choice [("http", .http), ("https", .https)]

end Scheme

end ClusterConsole
