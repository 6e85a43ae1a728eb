import ClusterConsole.Settings.Basic

/-!
# Where settings are

The system's file is under the root, the user's under the configuration home. Paths are joined as
text, and an absolute one stands for itself.
-/

namespace ClusterConsole.Settings

def isAbsolute (path : String) : Bool := path.toList.head? == some '/'

def joinPath (base path : String) : String :=
  if isAbsolute path || base = "" then path
  else if base.toList.getLast? = some '/' then base ++ path
  else base ++ "/" ++ path

structure Location where
  system : String
  user : String
  deriving DecidableEq, Repr

def rootVariable : String := "KING_ROOT"

def homeVariable : String := "KING_CONFIG_HOME"

def rootOf (workingDirectory : String) (lookup : String → Option String) : String :=
  ((lookup rootVariable).bind filled?).getD workingDirectory

def homeOf (lookup : String → Option String) (chosen : Option String) : String :=
  (chosen.or ((lookup homeVariable).bind filled?)).getD ".config"

def Location.of (workingDirectory : String) (lookup : String → Option String)
    (chosen : Option String) : Location :=
  let root := rootOf workingDirectory lookup
  ⟨joinPath root "conf/settings.yaml",
    joinPath (joinPath root (homeOf lookup chosen)) "weaviate-king/settings.yaml"⟩

end ClusterConsole.Settings
