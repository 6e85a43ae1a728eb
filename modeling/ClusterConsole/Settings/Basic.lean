import ClusterConsole.Backend.Endpoints
import ClusterConsole.Objects.Engine
import ClusterConsole.Transport.Exchange

/-!
# Settings

Settings come in layers that may leave anything open. What the user's layer says counts before what
the system's says, one setting at a time, and what neither says has a default. A size or a number of
attempts of zero is as good as none, and a time limit of zero is no limit.
-/

namespace ClusterConsole

structure Settings where
  baseUrl : Option String
  /-- In seconds. -/
  requestTimeout : Option UInt64
  fetchPageSize : Option UInt64
  displayPageSize : Option UInt64
  maxAttempts : Option UInt32
  /-- In milliseconds. -/
  retryBackoff : Option UInt64
  deriving DecidableEq, Repr

namespace Settings

def empty : Settings := ⟨none, none, none, none, none, none⟩

def under (s user : Settings) : Settings where
  baseUrl := user.baseUrl.or s.baseUrl
  requestTimeout := user.requestTimeout.or s.requestTimeout
  fetchPageSize := user.fetchPageSize.or s.fetchPageSize
  displayPageSize := user.displayPageSize.or s.displayPageSize
  maxAttempts := user.maxAttempts.or s.maxAttempts
  retryBackoff := user.retryBackoff.or s.retryBackoff

def urlVariable : String := "KING_BACKEND_URL"

def filled? (s : String) : Option String :=
  let t := Text.trim s
  if t = "" then none else some t

def backendUrl (s : Settings) (lookup : String → Option String) : String :=
  (((lookup urlVariable).bind filled?).or (s.baseUrl.bind filled?)).getD Backend.defaultUrl

def defaultTimeout : UInt64 := 30

def timeLimit (s : Settings) : Option Nat :=
  let seconds := (s.requestTimeout.getD defaultTimeout).toNat
  if seconds = 0 then none else some seconds

def engineOptions (s : Settings) : Engine.Options where
  fetchPageSize := (s.fetchPageSize.filter (0 < ·)).getD Query.defaultLimit
  displayPageSize := (s.displayPageSize.filter (0 < ·)).getD Page.defaultSize
  timeout := s.timeLimit.map (1000 * ·)

def retryPolicy (s : Settings) : Transport.RetryPolicy where
  maxAttempts := (s.maxAttempts.filter (0 < ·)).getD Transport.RetryPolicy.default.maxAttempts
  backoff := (s.retryBackoff.map UInt64.toNat).getD Transport.RetryPolicy.default.backoff

end Settings

end ClusterConsole
