import Attribution.Archive
import Attribution.Number.Decimal
import Attribution.Proxy
import Attribution.Run
import Attribution.Text.Digit

/-!
Downloading archives from a proxy. A response that says to come back later is tried again after a
delay, as often as the settings allow; every response is released before anything else happens.
-/

namespace Attribution.Download

open Text

/-- A response: its status, the delay it asks for, and its body or why that cannot be read. -/
structure Response where
  status : Int
  retryAfter : Option String
  body : Except String Payload

/-- What comes of a request: a response, or the reason why there is none. -/
inductive Reply where
  | failed (reason : String)
  | response (r : Response)

/-- How a world answers a request. -/
abbrev Transport (σ : Type) := String → σ → Reply × σ

inductive Event where
  | get (url : String)
  | read
  | release
  | sleep (seconds : Rat)
  deriving DecidableEq

def Event.print : Event → String
  | .get url => "GET " ++ url
  | .read => "read"
  | .release => "release"
  | .sleep seconds => "sleep " ++ (Number.Binary64.ofRat seconds).text

/-- The state behind the transport, and what has happened on the wire, oldest first. -/
structure Wire (σ : Type) where
  state : σ
  events : List Event

/-- How a delay is doubled: without bound, or as a binary64 number, for which a power of two beyond
the range of these numbers is refused. -/
inductive Arithmetic where
  | exact
  | binary64
  deriving DecidableEq, Repr

/-- The least power of two beyond the range of the binary64 numbers has this exponent. -/
def powerLimit : Nat := 1024

/-- The factor of a delay after a number of attempts. -/
def Arithmetic.power : Arithmetic → Nat → Except Fault Rat
  | exact, attempts => .ok (2 ^ attempts)
  | binary64, attempts =>
    if attempts < powerLimit then .ok (2 ^ attempts) else .error .hugePower

/-- How downloads are made. -/
structure Settings where
  proxy : String
  maxRetries : Int
  backoff : Rat
  arithmetic : Arithmetic
  deriving DecidableEq

/-- Three more attempts, after one second, two and four. -/
def Settings.default : Settings := ⟨Proxy.defaultUrl, 3, 1, .binary64⟩

/-- Why a download fails. -/
inductive Cause where
  | exhausted (status : Int) (retries : Nat)
  | notFound
  | status (status : Int)
  | network (reason : String)
  | badArchive
  deriving DecidableEq, Repr

def Cause.message : Cause → String
  | .exhausted code retries =>
    "proxy returned status " ++ toString code ++ " after " ++ toString retries ++ " retries"
  | .notFound => "module not found on proxy"
  | .status code => "proxy returned status " ++ toString code
  | .network reason => "network error: " ++ reason
  | .badArchive => "invalid module archive: File is not a zip file"

/-- The statuses worth another attempt: too many requests, and a server in trouble for a while. -/
def isRetryable (status : Int) : Bool := [429, 500, 502, 503, 504].contains status

/-- The base delay, doubled with every attempt made. -/
def Settings.doubled (settings : Settings) (attempts : Nat) : Except Fault Rat :=
  (settings.arithmetic.power attempts).map (settings.backoff * ·)

/-- The delay before the next attempt: what the response asks for in digits, else the base delay as
often doubled as attempts were made. -/
def delay (settings : Settings) (r : Response) (attempts : Nat) : Except Fault Rat :=
  match r.retryAfter with
  | some text =>
    if isDigits text.toList then
      match decimal? text.toList with
      | some n => .ok n
      | none => .error (.unreadableDelay text)
    else settings.doubled attempts
  | none => settings.doubled attempts

/-- A delay with one place, as it is logged. -/
def delayText (seconds : Rat) : String :=
  let x := Number.Binary64.ofRat seconds
  match x.toRat? with
  | some q => Number.fixedText 1 q
  | none => x.text

variable {σ : Type}

def event (e : Event) : Run (Wire σ) Unit :=
  Run.change fun w => { w with events := w.events ++ [e] }

def refuse {α : Type} (cause : Cause) (v : ModuleVersion) : Run (Wire σ) α :=
  Run.fail .download (some cause.message) (some v)

/-- Sends a request. -/
def send (transport : Transport σ) (url : String) : Run (Wire σ) Reply := do
  event (.get url)
  let s ← get
  let (reply, state) := transport url s.world.state
  set { s with world := { s.world with state } }
  return reply

/-- Fetches an archive after the given number of attempts, with so many more allowed. -/
def attempt (settings : Settings) (transport : Transport σ) (v : ModuleVersion) (made : Nat)
    (more : Nat) : Run (Wire σ) Payload := do
  let url := Proxy.archiveUrl settings.proxy v
  Run.debug ("Downloading " ++ url)
  match ← send transport url with
  | .failed reason => refuse (.network reason) v
  | .response r =>
    if isRetryable r.status then
      match more with
      | 0 =>
        event .release
        refuse (.exhausted r.status made) v
      | more + 1 =>
        match delay settings r made with
        | .error fault =>
          event .release
          throw (.fault fault)
        | .ok seconds =>
          Run.debug ("Proxy returned " ++ toString r.status ++ " for " ++ v.text ++
            ", retrying in " ++ delayText seconds ++ "s")
          event .release
          event (.sleep seconds)
          attempt settings transport v (made + 1) more
    else if r.status = 404 || r.status = 410 then
      event .release
      refuse .notFound v
    else if r.status ≠ 200 then
      event .release
      refuse (.status r.status) v
    else
      event .read
      event .release
      match r.body with
      | .error reason => refuse (.network reason) v
      | .ok payload => return payload

/-- Fetches the archive of a module version. -/
def fetch (settings : Settings) (transport : Transport σ) (v : ModuleVersion) :
    Run (Wire σ) Payload :=
  attempt settings transport v 0 settings.maxRetries.toNat

end Attribution.Download
