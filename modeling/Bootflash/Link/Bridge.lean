import Bootflash.Link.Line
import Bootflash.Text.Base64
import Bootflash.Url

namespace Bootflash

/-- How the program introduces itself to a bridge. -/
structure Login where
  username : String
  password : String
  /-- Whether a certificate is accepted unseen. -/
  skipVerify : Bool
deriving DecidableEq, Repr, Inhabited

namespace Login

/-- The credentials as they are sent: user and password in one text with a colon between them. None
without a user. -/
def credentials? (login : Login) : Option String :=
  if login.username = "" then none else some (login.username ++ ":" ++ login.password)

/-- The header that carries the credentials; empty without a user. -/
def authorization (login : Login) : String :=
  match login.credentials? with
  | none => ""
  | some text => "Basic " ++ Text.base64 (Text.utf8Bytes text)

end Login

/-- How a bridge behaves. -/
structure Bridge where
  /-- The user and the password it demands. -/
  demands : Option (String × String)
  /-- The status it refuses every handshake with. -/
  status : Option Int
  /-- The first byte of a message on which it closes the connection, and the code it gives. The
  message is not passed on. -/
  closesOn : Option (UInt8 × Int)
  /-- The name its certificate is made out to, which nobody vouches for. Without one its connections
  are not secured. -/
  certificate : Option String
  /-- Why it cannot be reached at all. -/
  unreachable : Option String
deriving DecidableEq, Repr, Inhabited

/-- The standard names of the codes a connection is closed with. -/
def closeName? (code : Nat) : Option String :=
  match code with
  | 1000 => some "normal"
  | 1001 => some "going away"
  | 1002 => some "protocol error"
  | 1003 => some "unsupported data"
  | 1005 => some "no status"
  | 1006 => some "abnormal closure"
  | 1007 => some "invalid payload data"
  | 1008 => some "policy violation"
  | 1009 => some "message too big"
  | 1010 => some "mandatory extension missing"
  | 1011 => some "internal server error"
  | 1015 => some "TLS handshake error"
  | _ => none

/-- Whether a code may stand in a closing message. -/
def isSendableCloseCode (code : Nat) : Bool :=
  (1000 ≤ code && code ≤ 1003) || (1007 ≤ code && code ≤ 1013) || (3000 ≤ code && code ≤ 4999)

/-- A closed connection, by the code and its name. -/
def closedWith (code : Nat) : Failure :=
  match closeName? code with
  | some name => .other s!"websocket: close {code} ({name})"
  | none => .other s!"websocket: close {code}"

/-- What a read reports after the bridge closed the connection. The code that means "none given" is
sent by leaving it out; any other takes two bytes. The normal code is an orderly end. -/
def closeFailure (code : Int) : Failure :=
  if code = 1005 then closedWith 1005
  else
    let sent := (code % 65536).toNat
    if sent = 1000 then .closed
    else if isSendableCloseCode sent then closedWith sent
    else .other s!"websocket: bad close code {sent}"

structure BridgeLink where
  bridge : Bridge
  line : Line
  connected : Bool
  /-- The authorization headers of all handshakes, in order. -/
  handshakes : List String
deriving DecidableEq

namespace BridgeLink

/-- A bridge nobody has connected to. -/
def unopened (bridge : Bridge) (device : Bootloader) : BridgeLink :=
  ⟨bridge, .toDevice device, false, []⟩

/-- The connection did not come about. -/
def failed (text : String) : Failure :=
  .context "bridge connection failed" (.other text)

/-- The request was answered with something other than a connection. -/
def refused (status : Int) : Failure :=
  .context s!"bridge connection failed (HTTP {status})" (.other "websocket: bad handshake")

/-- Checks the address of a bridge. -/
def checkAddress (address : String) : Except Failure Url :=
  match Url.parse address with
  | .error complaint => .error (.context "invalid bridge url" (.other complaint))
  | .ok url =>
    if url.scheme = "ws" ∨ url.scheme = "wss" then .ok url
    else .error (.unsupportedScheme url.scheme)

/-- Whether an address asks for a secured connection. -/
def isSecure (url : Url) : Bool :=
  url.scheme = "wss"

/-- A numeric address out of its brackets; any other name as it is. -/
def bareName (name : Bytes) : Bytes :=
  match name, name.getLast? with
  | first :: inner, some last =>
    if first = Ascii.byte '[' ∧ last = Ascii.byte ']' ∧ name.length ≥ 3 then inner.dropLast else name
  | _, _ => name

/-- Why a certificate made out to one name is not taken for another. Case does not count, nor does a
point at the end. A numeric address is never the name of a certificate. -/
def mismatch? (issued : String) (name : Bytes) : Option String :=
  match IpAddress.read (bareName name) with
  | .ok .four | .ok (.six []) =>
    some s!"cannot validate certificate for {Text.utf8 (bareName name)} because it doesn't contain any IP SANs"
  | _ =>
    let plain := if name.getLast? = some (Ascii.byte '.') then name.dropLast else name
    if plain.map Ascii.lower = Text.utf8Bytes issued then none
    else some s!"certificate is valid for {issued}, not {Text.utf8 name}"

/-- Why a certificate is not accepted. Nobody vouches for it, but its name is looked at first. -/
def distrust (issued : String) (name : Bytes) : String :=
  "tls: failed to verify certificate: x509: " ++
    (mismatch? issued name).getD "certificate signed by unknown authority"

/-- Why a connection cannot be secured. -/
def insecurity? (bridge : Bridge) (url : Url) (login : Login) : Option String :=
  if url.hostName = [] ∧ !login.skipVerify then
    some "tls: either ServerName or InsecureSkipVerify must be specified in the tls.Config"
  else match bridge.certificate with
    | none => some "tls: first record does not look like a TLS handshake"
    | some issued => if login.skipVerify then none else some (distrust issued url.hostName)

/-- The name a request is made in: the host without its port, if the last colon can only stand before one. -/
def requestName (host : Bytes) : Bytes :=
  match Ascii.cutLast (Ascii.byte ':') host with
  | (none, _) => host
  | (some name, _) => if name.any (Ascii.isOneOf ":]") then host else name

/-- The first label of a host's name that is no text. Numeric addresses have none, whatever their zone. -/
def badLabel? (host : Bytes) : Option Bytes :=
  let isText (label : Bytes) := (Text.decode label).all fun c => c.toOption.isSome
  if Ascii.isPlain host then none
  else (Ascii.splitAll (Ascii.byte '.') (requestName host)).find? fun label => !isText label

/-- Why the bridge does not get to see a request: it cannot be reached, the connection cannot be
secured, or the request cannot be written or made out. -/
def obstacle? (bridge : Bridge) (url : Url) (login : Login) : Option Failure :=
  if url.hasUser then some (failed "malformed ws or wss URL")
  else if let some text := bridge.unreachable then some (failed text)
  else if let some text := if isSecure url then insecurity? bridge url login else none then some (failed text)
  else if let some label := badLabel? url.host then some (failed s!"idna: invalid label {Text.quote label}")
  else if !isSecure url && bridge.certificate.isSome || !url.isRequestable then some (refused 400)
  else none

/-- Whether credentials are the ones demanded. The user ends at the first colon. -/
def admits (demanded : String × String) (credentials : Option String) : Bool :=
  match credentials with
  | none => false
  | some text =>
    let (user, password) := Ascii.cut (Ascii.byte ':') (Text.utf8Bytes text)
    user = Text.utf8Bytes demanded.1 && password = some (Text.utf8Bytes demanded.2)

/-- How the bridge refuses a handshake. A status that is none breaks the connection. -/
def refusal? (bridge : Bridge) (login : Login) : Option Failure :=
  match bridge.status with
  | some status => some (if 100 ≤ status ∧ status ≤ 999 then refused status else failed "unexpected EOF")
  | none =>
    match bridge.demands with
    | some demanded => if admits demanded login.credentials? then none else some (refused 401)
    | none => none

/-- Connects to the bridge at an address. -/
def dial (address : String) (login : Login) (link : BridgeLink) : Option Failure × BridgeLink :=
  match checkAddress address with
  | .error failure => (some failure, link)
  | .ok url =>
    match obstacle? link.bridge url login with
    | some failure => (some failure, link)
    | none =>
      let handshakes := link.handshakes ++ [login.authorization]
      match refusal? link.bridge login with
      | some failure => (some failure, { link with handshakes })
      | none => (none, { link with line := link.line.reopen, connected := true, handshakes })

/-- The connection is over. -/
def finish (failure : Failure) (link : BridgeLink) : BridgeLink :=
  { link with line := link.line.fail (.transport "read" failure), connected := false }

/-- The code with which the bridge answers a message by closing the connection. -/
def closing? (bridge : Bridge) (message : List UInt8) : Option Int :=
  match bridge.closesOn, message.head? with
  | some (b, code), some first => if b = first then some code else none
  | _, _ => none

def write (message : List UInt8) (link : BridgeLink) : Option Failure × BridgeLink :=
  if link.connected then
    match closing? link.bridge message with
    | some code => (none, link.finish (closeFailure code))
    | none =>
      let ⟨bridge, line, connected, handshakes⟩ := link
      (none, ⟨bridge, line.carry message, connected, handshakes⟩)
  else
    (some (.transport "write" (.other "websocket: close sent")), link)

instance : Link BridgeLink where
  write := write
  read limit link :=
    let ⟨bridge, line, connected, handshakes⟩ := link
    let (reading, line) := line.read limit
    (reading, ⟨bridge, line, connected, handshakes⟩)
  setTimeout _ link := link
  close link := (none, link.finish .closed)

end BridgeLink

end Bootflash
