import Bootflash.IpAddress

namespace Bootflash

/-- What the rest of the program needs to know about an address. -/
structure Url where
  /-- In lower case, empty if there is none. -/
  scheme : String
  /-- Whether a user is named in front of the host. -/
  hasUser : Bool
  /-- The host with its port. -/
  host : Bytes
  /-- What stands behind the scheme when that is no path; empty otherwise. -/
  rootless : Bytes
  query : Option Bytes
deriving DecidableEq, Repr

namespace Url

/-- Why a text is no address. -/
inductive Refusal where
  | controlCharacter
  | missingScheme
  | colonInFirstSegment
  | invalidPort (colonPort : Bytes)
  | missingBracket
  | invalidLiteral
  | invalidHost (text : Bytes) (refusal : IpAddress.Refusal)
  | invalidEscape (escape : Bytes)
  | invalidHostCharacter (b : UInt8)
  | invalidUser
deriving DecidableEq, Repr

def Refusal.message : Refusal → String
  | controlCharacter => "net/url: invalid control character in URL"
  | missingScheme => "missing protocol scheme"
  | colonInFirstSegment => "first path segment in URL cannot contain colon"
  | invalidPort colonPort => s!"invalid port {Text.quote colonPort} after host"
  | missingBracket => "missing ']' in host"
  | invalidLiteral => "invalid IP-literal"
  | invalidHost text refusal => s!"invalid host: {refusal.message text}"
  | invalidEscape escape => s!"invalid URL escape {Text.quote escape}"
  | invalidHostCharacter b => s!"invalid character {Text.quote [b]} in host name"
  | invalidUser => "net/url: invalid userinfo"

/-- Where percent signs are read. In a host they may only stand for bytes outside ASCII, and for the
percent sign itself; in a zone also for what a host may contain, and for the space. -/
inductive Part where
  | host
  | zone
  | other
deriving DecidableEq

/-- Whether a byte may stand in a host as itself. -/
def allowedInHost (b : UInt8) : Bool :=
  Ascii.isLetter b || Ascii.isDigit b || Ascii.isOneOf "!$&'()*+,;=:[]<>\"-_.~" b

/-- Whether a part may hold an escape of two digits with these values. -/
def allowsEscape (part : Part) (high low : Nat) : Bool :=
  let value := UInt8.ofNat (16 * high + low)
  match part with
  | .host => high ≥ 8 || value = Ascii.byte '%'
  | .zone => value = Ascii.byte '%' || value = Ascii.byte ' ' || allowedInHost value
  | .other => true

/-- Reads the escapes of a part. In a host or zone the other characters are checked too. -/
def unescape (part : Part) : Bytes → Except Refusal Bytes
  | [] => .ok []
  | b :: rest =>
    if b = Ascii.byte '%' then
      match rest with
      | high :: low :: more =>
        match Ascii.hexValue? high, Ascii.hexValue? low with
        | some h, some l =>
          if allowsEscape part h l then (unescape part more).map (UInt8.ofNat (16 * h + l) :: ·)
          else .error (.invalidEscape [b, high, low])
        | _, _ => .error (.invalidEscape [b, high, low])
      | _ => .error (.invalidEscape (b :: rest))
    else if part ≠ .other ∧ b < 0x80 ∧ ¬allowedInHost b then .error (.invalidHostCharacter b)
    else (unescape part rest).map (b :: ·)

/-- Checks that what follows a host is nothing, or a colon and digits. -/
def checkPort (colonPort : Bytes) : Except Refusal Unit :=
  match colonPort with
  | [] => .ok ()
  | b :: digits =>
    if b = Ascii.byte ':' ∧ digits.all Ascii.isDigit then .ok () else .error (.invalidPort colonPort)

/-- Splits in front of the first `%25`, which starts the zone of an address in brackets. -/
def cutZone : Bytes → Bytes × Bytes
  | [] => ([], [])
  | b :: rest =>
    if (b :: rest).take 3 = [Ascii.byte '%', Ascii.byte '2', Ascii.byte '5'] then ([], b :: rest)
    else
      let (before, zone) := cutZone rest
      (b :: before, zone)

/-- Reads a numeric address out of its brackets. Only the kind with groups may stand there. -/
def readLiteral (inside : Bytes) : Except Refusal Bytes := do
  let (before, zone) := cutZone inside
  let text := (← unescape .host before) ++ (← unescape .zone zone)
  match IpAddress.read text with
  | .error refusal => throw (.invalidHost text refusal)
  | .ok .four => throw .invalidLiteral
  | .ok (.six _) => return text

/-- Reads a host with its port. Brackets are for numeric addresses, from the first character on. -/
def readHost (host : Bytes) : Except Refusal Bytes := do
  match Ascii.cutLast (Ascii.byte '[') host with
  | (some (_ :: _), _) => throw .invalidLiteral
  | (some [], rest) =>
    match Ascii.cutLast (Ascii.byte ']') rest with
    | (none, _) => throw .missingBracket
    | (some inside, colonPort) =>
      checkPort colonPort
      return Ascii.byte '[' :: (← readLiteral inside) ++ Ascii.byte ']' :: colonPort
  | (none, _) =>
    match Ascii.cutLast (Ascii.byte ':') host with
    | (some _, port) => checkPort (Ascii.byte ':' :: port)
    | (none, _) => pure ()
    unescape .host host

def allowedInUser (b : UInt8) : Bool :=
  Ascii.isLetter b || Ascii.isDigit b || Ascii.isOneOf "-._:~!$&'()*+,;=%@" b

/-- Reads the part between the slashes and the path: whether it names a user, and the host. -/
def readAuthority (authority : Bytes) : Except Refusal (Bool × Bytes) :=
  match Ascii.cutLast (Ascii.byte '@') authority with
  | (none, host) => do
    return (false, ← readHost host)
  | (some user, host) => do
    let host ← readHost host
    unless user.all allowedInUser do
      throw .invalidUser
    let (name, password) := Ascii.cut (Ascii.byte ':') user
    let _ ← unescape .other name
    let _ ← unescape .other (password.getD [])
    return (true, host)

/-- Splits off the scheme. A text that does not start with a letter, or has another character before
the first colon than a scheme can have, has none. -/
def splitScheme (bytes : Bytes) : Except Refusal (Bytes × Bytes) :=
  match Ascii.cut (Ascii.byte ':') bytes with
  | ([], some _) => .error .missingScheme
  | (name, some rest) =>
    let allowed (b : UInt8) := Ascii.isLetter b || Ascii.isDigit b || Ascii.isOneOf "+-." b
    if (name.head?.any Ascii.isLetter) ∧ name.all allowed then .ok (name, rest) else .ok ([], bytes)
  | (_, none) => .ok ([], bytes)

def slashes : Bytes :=
  [Ascii.byte '/', Ascii.byte '/']

/-- Takes apart what stands before the fragment. -/
def readBody (bytes : Bytes) : Except Refusal Url := do
  if bytes.any Ascii.isControl then
    throw .controlCharacter
  let (name, rest) ← splitScheme bytes
  let scheme := Text.utf8 (name.map Ascii.lower)
  let (rest, query) := Ascii.cut (Ascii.byte '?') rest
  if rest.head? ≠ some (Ascii.byte '/') then
    if scheme ≠ "" then
      return ⟨scheme, false, [], rest, query⟩
    if (Ascii.cut (Ascii.byte '/') rest).1.contains (Ascii.byte ':') then
      throw .colonInFirstSegment
  let hasAuthority := slashes.isPrefixOf rest ∧ (scheme ≠ "" ∨ rest.take 3 ≠ slashes ++ [Ascii.byte '/'])
  if hasAuthority then
    let authority := (Ascii.cut (Ascii.byte '/') (rest.drop 2)).1
    let (hasUser, host) ← readAuthority authority
    let _ ← unescape .other (rest.drop (2 + authority.length))
    return ⟨scheme, hasUser, host, [], query⟩
  else
    let _ ← unescape .other rest
    return ⟨scheme, false, [], [], query⟩

/-- What is said of a text that is no address. -/
def complaint (bytes : Bytes) (refusal : Refusal) : String :=
  s!"parse {Text.quote bytes}: {refusal.message}"

/-- Takes an address apart, or says what is wrong with it. The complaint quotes the text up to its
fragment, and with the fragment if that is where the fault is. -/
def parse (text : String) : Except String Url :=
  let bytes := Text.utf8Bytes text
  let (body, fragment) := Ascii.cut (Ascii.byte '#') bytes
  match readBody body with
  | .error refusal => .error (complaint body refusal)
  | .ok url =>
    match unescape .other (fragment.getD []) with
    | .error refusal => .error (complaint bytes refusal)
    | .ok _ => .ok url

/-- The host without its port. -/
def hostName (url : Url) : Bytes :=
  match Ascii.cutLast (Ascii.byte ':') url.host with
  | (some name, port) => if port.contains (Ascii.byte ']') then url.host else name
  | (none, _) => url.host

/-- What a request for something other than a path names as its target. -/
def target (url : Url) : Bytes :=
  match url.query with
  | none => url.rootless
  | some query => url.rootless ++ Ascii.byte '?' :: query

/-- Whether the host can make out what a request asks for. A blank would end the target early. A
path always does; anything else has to be an address with a scheme, or the star that stands for the
host itself. -/
def isRequestable (url : Url) : Bool :=
  !url.target.contains (Ascii.byte ' ') &&
    (url.rootless = [] || url.target = [Ascii.byte '*'] ||
      match readBody url.target with
      | .error _ => false
      | .ok inner => inner.scheme ≠ "")

end Url

end Bootflash
