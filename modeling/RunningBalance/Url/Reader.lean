import RunningBalance.Url.Basic

/-!
# Reading URLs

Reading is lenient: tabs and line ends do not count, any number of slashes of either direction
follows the scheme, and what cannot stand in a part is encoded. Credentials go up to the last sign
`@` before the path.
-/

set_option autoImplicit false
set_option relaxedAutoImplicit false

namespace RunningBalance.Url

/-! ### What does not count -/

def isIgnored (c : Char) : Bool :=
  c = '\t' || c = '\n' || c = '\r'

/-- Whether a character does not count at the ends of a URL: the space and what stands before it in
ASCII. -/
def isOuter (c : Char) : Bool :=
  c.toNat ≤ 0x20

def significant (text : List Char) : List Char :=
  (Text.dropTrailing isOuter (text.dropWhile isOuter)).filter (!isIgnored ·)

/-! ### Scheme and authority -/

/-- The scheme of a URL, and what follows its colon. -/
def scheme? (text : List Char) : Option (Scheme × List Char) :=
  let name := (text.takeWhile (· ≠ ':')).map Char.toLower
  ([Scheme.plain, .encrypted].find? (·.name.toList = name)).bind fun scheme ↦
    (Text.after? [':'] (text.dropWhile (· ≠ ':'))).map (scheme, ·)

def endsPath (c : Char) : Bool :=
  c = '?' || c = '#'

def endsAuthority (c : Char) : Bool :=
  Path.isSlash c || endsPath c

/-- The parts of an authority before and after the last `@`. -/
def splitCredentials (authority : List Char) : List Char × List Char :=
  let host := (authority.reverse.takeWhile (· ≠ '@')).reverse
  (authority.take (authority.length - (host.length + 1)), host)

/-- The parts of an authority before and after the first colon outside brackets. -/
def splitService (bracketed : Bool) : List Char → List Char × List Char
  | [] => ([], [])
  | c :: rest =>
    if c = ':' && !bracketed then ([], rest)
    else
      let (host, service) := splitService (c = '[' || bracketed && c ≠ ']') rest
      (c :: host, service)

/-- The numbers of services have 16 bits. -/
def serviceLimit : Nat :=
  Nat.pow 2 16

/-- The number of a service, unless it is the usual one or none is given. -/
def readService (usual : Nat) (text : List Char) : Except Fault (Option Nat) :=
  if text.isEmpty then .ok none
  else
    match Decimal.natural? text with
    | some number =>
      if number < serviceLimit then .ok (if number = usual then none else some number)
      else .error .service
    | none => .error .service

/-! ### The whole -/

/-- Query and fragment in the text after a path. -/
def readEnd (text : List Char) : Option (List Char) × Option (List Char) :=
  let query := Text.after? ['?'] (text.takeWhile (· ≠ '#'))
  let fragment := Text.after? ['#'] (text.dropWhile (· ≠ '#'))
  (query.map (Percent.encode Percent.inQuery), fragment.map (Percent.encode Percent.inFragment))

/-- The URL that a text denotes, where names of hosts in ASCII are given by a function. -/
def read (asciiName? : String → Option String) (text : String) : Except Fault Url :=
  match scheme? (significant text.toList) with
  | none => .error .scheme
  | some (scheme, rest) => do
    let rest := rest.dropWhile Path.isSlash
    let (credentials, authority) := splitCredentials (rest.takeWhile (!endsAuthority ·))
    let rest := rest.dropWhile (!endsAuthority ·)
    let (host, service) := splitService false authority
    let (query, fragment) := readEnd (rest.dropWhile (!endsPath ·))
    pure
      { scheme
        credentials := Credentials.read credentials
        host := ← Host.read asciiName? host
        unusualService := ← readService scheme.usualService service
        path := Path.read (rest.takeWhile (!endsPath ·))
        query
        fragment }

end RunningBalance.Url
