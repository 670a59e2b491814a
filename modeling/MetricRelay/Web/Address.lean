/-
Addresses of the web.

An address has a scheme, an authority of user, host and number of the service, a path and a query;
any of them may be missing, and a fragment at the end does not count.  `Address.read` takes an
address apart.  Steps up and down in the path of an address with a scheme or an authority are
carried out.  `Address.under` puts a reference without scheme or host below a base.  An address that
gets another path is read anew from what is written for its parts.
-/
import MetricRelay.Decimal.Numeral
import MetricRelay.Text.Surrogate
import MetricRelay.Web.Host

namespace MetricRelay.Web

/-- Why a text is no address. -/
inductive AddressFault where
  | invalid
  /-- A surrogate without its partner cannot be written as bytes. -/
  | unencodable
deriving DecidableEq, Repr

/-- An address; path, query, fragment and user keep their escapes. -/
structure Address where
  scheme : List Char := []
  /-- The name of a user, with a password behind a colon. -/
  user : List Char := []
  host : List Char := []
  serviceNumber : Option Int := none
  path : List Char := []
  query : Option (List Char) := none
  fragment : List Char := []
deriving DecidableEq, Repr

/-- The parts of an address as they are written. -/
structure AddressParts where
  scheme : List Char
  authority : List Char
  path : List Char
  query : Option (List Char)
  fragment : List Char
deriving DecidableEq, Repr

/-- The parts of an authority as they are written. -/
structure Authority where
  user : List Char
  host : List Char
  service : List Char

/-- An authority taken apart: the user ends at the last at sign, and a host in brackets at the last
closing one. -/
def Authority.ofChars (cs : List Char) : Authority :=
  let (rest, user) := cs.reverse.span (· != '@')
  let rest := rest.reverse
  let user := (user.drop 1).reverse
  let (host, rest) :=
    if rest.head? == some '[' && rest.contains ']' then
      let (after, inner) := rest.reverse.span (· != ']')
      (inner.reverse, after.reverse)
    else rest.span (· != ':')
  { user, host, service := if rest.head? == some ':' then rest.tail else rest }

/-- The numbers of services that schemes imply. -/
def usualServices : List (String × Int) :=
  [("ftp", 21), ("http", 80), ("https", 443), ("ws", 80), ("wss", 443)]

/-- The number of a service other than the one that the scheme implies. -/
def serviceNumber? (scheme service : List Char) : Except AddressFault (Option Int) :=
  if service.isEmpty then .ok none
  else
    match Decimal.integer? service with
    | none => .error .invalid
    | some n =>
      .ok (if usualServices.lookup (String.ofList scheme) == some n then none else some n)

/-- The segments of a path after steps to the same place and steps up; `done` holds the segments so
far, the last one first. -/
def takeSteps (done : List (List Char)) : List (List Char) → List (List Char)
  | [] => done.reverse
  | s :: ss =>
    if s = ['.'] then takeSteps done ss
    else if s = ['.', '.'] then takeSteps (if done = [[]] then done else done.tail) ss
    else takeSteps (s :: done) ss

/-- A path without steps to the same place and steps up. -/
def straightPath (path : List Char) : List Char :=
  let segments := Text.splitOn '/' path
  if segments.contains ['.'] || segments.contains ['.', '.'] then
    Text.join ['/'] (takeSteps [] segments)
  else path

/-- ASCII characters that paths keep, apart from those that every part of an address keeps. -/
def staysInPath (c : Char) : Bool :=
  0x20 < c.toNat && c.toNat < 0x7f && !"\"#<>?`\x7b\x7d".toList.contains c

/-- ASCII characters that queries keep, apart from those that every part of an address keeps. -/
def staysInQuery (c : Char) : Bool :=
  0x20 < c.toNat && c.toNat < 0x7f && !"\"#<>".toList.contains c

/-- ASCII characters that fragments keep, apart from those that every part of an address keeps. -/
def staysInFragment (c : Char) : Bool :=
  0x20 < c.toNat && c.toNat < 0x7f && !"\"<>`".toList.contains c

/-- ASCII characters that users keep, apart from those that every part of an address keeps. -/
def staysInUser (c : Char) : Bool :=
  staysInPath c && !"/;=@[\\]^|".toList.contains c

/-- The most characters of an address or a part of it. -/
def maxLength : Nat := 65536

/-- Whether a text may be (part of) an address: it is not too long and has no control characters. -/
def isAdmissible (cs : List Char) : Bool :=
  Text.size cs ≤ maxLength && cs.all fun c => 0x20 ≤ c.toNat && c.toNat != 0x7f

namespace Address

/-- Whether user, host or number of the service is there. -/
def hasAuthority (a : Address) : Bool :=
  !a.user.isEmpty || !a.host.isEmpty || a.serviceNumber.isSome

/-- Whether the path fits what stands before it. -/
def hasFittingPath (a : Address) : Bool :=
  if a.hasAuthority then a.path.isEmpty || a.path.head? == some '/'
  else !a.scheme.isEmpty || !("//".toList.isPrefixOf a.path || a.path.head? == some ':')

/-- The address that written parts make.  The user has to consist of characters before the host
counts, and the rest of it after that. -/
def ofParts (p : AddressParts) : Except AddressFault Address := do
  let { user, host, service } := Authority.ofChars p.authority
  if !Text.isEncodable user then .error .unencodable
  match encodeHost? host with
  | none => .error .invalid
  | some host =>
    let serviceNumber ← serviceNumber? p.scheme service
    let a : Address :=
      { scheme := p.scheme.map Char.toLower, user, host, serviceNumber, path := p.path,
        query := p.query
        fragment := p.fragment }
    if !a.hasFittingPath then .error .invalid
    else
      let path := if a.hasAuthority || !a.scheme.isEmpty then straightPath a.path else a.path
      if Text.isEncodable (path ++ a.query.getD [] ++ a.fragment) then .ok { a with path }
      else .error .unencodable

/-- The scheme at the start of a text, which a colon ends, and the rest. -/
def takeScheme (cs : List Char) : List Char × List Char :=
  let (scheme, rest) := cs.span fun c => c.isAlphanum || "+.-".toList.contains c
  if rest.head? == some ':' && (scheme.isEmpty || scheme.head?.any Char.isAlpha) then
    (scheme, rest.tail)
  else ([], cs)

/-- The parts of an address that a text writes. -/
def partsOf (cs : List Char) : AddressParts :=
  let (scheme, rest) := takeScheme cs
  let (authority, rest) := match rest with
    | '/' :: '/' :: rest => rest.span fun c => !"/?#".toList.contains c
    | rest => ([], rest)
  let (path, rest) := rest.span fun c => c != '?' && c != '#'
  let (query, rest) := match rest with
    | '?' :: rest => let (query, rest) := rest.span (· != '#'); (some query, rest)
    | rest => (none, rest)
  { scheme, authority, path, query, fragment := rest.drop 1 }

/-- The address that a text writes. -/
def read (cs : List Char) : Except AddressFault Address :=
  if isAdmissible cs then ofParts (partsOf cs) else .error .invalid

/-- The path, a slash if it is empty, with the query. -/
def target (a : Address) : List Char :=
  (if a.path.isEmpty then ['/'] else a.path) ++ (a.query.map ('?' :: ·)).getD []

/-- Host and service as they are written. -/
def place (a : Address) : List Char :=
  (if a.host.contains ':' then '[' :: a.host ++ [']'] else a.host)
    ++ (a.serviceNumber.map fun n => ':' :: (toString n).toList).getD []

/-- User, host and service as they are written. -/
def authority (a : Address) : List Char :=
  (if a.user.isEmpty then [] else percentEncode staysInUser a.user ++ ['@']) ++ a.place

/-- The address with another path and query. -/
def withTarget (a : Address) (target : List Char) : Except AddressFault Address :=
  let (path, query) := match Text.cut? '?' target with
    | some (path, query) => (path, some query)
    | none => (target, none)
  let isShort (stays : Char → Bool) (part : List Char) :=
    (percentEncode stays part).length ≤ maxLength
  if Text.size a.authority ≤ maxLength && isShort staysInPath path
    && isShort staysInQuery (query.getD [])
      && isShort staysInFragment a.fragment then
    ofParts { scheme := a.scheme, authority := a.authority, path, query, fragment := a.fragment }
  else .error .invalid

/-- The address as a base: its path, or its query if there is one, ends in a slash. -/
def asBase (a : Address) : Except AddressFault Address :=
  if a.target.getLast? == some '/' then .ok a else a.withTarget (a.target ++ ['/'])

/-- Whether scheme and host are there. -/
def isAbsolute (a : Address) : Bool :=
  !a.scheme.isEmpty && !a.host.isEmpty

/-- What a reference means below a base: one that is absolute stands for itself, and the path of
another is put behind the base. -/
def under (base reference : Address) : Except AddressFault Address :=
  if reference.isAbsolute then .ok reference
  else base.withTarget (base.target ++ reference.target.dropWhile (· = '/'))

/-- The path with its escapes resolved, a slash if it is empty. -/
def shownPath (a : Address) : List Char :=
  percentDecode (if a.path.isEmpty then ['/'] else a.path)

/-- The user's name and password with their escapes resolved, if one of them is there. -/
def credentials? (a : Address) : Option (List Char × List Char) :=
  let (name, password) := (Text.cut? ':' a.user).getD (a.user, [])
  if name.isEmpty && password.isEmpty then none
  else some (percentDecode name, percentDecode password)

/-- The written address up to its query. -/
def written (a : Address) : List Char :=
  (if a.scheme.isEmpty then [] else a.scheme ++ [':'])
    ++ (if a.hasAuthority then '/' :: '/' :: a.authority else [])
      ++ percentEncode staysInPath a.path

/-- Whether a text starts with something that a colon ends before any slash. -/
def isTyped (cs : List Char) : Bool :=
  let (start, rest) := cs.span fun c => c != '/' && c != ':'
  !start.isEmpty && rest.head? == some ':'

/-- Whether the written address can be taken apart again, where a mark in front tells that it is
one. -/
def isReadable (a : Address) : Bool :=
  let cs := if "URL:".toList.isPrefixOf a.written then a.written.drop 4 else a.written
  isTyped cs && hasFittingBrackets (partsOf cs).authority

end Address

end MetricRelay.Web
