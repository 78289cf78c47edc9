import FleetPlan.Url.Address
import FleetPlan.Url.Domain

/-!
# URLs

Which texts are absolute URLs, by the rules of the WHATWG URL standard. Only the
decision is made here: a text is a URL when it has a scheme and its authority, if
it has one, has a valid host and port. A URL is hierarchical when relative
addresses can be resolved against it: when its scheme is one of the special ones,
or when a slash follows the scheme.
-/

namespace FleetPlan

/-- A text that is a URL, as far as it matters where it points. -/
structure Url where
  /-- The scheme in lower case. -/
  scheme : String
  /-- Whether relative addresses can be resolved against the URL. -/
  hierarchical : Bool
  deriving DecidableEq, Repr

namespace Url

/-- How the rules treat a scheme. -/
inductive SchemeKind where
  /-- The scheme of files, which needs no host. -/
  | file
  /-- A scheme of the web, which has to have a host. -/
  | web
  /-- Any other scheme. -/
  | other
  deriving DecidableEq, Repr

/-- The kind of a scheme in lower case. -/
def SchemeKind.ofScheme (scheme : List Char) : SchemeKind :=
  if scheme = "file".toList then .file
  else if ["http", "https", "ws", "wss", "ftp"].contains (String.ofList scheme) then .web
  else .other

/-- Whether a character is a control or the space, which are trimmed at both ends. -/
def isTrimmed (character : Char) : Bool := character.toNat ≤ 0x20

/-- Whether a character is left out wherever it stands. -/
def isIgnored (character : Char) : Bool :=
  character = '\t' || character = '\n' || character = '\r'

/-- The characters that are read of a text. -/
def clean (text : List Char) : List Char :=
  (((text.dropWhile isTrimmed).reverse.dropWhile isTrimmed).reverse).filter
    fun character => !isIgnored character

/-- Whether a character may stand in a scheme after the first one. -/
def isSchemeChar (character : Char) : Bool :=
  character.isAlphanum || character = '+' || character = '-' || character = '.'

/-- The scheme in lower case, and what follows its colon. -/
def scheme? (text : List Char) : Option (List Char × List Char) :=
  match text with
  | [] => none
  | first :: _ =>
    if !first.isAlpha then none
    else
      match text.dropWhile isSchemeChar with
      | ':' :: rest => some ((text.takeWhile isSchemeChar).map Char.toLower, rest)
      | _ => none

/-- Whether a character ends the authority of a URL. -/
def endsAuthority (kind : SchemeKind) (character : Char) : Bool :=
  character = '/' || character = '?' || character = '#' ||
    (character = '\\' && kind != .other)

/-- The bytes of a text in which each `%` with two hexadecimal digits is one byte. -/
def percentDecode : List Char → List UInt8
  | [] => []
  | '%' :: high :: low :: rest =>
    match Text.hexDigit? high, Text.hexDigit? low with
    | some high, some low => (16 * high + low).toUInt8 :: percentDecode rest
    | _, _ => '%'.toNat.toUInt8 :: percentDecode (high :: low :: rest)
  | character :: rest => (String.singleton character).toUTF8.toList ++ percentDecode rest

/-- The text between brackets; none if the bracket is not closed at the end. -/
def bracketed? (host : List Char) : Option (Option (List Char)) :=
  match host with
  | '[' :: rest =>
    match rest.reverse with
    | ']' :: inner => some (some inner.reverse)
    | _ => some none
  | _ => none

/-- Whether the host of a web or file URL is valid: an address, or a domain name after percent
decoding. -/
def isHost (host : List Char) : Bool :=
  match bracketed? host with
  | some none => false
  | some (some address) => Address.isIpv6 address
  | none =>
    match String.fromUTF8? (percentDecode host).toByteArray with
    | none => false
    | some name =>
      match Domain.labels? name.toList with
      | none => false
      | some labels =>
        if labels = [[]] then false
        else if Address.endsInNumber labels then Address.isIpv4 labels
        else true

/-- Characters that the host of a URL of another scheme may not contain. -/
def isForbiddenInHost (character : Char) : Bool :=
  ['\x00', '\t', '\n', '\r', ' ', '#', '/', ':', '<', '>', '?', '@', '[', '\\', ']', '^',
    '|'].contains character

/-- Whether the host of a URL of another scheme is valid; it may be empty. -/
def isOpaqueHost (host : List Char) : Bool :=
  match bracketed? host with
  | some none => false
  | some (some address) => Address.isIpv6 address
  | none => !host.any isForbiddenInHost

/-- A host and what follows it, which starts with a colon where a port is given; colons between
brackets belong to the host. -/
def cutHost : (inBrackets : Bool) → List Char → List Char × List Char
  | _, [] => ([], [])
  | inBrackets, character :: rest =>
    if character = ':' && !inBrackets then ([], character :: rest)
    else
      let inside := (inBrackets || character = '[') && character != ']'
      let cut := cutHost inside rest
      (character :: cut.1, cut.2)

/-- The largest port. -/
def largestPort : Nat := 65535

/-- Whether a text, up to a backslash, is a port or empty. -/
def isPort (text : List Char) : Bool :=
  match Address.number? 10 (text.takeWhile (· ≠ '\\')) with
  | some port => port ≤ largestPort
  | none => false

/-- The user before the last `@` of an authority, if there is one, and what follows it. -/
def cutUser (authority : List Char) : Option (List Char) × List Char :=
  match Text.cutLast? ['@'] authority with
  | some (user, rest) => (some user, rest)
  | none => (none, authority)

/-- Whether a user says anything; a lone colon does not. -/
def namesUser (user : Option (List Char)) : Bool :=
  match user with
  | none => false
  | some user => user != [] && user != [':']

/-- Whether the authority of a web URL or one of another scheme is valid; `ended` says whether a
path, query or fragment follows it. -/
def isAuthority (kind : SchemeKind) (authority : List Char) (ended : Bool) : Bool :=
  let (user, place) := cutUser authority
  let (host, port) := cutHost false place
  let hostFits :=
    if kind = .other then isOpaqueHost host else !host.isEmpty && isHost host
  let portFits :=
    match port with
    | ':' :: digits => !host.isEmpty && isPort digits
    | _ => true
  let emptyFits := !host.isEmpty || !(namesUser user || (user = some [] && ended))
  hostFits && portFits && emptyFits

/-- Whether a text is a drive letter, which is no host. -/
def isDrive (text : List Char) : Bool :=
  match text with
  | [letter, mark] => letter.isAlpha && (mark = ':' || mark = '|')
  | _ => false

/-- Whether a character is a slash in either direction. -/
def isSlash (character : Char) : Bool := character = '/' || character = '\\'

/-- Whether what follows the scheme of a file URL is valid: its host, if it has one, is. -/
def isFilePlace (rest : List Char) : Bool :=
  match rest with
  | first :: second :: place =>
    if isSlash first && isSlash second then
      let host := place.takeWhile fun character => !endsAuthority .file character
      host.isEmpty || isDrive host || isHost host
    else true
  | _ => true

/-- Whether what follows a scheme is valid. -/
def isPlace (kind : SchemeKind) (rest : List Char) : Bool :=
  let inAuthority := fun character => !endsAuthority kind character
  match kind with
  | .file => isFilePlace rest
  | .web =>
    let place := rest.dropWhile isSlash
    isAuthority kind (place.takeWhile inAuthority) (!(place.dropWhile inAuthority).isEmpty)
  | .other =>
    match Text.dropStart? ['/', '/'] rest with
    | some place =>
      isAuthority kind (place.takeWhile inAuthority) (!(place.dropWhile inAuthority).isEmpty)
    | none => true

/-- The URL that a text is, if it is one. -/
def parse? (text : String) : Option Url := do
  let (scheme, rest) ← scheme? (clean text.toList)
  let kind := SchemeKind.ofScheme scheme
  if isPlace kind rest then
    some ⟨String.ofList scheme, kind != .other || rest.head? = some '/'⟩
  else none

/-- Whether a text is a URL rather than a path. -/
def isUrl (text : String) : Bool := (parse? text).isSome

/-- Whether a text is a URL against which relative addresses can be resolved. -/
def isHierarchical (text : String) : Bool := (parse? text).any (·.hierarchical)

end Url

end FleetPlan
