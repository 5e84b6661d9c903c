import DiagramStudio.Http.Authority

/-!
# Addresses

An absolute address is read into its parts and shown again in normal form: the scheme in lower
case, the host in its one written form, no number where the scheme's own one is meant, no dot
segments in the path, and percent-encoded wherever a character cannot stand for itself.
-/

namespace DiagramStudio.Http

open Text

/-- An address in parts. The path, the query and the fragment are encoded. -/
structure Url where
  scheme : Text
  authority : Option Authority
  path : Text
  query : Option Text
  fragment : Option Text
  deriving Repr, DecidableEq

/-- What a scheme says of the rest of an address. -/
inductive SchemeKind
  /-- A host is needed, and a listener is implied. -/
  | network (standard : Nat)
  /-- A file, which may be on a host. -/
  | file
  /-- Nothing is known. -/
  | foreign
  deriving Repr, DecidableEq

namespace SchemeKind

/-- The schemes whose addresses always name a host, with the listener that each implies. -/
def defaultListeners : List (Text × Nat) :=
  [("http".toList, 80), ("https".toList, 443), ("ws".toList, 80), ("wss".toList, 443),
    ("ftp".toList, 21)]

/-- The kind of a scheme in lower case. -/
def ofScheme (scheme : Text) : SchemeKind :=
  match defaultListeners.lookup scheme with
  | some standard => network standard
  | none => if scheme == "file".toList then file else foreign

end SchemeKind

namespace Url

/-- What a query cannot hold as it is. An apostrophe may stand where the scheme is not known. -/
def querySet (kind : SchemeKind) : List Char :=
  [' ', '\x22', '#', '<', '>'] ++ if kind = .foreign then [] else ['\x27']

/-- A slash in either direction. -/
def isSlash (c : Char) : Bool := c == '/' || c == '\x5c'

/-! ## Authority and path -/

/-- Reads what follows a scheme that needs a host. Any number of slashes may precede it. -/
def network? (standard : Nat) (t : Text) : Option (Option Authority × Text) :=
  let (authority, path) := breakAt isSlash (t.dropWhile isSlash)
  (Authority.ofText? standard authority).map fun authority =>
    (some authority, Path.normal isSlash path)

/-- The path to a file: its drive has a colon, and one slash leads. -/
def filePath (segments : List Text) : Text :=
  '/' :: (Path.render (Path.resolve Path.withColon [] segments)).dropWhile (· == '/')

/-- A file that is not on a named host. -/
def localFile (segments : List Text) : Option Authority × Text :=
  (some .empty, filePath segments)

/-- Reads what follows two slashes after the scheme of files. What looks like a drive is no host;
`localhost`, and a host before a path that starts with a drive, are left out. -/
def fileOnHost? (t : Text) : Option (Option Authority × Text) :=
  let (name, path) := breakAt isSlash t
  if name.isEmpty || Path.isDrive name then some (localFile (segments isSlash t))
  else
    (Host.ofText? name).map fun host =>
      let inner := segments isSlash (path.drop 1)
      if host = .name "localhost".toList then localFile (segments isSlash path)
      else if (Path.resolve id [] inner).head?.any Path.isDrive then localFile inner
      else (some ⟨.absent, some host, none⟩, filePath inner)

/-- Reads what follows the scheme of files. One slash may lead the path. -/
def file? (t : Text) : Option (Option Authority × Text) :=
  match t with
  | [] => some (localFile [[]])
  | a :: rest =>
    if !isSlash a then some (localFile (segments isSlash t))
    else if rest.head?.any isSlash then fileOnHost? (rest.drop 1)
    else some (localFile (segments isSlash rest))

/-- Reads what follows a scheme that is not known. Without a host, a path that does not start with
a slash has no segments. `isLast` is true if nothing follows the text. -/
def foreign? (isLast : Bool) (t : Text) : Option (Option Authority × Text) :=
  let normal (path : Text) : Text :=
    if path.isEmpty then [] else Path.normal (· == '/') path
  match stripStart? "//".toList t with
  | some rest =>
    let (authority, path) := breakAt (· == '/') rest
    (Authority.ofForeignText? (isLast && path.isEmpty) authority).map fun (authority, more) =>
      (some authority, normal (more ++ path))
  | none => some (none, if t.head? = some '/' then normal t else Percent.encode [] t)

/-- Reads what stands between the scheme and the query. -/
def hierarchy? (kind : SchemeKind) (isLast : Bool) (t : Text) :
    Option (Option Authority × Text) :=
  match kind with
  | .network standard => network? standard t
  | .file => file? t
  | .foreign => foreign? isLast t

/-! ## Reading and showing -/

/-- A scheme starts with a letter and goes on with letters, digits, plus, minus and points. -/
def isScheme (t : Text) : Bool :=
  (t.head?.any Char.isAlpha) &&
    t.all fun c => c.isAlphanum || c == '+' || c == '-' || c == '.'

/-- Splits off what follows the first occurrence of a mark. -/
def splitAt (mark : Char) (t : Text) : Text × Option Text :=
  match cut? [mark] t with
  | some (before, after) => (before, some after)
  | none => (t, none)

/-- Blanks around an address and tabs and line ends inside it do not count. -/
def clean (address : Text) : Text :=
  let isEdge (c : Char) : Bool := c.toNat ≤ 0x20
  (dropTrailing isEdge (address.dropWhile isEdge)).filter fun c =>
    c != '\t' && c != '\n' && c != '\r'

/-- Reads an absolute address. -/
def parse? (address : Text) : Option Url :=
  (cut? [':'] (clean address)).bind fun (name, rest) =>
    let scheme := lowercase name
    let kind := SchemeKind.ofScheme scheme
    let (rest, fragment) := splitAt '#' rest
    let (rest, query) := splitAt '?' rest
    if !isScheme name then none
    else
      (hierarchy? kind (query.isNone && fragment.isNone) rest).map fun (authority, path) =>
        ⟨scheme, authority, path, query.map (Percent.encode (querySet kind)),
          fragment.map (Percent.encode Path.fragmentSet)⟩

/-- The address in normal form. Where there is no authority, a path that starts with two slashes
follows a dot segment, so that it is not taken for one. -/
def render (url : Url) : Text :=
  let start :=
    match url.authority with
    | some authority => ['/', '/'] ++ authority.render
    | none => if "//".toList.isPrefixOf url.path then ['/', '.'] else []
  let tail (mark : Char) (part : Option Text) : Text := (part.map (mark :: ·)).getD []
  url.scheme ++ [':'] ++ start ++ url.path ++ tail '?' url.query ++ tail '#' url.fragment

/-! ## Sending -/

def host (url : Url) : Option Host := url.authority.bind Authority.host

/-- The address without its credentials, if they can be read. -/
def withoutCredentials (url : Url) : Url :=
  { url with
    authority := url.authority.map fun authority =>
      if authority.credentials.areUsable then { authority with credentials := .absent }
      else authority }

/-- True of the schemes that requests are sent over. -/
def isWeb (url : Url) : Bool :=
  url.scheme == "http".toList || url.scheme == "https".toList

/-- Longer addresses do not fit into a request. -/
def lengthLimit : Nat := 65534

/-- A host name in a request holds no quotes and no braces. -/
def isRequestable (url : Url) : Bool :=
  let isBarred (c : Char) : Bool := ['\x22', '\x60', '\x7b', '\x7d'].contains c
  let barred :=
    match url.host with
    | some (.name name) => name.any isBarred
    | _ => false
  !barred && url.render.length ≤ lengthLimit

end Url

end DiagramStudio.Http
