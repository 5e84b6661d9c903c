import DiagramStudio.Http.Percent
import DiagramStudio.Text.Basic

/-!
# Paths

A path is a row of segments, each after a slash. Dot segments are resolved when an address is
read: a single dot stands for the path so far, and two dots remove the last segment unless it
names a drive. Either dot may be percent-encoded.
-/

namespace DiagramStudio.Http.Path

open Text

/-- What a fragment cannot hold as it is. -/
def fragmentSet : List Char := [' ', '\x22', '<', '>', '\x60']

/-- What a path cannot hold as it is. -/
def set : List Char := fragmentSet ++ ['#', '?', '\x7b', '\x7d']

/-- A segment that stands for the path so far. -/
def isDot (segment : Text) : Bool :=
  [".", "%2e"].any fun spelling => lowercase segment == spelling.toList

/-- A segment that removes the one before it. -/
def isDoubleDot (segment : Text) : Bool :=
  ["..", ".%2e", "%2e.", "%2e%2e"].any fun spelling => lowercase segment == spelling.toList

/-- A letter with a colon or a bar names a drive. -/
def isDrive : Text → Bool
  | [letter, mark] => letter.isAlpha && (mark == ':' || mark == '|')
  | _ => false

def withColon (segment : Text) : Text :=
  if isDrive segment then segment.take 1 ++ [':'] else segment

/-- The segments without the last one, which stays if it is a drive. `done` is in reverse. -/
def shorten : List Text → List Text
  | [] => []
  | last :: before => if isDrive last then last :: before else before

/-- The segments of a path without dot segments; `done` holds those before, the last one first. A
dot segment at the end leaves an empty one. `first` is applied to a segment that nothing
precedes. -/
def resolve (first : Text → Text) (done : List Text) : List Text → List Text
  | [] => done.reverse
  | segment :: rest =>
    let after (done : List Text) : List Text :=
      if rest.isEmpty then (([] : Text) :: done).reverse else resolve first done rest
    if isDoubleDot segment then after (shorten done)
    else if isDot segment then after done
    else resolve first ((if done.isEmpty then first segment else segment) :: done) rest

def render (segments : List Text) : Text :=
  segments.flatMap fun segment => '/' :: Percent.encode set segment

/-- A path in normal form. The first separator of `path`, if it starts with one, is its root. -/
def normal (isSeparator : Char → Bool) (path : Text) : Text :=
  let inner :=
    match path with
    | [] => []
    | c :: rest => if isSeparator c then rest else c :: rest
  render (resolve id [] (segments isSeparator inner))

end DiagramStudio.Http.Path
