import DiagramStudio.Hostname.Joiner
import DiagramStudio.Hostname.Mapping
import DiagramStudio.Hostname.Punycode
import DiagramStudio.Text.Composition

/-!
# Labels

A host name is a row of labels. A label of ASCII characters is written as it is. Any other label
is written in an ASCII form that a mark introduces, and a label that carries the mark has to be
such a form: it decodes to a label that no mapping would change.
-/

namespace DiagramStudio.Hostname

open Text

/-- The characters of a label and the way it is written. -/
structure Label where
  text : Text
  written : Text
  deriving Repr, DecidableEq

namespace Label

/-- What introduces an ASCII form. -/
def mark : Text := "xn--".toList

/-- Longer labels are not encoded. -/
def encodedLimit : Nat := 1000

/-- Longer ASCII forms are not decoded. -/
def decodedLimit : Nat := 2000

/-- True of the texts that stay as they are. -/
def isSettled (t : Text) : Bool := t.all (fun c => treatment c == .stays) && compose t == t

/-- A label does not start with a combining mark, and its joiners stand where they matter. -/
def isWellFormed (t : Text) : Bool := !t.head?.any isMark && joinersInContext [] t

/-- Reads a label without the mark. -/
def plain? (t : Text) : Option Label :=
  if t.all Punycode.isBasic then some ⟨t, t⟩
  else if isWellFormed t && t.length ≤ encodedLimit then
    some ⟨t, mark ++ Punycode.encode t⟩
  else none

/-- Reads what follows the mark. -/
def encoded? (code : Text) : Option Label :=
  if code.all Punycode.isBasic && code.length ≤ decodedLimit then
    ((Punycode.decode? code).filter fun t =>
      !t.all Punycode.isBasic && isSettled t && isWellFormed t &&
        (stripStart? mark t).isNone).map fun t => ⟨t, mark ++ code⟩
  else none

/-- Reads a label of mapped and composed characters. -/
def ofText? (t : Text) : Option Label :=
  match stripStart? mark t with
  | some code => encoded? code
  | none => plain? t

end Label

end DiagramStudio.Hostname
