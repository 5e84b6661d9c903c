import DiagramStudio.Hostname.Direction
import DiagramStudio.Hostname.Label

/-!
# Host names

A host name in any script has one written form in ASCII. Its characters are mapped and composed,
its labels are read, and the labels are written with points between them. In a name with letters
that run to the left every label has one direction. Some ASCII characters are in no host name.
-/

namespace DiagramStudio.Hostname

open Text

/-- The ASCII characters that no host name holds. -/
def isForbidden (c : Char) : Bool :=
  c.toNat ≤ 0x20 || c.toNat == 0x7F ||
    ['%', '#', '/', ':', '<', '>', '?', '@', '[', '\x5c', ']', '^', '|'].contains c

/-- The characters of a host name, mapped and composed. -/
def settle? (name : Text) : Option Text :=
  (name.mapM mapped?).map fun parts => compose parts.flatten

/-- True if labels that run to the left cannot be confused with others. -/
def agree (labels : List Label) : Bool :=
  !labels.any (fun label => label.text.any runsLeft) ||
    labels.all fun label => hasOneDirection label.text

/-- The written form of a host name. -/
def write? (name : Text) : Option Text :=
  (settle? name).bind fun settled =>
    ((segments (· == '.') settled).mapM Label.ofText?).bind fun labels =>
      let written := List.intercalate ['.'] (labels.map Label.written)
      if agree labels && !written.any isForbidden then some written else none

end DiagramStudio.Hostname
