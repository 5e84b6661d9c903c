import DiagramStudio.Text.Blank

/-!
# Fenced replies

A reply may wrap its diagram in a fenced block: a line of three backticks and a tag, the body, and
three backticks at the start of a line. `extract` takes the diagram out of a reply; `strip` removes
an opening fence that was never closed properly.
-/

namespace DiagramStudio.Fence

open Text

/-- Three backticks. -/
def mark : Text := ['\x60', '\x60', '\x60']

/-- The tag of a block that is meant as a diagram. -/
def diagramTag : Text := "mermaid".toList

/-- What stands before the first closing fence: at once, or at the start of a later line. -/
def closedBody? (body : Text) : Option Text :=
  match stripStart? mark body with
  | some _ => some []
  | none => (cut? ('\n' :: mark) body).map Prod.fst

/-- The body of the first closed block whose tag is accepted. Every fence is tried as an opening
one, in order; a fence whose line does not end opens nothing, and nothing follows it. -/
def block? (accepts : Text → Bool) : Text → Option Text
  | [] => none
  | '\x60' :: '\x60' :: '\x60' :: rest =>
    match cut? ['\n'] rest with
    | none => none
    | some (tag, body) =>
      match if accepts (trim tag) then closedBody? body else none with
      | some found => some found
      | none => block? accepts rest
  | _ :: rest => block? accepts rest

/-- The diagram in a reply: the trimmed body of the first block tagged as a diagram, else of the
first untagged block, else the whole trimmed text. -/
def extract (reply : Text) : Text :=
  match block? (fun tag => lowercase tag == diagramTag) reply with
  | some body => trim body
  | none =>
    match block? List.isEmpty reply with
    | some body => trim body
    | none => trim reply

/-- `body` without a fence on its last line, or without the fence that ends that line. -/
def stripClosing (body : Text) : Text :=
  match cutLast? '\n' body with
  | some (head, last) => if trim last = mark then head else (stripEnd? mark body).getD body
  | none => if trim body = mark then [] else (stripEnd? mark body).getD body

/-- A text that starts with a fence loses its first line and a fence at its very end. -/
def strip (code : Text) : Text :=
  match stripStart? mark code with
  | none => code
  | some rest =>
    let body := ((cut? ['\n'] rest).map Prod.snd).getD []
    trim (stripClosing (trimEnd body))

end DiagramStudio.Fence
