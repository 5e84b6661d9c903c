import DiagramStudio.Text.Blank

/-!
# The fallback diagram

A small flowchart that always renders, for the case that no usable diagram was produced. Only its
last line depends on the description, and it is a comment.
-/

namespace DiagramStudio.Fallback

open Text

/-- How many characters of the description are echoed. -/
def echoLimit : Nat := 80

/-- The fixed lines of the flowchart. -/
def topology : List Text := [
  "graph TD".toList,
  "    A[Start] --> B\x7bProcess\x7d".toList,
  "    B -->|Analyze| C[Components]".toList,
  "    C --> D[Interactions]".toList,
  "    D --> E[Output]".toList]

/-- The start of the description on one line. -/
def echo (description : Text) : Text :=
  List.intercalate [' '] (words (description.take echoLimit))

/-- The comment that echoes the description. -/
def comment (description : Text) : Text :=
  "    %% Input: ".toList ++ echo description ++ "...".toList

/-- The flowchart for a description; every line ends with a newline. -/
def diagram (description : Text) : Text :=
  (topology ++ [comment description]).flatMap (· ++ ['\n'])

end DiagramStudio.Fallback
