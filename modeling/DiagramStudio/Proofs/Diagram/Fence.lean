import DiagramStudio.Diagram.Fence
import DiagramStudio.Proofs.Text.Lines
import Mathlib.Data.List.Infix

/-!
# Fenced documents

A document is a sequence of prose lines and fenced blocks. The search for a block tries every fence
as an opening one, so it also reads closing fences as openers with an empty tag. `Passed` says of a
stretch of text that the search goes on behind it; a line without a fence is passed, and so is every
line of a block whose tag is rejected, if empty tags are.

## Main definitions

- `Fence.FencedBlock`: a fenced block with its tag and the lines of its body
- `Fence.document`: the text of a sequence of prose lines and blocks
- `Fence.Passed`: stretches in which the search finds nothing
-/

namespace DiagramStudio.Fence

open Text

/-! ## Documents -/

/-- A line without a fence. -/
structure Unfenced (line : Text) : Prop where
  newline : '\n' ∉ line
  mark : ¬ mark <:+: line

instance (line : Text) : Decidable (Unfenced line) :=
  decidable_of_iff ('\n' ∉ line ∧ ¬ Fence.mark <:+: line)
    ⟨fun h => ⟨h.1, h.2⟩, fun h => ⟨h.newline, h.mark⟩⟩

structure FencedBlock where
  tag : Text
  body : List Text
  newline : '\n' ∉ tag
  backtick : '\x60' ∉ tag
  unfenced : ∀ line ∈ body, Unfenced line

inductive Piece
  | prose (line : Text) (unfenced : Unfenced line)
  | fenced (block : FencedBlock)

def Piece.lines : Piece → List Text
  | .prose line _ => [line]
  | .fenced block => (mark ++ block.tag) :: (block.body ++ [mark])

def Piece.block? : Piece → Option FencedBlock
  | .prose _ _ => none
  | .fenced block => some block

/-- A document whose last line is ended by a newline has an empty line of prose behind it. -/
def document (pieces : List Piece) : Text := joinLines (pieces.flatMap Piece.lines)

/-- The blocks of a document, in order. -/
def blocks (pieces : List Piece) : List FencedBlock := pieces.filterMap Piece.block?

/-- True of a tag that is that of a diagram but for case and the blanks around it. -/
def FencedBlock.isDiagram (block : FencedBlock) : Bool := lowercase (trim block.tag) == diagramTag

/-! ## Passing over lines -/

theorem newline_not_mem_mark : '\n' ∉ mark := by decide

/-- A fence does not go on behind the end of a line. -/
theorem mark_prefix_of_append_newline {t u : Text} (h : mark <+: t ++ '\n' :: u) : mark <+: t := by
  rcases List.prefix_or_prefix_of_prefix h (List.prefix_append t ('\n' :: u)) with h' | ⟨v, hv⟩
  · exact h'
  · rw [← hv, List.prefix_append_right_inj] at h
    cases v with
    | nil => simp [← hv]
    | cons c v =>
      rw [List.cons_prefix_cons] at h
      exfalso
      apply newline_not_mem_mark
      rw [← hv, h.1]
      simp

theorem block?_cons_of_unmarked {accepts : Text → Bool} {c : Char} {t : Text}
    (h : ¬ mark <+: c :: t) : block? accepts (c :: t) = block? accepts t := by
  rw [block?.eq_def]
  split
  · next heq => simp at heq
  · next rest heq => exact absurd ⟨rest, heq.symm⟩ h
  · next heq =>
    obtain ⟨rfl, rfl⟩ := List.cons.inj heq
    rfl

/-- A stretch of whole lines in which the search finds nothing, whatever follows. -/
structure Passed (accepts : Text → Bool) (t : Text) : Prop where
  last : block? accepts t = none
  next : ∀ u, block? accepts (t ++ '\n' :: u) = block? accepts u

variable {accepts : Text → Bool}

theorem Passed.append {t u : Text} (ht : Passed accepts t) (hu : Passed accepts u) :
    Passed accepts (t ++ '\n' :: u) := by
  refine ⟨?_, ?_⟩
  · rw [ht.next, hu.last]
  · intro v
    rw [List.append_assoc, List.cons_append, ht.next, hu.next]

theorem passed_joinLines {lines : List Text} (hne : lines ≠ [])
    (h : ∀ line ∈ lines, Passed accepts line) : Passed accepts (joinLines lines) := by
  induction lines with
  | nil => exact absurd rfl hne
  | cons line lines ih =>
    rw [List.forall_mem_cons] at h
    cases lines with
    | nil =>
      rw [joinLines_singleton]
      exact h.1
    | cons second lines =>
      rw [joinLines_cons_cons]
      exact h.1.append (ih (by simp) h.2)

theorem passed_of_unmarked {t : Text} (h : ¬ mark <:+: t) : Passed accepts t := by
  induction t with
  | nil =>
    refine ⟨rfl, ?_⟩
    intro u
    refine block?_cons_of_unmarked ?_
    intro hprefix
    exact h (mark_prefix_of_append_newline (t := []) hprefix).isInfix
  | cons c t ih =>
    obtain ⟨hlast, hnext⟩ := ih fun hmark => h (List.infix_cons hmark)
    refine ⟨?_, ?_⟩
    · rw [block?_cons_of_unmarked fun hprefix => h hprefix.isInfix, hlast]
    · intro u
      rw [List.cons_append, block?_cons_of_unmarked, hnext]
      exact fun hprefix => h (mark_prefix_of_append_newline hprefix).isInfix

theorem not_infix_of_not_mem {t : Text} (h : '\x60' ∉ t) : ¬ mark <:+: t :=
  fun hmark => h (hmark.subset (by decide))

theorem block?_mark (t : Text) :
    block? accepts (mark ++ t) = match cut? ['\n'] t with
      | none => none
      | some (tag, body) =>
        match if accepts (trim tag) then closedBody? body else none with
        | some found => some found
        | none => block? accepts t := rfl

/-- The search goes on behind the line of a fence with a tag that is rejected. -/
theorem passed_mark {tag : Text} (hnewline : '\n' ∉ tag) (hbacktick : '\x60' ∉ tag)
    (hrejected : accepts (trim tag) = false) : Passed accepts (mark ++ tag) := by
  refine ⟨?_, ?_⟩
  · rw [block?_mark, cut?_of_not_mem hnewline]
  · intro u
    rw [List.append_assoc, block?_mark, cut?_append_cons hnewline]
    simp only [hrejected, Bool.false_eq_true, if_false]
    exact (passed_of_unmarked (not_infix_of_not_mem hbacktick)).next u

/-! ## Searching a document -/

theorem Unfenced.passed {line : Text} (h : Unfenced line) : Passed accepts line :=
  passed_of_unmarked h.mark

/-- A line without a fence is no fence with what follows. -/
theorem stripStart?_mark_body {line : Text} (h : Unfenced line) (body : List Text) (rest : Text) :
    stripStart? mark (joinLines (line :: body) ++ '\n' :: rest) = none := by
  have hline : ∃ u, joinLines (line :: body) ++ '\n' :: rest = line ++ '\n' :: u := by
    cases body with
    | nil => exact ⟨rest, by rw [joinLines_singleton]⟩
    | cons second body =>
      exact ⟨joinLines (second :: body) ++ '\n' :: rest, by simp [joinLines_cons_cons]⟩
  obtain ⟨u, hu⟩ := hline
  rw [hu, stripStart?_eq_none_iff]
  exact fun hmark => h.mark (mark_prefix_of_append_newline hmark).isInfix

/-- The first fence at the start of a line ends the body. -/
theorem cut?_body {line : Text} {body : List Text} (h : ∀ piece ∈ line :: body, Unfenced piece)
    (rest : Text) :
    cut? ('\n' :: mark) (joinLines (line :: body) ++ '\n' :: (mark ++ rest)) =
      some (joinLines (line :: body), rest) := by
  induction body generalizing line with
  | nil =>
    have hstrip : stripStart? ('\n' :: mark) ('\n' :: (mark ++ rest)) = some rest :=
      stripStart?_eq_some_iff.2 rfl
    rw [joinLines_singleton, cut?_append_of_not_mem (h line (by simp)).newline, cut?, hstrip]
    simp
  | cons second body ih =>
    rw [List.forall_mem_cons] at h
    have hstrip : stripStart? ('\n' :: mark)
        ('\n' :: (joinLines (second :: body) ++ '\n' :: (mark ++ rest))) = none := by
      rw [stripStart?, if_pos rfl]
      exact stripStart?_mark_body (h.2 second (by simp)) body (mark ++ rest)
    rw [joinLines_cons_cons, List.append_assoc, cut?_append_of_not_mem h.1.newline,
      List.cons_append, cut?, hstrip, ih h.2]
    simp

theorem closedBody?_body {body : List Text} (h : ∀ line ∈ body, Unfenced line) (rest : Text) :
    closedBody? (joinLines (body ++ [mark]) ++ rest) = some (joinLines body) := by
  cases body with
  | nil => rfl
  | cons line body =>
    rw [joinLines_append (by simp) (by simp), joinLines_singleton, List.append_assoc,
      List.cons_append, closedBody?, stripStart?_mark_body (h line (by simp)), cut?_body h]
    rfl

theorem Piece.lines_ne_nil (piece : Piece) : piece.lines ≠ [] := by
  cases piece with
  | prose line _ => simp [Piece.lines]
  | fenced block => simp [Piece.lines]

theorem Piece.passed (hempty : accepts [] = false) (piece : Piece)
    (h : ∀ block ∈ piece.block?, accepts (trim block.tag) = false) :
    Passed accepts (joinLines piece.lines) := by
  refine passed_joinLines piece.lines_ne_nil ?_
  cases piece with
  | prose line unfenced =>
    rw [Piece.lines, List.forall_mem_singleton]
    exact unfenced.passed
  | fenced block =>
    rw [Piece.lines, List.forall_mem_cons, List.forall_mem_append, List.forall_mem_singleton]
    refine ⟨passed_mark block.newline block.backtick (h block rfl), ?_, ?_⟩
    · exact fun line hline => (block.unfenced line hline).passed
    · rw [← List.append_nil mark]
      exact passed_mark (by simp) (by simp) hempty

theorem block?_fenced {block : FencedBlock} (h : accepts (trim block.tag) = true) (rest : Text) :
    block? accepts (joinLines (Piece.fenced block).lines ++ rest) =
      some (joinLines block.body) := by
  rw [Piece.lines, ← List.singleton_append, joinLines_append (by simp) (by simp),
    joinLines_singleton, List.append_assoc, List.append_assoc, block?_mark, List.cons_append,
    cut?_append_cons block.newline]
  simp only [h, if_true, closedBody?_body block.unfenced]

theorem document_singleton (piece : Piece) : document [piece] = joinLines piece.lines := by
  rw [document, List.flatMap_singleton]

theorem document_cons_cons (piece second : Piece) (pieces : List Piece) :
    document (piece :: second :: pieces) =
      joinLines piece.lines ++ '\n' :: document (second :: pieces) := by
  rw [document, List.flatMap_cons, joinLines_append piece.lines_ne_nil, document]
  simp [second.lines_ne_nil]

theorem Passed.block?_document {piece : Piece} (h : Passed accepts (joinLines piece.lines))
    (pieces : List Piece) :
    block? accepts (document (piece :: pieces)) = block? accepts (document pieces) := by
  cases pieces with
  | nil => rw [document_singleton, h.last]; rfl
  | cons second pieces => rw [document_cons_cons, h.next]

theorem block?_document_fenced {block : FencedBlock} (h : accepts (trim block.tag) = true)
    (pieces : List Piece) :
    block? accepts (document (.fenced block :: pieces)) = some (joinLines block.body) := by
  cases pieces with
  | nil =>
    rw [document_singleton, ← List.append_nil (joinLines _)]
    exact block?_fenced h []
  | cons second pieces =>
    rw [document_cons_cons]
    exact block?_fenced h _

/-- The search finds the first block whose tag is accepted, if it rejects the empty tag. -/
theorem block?_document (hempty : accepts [] = false) (pieces : List Piece) :
    block? accepts (document pieces) =
      ((blocks pieces).find? fun block => accepts (trim block.tag)).map
        fun block => joinLines block.body := by
  induction pieces with
  | nil => rfl
  | cons piece pieces ih =>
    cases piece with
    | prose line unfenced =>
      have hpassed := Piece.passed hempty (.prose line unfenced) (by simp [Piece.block?])
      rw [hpassed.block?_document, ih]
      rfl
    | fenced block =>
      have hblocks : blocks (.fenced block :: pieces) = block :: blocks pieces := rfl
      cases haccepts : accepts (trim block.tag) with
      | false =>
        have hpassed := Piece.passed hempty (.fenced block) (by simpa [Piece.block?])
        rw [hpassed.block?_document, ih, hblocks, List.find?_cons_of_neg (by simp [haccepts])]
      | true =>
        rw [block?_document_fenced haccepts, hblocks, List.find?_cons_of_pos (by exact haccepts)]
        rfl

/-- The diagram of a document is the body of its first block that is tagged as one. -/
theorem extract_document {pieces : List Piece}
    (h : ∃ block ∈ blocks pieces, block.isDiagram = true) :
    ∃ block, (blocks pieces).find? FencedBlock.isDiagram = some block ∧
      extract (document pieces) = trim (joinLines block.body) := by
  obtain ⟨block, hblock⟩ := Option.isSome_iff_exists.1 (List.find?_isSome.2 h)
  refine ⟨block, hblock, ?_⟩
  have hfound : block? (fun tag => lowercase tag == diagramTag) (document pieces) =
      ((blocks pieces).find? FencedBlock.isDiagram).map fun block => joinLines block.body :=
    block?_document (by decide) pieces
  rw [hblock] at hfound
  rw [extract, hfound]
  rfl

theorem extract_document_tagged :
    ∃ pieces,
      document pieces =
        "A sketch:\n```js\ngraph\n```\n\n``` MerMaid\n graph TD\nA\n\n```\nor\n```mermaid\n```".toList ∧
      (∃ block ∈ blocks pieces, block.isDiagram = true) ∧
      ∃ block, (blocks pieces).find? FencedBlock.isDiagram = some block ∧
        extract (document pieces) = trim (joinLines block.body) := by
  let script : FencedBlock := ⟨"js".toList, ["graph".toList], by decide, by decide, by decide⟩
  let diagram : FencedBlock := ⟨" MerMaid".toList, [" graph TD".toList, "A".toList, []], by decide,
    by decide, by decide⟩
  let second : FencedBlock := ⟨"mermaid".toList, [], by decide, by decide, by decide⟩
  have h : ∃ block ∈ blocks [.prose "A sketch:".toList (by decide), .fenced script,
      .prose [] (by decide), .fenced diagram, .prose "or".toList (by decide), .fenced second],
      block.isDiagram = true := ⟨diagram, by simp [blocks, Piece.block?], by decide⟩
  exact ⟨_, by decide, h, extract_document h⟩

end DiagramStudio.Fence
