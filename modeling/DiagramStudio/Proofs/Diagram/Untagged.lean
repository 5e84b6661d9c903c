import DiagramStudio.Proofs.Diagram.Fence

/-!
# Documents without a tagged diagram

If no block of a document is tagged as a diagram, a second search looks for a block without a tag.
A closing fence reads like the opening fence of such a block. So the search never gets behind the
first block: if that has a tag, its closing fence opens what stands between it and the next block,
and only a document with a single block is left alone.

## Main definitions

- `Fence.FencedBlock.isUntagged`: a block whose tag is blank
- `Fence.leadingProse`: the lines of prose before the first block
-/

namespace DiagramStudio.Fence

open Text

/-- True of a block whose tag is blank. -/
def FencedBlock.isUntagged (block : FencedBlock) : Bool := (trim block.tag).isEmpty

def Piece.isProse (piece : Piece) : Bool := piece.block?.isNone

/-- The lines of prose before the first block. -/
def leadingProse (pieces : List Piece) : List Text :=
  (pieces.takeWhile Piece.isProse).flatMap Piece.lines

/-! ## The first block of a document -/

theorem lines_of_isProse {piece : Piece} (h : piece.isProse = true) :
    ∀ line ∈ piece.lines, Unfenced line := by
  cases piece with
  | prose line unfenced => simpa [Piece.lines] using unfenced
  | fenced block => simp [Piece.isProse, Piece.block?] at h

theorem unfenced_leadingProse (pieces : List Piece) :
    ∀ line ∈ leadingProse pieces, Unfenced line := by
  intro line hline
  obtain ⟨piece, hpiece, hline⟩ := List.mem_flatMap.1 hline
  have hprose := List.all_eq_true.1 List.all_takeWhile piece hpiece
  exact lines_of_isProse hprose line hline

/-- A document is prose, or it goes on with a block after some prose. -/
theorem dropWhile_isProse_cases (pieces : List Piece) :
    (pieces.dropWhile Piece.isProse = [] ∧ blocks pieces = [] ∧
      pieces.flatMap Piece.lines = leadingProse pieces) ∨
    ∃ block rest, pieces.dropWhile Piece.isProse = .fenced block :: rest ∧
      blocks pieces = block :: blocks rest ∧
      pieces.flatMap Piece.lines = leadingProse pieces ++
        (mark ++ block.tag) :: (block.body ++ mark :: rest.flatMap Piece.lines) := by
  induction pieces with
  | nil => exact .inl ⟨rfl, rfl, rfl⟩
  | cons piece pieces ih =>
    cases piece with
    | prose line unfenced =>
      have hdrop : (Piece.prose line unfenced :: pieces).dropWhile Piece.isProse =
          pieces.dropWhile Piece.isProse := rfl
      have hblocks : blocks (.prose line unfenced :: pieces) = blocks pieces := rfl
      have hleading : leadingProse (.prose line unfenced :: pieces) =
          line :: leadingProse pieces := rfl
      rw [hdrop, hblocks, hleading, List.flatMap_cons, Piece.lines, List.singleton_append]
      rcases ih with ⟨hnil, hnone, hlines⟩ | ⟨block, rest, hnext, hfirst, hlines⟩
      · exact .inl ⟨hnil, hnone, by rw [hlines]⟩
      · exact .inr ⟨block, rest, hnext, hfirst, by rw [hlines]; rfl⟩
    | fenced block =>
      refine .inr ⟨block, pieces, rfl, rfl, ?_⟩
      rw [List.flatMap_cons, Piece.lines]
      simp [leadingProse, Piece.isProse, Piece.block?]

/-! ## The search for a block without a tag -/

variable {accepts : Text → Bool}

/-- A line that is cut in two cuts the text. -/
theorem joinLines_append_append_cons (front : List Text) (w piece : Text) (pieces : List Text) :
    joinLines (front ++ (w ++ piece) :: pieces) =
      joinLines (front ++ [w]) ++ joinLines (piece :: pieces) := by
  cases front with
  | nil => rw [List.nil_append, List.nil_append, joinLines_append_cons, joinLines_singleton]
  | cons line front =>
    rw [joinLines_append (by simp) (by simp), joinLines_append (by simp) (by simp),
      joinLines_append_cons, joinLines_singleton]
    simp

theorem block?_joinLines_append {front back : List Text}
    (h : ∀ line ∈ front, Passed accepts line) (hne : back ≠ []) :
    block? accepts (joinLines (front ++ back)) = block? accepts (joinLines back) := by
  cases front with
  | nil => rfl
  | cons line front =>
    rw [joinLines_append (by simp) hne, (passed_joinLines (by simp) h).next]

/-- No fence closes a text without fences. -/
theorem closedBody?_of_unmarked {t : Text} (h : ¬ mark <:+: t) : closedBody? t = none := by
  have hstart : stripStart? mark t = none :=
    stripStart?_eq_none_iff.2 fun hmark => h hmark.isInfix
  have hcut : cut? ('\n' :: mark) t = none := by
    rw [Option.eq_none_iff_forall_ne_some]
    intro parts hparts
    exact h ⟨parts.1 ++ ['\n'], parts.2, by simpa using (cut?_eq_some hparts).symm⟩
  rw [closedBody?, hstart, hcut]
  rfl

/-- A fence stands on one line. -/
theorem mark_infix_append_newline {t u : Text} (h : mark <:+: t ++ '\n' :: u) :
    mark <:+: t ∨ mark <:+: u := by
  induction t with
  | nil =>
    rcases List.infix_cons_iff.1 h with hprefix | hrest
    · exact .inl (mark_prefix_of_append_newline (t := []) hprefix).isInfix
    · exact .inr hrest
  | cons c t ih =>
    rcases List.infix_cons_iff.1 h with hprefix | hrest
    · exact .inl (mark_prefix_of_append_newline (t := c :: t) hprefix).isInfix
    · exact (ih hrest).imp_left List.infix_cons

theorem unmarked_joinLines {lines : List Text} (h : ∀ line ∈ lines, Unfenced line) :
    ¬ mark <:+: joinLines lines := by
  induction lines with
  | nil => decide
  | cons line lines ih =>
    rw [List.forall_mem_cons] at h
    cases lines with
    | nil =>
      rw [joinLines_singleton]
      exact h.1.mark
    | cons second lines =>
      rw [joinLines_cons_cons]
      intro hmark
      rcases mark_infix_append_newline hmark with hline | hlines
      · exact h.1.mark hline
      · exact ih h.2 hlines

/-- A fence alone on its line is read as the opening fence of a block without a tag. -/
theorem block?_isEmpty_fence (t : Text) :
    block? List.isEmpty (mark ++ '\n' :: t) = match closedBody? t with
      | some found => some found
      | none => block? List.isEmpty ('\n' :: t) := by
  rw [block?_mark, ← List.nil_append ('\n' :: t), cut?_append_cons (by simp)]
  rfl

/-- So a closing fence opens the prose behind it, if another block follows. -/
theorem block?_isEmpty_closing (pieces : List Piece) :
    block? List.isEmpty (joinLines (mark :: pieces.flatMap Piece.lines)) =
      if blocks pieces = [] then none else some (joinLines (leadingProse pieces)) := by
  rcases dropWhile_isProse_cases pieces with ⟨-, hnone, hprose⟩ | ⟨block, rest, -, hfirst, hnext⟩
  · rw [hprose, hnone, if_pos rfl]
    cases hlines : leadingProse pieces with
    | nil => rfl
    | cons line lines =>
      have hunmarked : ¬ mark <:+: joinLines (line :: lines) := by
        rw [← hlines]
        exact unmarked_joinLines (unfenced_leadingProse pieces)
      have hpassed : Passed List.isEmpty [] := passed_of_unmarked (by decide)
      rw [joinLines_cons_cons, block?_isEmpty_fence, closedBody?_of_unmarked hunmarked,
        ← List.nil_append ('\n' :: _), hpassed.next, (passed_of_unmarked hunmarked).last]
  · -- The body ends at the fence of that block.
    have hlines : joinLines (pieces.flatMap Piece.lines) =
        joinLines (leadingProse pieces ++ [mark]) ++
          joinLines (block.tag :: (block.body ++ mark :: rest.flatMap Piece.lines)) := by
      rw [hnext, joinLines_append_append_cons]
    have hne : blocks pieces ≠ [] := by simp [hfirst]
    obtain ⟨line, lines, hcons⟩ := List.exists_cons_of_ne_nil (l := pieces.flatMap Piece.lines)
      (by simp [hnext])
    rw [if_neg hne, hcons, joinLines_cons_cons, block?_isEmpty_fence, ← hcons, hlines,
      closedBody?_body (unfenced_leadingProse pieces)]

/-- The search for a block without a tag finds the first block, or what its closing fence opens. -/
theorem block?_isEmpty_document (pieces : List Piece) :
    block? List.isEmpty (document pieces) =
      match pieces.dropWhile Piece.isProse with
      | .fenced block :: rest =>
        if block.isUntagged then some (joinLines block.body)
        else if blocks rest = [] then none
        else some (joinLines (leadingProse rest))
      | _ => none := by
  have hprose : ∀ line ∈ leadingProse pieces, Passed List.isEmpty line :=
    fun line hline => (unfenced_leadingProse pieces line hline).passed
  rcases dropWhile_isProse_cases pieces with ⟨hdrop, -, hlines⟩ | ⟨block, rest, hdrop, -, hlines⟩
  · rw [hdrop, document, hlines]
    exact (passed_of_unmarked (unmarked_joinLines (unfenced_leadingProse pieces))).last
  · rw [hdrop, document, hlines, block?_joinLines_append hprose (by simp)]
    dsimp only
    cases htag : block.isUntagged with
    | true =>
      have hblock : joinLines
            ((mark ++ block.tag) :: (block.body ++ mark :: rest.flatMap Piece.lines)) =
          joinLines (Piece.fenced block).lines ++ joinLines ([] :: rest.flatMap Piece.lines) :=
        joinLines_append_append_cons ((mark ++ block.tag) :: block.body) mark [] _
      rw [hblock, block?_fenced htag]
      rfl
    | false =>
      have hopening : Passed List.isEmpty (mark ++ block.tag) :=
        passed_mark block.newline block.backtick htag
      have hbody : ∀ line ∈ (mark ++ block.tag) :: block.body, Passed List.isEmpty line :=
        List.forall_mem_cons.2 ⟨hopening, fun line hline => (block.unfenced line hline).passed⟩
      rw [← List.cons_append, block?_joinLines_append hbody (by simp), block?_isEmpty_closing]
      rfl

/-- The diagram of a document without a block that is tagged as one. It is the body of the first
block only if that has no tag; else it is the prose up to the second block, and with a single block
the whole document. -/
theorem extract_of_not_isDiagram {pieces : List Piece}
    (h : ∀ block ∈ blocks pieces, block.isDiagram = false) :
    extract (document pieces) =
      match pieces.dropWhile Piece.isProse with
      | .fenced block :: rest =>
        if block.isUntagged then trim (joinLines block.body)
        else if blocks rest = [] then trim (document pieces)
        else trim (joinLines (leadingProse rest))
      | _ => trim (document pieces) := by
  have htagged : block? (fun tag => lowercase tag == diagramTag) (document pieces) = none := by
    rw [block?_document (by decide), Option.map_eq_none_iff, List.find?_eq_none]
    intro block hblock
    simpa [FencedBlock.isDiagram] using h block hblock
  rw [extract, htagged]
  dsimp only
  rw [block?_isEmpty_document]
  rcases dropWhile_isProse_cases pieces with ⟨hdrop, -, -⟩ | ⟨block, rest, hdrop, -, -⟩
  · rw [hdrop]
  · rw [hdrop]
    dsimp only
    cases block.isUntagged with
    | true => rfl
    | false => by_cases hrest : blocks rest = [] <;> simp [hrest]

theorem extract_of_not_isDiagram_between :
    ∃ pieces,
      document pieces = "Run\n``` py \nx\n```\n\nThe diagram:\n```\ngraph TD\n```".toList ∧
      (∀ block ∈ blocks pieces, block.isDiagram = false) ∧
      extract (document pieces) =
        match pieces.dropWhile Piece.isProse with
        | .fenced block :: rest =>
          if block.isUntagged then trim (joinLines block.body)
          else if blocks rest = [] then trim (document pieces)
          else trim (joinLines (leadingProse rest))
        | _ => trim (document pieces) := by
  let script : FencedBlock := ⟨" py ".toList, ["x".toList], by decide, by decide, by decide⟩
  let diagram : FencedBlock := ⟨[], ["graph TD".toList], by decide, by decide, by decide⟩
  have h : ∀ block ∈ blocks [.prose "Run".toList (by decide), .fenced script,
      .prose [] (by decide), .prose "The diagram:".toList (by decide), .fenced diagram],
      block.isDiagram = false := by decide
  exact ⟨_, by decide, h, extract_of_not_isDiagram h⟩

/-- A block without a tag is not found behind a block with one. -/
theorem not_extract_of_isUntagged :
    ¬ ∀ pieces, (∀ block ∈ blocks pieces, block.isDiagram = false) →
      extract (document pieces) =
        match (blocks pieces).find? FencedBlock.isUntagged with
        | some block => trim (joinLines block.body)
        | none => trim (document pieces) := by
  let script : FencedBlock := ⟨"py".toList, ["x".toList], by decide, by decide, by decide⟩
  let diagram : FencedBlock := ⟨[], ["graph TD".toList], by decide, by decide, by decide⟩
  intro h
  have hextract := h [.fenced script, .prose "so".toList (by decide), .fenced diagram] (by decide)
  exact absurd hextract (by decide)

end DiagramStudio.Fence
