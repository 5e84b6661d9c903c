import DiagramStudio.Proofs.Diagram.ClassLine
import Mathlib.Data.List.Infix

/-!
# Repair of damaged class diagrams

A class diagram is a list of items. Replies render it with blanks around the lines, blank lines,
prose in class bodies, closing braces too many, and bodies that are not closed. Whatever the damage,
rebuilding gives the one text that the items have without it.

The relation is read in two layers, as the fold reads a text: `Spaced` adds the blanks to the lines,
`Damaged` allows for lines that are missing or too many.

## Main definitions

- `ClassBlock.Item`: a class without a body, a class with one, or a line that may stand anywhere
- `ClassBlock.Renders`: what a reply can make of a list of items
- `ClassBlock.canonical`: the text of a list of items without damage
-/

namespace DiagramStudio.ClassBlock

open Text

/-! ## Items -/

/-- A line that no rule applies to that holds outside and inside class bodies alike. -/
structure Loose (line : Text) : Prop where
  directive : startsWithWord "classDiagram".toList line = false
  comment : isComment line = false
  relationship : isRelationship line = false
  keyword : classKeyword? line = none

/-- A class name in which no shaft can be read. -/
structure ClassName where
  text : Text
  word : isClassName text = true
  dashes : ¬ ['-', '-'] <:+: text
  dots : ¬ ['.', '.'] <:+: text

/-- A line that stays in a class body. -/
structure Member where
  line : Text
  inked : Inked line
  loose : Loose line
  form : isMember line = true

/-- A line that has no place in a class body, and does not end it either. -/
structure Junk (line : Text) : Prop where
  inked : Inked line
  loose : Loose line
  closer : line ≠ ['}']
  form : isMember line = false

/-- A comment or a relationship. -/
structure Aside where
  line : Text
  inked : Inked line
  directive : startsWithWord "classDiagram".toList line = false
  form : isComment line = true ∨ isRelationship line = true

inductive Item
  | bare (name : ClassName)
  | block (name : ClassName) (members : List Member)
  | aside (note : Aside)

/-- True of the items that end the class before them. -/
def Item.isClass : Item → Bool
  | .bare _ | .block _ _ => true
  | .aside _ => false

def ClassName.bareLine (name : ClassName) : Text := "class ".toList ++ name.text

def ClassName.headerLine (name : ClassName) : Text := "class ".toList ++ name.text ++ [' ', '{']

theorem ClassName.bareLine_eq (name : ClassName) :
    name.bareLine = "class ".toList ++ name.text := rfl

theorem ClassName.headerLine_eq (name : ClassName) :
    name.headerLine = "class ".toList ++ name.text ++ [' ', '{'] := rfl

/-- The lines of an item without damage. A class body without members is left out. -/
def Item.canonical : Item → List Text
  | .bare name | .block name [] => [statement name.bareLine]
  | .block name (member :: members) =>
    statement name.headerLine ::
      (member :: members).map (fun member => memberLine member.line) ++ [statement ['}']]
  | .aside note => [statement note.line]

/-- The text of a list of items without damage. -/
def canonical (items : List Item) : Text :=
  joinLines ("classDiagram".toList :: items.flatMap Item.canonical)

/-! ## Renderings -/

/-- The lines of a class body, junk included. -/
inductive Body : List Member → List Text → Prop
  | nil : Body [] []
  | member (member : Member) {members : List Member} {lines : List Text} :
      Body members lines → Body (member :: members) (member.line :: lines)
  | junk {line : Text} {members : List Member} {lines : List Text} :
      Junk line → Body members lines → Body members (line :: lines)

/-- The lines of a list of items, with closing braces too many and too few. -/
inductive Damaged : List Item → List Text → Prop
  | nil : Damaged [] []
  | stray {items : List Item} {lines : List Text} :
      Damaged items lines → Damaged items (['}'] :: lines)
  | bare (name : ClassName) {items : List Item} {lines : List Text} :
      Damaged items lines → Damaged (.bare name :: items) (name.bareLine :: lines)
  | aside (note : Aside) {items : List Item} {lines : List Text} :
      Damaged items lines → Damaged (.aside note :: items) (note.line :: lines)
  | closed (name : ClassName) {members : List Member} {body : List Text} {items : List Item}
      {lines : List Text} : Body members body → Damaged items lines →
      Damaged (.block name members :: items) (name.headerLine :: (body ++ ['}'] :: lines))
  -- Only a class or the end of the text can stand for the closing brace.
  | unclosed (name : ClassName) {members : List Member} {body : List Text} {items : List Item}
      {lines : List Text} : Body members body → (∀ item ∈ items.head?, item.isClass = true) →
      Damaged items lines →
      Damaged (.block name members :: items) (name.headerLine :: (body ++ lines))

/-- A run of blanks within a line. -/
def Gap (w : Text) : Prop := ∀ c ∈ w, isBlank c = true ∧ c ≠ '\n'

instance (w : Text) : Decidable (Gap w) :=
  List.decidableBAll (fun c => isBlank c = true ∧ c ≠ '\n') w

/-- Lines with blanks around them and blank lines between them. -/
inductive Spaced : List Text → List Text → Prop
  | nil : Spaced [] []
  | blank {w : Text} {lines pieces : List Text} : Gap w → Spaced lines pieces →
      Spaced lines (w :: pieces)
  | line {w v line : Text} {lines pieces : List Text} : Gap w → Gap v → Spaced lines pieces →
      Spaced (line :: lines) ((w ++ (line ++ v)) :: pieces)

/-- The texts that a list of items can be rendered as. -/
def Renders (items : List Item) (code : Text) : Prop :=
  ∃ lines pieces, Damaged items lines ∧ Spaced ("classDiagram".toList :: lines) pieces ∧
    code = joinLines pieces

/-! ## Kinds of lines -/

theorem cutShaft?_eq_none {t : Text} (hdashes : ¬ ['-', '-'] <:+: t) (hdots : ¬ ['.', '.'] <:+: t) :
    cutShaft? t = none := by
  fun_induction cutShaft? t with
  | case1 t => exact absurd ⟨[], t, rfl⟩ hdashes
  | case2 t => exact absurd ⟨[], t, rfl⟩ hdots
  | case3 c t _ _ ih =>
    rw [ih (fun h => hdashes (h.trans (List.infix_cons List.infix_rfl)))
      (fun h => hdots (h.trans (List.infix_cons List.infix_rfl)))]
    rfl
  | case4 => rfl

theorem infix_of_append_right {d : Char} {t v : Text} (hv : d ∉ v) (h : [d, d] <:+: t ++ v) :
    [d, d] <:+: t := by
  have hreverse : [d, d] <:+: v.reverse ++ t.reverse := by
    rw [← List.reverse_append]
    exact List.reverse_infix.2 h
  exact List.reverse_infix.1 (infix_of_append_left (by simpa using hv) hreverse)

/-- The lines that are written for a name hold no shaft. -/
theorem ClassName.not_isRelationship (name : ClassName) {v : Text} (hv : Shaftless v) :
    isRelationship ("class ".toList ++ (name.text ++ v)) = false := by
  have hcut : cutShaft? ("class ".toList ++ (name.text ++ v)) = none := by
    refine cutShaft?_eq_none (fun h => name.dashes ?_) (fun h => name.dots ?_)
    · exact infix_of_append_right hv.1 (infix_of_append_left (by decide) h)
    · exact infix_of_append_right hv.2 (infix_of_append_left (by decide) h)
  rw [isRelationship, hcut]

theorem ClassName.kind_bareLine (name : ClassName) :
    LineKind.of name.bareLine = .bare name.text := by
  have hrelationship := name.not_isRelationship (v := []) (by decide)
  rw [List.append_nil] at hrelationship
  rw [name.bareLine_eq, kind_class hrelationship (trimmed_className name.word),
    declaration_name name.word]

theorem ClassName.kind_headerLine (name : ClassName) :
    LineKind.of name.headerLine = .header name.text := by
  have hrelationship := name.not_isRelationship (v := [' ', '{']) (by decide)
  rw [name.headerLine_eq, List.append_assoc, kind_class hrelationship (trimmed_header name.word),
    declaration_header name.word]

theorem Loose.kind_eq {line : Text} (h : Loose line) : LineKind.of line =
    if line = ['}'] then .closer else if isMember line = true then .member else .other := by
  rw [LineKind.of, h.directive, h.comment, h.relationship, h.keyword]
  rfl

theorem Member.kind_eq (member : Member) : LineKind.of member.line = .member := by
  have hcloser : member.line ≠ ['}'] := by
    intro h
    have := member.form
    rw [h] at this
    exact absurd this (by decide)
  rw [member.loose.kind_eq, if_neg hcloser, if_pos member.form]

theorem Junk.kind_eq {line : Text} (h : Junk line) : LineKind.of line = .other := by
  rw [h.loose.kind_eq, if_neg h.closer, h.form]
  rfl

theorem Aside.kind_eq (note : Aside) : LineKind.of note.line = .aside := by
  rw [LineKind.of, note.directive, if_neg (by decide), if_pos]
  rcases note.form with h | h
  · simp [h]
  · simp [h]

theorem kind_directive : LineKind.of "classDiagram".toList = .directive := by decide

/-! ## The fold over damaged lines -/

theorem canonical_block (name : ClassName) (members : List Member) :
    Item.canonical (.block name members) =
      OpenClass.written ⟨name.text, members.map Member.line⟩ := by
  cases members with
  | nil => rfl
  | cons member members =>
    rw [Item.canonical, OpenClass.written, List.map_map]
    rfl

/-- The members of a body gather in the open class, and junk is dropped. -/
theorem run_body {members : List Member} {body : List Text} (h : Body members body) (name : Text)
    (before rest : List Text) :
    run ⟨some ⟨name, before⟩, 0⟩ (body ++ rest) =
      run ⟨some ⟨name, before ++ members.map Member.line⟩, 0⟩ rest := by
  induction h generalizing before with
  | nil => simp
  | member member _ ih =>
    rw [List.cons_append, run, step, member.kind_eq]
    dsimp only
    rw [ih, List.nil_append, List.append_assoc]
    rfl
  | junk hjunk _ ih =>
    rw [List.cons_append, run, step, hjunk.kind_eq]
    exact ih before

theorem run_headerLine (name : ClassName) {members : List Member} {body : List Text}
    (h : Body members body) (rest : List Text) :
    run .start (name.headerLine :: (body ++ rest)) =
      run ⟨some ⟨name.text, members.map Member.line⟩, 0⟩ rest := by
  rw [run, step, name.kind_headerLine]
  exact run_body h name.text [] rest

/-- A class that is open is written before the next class, and at the end. -/
theorem run_open {items : List Item} {lines : List Text} (h : Damaged items lines)
    (hitems : ∀ item ∈ items.head?, item.isClass = true) (block : OpenClass) :
    run ⟨some block, 0⟩ lines = block.written ++ run .start lines := by
  cases h with
  | nil => simp [run, State.flushed, State.start]
  | stray _ =>
    -- The brace closes the class, and from the start it would be dropped.
    rw [run, run, step, step, kind_closer]
    rfl
  | bare name _ =>
    rw [run, run, step, step, name.kind_bareLine]
    simp [State.flushed, State.start]
  | aside note _ => exact absurd (hitems _ rfl) (by simp [Item.isClass])
  | closed name _ _ =>
    rw [run, run, step, step, name.kind_headerLine]
    rfl
  | unclosed name _ _ _ =>
    rw [run, run, step, step, name.kind_headerLine]
    rfl

/-- The fold repairs all damage. -/
theorem run_damaged {items : List Item} {lines : List Text} (h : Damaged items lines) :
    run .start lines = items.flatMap Item.canonical := by
  -- Between two items no class is open and no scope is counted, so each item starts afresh.
  induction h with
  | nil => rfl
  | stray _ ih =>
    rw [run, step, kind_closer]
    exact ih
  | bare name _ ih =>
    rw [run, step, name.kind_bareLine, List.flatMap_cons, ← ih]
    rfl
  | aside note _ ih =>
    rw [run, step, note.kind_eq, List.flatMap_cons, ← ih]
    rfl
  | closed name hbody _ ih =>
    rw [run_headerLine name hbody, run, step, kind_closer, List.flatMap_cons, canonical_block, ← ih]
    rfl
  | unclosed name hbody hitems hrest ih =>
    rw [run_headerLine name hbody, run_open hrest hitems, List.flatMap_cons, canonical_block, ← ih]

/-! ## Lines between blanks -/

theorem Body.inked {members : List Member} {body : List Text} (h : Body members body) :
    ∀ line ∈ body, Inked line := by
  induction h with
  | nil => simp
  | member member _ ih => exact List.forall_mem_cons.2 ⟨member.inked, ih⟩
  | junk hjunk _ ih => exact List.forall_mem_cons.2 ⟨hjunk.inked, ih⟩

theorem ClassName.inked_bareLine (name : ClassName) : Inked name.bareLine :=
  ClassBlock.inked_bareLine name.word

theorem ClassName.inked_headerLine (name : ClassName) : Inked name.headerLine := by
  rw [name.headerLine_eq, List.append_assoc]
  exact ClassBlock.inked_headerLine name.word

theorem Damaged.inked {items : List Item} {lines : List Text} (h : Damaged items lines) :
    ∀ line ∈ lines, Inked line := by
  induction h with
  | nil => simp
  | stray _ ih => exact List.forall_mem_cons.2 ⟨inked_closer, ih⟩
  | bare name _ ih => exact List.forall_mem_cons.2 ⟨name.inked_bareLine, ih⟩
  | aside note _ ih => exact List.forall_mem_cons.2 ⟨note.inked, ih⟩
  | closed name hbody _ ih =>
    have hrest := List.forall_mem_cons.2 ⟨inked_closer, ih⟩
    exact List.forall_mem_cons.2
      ⟨name.inked_headerLine, List.forall_mem_append.2 ⟨hbody.inked, hrest⟩⟩
  | unclosed name hbody _ _ ih =>
    exact List.forall_mem_cons.2
      ⟨name.inked_headerLine, List.forall_mem_append.2 ⟨hbody.inked, ih⟩⟩

theorem Gap.newline {w : Text} (h : Gap w) : '\n' ∉ w := fun hn => (h _ hn).2 rfl

theorem Gap.blank {w : Text} (h : Gap w) : ∀ c ∈ w, isBlank c = true := fun c hc => (h c hc).1

/-- The fold reads lines without the blanks around them. -/
theorem Spaced.inkedLines_eq {lines pieces : List Text} (h : Spaced lines pieces)
    (hlines : ∀ line ∈ lines, Inked line) (hne : lines ≠ []) :
    inkedLines (joinLines pieces) = lines := by
  have hread : (∀ piece ∈ pieces, '\n' ∉ piece) ∧
      ((pieces.map trim).filter fun line => !line.isEmpty) = lines := by
    clear hne
    induction h with
    | nil => simp
    | blank hw _ ih =>
      obtain ⟨hnewline, hfilter⟩ := ih hlines
      refine ⟨List.forall_mem_cons.2 ⟨hw.newline, hnewline⟩, ?_⟩
      rw [List.map_cons, trim_of_blank hw.blank]
      exact hfilter
    | @line w v line lines pieces hw hv _ ih =>
      rw [List.forall_mem_cons] at hlines
      obtain ⟨hline, hlines⟩ := hlines
      obtain ⟨hnewline, hfilter⟩ := ih hlines
      refine ⟨List.forall_mem_cons.2 ⟨?_, hnewline⟩, ?_⟩
      · simp [hw.newline, hv.newline, hline.newline]
      · rw [List.map_cons, trim_append hw.blank hv.blank hline.trimmed_self,
          List.filter_cons_of_pos, hfilter]
        simpa using hline.ne_nil
  have hpieces : pieces ≠ [] := by
    rintro rfl
    exact hne hread.2.symm
  rw [ClassBlock.inkedLines_eq, segmentLines_joinLines hpieces hread.1]
  exact hread.2

/-- Rebuilding undoes the damage of every rendering. -/
theorem rebuild_of_renders {items : List Item} {code : Text} (h : Renders items code) :
    rebuild code = canonical items := by
  obtain ⟨lines, pieces, hdamaged, hspaced, rfl⟩ := h
  have hdirective : Inked "classDiagram".toList := ⟨by decide, by decide, by decide⟩
  have hinked := List.forall_mem_cons.2 ⟨hdirective, hdamaged.inked⟩
  rw [rebuild, hspaced.inkedLines_eq hinked (by simp), run, step, kind_directive, canonical,
    ← run_damaged hdamaged]
  rfl

theorem rebuild_of_renders_unclosed :
    ∃ items,
      Renders items
        "classDiagram\n\x7d\nclass B \x7b \nprose\n\tid: int\n\n class C \x7b\n\x7d\nB <|-- C".toList ∧
      rebuild
        "classDiagram\n\x7d\nclass B \x7b \nprose\n\tid: int\n\n class C \x7b\n\x7d\nB <|-- C".toList =
          canonical items ∧
      canonical items =
        "classDiagram\n    class B \x7b\n        id: int\n    \x7d\n    class C\n    B <|-- C".toList := by
  let b : ClassName := ⟨"B".toList, by decide, by decide, by decide⟩
  let c : ClassName := ⟨"C".toList, by decide, by decide, by decide⟩
  let id : Member := ⟨"id: int".toList, ⟨by decide, by decide, by decide⟩,
    ⟨by decide, by decide, by decide, by decide⟩, by decide⟩
  let note : Aside := ⟨"B <|-- C".toList, ⟨by decide, by decide, by decide⟩, by decide, by decide⟩
  have hprose : Junk "prose".toList := ⟨⟨by decide, by decide, by decide⟩,
    ⟨by decide, by decide, by decide, by decide⟩, by decide, by decide⟩
  have hlines := Damaged.stray (.unclosed b (.junk hprose (.member id .nil))
    (by simp [Item.isClass]) (.closed c .nil (.aside note .nil)))
  have hgap : Gap [] ∧ Gap [' '] ∧ Gap ['\t'] := by decide
  obtain ⟨hnone, hspace, htab⟩ := hgap
  have h : Renders [.block b [id], .block c [], .aside note]
      "classDiagram\n\x7d\nclass B \x7b \nprose\n\tid: int\n\n class C \x7b\n\x7d\nB <|-- C".toList :=
    ⟨_, _, hlines, .line hnone hnone (.line hnone hnone (.line hnone hspace (.line hnone hnone
      (.line htab hnone (.blank hnone (.line hspace hnone (.line hnone hnone
        (.line hnone hnone .nil)))))))), by decide⟩
  exact ⟨_, h, rebuild_of_renders h, by decide⟩

end DiagramStudio.ClassBlock
