import DiagramStudio.Proofs.Diagram.ClassLine

/-!
# Relationships between classes

A relationship is two class names with an arrow between them. Outside class bodies the fold writes
every relationship and stays where it is. Inside a body it has to know the line for what it is, and
it takes the arrow heads off both operands first, so an operand is lost that is spelled like a head:
a name of nothing but `o`. `step_relationship_iff` says exactly when a relationship survives.

## Main definitions

- `ClassBlock.Relationship`: two class names, and the heads and the shaft of the arrow between them
- `ClassBlock.Relationship.clear`: both names hold more than the circles of arrow heads
- `ClassBlock.Reachable`: the states that the fold gets into
-/

namespace DiagramStudio.ClassBlock

open Text

/-! ## Arrows -/

/-- What an arrow ends in. -/
inductive Head
  | plain
  | triangle
  | point
  | diamond
  | circle
  deriving Repr, DecidableEq

/-- A head at the left end of an arrow. -/
def Head.left : Head → Text
  | plain => []
  | triangle => ['<', '|']
  | point => ['<']
  | diamond => ['*']
  | circle => ['o']

/-- A head at the right end of an arrow. -/
def Head.right : Head → Text
  | plain => []
  | triangle => ['|', '>']
  | point => ['>']
  | diamond => ['*']
  | circle => ['o']

inductive Shaft
  | solid
  | dotted
  deriving Repr, DecidableEq

def Shaft.text : Shaft → Text
  | solid => ['-', '-']
  | dotted => ['.', '.']

/-- A name of letters, digits and underscores. -/
def isName (t : Text) : Bool := !t.isEmpty && t.all isWordChar

/-- An arrow between two classes. -/
structure Relationship where
  left : Text
  leftHead : Head
  shaft : Shaft
  rightHead : Head
  right : Text
  left_name : isName left = true
  right_name : isName right = true
  /-- A line with this first word is a directive. -/
  left_ne : left ≠ "classDiagram".toList

namespace Relationship

def arrow (r : Relationship) : Text := r.leftHead.left ++ (r.shaft.text ++ r.rightHead.right)

def line (r : Relationship) : Text := r.left ++ ' ' :: (r.arrow ++ ' ' :: r.right)

/-- True when neither name reads like the heads of an arrow. -/
def clear (r : Relationship) : Bool := r.left.any (· != 'o') && r.right.any (· != 'o')

end Relationship

/-- The states that the fold gets into. -/
inductive Reachable : State → Prop
  | start : Reachable .start
  | step {s : State} {line : Text} : Reachable s → Inked line → Reachable (step s line).1

/-! ## Names -/

theorem isWordChar_of_mem_name {t : Text} (h : isName t = true) {c : Char} (hc : c ∈ t) :
    isWordChar c = true := by
  rw [isName, Bool.and_eq_true, List.all_eq_true] at h
  exact h.2 c hc

theorem ne_of_mem_name {t : Text} (h : isName t = true) {c : Char} (hc : c ∈ t) {m : Char}
    (hm : isWordChar m = false) : c ≠ m := by
  rintro rfl
  rw [isWordChar_of_mem_name h hc] at hm
  exact absurd hm (by decide)

theorem name_ne_nil {t : Text} (h : isName t = true) : t ≠ [] := by
  rintro rfl
  exact absurd h (by decide)

theorem not_blank_of_mem_name {t : Text} (h : isName t = true) {c : Char} (hc : c ∈ t) :
    isBlank c = false := by
  cases hb : isBlank c with
  | false => rfl
  | true => exact absurd rfl (ne_of_mem_name h hc (isWordChar_of_isBlank hb))

/-- Of the characters of a name only the circle may belong to an arrow. -/
theorem isLeftHead_of_mem_name {t : Text} (h : isName t = true) {c : Char} (hc : c ∈ t) :
    isLeftHead c = (c == 'o') := by
  have hne : ∀ m, isWordChar m = false → (c == m) = false :=
    fun m hm => beq_eq_false_iff_ne.2 (ne_of_mem_name h hc hm)
  simp [isLeftHead, hne '<' (by decide), hne '|' (by decide), hne '*' (by decide),
    hne ' ' (by decide)]

theorem isRightHead_of_mem_name {t : Text} (h : isName t = true) {c : Char} (hc : c ∈ t) :
    isRightHead c = (c == 'o') := by
  have hne : ∀ m, isWordChar m = false → (c == m) = false :=
    fun m hm => beq_eq_false_iff_ne.2 (ne_of_mem_name h hc hm)
  simp [isRightHead, hne '-' (by decide), hne '.' (by decide), hne '>' (by decide),
    hne '|' (by decide), hne '*' (by decide), hne ' ' (by decide)]

theorem shaftless_name {t : Text} (h : isName t = true) : Shaftless t :=
  ⟨fun hc => ne_of_mem_name h hc (by decide) rfl, fun hc => ne_of_mem_name h hc (by decide) rfl⟩

/-! ## Operands -/

/-- What is left of a name as the left operand. -/
theorem blank_dropTrailing_name {t : Text} (h : isName t = true) :
    blank (dropTrailing isLeftHead t) = !t.any (· != 'o') := by
  obtain ⟨v, hv, ht⟩ := exists_dropTrailing isLeftHead t
  cases hany : t.any (· != 'o') with
  | true =>
    obtain ⟨c, hc, hne⟩ := List.any_eq_true.1 hany
    have hkept : c ∈ dropTrailing isLeftHead t := by
      rw [ht, List.mem_append] at hc
      refine hc.resolve_right fun hcv => ?_
      -- A character that is dropped is a circle.
      have hcircle := isLeftHead_of_mem_name h (ht ▸ List.mem_append_right _ hcv)
      rw [hv c hcv] at hcircle
      simp [← hcircle, bne] at hne
    rw [Bool.not_true, blank, List.all_eq_false]
    exact ⟨c, hkept, by simp [not_blank_of_mem_name h hc]⟩
  | false =>
    have hnil : dropTrailing isLeftHead t = [] := by
      rw [dropTrailing, List.reverse_eq_nil_iff, List.dropWhile_eq_nil_iff]
      intro c hc
      have hct := List.mem_reverse.1 hc
      rw [isLeftHead_of_mem_name h hct]
      simpa using List.any_eq_false.1 hany c hct
    rw [hnil]
    rfl

/-- What is left of a name as the right operand. -/
theorem isEmpty_dropWhile_name {t : Text} (h : isName t = true) :
    (t.dropWhile isRightHead).isEmpty = !t.any (· != 'o') := by
  rw [Bool.eq_iff_iff, List.isEmpty_iff, List.dropWhile_eq_nil_iff, Bool.not_eq_true',
    List.any_eq_false]
  refine forall₂_congr fun c hc => ?_
  rw [isRightHead_of_mem_name h hc]
  simp

/-! ## The kind of a relationship -/

namespace Relationship

theorem cutShaft?_line (r : Relationship) : cutShaft? r.line =
    some (r.left ++ ' ' :: r.leftHead.left, r.rightHead.right ++ ' ' :: r.right) := by
  have hhead : Shaftless (' ' :: r.leftHead.left) := by cases r.leftHead <;> decide
  have hshaft : ∀ t, cutShaft? (r.shaft.text ++ t) = some ([], t) := by
    intro t
    cases r.shaft <;> rfl
  have hline : r.line = (r.left ++ ' ' :: r.leftHead.left) ++
      (r.shaft.text ++ (r.rightHead.right ++ ' ' :: r.right)) := by simp [line, arrow]
  rw [hline, cutShaft?_shaftless_append ((shaftless_name r.left_name).append hhead), hshaft]
  simp

/-- The fold knows a relationship if both its names are clear of arrow heads. -/
theorem isRelationship_line (r : Relationship) : isRelationship r.line = r.clear := by
  have hleft : ∀ c ∈ ' ' :: r.leftHead.left, isLeftHead c = true := by
    cases r.leftHead <;> simp [Head.left, isLeftHead]
  have hright : ∀ c ∈ r.rightHead.right ++ [' '], isRightHead c = true := by
    cases r.rightHead <;> simp [Head.right, isRightHead]
  have hoperand : (r.rightHead.right ++ ' ' :: r.right).dropWhile isRightHead =
      r.right.dropWhile isRightHead := by
    rw [← List.singleton_append, ← List.append_assoc]
    exact List.dropWhile_append_of_pos hright
  have hmarks : (dropTrailing isLeftHead r.left).any (fun c => c == ':' || c == '(') = false := by
    obtain ⟨v, -, ht⟩ := exists_dropTrailing isLeftHead r.left
    rw [List.any_eq_false]
    intro c hc
    have hmem : c ∈ r.left := ht ▸ List.mem_append_left _ hc
    simp [ne_of_mem_name r.left_name hmem (m := ':') (by decide),
      ne_of_mem_name r.left_name hmem (m := '(') (by decide)]
  rw [isRelationship, r.cutShaft?_line]
  dsimp only
  rw [dropTrailing_append_of_forall hleft, hoperand, hmarks, blank_dropTrailing_name r.left_name,
    isEmpty_dropWhile_name r.right_name, clear]
  simp

theorem isComment_line (r : Relationship) : isComment r.line = false := by
  obtain ⟨c, t, ht⟩ := List.exists_cons_of_ne_nil (name_ne_nil r.left_name)
  have hc : '%' ≠ c :=
    (ne_of_mem_name r.left_name (ht ▸ List.mem_cons_self ..) (m := '%') (by decide)).symm
  rw [line, ht]
  simp [isComment, stripStart?, hc]

/-- A word at the start of a relationship is its left name. -/
theorem startsWithWord_line (r : Relationship) :
    startsWithWord "classDiagram".toList r.line = false := by
  rw [startsWithWord]
  cases hstrip : stripStart? "classDiagram".toList r.line with
  | none => rfl
  | some rest =>
    have hcut := stripStart?_eq_some_iff.1 hstrip
    rw [line, List.append_eq_append_iff] at hcut
    rcases hcut with ⟨u, hword, hspace⟩ | ⟨u, hleft, hrest⟩
    · cases u with
      | nil => exact absurd (by simpa using hword.symm) r.left_ne
      | cons c u =>
        -- The keyword holds no space.
        obtain ⟨rfl, -⟩ := List.cons.inj hspace
        have hmem : ' ' ∈ "classDiagram".toList := hword ▸ by simp
        exact absurd hmem (by decide)
    · cases u with
      | nil => exact absurd (by simpa using hleft) r.left_ne
      | cons c u =>
        have hc : isWordChar c = true := by
          have hall := r.left_name
          rw [isName, Bool.and_eq_true, List.all_eq_true] at hall
          exact hall.2 c (hleft ▸ by simp)
        simp [hrest, hc]

theorem getLast?_line_ne (r : Relationship) {m : Char} (hm : isWordChar m = false) :
    r.line.getLast? ≠ some m := by
  have hline : r.line = (r.left ++ ' ' :: (r.arrow ++ [' '])) ++ r.right := by simp [line]
  rw [hline, List.getLast?_append_of_ne_nil _ (name_ne_nil r.right_name)]
  exact fun h => ne_of_mem_name r.right_name (List.mem_of_getLast? h) hm rfl

theorem trimmed_arrow_append (r : Relationship) : Trimmed (r.arrow ++ ' ' :: r.right) := by
  constructor
  · intro c hc
    have hhead : (r.arrow ++ ' ' :: r.right).head? = r.arrow.head? := by
      rw [arrow]
      cases r.leftHead <;> cases r.shaft <;> rfl
    have hall : ∀ c ∈ r.arrow.head?, isBlank c = false := by
      rw [arrow]
      cases r.leftHead <;> cases r.shaft <;> simp [Head.left, Shaft.text] <;> decide
    exact hall c (hhead ▸ hc)
  · intro c hc
    rw [← List.singleton_append, ← List.append_assoc,
      List.getLast?_append_of_ne_nil _ (name_ne_nil r.right_name)] at hc
    exact not_blank_of_mem_name r.right_name (List.mem_of_getLast? hc)

/-- If the keyword `class` starts a relationship, it is the left name. -/
theorem classKeyword?_line {r : Relationship} {rest : Text} (h : classKeyword? r.line = some rest) :
    rest = r.arrow ++ ' ' :: r.right := by
  rw [classKeyword?] at h
  split at h
  · next c t hstrip =>
    split at h
    · next hc =>
      have hcut : r.left ++ ' ' :: (r.arrow ++ ' ' :: r.right) = "class".toList ++ c :: t :=
        stripStart?_eq_some_iff.1 hstrip
      have hword : ∀ d ∈ "class".toList, isBlank d = false := by
        intro d hd
        have hall : "class".toList.all (!isBlank ·) = true := by decide
        simpa using List.all_eq_true.1 hall d hd
      have hsegments := congrArg (segments isBlank) hcut
      rw [segments_append_cons isBlank_space fun d hd => not_blank_of_mem_name r.left_name hd,
        segments_append_cons hc hword] at hsegments
      rw [(List.cons.inj hsegments).1, List.append_cancel_left_eq] at hcut
      obtain ⟨rfl, rfl⟩ := List.cons.inj hcut
      rw [← Option.some.inj h, ← List.singleton_append,
        trim_blank_append (List.forall_mem_singleton.2 isBlank_space),
        r.trimmed_arrow_append.trim_eq]
    · simp at h
  · simp at h

theorem declaration_arrow_append (r : Relationship) :
    declaration (r.arrow ++ ' ' :: r.right) = .otherClass := by
  have hstrip : stripEnd? ['{'] (r.arrow ++ ' ' :: r.right) = none := by
    rw [stripEnd?_eq_none_iff]
    rintro ⟨front, hfront⟩
    have hline : r.line = (r.left ++ ' ' :: front) ++ ['{'] := by simp [line, ← hfront]
    exact r.getLast?_line_ne (m := '{') (by decide) (by rw [hline, List.getLast?_concat])
  have hname : isClassName (r.arrow ++ ' ' :: r.right) = false := by
    simp [isClassName, isBlank_space]
  rw [declaration, hstrip]
  dsimp only
  rw [hname, if_neg Bool.false_ne_true]

/-- Whatever else a relationship is taken for, it declares no class and closes none. -/
theorem kind_line {r : Relationship} (h : r.clear = false) :
    LineKind.of r.line = .otherClass ∨ LineKind.of r.line = .member ∨
      LineKind.of r.line = .other := by
  have hcloser : r.line ≠ ['}'] := by
    intro hline
    exact r.getLast?_line_ne (m := '}') (by decide) (by rw [hline]; rfl)
  rw [LineKind.of, r.startsWithWord_line, r.isComment_line, r.isRelationship_line, h,
    if_neg Bool.false_ne_true, if_neg (by decide)]
  cases hrest : classKeyword? r.line with
  | some rest =>
    obtain rfl := classKeyword?_line hrest
    exact .inl r.declaration_arrow_append
  | none =>
    dsimp only
    rw [if_neg hcloser]
    split
    · exact .inr (.inl rfl)
    · exact .inr (.inr rfl)

theorem kind_line_of_clear {r : Relationship} (h : r.clear = true) :
    LineKind.of r.line = .aside := by
  rw [LineKind.of, r.startsWithWord_line, r.isRelationship_line, h]
  simp

end Relationship

/-! ## Relationships in the fold -/

/-- A relationship is written and changes nothing exactly if no class is open or both its names are
clear of arrow heads. -/
theorem step_relationship_iff (s : State) (r : Relationship) :
    step s r.line = (s, [statement r.line]) ↔ s.block = none ∨ r.clear = true := by
  have hscopes : s.scopesAfter r.line = s.scopes := if_neg (r.getLast?_line_ne (by decide))
  obtain ⟨block, scopes⟩ := s
  cases hclear : r.clear with
  | true => simp [step, Relationship.kind_line_of_clear hclear]
  | false =>
    rw [step]
    cases block with
    | none =>
      -- Outside class bodies any line without a name is a statement.
      rcases Relationship.kind_line hclear with h | h | h <;> simp [h, hscopes, State.flushed]
    | some c =>
      -- A line with the keyword `class` closes the body, and any other is kept out of the output.
      rcases Relationship.kind_line hclear with h | h | h <;> simp [h]

/-- A class with the name of an arrow head loses its relationships inside class bodies. -/
theorem not_step_relationship :
    ¬ ∀ (s : State) (r : Relationship), Reachable s → step s r.line = (s, [statement r.line]) := by
  intro h
  let r : Relationship := ⟨"o".toList, .plain, .solid, .point, "B".toList, by decide, by decide,
    by decide⟩
  have hline : Inked "class Foo \x7b".toList := ⟨by decide, by decide, by decide⟩
  have hlost : step (step .start "class Foo \x7b".toList).1 r.line =
      ((step .start "class Foo \x7b".toList).1, []) := by decide
  have hstep := h _ r (.step .start hline)
  rw [hlost] at hstep
  simp at hstep

end DiagramStudio.ClassBlock
