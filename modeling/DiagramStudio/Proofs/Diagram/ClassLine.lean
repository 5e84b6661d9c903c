import DiagramStudio.Diagram.ClassBlock
import DiagramStudio.Proofs.Text.Blank
import DiagramStudio.Proofs.Text.Lines
import Mathlib.Data.List.Basic
import Mathlib.Data.List.TakeWhile

/-!
# The lines of class diagrams

The fold over a class diagram reads the trimmed pieces between newlines that are not blank. A line
that opens a class body or declares a class without one holds nothing but the keyword, the name,
blanks and at most one opening brace.
-/

namespace DiagramStudio.ClassBlock

open Text

/-! ## Trimmed lines -/

/-- A line as the fold reads it. -/
structure Inked (line : Text) : Prop where
  ne_nil : line ≠ []
  trimmed : trim line = line
  newline : '\n' ∉ line

theorem Inked.trimmed_self {line : Text} (h : Inked line) : Trimmed line :=
  h.trimmed ▸ trimmed_trim line

theorem blank_statementIndent : ∀ c ∈ statementIndent, isBlank c = true :=
  List.all_eq_true.1 (by decide)

theorem blank_memberIndent : ∀ c ∈ memberIndent, isBlank c = true :=
  List.all_eq_true.1 (by decide)

theorem trim_statement {line : Text} (h : Inked line) : trim (statement line) = line := by
  rw [statement, trim_blank_append blank_statementIndent, h.trimmed]

theorem trim_memberLine {line : Text} (h : Inked line) : trim (memberLine line) = line := by
  rw [memberLine, trim_blank_append blank_memberIndent, h.trimmed]

/-- Line ends are blanks, so they do not matter to trimmed lines. -/
theorem inkedLines_eq (code : Text) :
    inkedLines code = ((segmentLines code).map trim).filter fun line => !line.isEmpty := by
  rw [inkedLines, lines]
  induction segmentLines code with
  | nil => rfl
  | cons piece pieces ih =>
    cases pieces with
    | nil =>
      cases piece with
      | nil => rfl
      | cons c piece => rfl
    | cons second pieces =>
      rw [linesOfSegments_cons_cons, List.map_cons, List.map_cons, List.filter_cons,
        List.filter_cons, ih, trim_dropCarriageReturn]

/-- Joined lines are read without the blanks around them. -/
theorem inkedLines_joinLines {pieces : List Text} (h : ∀ piece ∈ pieces, '\n' ∉ piece) :
    inkedLines (joinLines pieces) = (pieces.map trim).filter fun line => !line.isEmpty := by
  cases pieces with
  | nil => rfl
  | cons piece pieces => rw [inkedLines_eq, segmentLines_joinLines (by simp) h]

theorem mem_inkedLines {code line : Text} (h : line ∈ inkedLines code) :
    line ≠ [] ∧ ∃ piece ∈ segmentLines code, trim piece = line := by
  rw [inkedLines_eq] at h
  obtain ⟨hmem, hne⟩ := List.mem_filter.1 h
  exact ⟨by simpa using hne, List.mem_map.1 hmem⟩

theorem inked_of_mem_inkedLines {code line : Text} (h : line ∈ inkedLines code) : Inked line := by
  obtain ⟨hne, piece, hpiece, rfl⟩ := mem_inkedLines h
  refine ⟨hne, (trimmed_trim piece).trim_eq, ?_⟩
  intro hn
  exact newline_not_mem_of_mem_segmentLines hpiece ((trim_isInfix piece).subset hn)

/-! ## Declarations -/

theorem of_mem_className {name : Text} (h : isClassName name = true) {c : Char} (hc : c ∈ name) :
    isBlank c = false ∧ c ≠ '{' ∧ c ≠ '}' := by
  rw [isClassName, Bool.and_eq_true, Bool.not_eq_true', Bool.not_eq_true', List.any_eq_false] at h
  have hne := h.2 c hc
  simpa [and_assoc] using hne

/-- The text after the keyword `class` stands between two runs of blanks. -/
theorem classKeyword?_eq_some {line rest : Text} (h : classKeyword? line = some rest) :
    ∃ w v, (∀ c ∈ w, isBlank c = true) ∧ (∀ c ∈ v, isBlank c = true) ∧
      line = "class".toList ++ (w ++ (rest ++ v)) := by
  rw [classKeyword?] at h
  split at h
  · next c t hstrip =>
    split at h
    · obtain rfl := Option.some.inj h
      obtain ⟨w, v, hw, hv, ht, -⟩ := exists_trim (c :: t)
      refine ⟨w, v, hw, hv, ?_⟩
      rw [← ht]
      exact stripStart?_eq_some_iff.1 hstrip
    · simp at h
  · simp at h

/-- Only the text after the keyword `class` declares a class. -/
theorem exists_declaration {line name : Text}
    (h : LineKind.of line = .header name ∨ LineKind.of line = .bare name) :
    ∃ rest, classKeyword? line = some rest ∧ LineKind.of line = declaration rest := by
  rw [LineKind.of] at h ⊢
  split at h
  · simp at h
  · split at h
    · simp at h
    · cases hrest : classKeyword? line with
      | some rest => exact ⟨rest, rfl, by simp_all⟩
      | none =>
        rw [hrest] at h
        simp only at h
        split at h
        · simp at h
        · split at h <;> simp at h

/-- A line that opens a class body. -/
theorem eq_of_kind_header {line name : Text} (h : LineKind.of line = .header name) :
    isClassName name = true ∧ ∃ w v u, (∀ c ∈ w, isBlank c = true) ∧ (∀ c ∈ v, isBlank c = true) ∧
      (∀ c ∈ u, isBlank c = true) ∧ line = "class".toList ++ (w ++ (name ++ (v ++ '{' :: u))) := by
  obtain ⟨rest, hrest, hkind⟩ := exists_declaration (.inl h)
  rw [h, declaration] at hkind
  split at hkind
  · next front hfront =>
    split at hkind
    · next hname =>
      obtain rfl := LineKind.header.inj hkind
      obtain ⟨w, u, hw, hu, rfl⟩ := classKeyword?_eq_some hrest
      obtain ⟨w', v, hw', hv, hf, -⟩ := exists_trim front
      refine ⟨hname, w ++ w', v, u, ?_, hv, hu, ?_⟩
      · intro c hc
        rcases List.mem_append.1 hc with hc | hc
        · exact hw c hc
        · exact hw' c hc
      · calc "class".toList ++ (w ++ (rest ++ u))
            = "class".toList ++ (w ++ (w' ++ (trim front ++ v) ++ '{' :: u)) := by
              rw [← hf, stripEnd?_eq_some_iff.1 hfront]
              simp
          _ = "class".toList ++ (w ++ w' ++ (trim front ++ (v ++ '{' :: u))) := by simp
    · simp at hkind
  · split at hkind <;> simp at hkind

/-- A line that declares a class without a body. -/
theorem eq_of_kind_bare {line name : Text} (h : LineKind.of line = .bare name) :
    isClassName name = true ∧ ∃ w v, (∀ c ∈ w, isBlank c = true) ∧ (∀ c ∈ v, isBlank c = true) ∧
      line = "class".toList ++ (w ++ (name ++ v)) := by
  obtain ⟨rest, hrest, hkind⟩ := exists_declaration (.inr h)
  rw [h, declaration] at hkind
  split at hkind
  · split at hkind <;> simp at hkind
  · split at hkind
    · next hname =>
      obtain rfl := LineKind.bare.inj hkind
      exact ⟨hname, classKeyword?_eq_some hrest⟩
    · simp at hkind

theorem kind_closer : LineKind.of ['}'] = .closer := by decide

theorem eq_of_kind_closer {line : Text} (h : LineKind.of line = .closer) : line = ['}'] := by
  rw [LineKind.of] at h
  split at h
  · simp at h
  · split at h
    · simp at h
    · split at h
      · rw [declaration] at h
        split at h <;> split at h <;> simp at h
      · split at h
        · assumption
        · split at h <;> simp at h

/-! ## Declarations spelled anew

The fold writes a declaration with single spaces. The line keeps its kind, because the blanks of a
declaration have no part in an arrow. -/

theorem trimmed_className {name : Text} (h : isClassName name = true) : Trimmed name :=
  ⟨fun _ hc => (of_mem_className h (List.mem_of_head? hc)).1,
    fun _ hc => (of_mem_className h (List.mem_of_getLast? hc)).1⟩

theorem className_ne_nil {name : Text} (h : isClassName name = true) : name ≠ [] := by
  rintro rfl
  exact absurd h (by decide)

theorem trimmed_header {name : Text} (h : isClassName name = true) :
    Trimmed (name ++ [' ', '{']) := by
  refine (trimmed_className h).append (className_ne_nil h) ?_
  intro c hc
  obtain rfl := Option.some.inj hc
  rfl

theorem inked_class {t : Text} (ht : Trimmed t) (hne : t ≠ []) (hn : '\n' ∉ t) :
    Inked ("class ".toList ++ t) := by
  have hkeyword : Trimmed "class".toList := by
    have h : trim "class".toList = "class".toList := by decide
    exact h ▸ trimmed_trim "class".toList
  have htrimmed : Trimmed ("class".toList ++ ([' '] ++ t)) := by
    refine hkeyword.append (by decide) ?_
    intro c hc
    rw [List.getLast?_append_of_ne_nil _ hne] at hc
    exact ht.last c hc
  refine ⟨by simp, htrimmed.trim_eq, ?_⟩
  rw [List.mem_append, not_or]
  exact ⟨by decide, hn⟩

theorem newline_not_mem_className {name : Text} (h : isClassName name = true) : '\n' ∉ name :=
  fun hn => absurd (of_mem_className h hn).1 (by decide)

theorem inked_bareLine {name : Text} (h : isClassName name = true) :
    Inked ("class ".toList ++ name) :=
  inked_class (trimmed_className h) (className_ne_nil h) (newline_not_mem_className h)

theorem inked_headerLine {name : Text} (h : isClassName name = true) :
    Inked ("class ".toList ++ (name ++ [' ', '{'])) := by
  refine inked_class (trimmed_header h) (by simp) ?_
  rw [List.mem_append, not_or]
  exact ⟨newline_not_mem_className h, by decide⟩

theorem inked_closer : Inked ['}'] := ⟨by decide, by decide, by decide⟩

/-- A text that has no part in a shaft. -/
def Shaftless (t : Text) : Prop := '-' ∉ t ∧ '.' ∉ t

instance (t : Text) : Decidable (Shaftless t) := inferInstanceAs (Decidable (_ ∧ _))

theorem shaftless_of_blank {w : Text} (hw : ∀ c ∈ w, isBlank c = true) : Shaftless w := by
  constructor
  · intro h
    exact absurd (hw _ h) (by decide)
  · intro h
    exact absurd (hw _ h) (by decide)

theorem Shaftless.append {t u : Text} (ht : Shaftless t) (hu : Shaftless u) :
    Shaftless (t ++ u) := by
  simp only [Shaftless, List.mem_append, not_or]
  exact ⟨⟨ht.1, hu.1⟩, ht.2, hu.2⟩

theorem cutShaft?_shaftless_append {u : Text} (hu : Shaftless u) (t : Text) :
    cutShaft? (u ++ t) = (cutShaft? t).map fun parts => (u ++ parts.1, parts.2) := by
  induction u with
  | nil => simp
  | cons c u ih =>
    simp only [Shaftless, List.mem_cons, not_or] at hu
    obtain ⟨⟨hdash, hdashes⟩, hdot, hdots⟩ := hu
    rw [List.cons_append, cutShaft?.eq_3 _ _ (fun _ hc => absurd hc.symm hdash)
      (fun _ hc => absurd hc.symm hdot), ih ⟨hdashes, hdots⟩, Option.map_map]
    rfl

/-- What follows the first shaft goes on with any text that has no part in one. -/
theorem cutShaft?_append_shaftless {v : Text} (hv : Shaftless v) (t : Text) :
    cutShaft? (t ++ v) = (cutShaft? t).map fun parts => (parts.1, parts.2 ++ v) := by
  fun_induction cutShaft? t with
  | case1 t => rfl
  | case2 t => rfl
  | case3 c t hdash hdot ih =>
    -- The first character of `v` does not make a shaft of a last dash or dot.
    have hpair : ∀ d, d ∉ v → (∀ t', t = d :: t' → False) → ∀ t', t ++ v = d :: t' → False := by
      intro d hd ht t' heq
      cases t with
      | nil =>
        rw [List.nil_append] at heq
        exact hd (heq ▸ List.mem_cons_self ..)
      | cons d' t =>
        obtain ⟨rfl, -⟩ := List.cons.inj heq
        exact ht t rfl
    rw [List.cons_append, cutShaft?.eq_3 _ _ (fun t' hc => hpair '-' hv.1 (fun t => hdash t hc) t')
      (fun t' hc => hpair '.' hv.2 (fun t => hdot t hc) t'), ih, Option.map_map, Option.map_map]
    rfl
  | case4 =>
    have hnil := cutShaft?_shaftless_append hv []
    rw [List.append_nil] at hnil
    rw [List.nil_append, hnil]
    rfl

/-- True of the characters that show a left operand to be a member. -/
def marksMember (c : Char) : Bool := c == ':' || c == '('

theorem any_marksMember {u : Text} (h : ∀ c ∈ u, isBlank c = true ∨ isLeftHead c = true) :
    u.any marksMember = false := by
  rw [List.any_eq_false]
  intro c hc hmark
  rw [marksMember, Bool.or_eq_true, beq_iff_eq, beq_iff_eq] at hmark
  rcases hmark with rfl | rfl
  · exact absurd (h _ hc) (by decide)
  · exact absurd (h _ hc) (by decide)

/-- The left operand of a line with the keyword `class` is that keyword at least, and it is marked
as a member by what follows the keyword. -/
theorem leftOperand_class {w : Text} (hw : ∀ c ∈ w, isBlank c = true) (before : Text) :
    blank (dropTrailing isLeftHead ("class".toList ++ (w ++ before))) = false ∧
      (dropTrailing isLeftHead ("class".toList ++ (w ++ before))).any marksMember =
        before.any marksMember := by
  obtain ⟨heads, hheads, hleft⟩ := exists_dropTrailing isLeftHead ("class".toList ++ (w ++ before))
  constructor
  · -- The heads end at the last letter of the keyword at the latest.
    have hs : 's' ∈ "class".toList ++ (w ++ before) := List.mem_append_left _ (by decide)
    rw [hleft, List.mem_append] at hs
    rw [blank, List.all_eq_false]
    exact ⟨'s', hs.resolve_right fun h => absurd (hheads _ h) (by decide), by decide⟩
  · have hany := congrArg (List.any · marksMember) hleft
    have hkeyword : "class".toList.any marksMember = false := by decide
    simp only [List.any_append, hkeyword, any_marksMember fun c hc => .inl (hw c hc),
      any_marksMember fun c hc => .inr (hheads c hc), Bool.false_or, Bool.or_false] at hany
    exact hany.symm

/-- The keyword `class` and the blanks after it do not decide whether a line is a relationship. -/
theorem isRelationship_class {w : Text} (hw : ∀ c ∈ w, isBlank c = true) (t : Text) :
    isRelationship ("class".toList ++ (w ++ t)) = match cutShaft? t with
      | none => false
      | some (before, after) =>
        !(after.dropWhile isRightHead).isEmpty && !before.any marksMember := by
  have hkeyword : Shaftless "class".toList := by decide
  rw [isRelationship, cutShaft?_shaftless_append hkeyword,
    cutShaft?_shaftless_append (shaftless_of_blank hw)]
  cases cutShaft? t with
  | none => rfl
  | some parts =>
    obtain ⟨hink, hmarks⟩ := leftOperand_class hw parts.1
    dsimp only [Option.map_some]
    rw [hink, Bool.not_false, Bool.true_and]
    exact congrArg (_ && !·) hmarks

/-- A declaration that is no relationship does not become one by other blanks, nor by the loss of
its brace. -/
theorem isRelationship_respell {w name v u : Text} (hw : ∀ c ∈ w, isBlank c = true)
    (hv : Shaftless v) (hu : Shaftless u) (hright : u = [] ∨ '{' ∈ v)
    (h : isRelationship ("class".toList ++ (w ++ (name ++ v))) = false) :
    isRelationship ("class ".toList ++ (name ++ u)) = false := by
  have hspace : ∀ c ∈ [' '], isBlank c = true := List.forall_mem_singleton.2 isBlank_space
  have hspell : "class ".toList ++ (name ++ u) = "class".toList ++ ([' '] ++ (name ++ u)) := rfl
  rw [isRelationship_class hw, cutShaft?_append_shaftless hv] at h
  rw [hspell, isRelationship_class hspace, cutShaft?_append_shaftless hu]
  cases hcut : cutShaft? name with
  | none => rfl
  | some parts =>
    obtain ⟨before, after⟩ := parts
    rw [hcut] at h
    simp only [Option.map_some, Bool.and_eq_false_iff, Bool.not_eq_false', List.isEmpty_iff] at h ⊢
    refine h.imp_left fun hempty => ?_
    have hheads := List.dropWhile_eq_nil_iff.1 hempty
    rcases hright with rfl | hbrace
    · rw [List.append_nil, List.dropWhile_eq_nil_iff]
      exact fun c hc => hheads c (List.mem_append_left _ hc)
    · -- An operand with a brace is more than an arrow head.
      exact absurd (hheads _ (List.mem_append_right _ hbrace)) (by decide)

theorem declaration_name {name : Text} (h : isClassName name = true) :
    declaration name = .bare name := by
  have hstrip : stripEnd? ['{'] name = none := by
    rw [stripEnd?_eq_none_iff]
    intro hsuffix
    exact (of_mem_className h (hsuffix.subset (List.mem_singleton_self _))).2.1 rfl
  rw [declaration, hstrip]
  exact if_pos h

theorem declaration_header {name : Text} (h : isClassName name = true) :
    declaration (name ++ [' ', '{']) = .header name := by
  have hstrip : stripEnd? ['{'] (name ++ [' ', '{']) = some (name ++ [' ']) :=
    stripEnd?_eq_some_iff.2 (by simp)
  have hname : trim (name ++ [' ']) = name := by
    rw [trim_append_blank (List.forall_mem_singleton.2 isBlank_space),
      (trimmed_className h).trim_eq]
  rw [declaration, hstrip]
  dsimp only
  rw [hname, if_pos h]

theorem kind_class {t : Text} (hrelationship : isRelationship ("class ".toList ++ t) = false)
    (ht : Trimmed t) : LineKind.of ("class ".toList ++ t) = declaration t := by
  have hdirective : startsWithWord "classDiagram".toList ("class ".toList ++ t) = false := rfl
  have hcomment : isComment ("class ".toList ++ t) = false := rfl
  have hkeyword : classKeyword? ("class ".toList ++ t) = some (trim ([' '] ++ t)) := rfl
  rw [trim_blank_append (List.forall_mem_singleton.2 isBlank_space), ht.trim_eq] at hkeyword
  rw [LineKind.of, hdirective, hcomment, hrelationship, hkeyword]
  rfl

theorem not_isRelationship_of_declares {line name : Text}
    (h : LineKind.of line = .header name ∨ LineKind.of line = .bare name) :
    isRelationship line = false := by
  rw [LineKind.of] at h
  split at h
  · simp at h
  · split at h
    · simp at h
    · simp_all

/-- A class whose header was read is a class with a body or without one when it is read again. -/
theorem kind_of_kind_header {line name : Text} (h : LineKind.of line = .header name) :
    LineKind.of ("class ".toList ++ (name ++ [' ', '{'])) = .header name ∧
      LineKind.of ("class ".toList ++ name) = .bare name := by
  have hrelationship := not_isRelationship_of_declares (.inl h)
  obtain ⟨hname, w, v, u, hw, hv, hu, rfl⟩ := eq_of_kind_header h
  have hrest : Shaftless (v ++ '{' :: u) :=
    (shaftless_of_blank hv).append
      (Shaftless.append (t := ['{']) (by decide) (shaftless_of_blank hu))
  constructor
  · rw [kind_class _ (trimmed_header hname), declaration_header hname]
    exact isRelationship_respell hw hrest (by decide) (.inr (by simp)) hrelationship
  · rw [kind_class _ (trimmed_className hname), declaration_name hname]
    simpa using isRelationship_respell hw hrest (u := []) (by decide) (.inl rfl) hrelationship

/-- A class without a body is one when it is read again. -/
theorem kind_of_kind_bare {line name : Text} (h : LineKind.of line = .bare name) :
    LineKind.of ("class ".toList ++ name) = .bare name := by
  have hrelationship := not_isRelationship_of_declares (.inr h)
  obtain ⟨hname, w, v, hw, hv, rfl⟩ := eq_of_kind_bare h
  rw [kind_class _ (trimmed_className hname), declaration_name hname]
  simpa using
    isRelationship_respell hw (shaftless_of_blank hv) (u := []) (by decide) (.inl rfl) hrelationship

end DiagramStudio.ClassBlock
