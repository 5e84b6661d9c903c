import DiagramStudio.Proofs.Diagram.Repair

/-!
# The content of a diagram

The `content` of a text is what remains of it without blanks, with every ampersand spelled out.
Passes over labels keep it, and so does compacting; balancing loses the content of the ends it
drops. A line of a normalized text that reads `end` stands unchanged in the source, because a pass
over spans joins lines only around an opening delimiter, which stays on the joined line. So every
end that is dropped is a line of the source.

## Main definitions

- `content`: the visible characters of a text
- `DropsEnds`: lines without some of their ends
- `Rewrap`: lines that may come from several lines
-/

namespace DiagramStudio

open Text Span Block

/-- What `c` adds to the content of a text. -/
def contentOf (c : Char) : Text :=
  if isBlank c then [] else if c = '&' then ['a', 'n', 'd'] else [c]

/-- A text without its blanks, with the word for every ampersand. -/
def content (t : Text) : Text := t.flatMap contentOf

/-- `DropsEnds pieces kept` says that `kept` are the pieces without some that read `end`. -/
inductive DropsEnds : List Text → List Text → Prop
  | nil : DropsEnds [] []
  | keep (line : Text) {pieces kept : List Text} :
    DropsEnds pieces kept → DropsEnds (line :: pieces) (line :: kept)
  | drop {line : Text} {pieces kept : List Text} :
    isEnd line = true → DropsEnds pieces kept → DropsEnds (line :: pieces) kept

/-! ## Content -/

theorem content_append (t u : Text) : content (t ++ u) = content t ++ content u :=
  List.flatMap_append

theorem content_cons (c : Char) (t : Text) : content (c :: t) = contentOf c ++ content t := by
  rw [content, List.flatMap_cons, content]

theorem content_of_blank {t : Text} (h : ∀ c ∈ t, isBlank c = true) : content t = [] := by
  induction t with
  | nil => rfl
  | cons c t ih =>
    rw [content_cons, ih fun c' hc' => h c' (List.mem_cons_of_mem c hc')]
    simp [contentOf, h c (List.mem_cons_self ..)]

theorem blank_of_content_eq_nil {t : Text} (h : content t = []) : ∀ c ∈ t, isBlank c = true := by
  intro c hc
  have hnil : contentOf c = [] := List.flatMap_eq_nil_iff.1 h c hc
  cases hb : isBlank c with
  | true => rfl
  | false =>
    rw [contentOf, if_neg (by simp [hb])] at hnil
    split at hnil <;> simp at hnil

theorem content_spell (before after : Option Char) :
    content (Ampersand.spell before after) = content ['&'] := by
  rw [Ampersand.spell]
  cases Ampersand.touches before <;> cases Ampersand.touches after <;> decide

theorem content_joinLines (pieces : List Text) :
    content (joinLines pieces) = pieces.flatMap content := by
  induction pieces with
  | nil => rfl
  | cons line pieces ih =>
    cases pieces with
    | nil => simp
    | cons second pieces =>
      rw [joinLines_cons_cons, content_append, content_cons, ih, List.flatMap_cons]
      rfl

/-- Respelling keeps the content. -/
theorem content_of_respell {b : Bool} {t u : Text} (h : Rework respell b t u) :
    content u = content t := by
  induction h with
  | nil => rfl
  | keep b c _ ih => rw [content_cons, content_cons, ih]
  | change hr _ ih =>
    rw [content_append, content_append, ih]
    congr 1
    cases hr with
    | space _ hx =>
      rw [content_of_blank hx]
      rfl
    | word before after => exact content_spell before after

theorem content_squeeze {w : Text} (hr : ∀ c ∈ w, isBlank c = true) (t : Text) :
    content (Layout.squeeze w t) = content t := by
  induction t generalizing w with
  | nil => rfl
  | cons c t ih =>
    cases hb : isBlank c with
    | true =>
      rw [Layout.squeeze, if_pos hb, ih (blank_append_singleton hr hb), content_cons]
      simp [contentOf, hb]
    | false =>
      rw [Layout.squeeze_cons hb, content_append, content_of_blank (Layout.blank_gap hr),
        content_cons, content_cons, ih (by simp)]
      rfl

theorem content_compactLine (line : Text) : content (Layout.compactLine line) = content line := by
  rcases Layout.compactLine_cases line with
    ⟨hblank, hnil⟩ | ⟨w, x, v, -, hv, -, -, rfl, hcompact⟩
  · rw [hnil, content_of_blank hblank]
    rfl
  · rw [hcompact, content_append, content_append, content_append, content_squeeze (by simp),
      content_of_blank hv, List.append_nil]

/-! ## Ends -/

theorem DropsEnds.refl (pieces : List Text) : DropsEnds pieces pieces := by
  induction pieces with
  | nil => exact .nil
  | cons line pieces ih => exact .keep line ih

theorem DropsEnds.append {pieces pieces' kept kept' : List Text} (h : DropsEnds pieces kept)
    (h' : DropsEnds pieces' kept') : DropsEnds (pieces ++ pieces') (kept ++ kept') := by
  induction h with
  | nil => exact h'
  | keep line _ ih => exact .keep line ih
  | drop hend _ ih => exact .drop hend ih

/-- Lines that are no ends are kept. -/
theorem DropsEnds.mem {pieces kept : List Text} (h : DropsEnds pieces kept) {line : Text}
    (hline : line ∈ pieces) (hend : isEnd line = false) : line ∈ kept := by
  induction h with
  | nil => exact hline
  | keep line' _ ih =>
    rcases List.mem_cons.1 hline with rfl | hline
    · exact List.mem_cons_self ..
    · exact List.mem_cons_of_mem line' (ih hline)
  | drop hend' _ ih =>
    rcases List.mem_cons.1 hline with rfl | hline
    · rw [hend] at hend'
      simp at hend'
    · exact ih hline

theorem DropsEnds.eq_of_forall {pieces kept : List Text} (h : DropsEnds pieces kept)
    (hpieces : ∀ line ∈ pieces, isEnd line = false) : kept = pieces := by
  induction h with
  | nil => rfl
  | keep line _ ih => rw [ih fun l hl => hpieces l (List.mem_cons_of_mem line hl)]
  | drop hend =>
    rw [hpieces _ (List.mem_cons_self ..)] at hend
    simp at hend

theorem dropsEnds_balance (dialect : Option Dialect) (pieces : List Text) :
    DropsEnds pieces (balance dialect pieces) := by
  have all : ∀ depth, DropsEnds pieces (balanceFrom dialect depth pieces) := by
    induction pieces with
    | nil => exact fun _ => .nil
    | cons line pieces ih =>
      intro depth
      rw [balanceFrom_cons]
      split
      · next h => exact .drop h.1 (ih 0)
      · exact .keep line (ih _)
  exact all 0

theorem isEnd_of_compactLine {line : Text} (h : isEnd (Layout.compactLine line) = true) :
    isEnd line = true := by
  rw [isEnd, Layout.trim_compactLine, beq_iff_eq] at h
  have hink : ∀ c ∈ Layout.squeeze [] (trim line), isBlank c = false := by
    have hall : "end".toList.all (fun c => !isBlank c) = true := by decide
    rw [h]
    exact fun c hc => by simpa using List.all_eq_true.1 hall c hc
  have heq := (Layout.squeeze_eq_self (by simp) (trimmed_trim line).last (fun _ => rfl) hink).2
  rw [isEnd, ← heq, h]
  rfl

/-- A line that reads `end` has no pipes, hence no labels that could be spelled out. -/
theorem eq_of_isEnd_spellOut {line : Text} (h : isEnd (EdgeLabel.spellOut line) = true) :
    EdgeLabel.spellOut line = line := by
  refine EdgeLabel.spellOut_of_not_mem fun hpipe => ?_
  have hmem := (EdgeLabel.pipe_mem_spellFrom (.between none) line).2 hpipe
  rcases mem_of_isEnd h hmem with hb | hletter
  · rw [EdgeLabel.isBlank_pipe] at hb
    simp at hb
  · exact absurd hletter (by decide)

/-! ## Lines that come from several lines -/

/-- `Rewrap d t u` says that every line of `u` stands for lines of `t` with the same content, and
is such a line itself if it holds no opening delimiter. -/
inductive Rewrap (d : Delimiter) : Text → Text → Prop
  | last {a g : Text} :
    content a = content g → (d.opener ∉ g → a = g) → '\n' ∉ g → Rewrap d a g
  | line {a g t u : Text} :
    content a = content g → (d.opener ∉ g → a = g) → '\n' ∉ g → Rewrap d t u →
      Rewrap d (a ++ '\n' :: t) (g ++ '\n' :: u)

theorem Rewrap.append {d : Delimiter} {x y t u : Text} (hxy : content x = content y)
    (hopener : d.opener ∉ y → x = y) (hy : '\n' ∉ y) (h : Rewrap d t u) :
    Rewrap d (x ++ t) (y ++ u) := by
  have extend : ∀ {a g : Text}, content a = content g → (d.opener ∉ g → a = g) → '\n' ∉ g →
      content (x ++ a) = content (y ++ g) ∧ (d.opener ∉ y ++ g → x ++ a = y ++ g) ∧
        '\n' ∉ y ++ g := by
    intro a g hc ho hn
    refine ⟨by rw [content_append, content_append, hxy, hc], ?_, by simp [hy, hn]⟩
    intro hmem
    simp only [List.mem_append, not_or] at hmem
    rw [hopener hmem.1, ho hmem.2]
  cases h with
  | last hc ho hn =>
    obtain ⟨hc', ho', hn'⟩ := extend hc ho hn
    exact .last hc' ho' hn'
  | line hc ho hn hrest =>
    obtain ⟨hc', ho', hn'⟩ := extend hc ho hn
    have := Rewrap.line hc' ho' hn' hrest
    simpa using this

theorem Rewrap.cons {d : Delimiter} {t u : Text} (c : Char) (h : Rewrap d t u) :
    Rewrap d (c :: t) (c :: u) := by
  by_cases hc : c = '\n'
  · subst hc
    exact .line (a := []) (g := []) rfl (fun _ => rfl) (by simp) h
  · exact h.append (x := [c]) (y := [c]) rfl (fun _ => rfl) (by simpa using Ne.symm hc)

theorem Rewrap.refl (d : Delimiter) (t : Text) : Rewrap d t t := by
  induction t with
  | nil => exact .last rfl (fun _ => rfl) (by simp)
  | cons c t ih => exact ih.cons c

/-- A pass over spans joins lines around opening delimiters only. -/
theorem rewrap_collapse (d : Delimiter) (t : Text) : Rewrap d t (collapse d t) := by
  induction t using spans_induction d with
  | nil =>
    rw [collapse_nil]
    exact .refl d []
  | char c t hc ih =>
    rw [collapse_cons_of_ne hc]
    exact ih.cons c
  | span x r hx ih =>
    have hopener : d.opener ≠ '\n' := by cases d <;> decide
    rw [collapse_span hx, ← List.cons_append, ← List.cons_append]
    -- The lines of the span are joined around its opening delimiter.
    refine ih.append ?_ ?_ ?_
    · rw [content_cons, content_cons, content_of_respell (rework_tidy_span hx)]
    · intro h
      exact absurd (List.mem_cons_self ..) h
    · simp [hopener.symm, newline_not_mem_tidy hx]
  | tail t ht =>
    rw [collapse_tail ht]
    exact .refl d _

/-! ## Content without some ends -/

/-- `Leaves pieces w` says that `w` is the content of the pieces without some of their ends. -/
def Leaves (pieces : List Text) (w : Text) : Prop :=
  ∃ kept, DropsEnds pieces kept ∧ kept.flatMap content = w

theorem leaves_cons {line : Text} {pieces : List Text} {w : Text} :
    Leaves (line :: pieces) w ↔
      (∃ v, Leaves pieces v ∧ content line ++ v = w) ∨ (isEnd line = true ∧ Leaves pieces w) := by
  constructor
  · rintro ⟨kept, h, rfl⟩
    cases h with
    | keep _ h => exact .inl ⟨_, ⟨_, h, rfl⟩, by rw [List.flatMap_cons]⟩
    | drop hend h => exact .inr ⟨hend, _, h, rfl⟩
  · rintro (⟨_, ⟨kept, h, rfl⟩, rfl⟩ | ⟨hend, kept, h, rfl⟩)
    · exact ⟨line :: kept, .keep line h, by rw [List.flatMap_cons]⟩
    · exact ⟨kept, .drop hend h, rfl⟩

theorem leaves_of_map {f : Text → Text} (hcontent : ∀ line, content (f line) = content line)
    (hend : ∀ line, isEnd (f line) = true → isEnd line = true) {pieces : List Text} {w : Text}
    (h : Leaves (pieces.map f) w) : Leaves pieces w := by
  induction pieces generalizing w with
  | nil => exact h
  | cons line pieces ih =>
    rw [List.map_cons, leaves_cons] at h
    rw [leaves_cons]
    rcases h with ⟨v, hv, rfl⟩ | ⟨hline, h⟩
    · exact .inl ⟨v, ih hv, by rw [hcontent]⟩
    · exact .inr ⟨hend line hline, ih h⟩

theorem leaves_of_filter {pieces : List Text} {w : Text}
    (h : Leaves (pieces.filter fun line => !line.isEmpty) w) : Leaves pieces w := by
  induction pieces generalizing w with
  | nil => exact h
  | cons line pieces ih =>
    rw [leaves_cons]
    cases line with
    | nil => exact .inl ⟨w, ih (by simpa using h), rfl⟩
    | cons c line =>
      rw [List.filter_cons, if_pos (by simp), leaves_cons] at h
      rcases h with ⟨v, hv, rfl⟩ | ⟨hline, h⟩
      · exact .inl ⟨v, ih hv, rfl⟩
      · exact .inr ⟨hline, ih h⟩

theorem leaves_append {pieces : List Text} {v : Text} (h : Leaves pieces v) (front : List Text) :
    Leaves (front ++ pieces) (front.flatMap content ++ v) := by
  obtain ⟨kept, hkept, rfl⟩ := h
  exact ⟨front ++ kept, (DropsEnds.refl front).append hkept, List.flatMap_append⟩

theorem flatMap_content_segmentLines (t : Text) : (segmentLines t).flatMap content = content t := by
  rw [← content_joinLines, joinLines_segmentLines]

/-- An end of the joined lines is a line of its own before. -/
theorem leaves_of_rewrap {d : Delimiter} {t u : Text} (hr : Rewrap d t u) {w : Text}
    (h : Leaves (segmentLines u) w) : Leaves (segmentLines t) w := by
  have opener_not_mem : ∀ g : Text, isEnd g = true → d.opener ∉ g := fun g hg hmem =>
    idle_of_isEnd hg _ hmem (opener_mem_marks d)
  induction hr generalizing w with
  | @last a g hc ho hn =>
    rw [segmentLines_of_not_mem hn, leaves_cons] at h
    rcases h with ⟨v, hv, rfl⟩ | ⟨hend, h⟩
    · have := leaves_append hv (segmentLines a)
      rwa [flatMap_content_segmentLines, hc, List.append_nil] at this
    · -- An end holds no opening delimiter, so it is a line of the text before.
      have hag := ho (opener_not_mem g hend)
      subst hag
      rw [segmentLines_of_not_mem hn, leaves_cons]
      exact .inr ⟨hend, h⟩
  | @line a g t u hc ho hn _ ih =>
    rw [segmentLines_append_newline, segmentLines_of_not_mem hn, List.singleton_append,
      leaves_cons] at h
    rw [segmentLines_append_newline]
    rcases h with ⟨v, hv, rfl⟩ | ⟨hend, h⟩
    · have := leaves_append (ih hv) (segmentLines a)
      rwa [flatMap_content_segmentLines, hc] at this
    · have hag := ho (opener_not_mem g hend)
      subst hag
      rw [segmentLines_of_not_mem hn, List.singleton_append, leaves_cons]
      exact .inr ⟨hend, ih h⟩

theorem leaves_of_normalize {dialect : Option Dialect} {t w : Text}
    (h : Leaves (segmentLines (Label.normalize dialect t)) w) : Leaves (segmentLines t) w := by
  rw [Label.segmentLines_normalize] at h
  have hspelled : Leaves (segmentLines (Label.collapseAll dialect t)) w := by
    refine leaves_of_map ?_ ?_ h
    · intro line
      have hr : ∀ b, Rework respell b ([] : Text) [] := fun b => .nil b
      have hrework := EdgeLabel.rework_spellFrom (.between none) line (b := false) hr (by rfl)
        (by simp)
      have := content_of_respell hrework
      rwa [List.append_nil, List.append_nil] at this
    · intro line hend
      rwa [eq_of_isEnd_spellOut hend] at hend
  -- The passes over spans are taken back one by one.
  rw [Label.collapseAll] at hspelled
  clear h
  generalize Label.delimiters dialect = ds at hspelled
  induction ds generalizing t with
  | nil => exact hspelled
  | cons d ds ih => exact leaves_of_rewrap (rewrap_collapse d t) (ih hspelled)

theorem leaves_of_compact {t w : Text} (h : Leaves (Layout.compact t) w) :
    Leaves (segmentLines t) w :=
  leaves_of_map content_compactLine (fun _ => isEnd_of_compactLine) (leaves_of_filter h)

/-- The balanced lines hold the content of the source without some of its ends. -/
theorem leaves_balance (dialect : Option Dialect) (source : Text) :
    Leaves (segmentLines (Repair.rebuilt dialect source))
      ((balance dialect (Repair.compactLines dialect source)).flatMap content) :=
  leaves_of_normalize (leaves_of_compact ⟨_, dropsEnds_balance dialect _, rfl⟩)

/-! ## The content of a repaired diagram -/

namespace Repair

variable {dialect : Dialect}

/-- No content is lost or invented when a source that starts with a directive is repaired: some
ends are dropped, and nothing else. -/
theorem content_repair (code : Text) (hd : dialect ≠ .classes)
    (h : Dialect.leading? (source code) = some dialect) :
    (∃ kept, DropsEnds (segmentLines (source code)) kept ∧
      content (repair code) = content (joinLines kept)) ∧
    ((∀ line ∈ segmentLines (source code), isEnd line = false) →
      content (repair code) = content (source code)) := by
  obtain ⟨first, rest, hlines, -, -, hrepair⟩ := repair_of_leading? hd h
  obtain ⟨kept, hkept, hcontent⟩ := leaves_balance (some dialect) (source code)
  rw [rebuilt_of_ne hd] at hkept
  have hbalance := repairedLines_of_leading? hd (trimmed_source code) h
  have heq : content (repair code) = content (joinLines kept) := by
    rw [hrepair, content_joinLines, content_joinLines, ← hlines, hbalance, hcontent]
  refine ⟨⟨kept, hkept, heq⟩, ?_⟩
  intro hends
  rw [heq, hkept.eq_of_forall hends, joinLines_segmentLines]

theorem content_repair_unbalanced :
    Dialect.leading? (source "graph TD\nA[x &\n y] -->|a&b| B\n  end".toList) = some .graph ∧
      ∃ kept, DropsEnds (segmentLines (source
          "graph TD\nA[x &\n y] -->|a&b| B\n  end".toList)) kept ∧
        content (repair "graph TD\nA[x &\n y] -->|a&b| B\n  end".toList) =
          content (joinLines kept) := by
  have h : Dialect.leading? (source "graph TD\nA[x &\n y] -->|a&b| B\n  end".toList) =
      some .graph := by decide +kernel
  exact ⟨h, (content_repair _ (by decide) h).1⟩

end Repair

end DiagramStudio
