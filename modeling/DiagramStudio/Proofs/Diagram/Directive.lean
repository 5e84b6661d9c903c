import DiagramStudio.Diagram.Dialect
import DiagramStudio.Proofs.Diagram.Collapse
import DiagramStudio.Proofs.Diagram.EdgeLabel
import DiagramStudio.Proofs.Diagram.Layout

/-!
# Directive lines

Only the `stem` of a line, the word characters and hyphens that it starts with, decides which
dialect the line declares. No delimiter and no pipe belongs to a stem, so passes over labels copy
it, and compacting a line does so too.

## Main definitions

- `leading?`: the dialect that the first line of a text declares
- `stem`, `ofStem?`: the part of a line that decides its dialect
-/

namespace DiagramStudio.Dialect

open Text

/-- The dialect that the first line of a text declares. -/
def leading? (t : Text) : Option Dialect := (lines t).head?.bind ofDirective?

/-- The characters of directives. -/
def isStemChar (c : Char) : Bool := isWordChar c || c == '-'

/-- The start of the first line of a text, without its indentation. -/
def stem (t : Text) : Text :=
  (t.dropWhile fun c => isBlank c && c != '\n').takeWhile isStemChar

/-- The dialect that a stem declares. -/
def ofStem? (stem : Text) : Option Dialect :=
  all.find? fun dialect => startsWithWord dialect.keyword stem

/-! ## Stems -/

theorem isStemChar_of_isBlank {c : Char} (h : isBlank c = true) : isStemChar c = false := by
  have hc : c ≠ '-' := by
    rintro rfl
    exact absurd h (by decide)
  simp [isStemChar, isWordChar_of_isBlank h, hc]

theorem isStemChar_newline : isStemChar '\n' = false := isStemChar_of_isBlank isBlank_newline

theorem stem_cons_of_ink {c : Char} (hc : isBlank c = false) (t : Text) :
    stem (c :: t) = (c :: t).takeWhile isStemChar := by
  simp [stem, hc]

theorem stem_blank_append {w : Text} (hw : ∀ c ∈ w, isBlank c = true) (hn : '\n' ∉ w) (t : Text) :
    stem (w ++ t) = stem t := by
  induction w with
  | nil => rfl
  | cons c w ih =>
    simp only [List.mem_cons, not_or] at hn
    have hc := hw c (List.mem_cons_self ..)
    rw [← ih (fun c' hc' => hw c' (List.mem_cons_of_mem c hc')) hn.2]
    simp [stem, hc, Ne.symm hn.1]

theorem takeWhile_append_of_head {p : Char → Bool} {u : Text}
    (hu : ∀ c, u.head? = some c → p c = false) (t : Text) :
    (t ++ u).takeWhile p = t.takeWhile p := by
  induction t with
  | nil =>
    cases u with
    | nil => rfl
    | cons c u => simp [hu c rfl]
  | cons c t ih => cases hc : p c <;> simp [hc, ih]

/-- A stem ends with its line. -/
theorem stem_append_newline (line rest : Text) : stem (line ++ '\n' :: rest) = stem line := by
  induction line with
  | nil => simp [stem, isStemChar_newline]
  | cons c line ih =>
    by_cases hc : isBlank c = true ∧ c ≠ '\n'
    · -- Indentation is skipped on both sides.
      have hcw : ∀ c' ∈ [c], isBlank c' = true := by simpa using hc.1
      have h := stem_blank_append hcw (by simpa using hc.2.symm)
      calc stem (c :: line ++ '\n' :: rest)
          = stem (line ++ '\n' :: rest) := h (line ++ '\n' :: rest)
        _ = stem line := ih
        _ = stem (c :: line) := (h line).symm
    · have hdrop : ∀ t : Text, stem (c :: t) = (c :: t).takeWhile isStemChar := by
        intro t
        have hskip : (isBlank c && c != '\n') = false := by simpa using hc
        simp [stem, hskip]
      rw [List.cons_append, hdrop, hdrop, ← List.cons_append]
      refine takeWhile_append_of_head ?_ _
      intro c' hc'
      obtain rfl : '\n' = c' := by simpa using hc'
      exact isStemChar_newline

/-- The stem of a line starts its trimmed part. -/
theorem stem_eq {line : Text} (hn : '\n' ∉ line) :
    stem line = (trim line).takeWhile isStemChar := by
  obtain ⟨w, v, hw, hv, hline, htrim⟩ := exists_trim line
  have hnw : '\n' ∉ w := by
    intro h
    rw [hline] at hn
    exact hn (List.mem_append_left _ h)
  have hnv : '\n' ∉ v := by
    intro h
    rw [hline] at hn
    exact hn (List.mem_append_right _ (List.mem_append_right _ h))
  conv_lhs => rw [hline, stem_blank_append hw hnw]
  cases hx : trim line with
  | nil =>
    have := stem_blank_append hv hnv []
    simpa [stem] using this
  | cons c x =>
    rw [List.cons_append, stem_cons_of_ink (htrim.head c (by rw [hx]; rfl)), ← List.cons_append]
    refine takeWhile_append_of_head ?_ _
    intro c' hc'
    exact isStemChar_of_isBlank (hv c' (List.mem_of_mem_head? hc'))

theorem stem_joinLines (line : Text) (rest : List Text) :
    stem (joinLines (line :: rest)) = stem line := by
  cases rest with
  | nil => rw [joinLines_singleton]
  | cons second rest => rw [joinLines_cons_cons, stem_append_newline]

theorem stem_firstLine (t : Text) : ∃ line rest, segmentLines t = line :: rest ∧
    stem t = stem line := by
  obtain ⟨line, rest, h⟩ := List.exists_cons_of_ne_nil (segmentLines_ne_nil t)
  refine ⟨line, rest, h, ?_⟩
  conv_lhs => rw [← joinLines_segmentLines t, h, stem_joinLines]

/-! ## The stem decides -/

theorem startsWithWord_cons (s c : Char) (word t : Text) :
    startsWithWord (s :: word) (c :: t) = (decide (s = c) && startsWithWord word t) := by
  by_cases h : s = c <;> simp [startsWithWord, stripStart?, h]

theorem startsWithWord_takeWhile {word : Text} (hw : ∀ c ∈ word, isStemChar c = true) (t : Text) :
    startsWithWord word (t.takeWhile isStemChar) = startsWithWord word t := by
  induction word generalizing t with
  | nil =>
    cases t with
    | nil => rfl
    | cons c t =>
      cases hc : isStemChar c with
      | true => simp [hc, startsWithWord, stripStart?]
      | false =>
        have : isWordChar c = false := (Bool.or_eq_false_iff.1 hc).1
        simp [hc, startsWithWord, stripStart?, this]
  | cons s word ih =>
    have ih := ih fun c hc => hw c (List.mem_cons_of_mem s hc)
    cases t with
    | nil => rfl
    | cons c t =>
      cases hc : isStemChar c with
      | true => simp [hc, startsWithWord_cons, ih]
      | false =>
        have hne : s ≠ c := by
          rintro rfl
          simp [hw s (List.mem_cons_self ..)] at hc
        simp [hc, hne, startsWithWord, stripStart?]

theorem isStemChar_of_mem_keyword (dialect : Dialect) :
    ∀ c ∈ dialect.keyword, isStemChar c = true := by
  have hall : dialect.keyword.all isStemChar = true := by cases dialect <;> decide
  exact List.all_eq_true.1 hall

theorem ofDirective?_eq {line : Text} (hn : '\n' ∉ line) :
    ofDirective? line = ofStem? (stem line) := by
  rw [ofDirective?, ofStem?, stem_eq hn]
  congr 1
  funext dialect
  exact (startsWithWord_takeWhile (isStemChar_of_mem_keyword dialect) _).symm

theorem startsWithWord_of_ofDirective? {line : Text} {dialect : Dialect}
    (h : ofDirective? line = some dialect) : startsWithWord dialect.keyword (trim line) = true := by
  rw [ofDirective?] at h
  have hfound := List.find?_some h
  exact hfound

theorem ofDirective?_nil : ofDirective? [] = none := by decide

theorem ne_nil_of_ofDirective? {line : Text} {dialect : Dialect}
    (h : ofDirective? line = some dialect) : line ≠ [] := by
  rintro rfl
  rw [ofDirective?_nil] at h
  simp at h

/-- Blanks around a line do not matter. -/
theorem ofDirective?_congr {line line' : Text} (h : trim line = trim line') :
    ofDirective? line = ofDirective? line' := by
  rw [ofDirective?, h, ofDirective?]

/-- A text without a stem declares nothing. -/
theorem stem_ne_nil {t : Text} {dialect : Dialect} (h : ofStem? (stem t) = some dialect) :
    stem t ≠ [] := by
  intro hnil
  have hnone : ofStem? [] = none := by decide
  rw [hnil, hnone] at h
  simp at h

/-! ## Lines of a text -/

theorem ofDirective?_dropCarriageReturn (line : Text) :
    ofDirective? (dropCarriageReturn line) = ofDirective? line :=
  ofDirective?_congr (trim_dropCarriageReturn line)

/-- Line ends do not matter to the directives of a text. -/
theorem findSome?_linesOfSegments (pieces : List Text) :
    (linesOfSegments pieces).findSome? ofDirective? = pieces.findSome? ofDirective? := by
  induction pieces with
  | nil => rfl
  | cons line pieces ih =>
    cases pieces with
    | nil =>
      cases line with
      | nil => simp [linesOfSegments, ofDirective?_nil]
      | cons c line => simp [linesOfSegments]
    | cons second pieces =>
      rw [linesOfSegments_cons_cons, List.findSome?_cons, ih, ofDirective?_dropCarriageReturn]
      exact List.findSome?_cons.symm

theorem detect?_eq (t : Text) : detect? t = (segmentLines t).findSome? ofDirective? :=
  findSome?_linesOfSegments (segmentLines t)

theorem leading?_of_segmentLines {t line : Text} {rest : List Text}
    (h : segmentLines t = line :: rest) : leading? t = ofDirective? line := by
  rw [leading?, lines, h]
  cases rest with
  | nil => cases line <;> rfl
  | cons second rest => exact ofDirective?_dropCarriageReturn line

theorem leading?_eq (t : Text) : leading? t = ofStem? (stem t) := by
  obtain ⟨line, rest, hpieces, hstem⟩ := stem_firstLine t
  have hn : '\n' ∉ line :=
    newline_not_mem_of_mem_segmentLines (t := t) (by rw [hpieces]; exact List.mem_cons_self ..)
  rw [hstem, ← ofDirective?_eq hn, leading?_of_segmentLines hpieces]

/-- A directive on the first line is the first directive. -/
theorem detect?_of_leading? {t : Text} {dialect : Dialect} (h : leading? t = some dialect) :
    detect? t = some dialect := by
  rw [leading?, Option.bind_eq_some_iff] at h
  obtain ⟨line, hline, h⟩ := h
  obtain ⟨rest, hrest⟩ := List.head?_eq_some_iff.1 hline
  rw [detect?, hrest, List.findSome?_cons, h]

/-! ## Blanks around a text -/

theorem detect?_blank_append {w : Text} (hw : ∀ c ∈ w, isBlank c = true) (t : Text) :
    detect? (w ++ t) = detect? t := by
  induction w with
  | nil => rfl
  | cons c w ih =>
    rw [← ih fun c' hc' => hw c' (List.mem_cons_of_mem c hc'), detect?_eq, detect?_eq,
      List.cons_append]
    by_cases hc : c = '\n'
    · rw [hc, segmentLines_newline_cons, List.findSome?_cons, ofDirective?_nil]
    · obtain ⟨line, rest, hpieces⟩ := List.exists_cons_of_ne_nil (segmentLines_ne_nil (w ++ t))
      have htrim : trim (c :: line) = trim line :=
        trim_blank_append (w := [c]) (by simpa using hw c (List.mem_cons_self ..)) line
      rw [segmentLines_cons_of_ne hc hpieces, hpieces, List.findSome?_cons, List.findSome?_cons,
        ofDirective?_congr htrim]

theorem stem_trim {t : Text} (h : ∀ c, t.head? = some c → isBlank c = false) :
    stem (trim t) = stem t := by
  obtain ⟨v, hv, ht, -⟩ := exists_trimEnd t
  rw [trim, trimStart_of_head h]
  cases hx : trimEnd t with
  | nil =>
    cases t with
    | nil => rfl
    | cons c t =>
      rw [hx, List.nil_append] at ht
      have hc := hv c (ht ▸ List.mem_cons_self ..)
      rw [h c rfl] at hc
      simp at hc
  | cons c x =>
    rw [hx] at ht
    have hc : isBlank c = false := h c (by rw [ht]; rfl)
    rw [ht, List.cons_append, stem_cons_of_ink hc, stem_cons_of_ink hc, ← List.cons_append]
    refine (takeWhile_append_of_head ?_ _).symm
    intro c' hc'
    exact isStemChar_of_isBlank (hv c' (List.mem_of_mem_head? hc'))

/-- The first line of a trimmed text is the first line with ink, without its indentation. -/
theorem leading?_trim {t line : Text}
    (h : (segmentLines t).find? (fun line => !blank line) = some line) :
    leading? (trim t) = ofDirective? line := by
  obtain ⟨hink, front, back, hpieces, hfront⟩ := List.find?_eq_some_iff_append.1 h
  have hn : '\n' ∉ line := by
    refine newline_not_mem_of_mem_segmentLines (t := t) ?_
    rw [hpieces]
    exact List.mem_append_right _ (List.mem_cons_self ..)
  obtain ⟨i, hi, hline, hhead⟩ := exists_trimStart line
  have hni : '\n' ∉ i := by
    rw [hline] at hn
    exact fun hmem => hn (List.mem_append_left _ hmem)
  have hne : trimStart line ≠ [] := by
    intro hnil
    rw [hnil, List.append_nil] at hline
    have hblank : blank line = true := List.all_eq_true.2 (hline ▸ hi)
    rw [hblank] at hink
    simp at hink
  have hterminated : ∀ c ∈ terminated front, isBlank c = true := by
    intro c hc
    obtain ⟨piece, hpiece, hc⟩ := List.mem_flatMap.1 hc
    have hblank : blank piece = true := by simpa using hfront piece hpiece
    exact blank_append_singleton (List.all_eq_true.1 hblank) isBlank_newline c hc
  have ht : t = terminated front ++ (i ++ joinLines (trimStart line :: back)) := by
    rw [← joinLines_append_cons, ← hline, ← joinLines_append_terminated _ (by simp), ← hpieces,
      joinLines_segmentLines]
  have hstart : ∀ c, (joinLines (trimStart line :: back)).head? = some c → isBlank c = false := by
    intro c hc
    exact hhead c (by rwa [head?_joinLines_cons hne] at hc)
  rw [ht, trim_blank_append hterminated, trim_blank_append hi, leading?_eq, stem_trim hstart,
    stem_joinLines, ofDirective?_eq hn]
  conv_rhs => rw [hline, stem_blank_append hi hni]

/-! ## Passes keep stems -/

/-- `SameStart t u` says that both texts agree up to a character that ends the stem. -/
inductive SameStart : Text → Text → Prop
  | nil : SameStart [] []
  | stop {c : Char} (t u : Text) :
    isBlank c = false → isStemChar c = false → SameStart (c :: t) (c :: u)
  | keep (c : Char) {t u : Text} : SameStart t u → SameStart (c :: t) (c :: u)

theorem SameStart.takeWhile_eq {t u : Text} (h : SameStart t u) :
    t.takeWhile isStemChar = u.takeWhile isStemChar := by
  induction h with
  | nil => rfl
  | stop t u _ hc => simp [hc]
  | keep c _ ih => cases hc : isStemChar c <;> simp [hc, ih]

theorem SameStart.stem_eq {t u : Text} (h : SameStart t u) : stem t = stem u := by
  induction h with
  | nil => rfl
  | stop t u hb hc => simp [stem, hb, hc]
  | @keep c t u h ih =>
    cases hc : isBlank c && c != '\n' with
    | true => simpa [stem, hc] using ih
    | false => simpa [stem, hc] using (SameStart.keep c h).takeWhile_eq

theorem isStemChar_opener (d : Delimiter) : isStemChar d.opener = false := by
  cases d <;> decide

theorem sameStart_collapse (d : Delimiter) (t : Text) : SameStart t (Span.collapse d t) := by
  induction t with
  | nil =>
    rw [Span.collapse_nil]
    exact .nil
  | cons c t ih =>
    by_cases hc : c = d.opener
    · have hhead := Span.head?_collapse d (c :: t)
      obtain ⟨u, hu⟩ := List.head?_eq_some_iff.1 hhead
      rw [hu, hc]
      exact .stop t u (Span.isBlank_opener d) (isStemChar_opener d)
    · rw [Span.collapse_cons_of_ne hc]
      exact .keep c ih

theorem sameStart_spellFrom (ink : Option Char) (t : Text) :
    SameStart t (EdgeLabel.spellFrom (.between ink) t) := by
  induction t generalizing ink with
  | nil => exact .nil
  | cons c t ih =>
    rw [EdgeLabel.spellFrom]
    split
    · next hc =>
      subst hc
      split
      · exact .stop _ _ (by decide) (by decide)
      · exact .stop _ _ (by decide) (by decide)
    · exact .keep c (ih _)

/-- A pass over spans keeps the stem of a text. -/
theorem stem_collapse (d : Delimiter) (t : Text) : stem (Span.collapse d t) = stem t :=
  (sameStart_collapse d t).stem_eq.symm

theorem stem_spellOut (line : Text) : stem (EdgeLabel.spellOut line) = stem line :=
  (sameStart_spellFrom none line).stem_eq.symm

theorem takeWhile_squeeze {run : Text} (hr : ∀ c ∈ run, isBlank c = true) (t : Text) :
    (Layout.squeeze run t).takeWhile isStemChar =
      if run = [] then t.takeWhile isStemChar else [] := by
  induction t generalizing run with
  | nil => simp [Layout.squeeze]
  | cons c t ih =>
    cases hb : isBlank c with
    | true =>
      rw [Layout.squeeze, if_pos hb, ih (blank_append_singleton hr hb)]
      simp [isStemChar_of_isBlank hb]
    | false =>
      -- After a run of blanks comes a gap, which ends the stem.
      rw [Layout.squeeze_cons hb]
      cases hrun : Layout.gap run with
      | nil =>
        have : run = [] := by
          apply Classical.byContradiction
          intro hne
          exact Layout.gap_ne_nil hne hrun
        subst this
        cases hc : isStemChar c <;> simp [hc, ih]
      | cons c' gap =>
        have hc' : isBlank c' = true :=
          Layout.blank_gap hr c' (by rw [hrun]; exact List.mem_cons_self ..)
        have hne : run ≠ [] := by
          rintro rfl
          simp [Layout.gap] at hrun
        simp [isStemChar_of_isBlank hc', hne]

theorem stem_compactLine {line : Text} (hn : '\n' ∉ line) :
    stem (Layout.compactLine line) = stem line := by
  rw [stem_eq (Layout.newline_not_mem_compactLine hn), stem_eq hn, Layout.trim_compactLine,
    takeWhile_squeeze (by simp)]
  simp

theorem ofDirective?_spellOut {line : Text} (hn : '\n' ∉ line) :
    ofDirective? (EdgeLabel.spellOut line) = ofDirective? line := by
  rw [ofDirective?_eq (EdgeLabel.newline_not_mem_spellOut hn), ofDirective?_eq hn, stem_spellOut]

theorem findSome?_spellOut {pieces : List Text} (h : ∀ line ∈ pieces, '\n' ∉ line) :
    (pieces.map EdgeLabel.spellOut).findSome? ofDirective? = pieces.findSome? ofDirective? := by
  induction pieces with
  | nil => rfl
  | cons line pieces ih =>
    rw [List.forall_mem_cons] at h
    rw [List.map_cons, List.findSome?_cons, ofDirective?_spellOut h.1, ih h.2]
    exact List.findSome?_cons.symm

theorem ofDirective?_compactLine {line : Text} (hn : '\n' ∉ line) :
    ofDirective? (Layout.compactLine line) = ofDirective? line := by
  rw [ofDirective?_eq (Layout.newline_not_mem_compactLine hn), ofDirective?_eq hn,
    stem_compactLine hn]

end DiagramStudio.Dialect
