import DiagramStudio.Proofs.Diagram.Shape

/-!
# Well-formed diagrams

A diagram that a renderer reads as it stands is not touched. `WellFormed` says so in terms of the
text alone: of its lines, its closed spans, its edge labels and its ends. Each condition makes the
diagram a fixed point of one pass, so it is `Repaired` already. Delimiters may nest, cross and stay
open, and ampersands may join nodes.

## Main definitions

- `Span.Tight`: a span without ampersands and with lone spaces for blanks
- `EdgeLabel.labels`: the labels on the edges of a line
- `Repair.WellFormed`: a diagram as a renderer expects it
-/

namespace DiagramStudio

open Text

/-! ## Spans -/

namespace Span

/-- A span without ampersands, in which every blank is a space between other characters. -/
structure Tight (span : Text) : Prop where
  ampersand : '&' ∉ span
  blanks : ∀ c ∈ span, isBlank c = true → c = ' '
  single : ¬ [' ', ' '] <:+: span

theorem tight_iff {span : Text} :
    Tight span ↔ '&' ∉ span ∧ (span.all fun c => !isBlank c || c == ' ') = true ∧
      ¬ [' ', ' '] <:+: span := by
  have hblanks : (span.all fun c => !isBlank c || c == ' ') = true ↔
      ∀ c ∈ span, isBlank c = true → c = ' ' := by
    rw [List.all_eq_true]
    refine forall₂_congr fun c _ => ?_
    cases isBlank c <;> simp
  rw [hblanks]
  exact ⟨fun h => ⟨h.ampersand, h.blanks, h.single⟩, fun h => ⟨h.1, h.2.1, h.2.2⟩⟩

instance (span : Text) : Decidable (Tight span) := decidable_of_iff _ tight_iff.symm

theorem Tight.tail {c : Char} {t : Text} (h : Tight (c :: t)) : Tight t where
  ampersand := fun ha => h.ampersand (List.mem_cons_of_mem c ha)
  blanks := fun c' hc' => h.blanks c' (List.mem_cons_of_mem c hc')
  single := fun hs => h.single (List.infix_cons hs)

theorem Tight.of_infix {t u : Text} (h : Tight t) (hu : u <:+: t) : Tight u where
  ampersand := fun ha => h.ampersand (hu.subset ha)
  blanks := fun c hc => h.blanks c (hu.subset hc)
  single := fun hs => h.single (hs.trans hu)

/-- Tight texts make up a tight text unless a space meets a space. -/
theorem Tight.append {t u : Text} (ht : Tight t) (hu : Tight u)
    (hmeet : t.getLast? = some ' ' → u.head? ≠ some ' ') : Tight (t ++ u) where
  ampersand := by
    rw [List.mem_append, not_or]
    exact ⟨ht.ampersand, hu.ampersand⟩
  blanks := List.forall_mem_append.2 ⟨ht.blanks, hu.blanks⟩
  single := by
    intro hs
    rcases List.infix_append_iff.1 hs with hs | hs | ⟨x, y, heq, hx, hy⟩
    · exact ht.single hs
    · exact hu.single hs
    · -- The two spaces are cut somewhere.
      match x with
      | [] => exact hu.single (heq ▸ hy.isInfix)
      | [_] =>
        obtain ⟨rfl, rfl⟩ : ' ' = _ ∧ [' '] = y := by simpa using heq
        obtain ⟨x, rfl⟩ := hx
        obtain ⟨y, rfl⟩ := hy
        exact hmeet (by simp) (by simp)
      | _ :: _ :: x =>
        obtain ⟨rfl, rfl, rfl, rfl⟩ : ' ' = _ ∧ ' ' = _ ∧ [] = x ∧ [] = y := by simpa using heq
        exact ht.single hx.isInfix

/-- A tight text is neat at any place in a span where its first character is no second blank. -/
theorem Tight.neat {t : Text} (h : Tight t) (d : Delimiter) (p : Cursor) {gap : Bool}
    (hgap : gap = true → t.head? ≠ some ' ') : neat d p gap t = true := by
  induction t generalizing p gap with
  | nil => rfl
  | cons c t ih =>
    have hc := h.blanks c (List.mem_cons_self ..)
    cases hb : isBlank c with
    | true =>
      obtain rfl := hc hb
      have hgap' : gap = false := by
        cases gap with
        | false => rfl
        | true => exact absurd rfl (hgap rfl)
      have hnext : t.head? ≠ some ' ' := by
        intro hhead
        obtain ⟨u, rfl⟩ := List.head?_eq_some_iff.1 hhead
        exact h.single ⟨[], u, rfl⟩
      rw [neat_cons_of_blank hb, ih h.tail _ fun _ => hnext]
      simp [hgap']
    | false =>
      have ha : c ≠ '&' := by
        rintro rfl
        exact h.ampersand (List.mem_cons_self ..)
      rw [neat_cons_of_not_blank hb, ih h.tail _ (by simp)]
      simp [ha]

end Span

/-! ## Edge labels -/

namespace EdgeLabel

/-- The labels among the pieces of a line between its pipes: a piece between two pipes is one if
what stands before it ends an arrow. The pipe after a label opens no label by itself. -/
def labelsOf : List Text → List Text
  | before :: label :: after :: pieces =>
    if (trimEnd before).getLast?.any endsArrow then label :: labelsOf (after :: pieces)
    else labelsOf (label :: after :: pieces)
  | _ => []

/-- The labels on the edges of a line. -/
def labels (line : Text) : List Text := labelsOf (segments (· == '|') line)

example : labels "A -->|x|y| B --> |z| C |w|".toList = ["x".toList, "z".toList] := by decide

theorem segments_pipe {before : Text} (h : '|' ∉ before) (t : Text) :
    segments (· == '|') (before ++ '|' :: t) = before :: segments (· == '|') t := by
  refine segments_append_cons (by rfl) ?_
  intro c hc
  have hne : c ≠ '|' := by
    rintro rfl
    exact h hc
  simpa using hne

/-- Between labels the pass knows the last character that is not blank. -/
theorem clean_between_append {x : Text} (hx : '|' ∉ x) (ink : Option Char) (t : Text) :
    clean (.between ink) (x ++ t) = clean (.between ((trimEnd x).getLast?.or ink)) t := by
  induction x using List.reverseRecOn generalizing t with
  | nil => rfl
  | append_singleton x c ih =>
    simp only [List.mem_append, List.mem_singleton, not_or] at hx
    rw [List.append_assoc, List.singleton_append, ih hx.1, clean, if_neg (Ne.symm hx.2),
      getLast?_trimEnd_append_singleton]
    split <;> rfl

theorem clean_of_not_mem {t : Text} (h : '|' ∉ t) (ink : Option Char) :
    clean (.between ink) t = true := by
  have hclean := clean_between_append h ink []
  rw [List.append_nil] at hclean
  rw [hclean]
  rfl

theorem segments_of_not_mem {t : Text} (h : '|' ∉ t) : segments (· == '|') t = [t] := by
  refine segments_of_forall fun c hc => ?_
  have hne : c ≠ '|' := by
    rintro rfl
    exact h hc
  simpa using hne

/-- A label is clean if it holds no ampersand, and the line goes on behind its closing pipe. -/
theorem clean_label_pipe_iff {label : Text} (h : '|' ∉ label) (last : Char) (t : Text) :
    clean (.label last) (label ++ '|' :: t) = true ↔
      '&' ∉ label ∧ clean (.between (some '|')) t = true := by
  induction label generalizing last with
  | nil => simp [clean]
  | cons c label ih =>
    simp only [List.mem_cons, not_or] at h
    rw [List.cons_append, clean, if_neg (Ne.symm h.1), Bool.and_eq_true, bne_iff_ne, ih h.2,
      List.mem_cons, not_or, and_assoc, ne_comm]

/-- A line is clean if no label on its edges holds an ampersand, and only then. -/
theorem clean_iff_labels {ink : Option Char} (hink : ink.any endsArrow = false) {t : Text} :
    clean (.between ink) t = true ↔ ∀ label ∈ labels t, '&' ∉ label := by
  by_cases hpipe : '|' ∈ t
  · obtain ⟨before, u, ht, hbefore⟩ := List.eq_append_cons_of_mem hpipe
    have hlast : ((trimEnd before).getLast?.or ink).any endsArrow =
        (trimEnd before).getLast?.any endsArrow := by
      cases (trimEnd before).getLast? <;> simp [hink]
    have hclosed : (some '|').any endsArrow = false := by decide
    rw [ht, labels, segments_pipe hbefore, clean_between_append hbefore, clean, if_pos rfl, hlast]
    by_cases hsecond : '|' ∈ u
    · -- Another pipe follows, so what stands before the first one decides.
      obtain ⟨label, v, hu, hlabel⟩ := List.eq_append_cons_of_mem hsecond
      obtain ⟨after, pieces, hpieces⟩ :=
        List.exists_cons_of_ne_nil (segments_ne_nil (· == '|') v)
      cases harrow : (trimEnd before).getLast?.any endsArrow with
      | true =>
        rw [hu, if_pos (by simp), clean_label_pipe_iff hlabel, segments_pipe hlabel, hpieces,
          labelsOf, if_pos harrow, List.forall_mem_cons, ← hpieces]
        exact and_congr_right fun _ => clean_iff_labels hclosed
      | false =>
        rw [if_neg (by simp), clean_iff_labels hclosed, labels, hu, segments_pipe hlabel, hpieces,
          labelsOf, if_neg (by simp [harrow])]
    · rw [if_neg (by simp [hsecond]), segments_of_not_mem hsecond]
      simp [clean_of_not_mem hsecond, labelsOf]
  · simp [clean_of_not_mem hpipe, labels, segments_of_not_mem hpipe, labelsOf]
termination_by t.length
decreasing_by all_goals simp only [ht, hu, List.length_append, List.length_cons]; omega

end EdgeLabel

/-! ## Lines -/

namespace Layout

theorem gap_of_length_le {w : Text} (h : w.length ≤ 1) : gap w = w := by
  cases w with
  | nil => rfl
  | cons c w =>
    cases w with
    | nil => rfl
    | cons c' w => simp at h

/-- Squeezing changes nothing where blanks between words stand alone. -/
theorem WellSpaced.squeeze_eq {line u w t : Text} {a : Char} (h : WellSpaced line)
    (hline : line = u ++ a :: (w ++ t)) (ha : isBlank a = false)
    (hw : ∀ c ∈ w, isBlank c = true) : squeeze w t = w ++ t := by
  induction t generalizing u a w with
  | nil =>
    cases w using List.reverseRecOn with
    | nil => rfl
    | append_singleton w c =>
      -- The line would end in a blank.
      have hlast := h.last c (by simp [hline, List.getLast?_cons])
      rw [hw c (by simp)] at hlast
      simp at hlast
  | cons c t ih =>
    cases hb : isBlank c with
    | true =>
      rw [squeeze, if_pos hb, ih (by simpa using hline) ha (blank_append_singleton hw hb)]
      simp
    | false =>
      have hgap := gap_of_length_le (h.gaps u a w c t hline ha hb hw)
      have hrest := ih (u := u ++ a :: w) (w := []) (by simpa using hline) hb (by simp)
      rw [squeeze_cons hb, hgap, hrest]
      rfl

/-- A well-spaced line is compact. -/
theorem WellSpaced.compact {line : Text} (h : WellSpaced line) (hn : '\n' ∉ line) :
    Compact line := by
  obtain ⟨i, hi, hline, hhead⟩ := exists_trimStart line
  obtain ⟨c, hc, hink⟩ := h.ink
  have hne : trimStart line ≠ [] := by
    intro hnil
    rw [hline, hnil, List.append_nil] at hc
    rw [hi c hc] at hink
    simp at hink
  have hlast : ∀ c, (trimStart line).getLast? = some c → isBlank c = false := by
    intro c hc
    refine h.last c ?_
    rw [hline, List.getLast?_append_of_ne_nil _ hne, hc]
  have hsqueeze : squeeze [] (trimStart line) = trimStart line := by
    obtain ⟨a, x, hx⟩ := List.exists_cons_of_ne_nil hne
    have ha : isBlank a = false := hhead a (by rw [hx]; rfl)
    have hrest := h.squeeze_eq (u := i) (w := []) (t := x) (by rw [hline, hx]; rfl) ha (by simp)
    rw [hx, squeeze_cons ha, hrest]
    rfl
  refine ⟨List.ne_nil_of_mem hc, hn, ?_⟩
  have hcompact := compactLine_append hi (v := []) (by simp) ⟨hhead, hlast⟩ hne
  rw [List.append_nil, hsqueeze, ← hline] at hcompact
  exact hcompact

/-- A tight text is well spaced. -/
theorem wellSpaced_of_tight {t : Text} (h : Span.Tight t) (ht : Trimmed t) (hne : t ≠ []) :
    WellSpaced t where
  ink := by
    obtain ⟨c, x, rfl⟩ := List.exists_cons_of_ne_nil hne
    exact ⟨c, List.mem_cons_self .., ht.head c rfl⟩
  last := ht.last
  gaps u a w b v heq ha hb hw := by
    match w with
    | [] => simp
    | [_] => simp
    | c :: c' :: w =>
      -- A longer run starts with two spaces.
      rw [List.forall_mem_cons, List.forall_mem_cons] at hw
      obtain rfl := h.blanks c (by simp [heq]) hw.1
      obtain rfl := h.blanks c' (by simp [heq]) hw.2.1
      exact absurd ⟨u ++ [a], w ++ b :: v, by simp [heq]⟩ h.single

end Layout

/-! ## Ends -/

namespace Block

/-- An end opens nothing. -/
theorem opens_of_isEnd (dialect : Option Dialect) {line : Text} (h : isEnd line = true) :
    opens dialect line = false := by
  have htrim : trim line = "end".toList := by simpa [isEnd] using h
  rw [opens, htrim, keywords]
  split
  · decide
  · decide

/-- Nothing is dropped if every end has an open block. -/
theorem balanceFrom_eq_self {dialect : Option Dialect} {depth : Nat} {pieces : List Text}
    (h : ∀ i (hi : i < pieces.length), isEnd pieces[i] = true →
      (pieces.take i).countP isEnd < depth + (pieces.take i).countP (opens dialect)) :
    balanceFrom dialect depth pieces = pieces := by
  induction pieces generalizing depth with
  | nil => rfl
  | cons line pieces ih =>
    have hfirst : isEnd line = true → 0 < depth := by
      intro hend
      simpa using h 0 (by simp) hend
    have hkept : ¬ (isEnd line = true ∧ depth = 0) := by
      rintro ⟨hend, rfl⟩
      exact absurd (hfirst hend) (by decide)
    rw [balanceFrom_cons, if_neg hkept, ih]
    intro i hi hend
    -- The first line counts as a block opened or closed before each of the others.
    have hcount := h (i + 1) (by simpa using hi) (by simpa using hend)
    rw [List.take_succ_cons, List.countP_cons, List.countP_cons] at hcount
    rw [depthAfter]
    cases hline : isEnd line with
    | true =>
      have hpos := hfirst hline
      simp only [hline, opens_of_isEnd dialect hline, if_true] at hcount ⊢
      simp only [Bool.false_eq_true, if_false] at hcount
      omega
    | false =>
      cases hopens : opens dialect line <;> simp [hline, hopens] at hcount ⊢ <;> omega

end Block

/-! ## Diagrams -/

namespace Repair

open Dialect Layout Block Span Separator

/-- A diagram as a renderer expects it. -/
structure WellFormed (dialect : Dialect) (t : Text) : Prop where
  plain : Plain t
  trimmed : Trimmed t
  leading : leading? t = some dialect
  spaced : ∀ line ∈ segmentLines t, WellSpaced line
  tight : ∀ d, ∀ span ∈ closedSpans d t, Tight span
  labels : ∀ line ∈ segmentLines t, ∀ label ∈ EdgeLabel.labels line, '&' ∉ label
  /-- More blocks are open before an end than were closed. -/
  ends : ∀ i (hi : i < (segmentLines t).length), isEnd (segmentLines t)[i] = true →
    ((segmentLines t).take i).countP isEnd <
      ((segmentLines t).take i).countP (opens (some dialect))

variable {dialect : Dialect} {t : Text}

theorem WellFormed.repaired (h : WellFormed dialect t) : Repaired dialect t where
  plain := h.plain
  trimmed := h.trimmed
  leading := h.leading
  neat d _ := fun span hspan => (h.tight d span hspan).neat d .outside (by simp)
  clean line hline := (EdgeLabel.clean_iff_labels (by rfl)).2 (h.labels line hline)
  compact line hline :=
    (h.spaced line hline).compact (newline_not_mem_of_mem_segmentLines hline)
  balanced := balanceFrom_eq_self (by simpa using h.ends)

/-- A well-formed diagram is left alone. -/
theorem repair_of_wellFormed (hd : dialect ≠ .classes) (h : WellFormed dialect t) :
    repair t = t :=
  h.repaired.repair_eq_self hd

theorem repair_of_wellFormed_flowchart :
    Dialect.flowchart ≠ .classes ∧
      WellFormed .flowchart
        "flowchart LR\nsubgraph S\n  A[one (two)] & B -->|x y| C\nend\nD[open &".toList ∧
      repair "flowchart LR\nsubgraph S\n  A[one (two)] & B -->|x y| C\nend\nD[open &".toList =
        "flowchart LR\nsubgraph S\n  A[one (two)] & B -->|x y| C\nend\nD[open &".toList := by
  have hd : Dialect.flowchart ≠ .classes := by decide
  have h : WellFormed .flowchart
      "flowchart LR\nsubgraph S\n  A[one (two)] & B -->|x y| C\nend\nD[open &".toList := by
    refine ⟨plain_of_all (by decide), ⟨?_, ?_⟩, by decide, ?_, ?_, by decide, by decide⟩
    · intro c hc
      obtain rfl : 'f' = c := Option.some.inj hc
      decide
    · intro c hc
      obtain rfl : '&' = c := Option.some.inj hc
      decide
    · have hcompacted : ∀ line ∈ segmentLines
          "flowchart LR\nsubgraph S\n  A[one (two)] & B -->|x y| C\nend\nD[open &".toList,
          line ≠ [] ∧ compactLine line = line := by decide
      intro line hline
      obtain ⟨hne, hcompact⟩ := hcompacted line hline
      exact Compact.wellSpaced ⟨hne, newline_not_mem_of_mem_segmentLines hline, hcompact⟩
    · intro d
      cases d <;> decide
  exact ⟨hd, h, repair_of_wellFormed hd h⟩

end Repair

end DiagramStudio
