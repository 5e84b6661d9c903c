import DiagramStudio.Diagram.Fallback
import DiagramStudio.Proofs.Diagram.Ampersand
import DiagramStudio.Proofs.Diagram.Preamble
import DiagramStudio.Proofs.Diagram.StrayOpener
import DiagramStudio.Proofs.Diagram.WellFormed

/-!
# The repaired fallback

Repairing the fallback diagram leaves its flowchart alone, whatever the description is. No span is
open after the fixed lines, so the passes over labels read the comment by itself. The comment is one
line, as all blanks in it are plain spaces, and starts with a compact text that no pass touches. If
the description holds no ampersand and no widthless character, the comment is tight behind its
indentation and so a fixed point of all passes.

## Main definitions

- `Fallback.repairedComment`: the comment after all passes
-/

namespace DiagramStudio

open Text

/-! ## Words joined by spaces -/

namespace Text

theorem ink_of_mem_words {t w : Text} (h : w ∈ words t) :
    w ≠ [] ∧ ∀ c ∈ w, isBlank c = false := by
  obtain ⟨hw, hne⟩ := List.mem_filter.1 h
  exact ⟨by simpa using hne, fun c hc => (of_mem_segments hw hc).1⟩

theorem mem_of_mem_words {t w : Text} (h : w ∈ words t) {c : Char} (hc : c ∈ w) : c ∈ t :=
  (of_mem_segments (List.mem_filter.1 h).1 hc).2

variable {ws : List Text}

theorem mem_intercalate_space {c : Char} (h : c ∈ List.intercalate [' '] ws) :
    c = ' ' ∨ ∃ w ∈ ws, c ∈ w := by
  induction ws with
  | nil => simp at h
  | cons w ws ih =>
    by_cases hws : ws = []
    · subst hws
      exact .inr ⟨w, List.mem_cons_self .., by simpa using h⟩
    · rw [List.intercalate_cons_of_ne_nil hws, List.mem_append, List.mem_append,
        List.mem_singleton] at h
      rcases h with (h | rfl) | h
      · exact .inr ⟨w, List.mem_cons_self .., h⟩
      · exact .inl rfl
      · exact (ih h).imp_right fun ⟨v, hv, hc⟩ => ⟨v, List.mem_cons_of_mem w hv, hc⟩

theorem intercalate_space_ne_nil {w : Text} (hw : w ≠ []) (ws : List Text) :
    List.intercalate [' '] (w :: ws) ≠ [] := by
  cases ws with
  | nil => simpa using hw
  | cons v ws => simp [List.intercalate_cons_cons]

/-- Joined words start and end with words. -/
theorem trimmed_intercalate (h : ∀ w ∈ ws, w ≠ [] ∧ ∀ c ∈ w, isBlank c = false) :
    Trimmed (List.intercalate [' '] ws) := by
  induction ws with
  | nil => exact ⟨by simp, by simp⟩
  | cons w ws ih =>
    rw [List.forall_mem_cons] at h
    obtain ⟨⟨hne, hink⟩, hrest⟩ := h
    have hw : Trimmed w :=
      ⟨fun c hc => hink c (List.mem_of_head? hc), fun c hc => hink c (List.mem_of_getLast? hc)⟩
    cases ws with
    | nil => simpa using hw
    | cons v ws =>
      have hv := intercalate_space_ne_nil (hrest v (List.mem_cons_self ..)).1 ws
      rw [List.intercalate_cons_cons, List.append_assoc]
      refine hw.append hne fun c hc => ?_
      rw [List.getLast?_append_of_ne_nil _ hv] at hc
      exact (ih hrest).last c hc

end Text

namespace Span

theorem tight_of_ink {t : Text} (h : ∀ c ∈ t, isBlank c = false) (ha : '&' ∉ t) : Tight t where
  ampersand := ha
  blanks c hc hb := by simp [h c hc] at hb
  single hs := by
    have hspace := h ' ' (hs.subset (List.mem_cons_self ..))
    simp [isBlank_space] at hspace

/-- Words joined by spaces are tight. -/
theorem tight_intercalate {ws : List Text}
    (h : ∀ w ∈ ws, w ≠ [] ∧ ∀ c ∈ w, isBlank c = false) (ha : ∀ w ∈ ws, '&' ∉ w) :
    Tight (List.intercalate [' '] ws) := by
  induction ws with
  | nil => exact tight_of_ink (by simp) (by simp)
  | cons w ws ih =>
    rw [List.forall_mem_cons] at h ha
    have hw := tight_of_ink h.1.2 ha.1
    cases ws with
    | nil => simpa using hw
    | cons v ws =>
      have hspace : Tight [' '] := by decide
      have hlast : w.getLast? ≠ some ' ' := fun hlast => by
        simpa [isBlank_space] using h.1.2 ' ' (List.mem_of_getLast? hlast)
      have hhead : (List.intercalate [' '] (v :: ws)).head? ≠ some ' ' := fun hhead => by
        simpa [isBlank_space] using (trimmed_intercalate h.2).head ' ' hhead
      rw [List.intercalate_cons_cons]
      exact (hw.append hspace fun hl => absurd hl hlast).append (ih h.2 ha.2) fun _ => hhead

end Span

/-! ## Passes over one line -/

namespace Span

theorem newline_not_mem_collapse {t : Text} (h : '\n' ∉ t) (d : Delimiter) :
    '\n' ∉ collapse d t := by
  have hlines : SingleLine d t :=
    fun span hspan hn => h ((exists_of_mem_closedSpans hspan).1.subset hn)
  rwa [← List.count_eq_zero, count_newline_collapse hlines, List.count_eq_zero]

end Span

namespace Label

theorem newline_not_mem_collapseAll {t : Text} (h : '\n' ∉ t) (dialect : Option Dialect) :
    '\n' ∉ collapseAll dialect t := by
  rw [collapseAll]
  induction delimiters dialect generalizing t with
  | nil => exact h
  | cons d ds ih => exact ih (Span.newline_not_mem_collapse h d)

theorem normalize_of_not_mem {t : Text} (h : '\n' ∉ t) (dialect : Option Dialect) :
    normalize dialect t = EdgeLabel.spellOut (collapseAll dialect t) := by
  rw [normalize, segmentLines_of_not_mem (newline_not_mem_collapseAll h dialect),
    List.map_singleton, joinLines_singleton]

end Label

namespace EdgeLabel

/-- Labels without ampersands are clean wherever they stand. -/
theorem clean_of_ampersand_not_mem {t : Text} (h : '&' ∉ t) (s : State) : clean s t = true := by
  induction t generalizing s with
  | nil => cases s <;> rfl
  | cons c t ih =>
    rw [List.mem_cons, not_or] at h
    cases s with
    | between ink =>
      rw [clean, ih h.2, ih h.2, ih h.2]
      simp
    | label last =>
      rw [clean, ih h.2, ih h.2]
      simp [Ne.symm h.1]

end EdgeLabel

namespace Layout

/-- Compacting keeps a compact start of a line. -/
theorem Compact.prefix_compactLine {line : Text} (h : Compact line) (t : Text) :
    line <+: compactLine (line ++ t) := by
  obtain ⟨i, hi, hline, hx, hsqueeze⟩ := h.exists_eq
  obtain ⟨v, hv, ht, hlast⟩ := exists_trimEnd t
  have hne : Text.trimStart line ≠ [] := h.trimStart.1
  generalize Text.trimStart line = x at hline hx hsqueeze hne
  have hkept : Trimmed (x ++ trimEnd t) := hx.append hne hlast
  have hcompact := compactLine_append hi hv hkept (by simp [hne])
  rw [List.append_assoc, ← ht, ← List.append_assoc, ← hline] at hcompact
  -- The last character of `x` is no blank, so squeezing starts anew behind it.
  obtain ⟨u, a, rfl⟩ := (List.eq_nil_or_concat' x).resolve_left hne
  have ha := hx.last a List.getLast?_concat
  rw [List.append_assoc, List.singleton_append, squeeze_append_cons ha, hsqueeze,
    ← List.append_assoc, ← hline] at hcompact
  exact ⟨_, hcompact.symm⟩

end Layout

/-! ## The comment -/

namespace Fallback

open Separator Layout Block Repair Span

variable (description : Text)

/-- The comment of the diagram after all passes. -/
def repairedComment : Text :=
  compactLine (Label.normalize (some .graph) (Separator.normalize (comment description)))

variable {description}

theorem mem_echo {c : Char} (h : c ∈ echo description) :
    c = ' ' ∨ isBlank c = false ∧ c ∈ description.take echoLimit :=
  (mem_intercalate_space h).imp_right fun ⟨_, hw, hc⟩ =>
    ⟨(ink_of_mem_words hw).2 c hc, mem_of_mem_words hw hc⟩

theorem trimmed_echo : Trimmed (echo description) :=
  trimmed_intercalate fun _ => ink_of_mem_words

variable (description)

theorem comment_eq :
    comment description = "    %% Input:".toList ++ (' ' :: (echo description ++ "...".toList)) :=
  rfl

variable {description} in
/-- Besides what stands in every comment only characters of words are in it. -/
theorem mem_comment {c : Char} (h : c ∈ comment description) :
    c ∈ "%Input: .".toList ∨ isBlank c = false ∧ c ∈ description.take echoLimit := by
  rw [comment_eq, List.mem_append, List.mem_cons, List.mem_append] at h
  rcases h with h | rfl | h | h
  · have hstart : "    %% Input:".toList.all "%Input: .".toList.contains = true := by decide
    exact .inl (List.contains_iff_mem.1 (List.all_eq_true.1 hstart c h))
  · exact .inl (by decide)
  · rcases mem_echo h with rfl | h
    · exact .inl (by decide)
    · exact .inr h
  · have hdots : "...".toList.all "%Input: .".toList.contains = true := by decide
    exact .inl (List.contains_iff_mem.1 (List.all_eq_true.1 hdots c h))

/-- All blanks of the comment are plain spaces. -/
theorem eq_space_of_mem_comment : ∀ c ∈ comment description, isBlank c = true → c = ' ' := by
  intro c hc hb
  rcases mem_comment hc with hc | ⟨hink, -⟩
  · have hfixed : ("%Input: .".toList.all fun c => !isBlank c || c == ' ') = true := by decide
    simpa [hb] using List.all_eq_true.1 hfixed c hc
  · simp [hink] at hb

theorem newline_not_mem_comment : '\n' ∉ comment description := by
  intro hn
  exact absurd (eq_space_of_mem_comment description '\n' hn isBlank_newline) (by decide)

theorem getLast?_append_dots (t : Text) : (t ++ "...".toList).getLast? = some '.' :=
  List.getLast?_append_of_ne_nil t (by decide)

theorem getLast?_comment : (comment description).getLast? = some '.' := by
  rw [comment_eq, ← List.cons_append, ← List.append_assoc, getLast?_append_dots]

/-- Without widthless characters the comment starts and ends as before. -/
theorem normalize_comment :
    (∃ y, Separator.normalize (comment description) = "    %% Input:".toList ++ y) ∧
      (Separator.normalize (comment description)).getLast? = some '.' ∧
      '\n' ∉ Separator.normalize (comment description) := by
  have hkept : Separator.normalize (comment description) = "    %% Input:".toList ++
      ((' ' :: (echo description).filter fun c => !isWidthless c) ++ "...".toList) := by
    rw [normalize_of_spaces (eq_space_of_mem_comment description), comment_eq, List.filter_append,
      List.filter_cons, List.filter_append]
    rfl
  refine ⟨⟨_, hkept⟩, ?_, ?_⟩
  · rw [hkept, ← List.append_assoc, getLast?_append_dots]
  · rw [normalize_of_spaces (eq_space_of_mem_comment description)]
    exact fun hn => newline_not_mem_comment description (List.mem_filter.1 hn).1

/-- No pass touches the start of the comment. -/
theorem prefix_repairedComment :
    "    %% Input:".toList <+: repairedComment description ∧
      '\n' ∉ repairedComment description := by
  obtain ⟨⟨y, hy⟩, -, hn⟩ := normalize_comment description
  have hcompact : Compact "    %% Input:".toList := ⟨by decide, by decide, by decide⟩
  have hopener : ∀ d : Delimiter, d.opener ∉ "    %% Input:".toList := by
    intro d
    cases d <;> decide
  have hpipe : '|' ∉ "    %% Input:".toList := by decide
  have hline := Label.newline_not_mem_collapseAll hn (some .graph)
  rw [repairedComment, Label.normalize_of_not_mem hn]
  refine ⟨?_, newline_not_mem_compactLine (EdgeLabel.newline_not_mem_spellOut hline)⟩
  obtain ⟨ink, hspell⟩ :=
    EdgeLabel.spellFrom_between_append hpipe none (Label.collapseAll (some .graph) y)
  rw [hy, Label.collapseAll_append_of_not_mem hopener, EdgeLabel.spellOut, hspell]
  exact hcompact.prefix_compactLine _

/-! ## The diagram -/

theorem diagram_eq :
    diagram description = terminated topology ++ (comment description ++ ['\n']) := by
  rw [diagram, List.flatMap_append, List.flatMap_singleton]
  rfl

theorem newline_not_mem_topology : ∀ line ∈ topology, '\n' ∉ line := by decide +kernel

theorem trimmed_topology_append {t : Text} (h : t.getLast? = some '.') :
    Trimmed (terminated topology ++ t) := by
  have hhead : (terminated topology ++ t).head? = some 'g' := rfl
  have hlast : (terminated topology ++ t).getLast? = some '.' := by
    rw [List.getLast?_append, h]
    rfl
  exact .of_ends hhead (by decide) hlast (by decide)

/-- The source of the diagram is the diagram without widthless characters and its last newline. -/
theorem source_diagram :
    source (diagram description) =
      terminated topology ++ Separator.normalize (comment description) := by
  obtain ⟨-, hlast, -⟩ := normalize_comment description
  have htopology : Separator.normalize (terminated topology) = terminated topology := by
    decide +kernel
  have hnewline : Separator.normalize ['\n'] = ['\n'] := by decide
  have hcomment : (comment description).getLast? ≠ some '\r' := by
    rw [getLast?_comment]
    decide
  have hnormal : Separator.normalize (diagram description) = [] ++
      ((terminated topology ++ Separator.normalize (comment description)) ++ ['\n']) := by
    rw [diagram_eq, normalize_append fun h => absurd h (by decide), htopology,
      normalize_append fun h => absurd h hcomment, hnewline, List.nil_append, List.append_assoc]
  have hhead : (terminated topology ++ Separator.normalize (comment description)).head? ≠
      some '\x60' := by
    show some 'g' ≠ some '\x60'
    decide
  rw [source, hnormal, trim_append (by simp) (by simp [isBlank_newline])
    (trimmed_topology_append hlast), Fence.strip_of_head hhead]

theorem leading?_source_diagram :
    Dialect.leading? (source (diagram description)) = some .graph := by
  rw [source_diagram, Dialect.leading?_of_segmentLines
    (segmentLines_terminated_append newline_not_mem_topology _)]
  decide

theorem compactLines_diagram :
    compactLines (some .graph) (source (diagram description)) =
      topology ++ [repairedComment description] := by
  obtain ⟨hstarts, -⟩ := prefix_repairedComment description
  obtain ⟨-, -, hn⟩ := normalize_comment description
  have hclosed : ∀ d ∈ [Delimiter.square, .round, .curly, .quote],
      Span.scan d .outside (terminated topology) = .outside ∧
        Span.collapse d (terminated topology) = terminated topology := by
    decide +kernel
  have hcollapse : ∀ d t, Span.collapse d (terminated topology ++ t) =
      terminated topology ++ Span.collapse d t := by
    intro d t
    obtain ⟨hscan, hsame⟩ := hclosed d (by cases d <;> decide)
    rw [Span.collapse_append hscan, hsame]
  have htopology : (topology.map fun line => compactLine (EdgeLabel.spellOut line)).filter
      (fun line => !line.isEmpty) = topology := by
    decide +kernel
  have hne : repairedComment description ≠ [] := by
    intro hnil
    rw [hnil] at hstarts
    exact absurd hstarts (by decide)
  rw [compactLines_eq, rebuilt_of_ne (by decide), source_diagram,
    Label.collapseAll_append hcollapse,
    segmentLines_terminated_append newline_not_mem_topology,
    segmentLines_of_not_mem (Label.newline_not_mem_collapseAll hn _), List.map_append,
    List.filter_append, htopology, List.map_singleton, ← Label.normalize_of_not_mem hn,
    ← repairedComment]
  simp [hne]

/-- Only the comment of the fallback depends on the description after repairing it. -/
theorem repair_diagram :
    repair (diagram description) = joinLines (topology ++ [repairedComment description]) := by
  have hleading := leading?_source_diagram description
  obtain ⟨first, rest, hlines, -, -, hrepair⟩ := repair_of_leading? (by decide) hleading
  have hend : ∀ line ∈ topology ++ [repairedComment description], isEnd line = false := by
    rw [List.forall_mem_append, List.forall_mem_singleton]
    refine ⟨by decide +kernel, Bool.eq_false_iff.2 fun hend => ?_⟩
    -- The comment sign is no part of an end.
    have hsign : '%' ∈ repairedComment description :=
      (prefix_repairedComment description).1.subset (by decide)
    rcases mem_of_isEnd hend hsign with hb | hletter
    · exact absurd hb (by decide)
    · exact absurd hletter (by decide)
  rw [repairedLines_of_leading? (by decide) (trimmed_source _) hleading, compactLines_diagram,
    (dropsEnds_balance _ _).eq_of_forall hend] at hlines
  rw [hrepair, ← hlines]

/-! ## Plain descriptions -/

/-- The comment without its indentation. -/
def remark : Text := "%% Input: ".toList ++ (echo description ++ "...".toList)

theorem remark_eq :
    remark description = ("%% Input: ".toList ++ echo description) ++ "...".toList := rfl

theorem comment_eq_remark : comment description = "    ".toList ++ remark description := rfl

theorem blank_indent : ∀ c ∈ "    ".toList, isBlank c = true :=
  List.all_eq_true.1 (by decide)

theorem trimmed_remark : Trimmed (remark description) := by
  have hhead : (remark description).head? = some '%' := rfl
  have hlast : (remark description).getLast? = some '.' := by rw [remark_eq, getLast?_append_dots]
  exact .of_ends hhead (by decide) hlast (by decide)

variable {description}

theorem tight_remark (h : '&' ∉ description.take echoLimit) : Tight (remark description) := by
  have hstart : Tight "%% Input: ".toList := by decide
  have hdots : Tight "...".toList := by decide
  have hecho : Tight (echo description) :=
    tight_intercalate (fun _ => ink_of_mem_words) fun _ hw ha => h (mem_of_mem_words hw ha)
  have hhead : (echo description ++ "...".toList).head? ≠ some ' ' := by
    rw [List.head?_append]
    cases hfirst : (echo description).head? with
    | none => decide
    | some c =>
      have hc := trimmed_echo.head c hfirst
      rintro ⟨⟩
      simp [isBlank_space] at hc
  exact hstart.append (hecho.append hdots fun _ => by decide) fun _ => hhead

/-- A tight remark leaves the passes over labels nothing to do. -/
theorem normalize_comment_of_tight (h : Tight (remark description)) :
    Label.normalize (some .graph) (comment description) = comment description := by
  refine Label.normalize_of_neat (fun d _ span hspan => ?_) fun line hline => ?_
  · -- No span opens in the indentation.
    rw [comment_eq_remark, closedSpans_idle_append d (idle_of_blank blank_indent)] at hspan
    exact (h.of_infix (exists_of_mem_closedSpans hspan).1).neat d .outside (by simp)
  · rw [segmentLines_of_not_mem (newline_not_mem_comment description), List.mem_singleton] at hline
    refine EdgeLabel.clean_of_ampersand_not_mem ?_ _
    rw [hline, comment_eq_remark, List.mem_append, not_or]
    exact ⟨by decide, h.ampersand⟩

theorem compactLine_comment_of_tight (h : Tight (remark description)) :
    compactLine (comment description) = comment description := by
  have hn : '\n' ∉ remark description := fun hn =>
    newline_not_mem_comment description (comment_eq_remark description ▸ List.mem_append_right _ hn)
  have hcompact : Compact (remark description) :=
    (wellSpaced_of_tight h (trimmed_remark description) (by simp [remark_eq])).compact hn
  have hne : compactLine (remark description) ≠ [] := by
    rw [hcompact.compacted]
    exact hcompact.ne_nil
  rw [comment_eq_remark, compactLine_blank_append blank_indent hne, hcompact.compacted]

/-- The comment for a description without ampersands and widthless characters stays as it is. -/
theorem repairedComment_eq
    (h : ∀ c ∈ description.take echoLimit, c ≠ '&' ∧ isWidthless c = false) :
    repairedComment description = comment description := by
  have htight := tight_remark fun ha => (h '&' ha).1 rfl
  have hwidth : ∀ c ∈ comment description, (!isWidthless c) = true := by
    intro c hc
    rcases mem_comment hc with hc | ⟨-, hc⟩
    · have hfixed : ("%Input: .".toList.all fun c => !isWidthless c) = true := by decide
      exact List.all_eq_true.1 hfixed c hc
    · simp [(h c hc).2]
  rw [repairedComment, normalize_of_spaces (eq_space_of_mem_comment description),
    List.filter_eq_self.2 hwidth, normalize_comment_of_tight htight,
    compactLine_comment_of_tight htight]

variable (description)

theorem trimEnd_diagram :
    trimEnd (diagram description) = joinLines (topology ++ [comment description]) := by
  have hlines : joinLines (topology ++ [comment description]) =
      terminated topology ++ comment description := by
    rw [joinLines_append_terminated _ (by simp), joinLines_singleton]
  rw [diagram_eq, ← List.append_assoc, trimEnd_append_blank (by simp [isBlank_newline]), hlines]
  exact trimEnd_of_last (trimmed_topology_append (getLast?_comment description)).last

/-- The repaired fallback has the fixed lines as they are and one comment after them. A description
without ampersands and widthless characters in its echoed part makes repairing do nothing but trim
the end. -/
theorem segmentLines_repair_diagram :
    (∃ line, segmentLines (repair (diagram description)) = topology ++ [line] ∧
        "    %% Input:".toList <+: line) ∧
      ((∀ c ∈ description.take echoLimit, c ≠ '&' ∧ isWidthless c = false) →
        repair (diagram description) = trimEnd (diagram description)) := by
  obtain ⟨hstarts, hn⟩ := prefix_repairedComment description
  constructor
  · refine ⟨repairedComment description, ?_, hstarts⟩
    rw [repair_diagram]
    refine segmentLines_joinLines (by simp) ?_
    rw [List.forall_mem_append, List.forall_mem_singleton]
    exact ⟨newline_not_mem_topology, hn⟩
  · intro h
    rw [repair_diagram, repairedComment_eq h, trimEnd_diagram]

theorem segmentLines_repair_diagram_marks :
    let description := "a \"b[ |c|\n\x60\x60\x60mermaid\ngraph \\(d\u2028 end\t\x7b]".toList
    (∃ line, segmentLines (repair (diagram description)) = topology ++ [line] ∧
        "    %% Input:".toList <+: line) ∧
      (∀ c ∈ description.take echoLimit, c ≠ '&' ∧ isWidthless c = false) ∧
      repair (diagram description) = trimEnd (diagram description) := by
  intro description
  obtain ⟨hlines, hsame⟩ := segmentLines_repair_diagram description
  have hall : ((description.take echoLimit).all fun c => c != '&' && !isWidthless c) = true := by
    decide
  have hplain : ∀ c ∈ description.take echoLimit, c ≠ '&' ∧ isWidthless c = false := by
    intro c hc
    simpa using List.all_eq_true.1 hall c hc
  exact ⟨hlines, hplain, hsame hplain⟩

end Fallback

end DiagramStudio
