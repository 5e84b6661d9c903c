import DiagramStudio.Proofs.Diagram.Repair

/-!
# Repairing a second time

`Repaired` collects what the passes establish together. A repaired diagram is a fixed point of each
pass, hence of `repair`, and whatever is repaired from a source that starts with a directive is
repaired. Class diagrams are left out: their blocks are rebuilt before any other pass.
-/

namespace DiagramStudio.Repair

open Text Dialect Layout Block Span Separator

/-- A diagram that every pass leaves as it is. -/
structure Repaired (dialect : Dialect) (t : Text) : Prop where
  plain : Plain t
  trimmed : Trimmed t
  leading : leading? t = some dialect
  neat : ∀ d ∈ Label.delimiters (some dialect), NeatSpans d t
  clean : ∀ line ∈ segmentLines t, EdgeLabel.clean (.between none) line = true
  compact : ∀ line ∈ segmentLines t, Compact line
  balanced : balance (some dialect) (segmentLines t) = segmentLines t

variable {dialect : Dialect}

/-! ## Fixed points -/

theorem head?_ne_of_stem {t : Text} (ht : Trimmed t) (h : stem t ≠ []) :
    t.head? ≠ some '\x60' := by
  cases t with
  | nil => exact absurd rfl h
  | cons c t =>
    intro hc
    obtain rfl : c = '\x60' := by simpa using hc
    have hstem : isStemChar '\x60' = false := by decide
    rw [stem_cons_of_ink (ht.head _ rfl), List.takeWhile_cons, hstem] at h
    exact h rfl

theorem Repaired.source_eq {t : Text} (h : Repaired dialect t) : source t = t := by
  have hstem : stem t ≠ [] := by
    have hdirective : ofStem? (stem t) = some dialect := by rw [← leading?_eq, h.leading]
    exact stem_ne_nil hdirective
  exact source_of_plain h.plain h.trimmed (head?_ne_of_stem h.trimmed hstem)

/-- A repaired diagram is its own repair. -/
theorem Repaired.repair_eq_self {t : Text} (hd : dialect ≠ .classes) (h : Repaired dialect t) :
    repair t = t := by
  have hcompact : compactLines (some dialect) t = segmentLines t := by
    rw [compactLines, rebuilt_of_ne hd, Label.normalize_of_neat h.neat h.clean,
      compact_of_forall h.compact]
  rw [repair_eq, h.source_eq, detect?_of_leading? h.leading,
    repairedLines_of_leading? hd h.trimmed h.leading, hcompact, h.balanced, joinLines_segmentLines,
    h.trimmed.trim_eq]

/-! ## What is repaired -/

theorem stable_plain : Label.Stable Plain where
  rework h ht c hc := by
    rcases h.mem hc with hc | hc
    · exact ht c hc
    · have hwritten : [' ', 'a', 'n', 'd', '\n'].all isPlain = true := by decide
      exact List.all_eq_true.1 hwritten c hc
  newlines t := by
    have hnewline : isPlain '\n' = true := by decide
    simp [Plain, or_imp, forall_and, hnewline]

/-- What is repaired from a source that starts with a directive is repaired. -/
theorem repaired_repair {code : Text} (hd : dialect ≠ .classes)
    (h : leading? (source code) = some dialect) : Repaired dialect (repair code) := by
  obtain ⟨first, rest, hlines, hfirst, hhead, hrepair⟩ := repair_of_leading? hd h
  have hbalance := repairedLines_of_leading? hd (trimmed_source code) h
  have hcompact : ∀ line ∈ first :: rest, Compact line := by
    intro line hline
    exact compact_of_mem_repairedLines (hlines ▸ hline)
  have hpieces : segmentLines (repair code) = first :: rest := by
    rw [hrepair]
    exact segmentLines_joinLines (by simp) fun line hline => (hcompact line hline).newline
  refine ⟨?_, ?_, ?_, ?_, ?_, ?_, ?_⟩
  · exact stable_repair stable_plain hd h
      (stable_plain.normalize (some dialect) (plain_source code))
  · rw [hrepair]
    exact trimmed_joinLines hcompact hhead
  · have hdetected : repairedLines (detect? (source code)) (source code) = first :: rest := by
      rw [detect?_of_leading? h, hlines]
    rw [leading?_repair_of_cons hdetected, hfirst]
  · intro d hmem
    exact stable_repair (Label.stable_neatSpans d) hd h (Label.neatSpans_normalize hmem _)
  · intro line hline
    -- Each line is the compact form of a line with its labels spelled out.
    rw [hpieces, ← hlines, hbalance] at hline
    have hline := (List.mem_filter.1 ((balance_sublist _ _).subset hline)).1
    obtain ⟨piece, hpiece, rfl⟩ := List.mem_map.1 hline
    rw [EdgeLabel.clean_compactLine]
    exact Label.clean_of_mem_segmentLines hpiece
  · rw [hpieces]
    exact hcompact
  · rw [hpieces, ← hlines, hbalance, balance_balance]

/-- Repairing a second time changes nothing, whatever the source holds after its first line. -/
theorem repair_repair (code : Text) (hd : dialect ≠ .classes)
    (h : leading? (source code) = some dialect) : repair (repair code) = repair code :=
  (repaired_repair hd h).repair_eq_self hd

theorem repair_repair_unclosed :
    leading? (source "graph TD\nA[x\n  B & C -->|a&b| D\nend".toList) = some .graph ∧
      repair (repair "graph TD\nA[x\n  B & C -->|a&b| D\nend".toList) =
        repair "graph TD\nA[x\n  B & C -->|a&b| D\nend".toList := by
  have h : leading? (source "graph TD\nA[x\n  B & C -->|a&b| D\nend".toList) =
      some .graph := by decide +kernel
  exact ⟨h, repair_repair _ (by decide) h⟩

end DiagramStudio.Repair
