import DiagramStudio.Proofs.Diagram.Alignment
import DiagramStudio.Proofs.Diagram.WellFormed
import DiagramStudio.Proofs.Service.Script

/-!
# Unusable replies

Nothing is left of a text exactly if there is nothing to draw in it: every line of its source is
blank or reads `end`. One direction needs that no pass loses the last useful line. The other one
needs that no pass makes something of such lines. They declare no dialect, they hold no delimiter,
no ampersand and no pipe, and as nothing opens a block all their ends are orphans. In this case only
the fallback takes the place of a reply.
-/

namespace DiagramStudio

open Text Block

/-! ## Passes over an unusable source -/

namespace Repair

open Layout Span

variable {t : Text}

theorem Unusable.detect? (h : Unusable t) : Dialect.detect? t = none := by
  rw [Dialect.detect?_eq, List.findSome?_eq_none_iff]
  exact fun line hline => h.ofDirective? hline

/-- An unusable source is written with blanks and the letters of `end`. -/
theorem Unusable.mem (h : Unusable t) {c : Char} (hc : c ∈ t) :
    isBlank c = true ∨ c ∈ ['e', 'n', 'd'] := by
  by_cases hn : c = '\n'
  · exact .inl (hn ▸ isBlank_newline)
  · rw [← joinLines_segmentLines t, mem_joinLines_iff hn] at hc
    obtain ⟨line, hline, hc⟩ := hc
    rcases h line hline with hblank | hend
    · exact .inl (List.all_eq_true.1 hblank c hc)
    · exact mem_of_isEnd hend hc

theorem Unusable.idle (h : Unusable t) : Idle t := by
  intro c hc
  rcases h.mem hc with hb | hletter
  · exact not_mem_marks_of_isBlank hb
  · have hletters : ['e', 'n', 'd'].all (fun c => !Span.marks.contains c) = true := by
      decide
    simpa using List.all_eq_true.1 hletters c hletter

theorem Unusable.pipe_not_mem (h : Unusable t) : '|' ∉ t := by
  intro hpipe
  rcases h.mem hpipe with hb | hletter
  · simp [EdgeLabel.isBlank_pipe] at hb
  · exact absurd hletter (by decide)

/-- There is no label to normalize. -/
theorem Unusable.normalize_eq (h : Unusable t) (dialect : Option Dialect) :
    Label.normalize dialect t = t := by
  refine Label.normalize_of_neat ?_ ?_
  · intro d _
    have hspans := closedSpans_idle_append d h.idle []
    rw [List.append_nil, closedSpans_nil] at hspans
    rw [NeatSpans, hspans]
    simp
  · intro line hline
    refine EdgeLabel.clean_of_not_mem (fun hpipe => ?_) none
    exact h.pipe_not_mem (mem_of_mem_segmentLines hline hpipe)

theorem isEnd_compactLine {line : Text} (h : isEnd line = true) :
    isEnd (compactLine line) = true := by
  have htrim : trim line = "end".toList := by simpa [isEnd] using h
  rw [isEnd, trim_compactLine, htrim]
  decide

/-- Its compact lines are the ends. -/
theorem Unusable.isEnd_of_mem_compact (h : Unusable t) {line : Text}
    (hline : line ∈ compact t) : isEnd line = true := by
  obtain ⟨hmem, hne⟩ := List.mem_filter.1 hline
  obtain ⟨piece, hpiece, rfl⟩ := List.mem_map.1 hmem
  rcases h piece hpiece with hblank | hend
  · rw [compactLine_of_blank (List.all_eq_true.1 hblank)] at hne
    simp at hne
  · exact isEnd_compactLine hend

theorem balance_of_forall_isEnd {dialect : Option Dialect} {pieces : List Text}
    (h : ∀ line ∈ pieces, isEnd line = true) : balance dialect pieces = [] := by
  rw [balance]
  induction pieces with
  | nil => rfl
  | cons line pieces ih =>
    rw [List.forall_mem_cons] at h
    rw [balanceFrom_cons, if_pos ⟨h.1, rfl⟩, ih h.2]

theorem Unusable.repairedLines_eq_nil (h : Unusable t) : repairedLines none t = [] := by
  rw [repairedLines, show rebuilt none t = t from rfl, h.normalize_eq]
  refine balance_of_forall_isEnd fun line hline => ?_
  exact h.isEnd_of_mem_compact ((align_sublist _).subset hline)

/-- Lines are compact, so a text of some lines is not empty. -/
theorem repairedLines_eq_nil_of_repair {code : Text} (h : repair code = []) :
    repairedLines (Dialect.detect? (source code)) (source code) = [] := by
  cases hlines : repairedLines (Dialect.detect? (source code)) (source code) with
  | nil => rfl
  | cons first rest =>
    have hcompact := compact_of_mem_repairedLines (hlines ▸ List.mem_cons_self ..)
    rw [repair_of_cons hlines] at h
    exact absurd h (joinLines_ne_nil hcompact.trimStart.1 rest)

/-- Nothing is left of a text exactly if its source is unusable. -/
theorem repair_eq_nil_iff_unusable (code : Text) :
    repair code = [] ↔ Unusable (source code) := by
  constructor
  · intro hnil
    have hlines := repairedLines_eq_nil_of_repair hnil
    cases hdetect : Dialect.detect? (source code) with
    | some dialect =>
      rw [hdetect] at hlines
      exact absurd hlines (repairedLines_ne_nil hdetect)
    | none =>
      -- Without a directive nothing is rebuilt, so the lines come from the source itself.
      rw [hdetect] at hlines
      exact unusable_of_repairedLines_eq_nil hlines
  · intro h
    refine repair_of_nil ?_
    rw [h.detect?, h.repairedLines_eq_nil]

end Repair

/-! ## The fallback for a reply -/

namespace Generator

open Repair

variable {σ : Type} {g : Generator σ} {r : DiagramRequest} {state : σ} {c : Completion}

/-- A request that got a reply ends with it. -/
theorem generate_of_succeeds (h : Succeeds (g.calls r state) c) :
    (g.generate r state).1 = r.succeed c := by
  cases hblank : blank r.description.toList with
  | true =>
    rw [calls_of_blank _ hblank] at h
    simp [Succeeds] at h
  | false =>
    cases hm : g.model with
    | none =>
      rw [calls_of_none _ hblank hm] at h
      simp [Succeeds] at h
    | some m =>
      rw [calls_of_some _ hblank hm] at h
      have hanswer : (m.ask (r.prompt g.options) state).1 = .ok c := by simpa [Succeeds] using h
      rw [generate_of_some _ _ _ hblank hm, hanswer]
      rfl

/-- A repaired diagram does not end with a newline as the fallback does. -/
theorem repair_ne_fallback (code description : Text) :
    repair code ≠ Fallback.diagram description := by
  intro heq
  have hlast : (Fallback.diagram description).getLast? = some '\n' := by
    simp [Fallback.diagram]
  have htrimmed : Trimmed (repair code) := by
    rw [repair_eq]
    exact trimmed_trim _
  have hblank := htrimmed.last '\n' (heq ▸ hlast)
  simp [isBlank_newline] at hblank

/-- The fallback takes the place of a reply exactly if nothing is left of it. -/
theorem diagramCode_eq_fallback_iff (h : Succeeds (g.calls r state) c) :
    (g.generate r state).1.diagramCode = String.ofList (Fallback.diagram r.description.toList) ↔
      repair (Fence.extract c.text.toList) = [] := by
  rw [generate_of_succeeds h, diagramCode_succeed, String.ofList_inj]
  split
  · next hempty => simpa using hempty
  · next hne => simpa [repair_ne_fallback] using hne

/-- A text is repaired to nothing exactly if its source is unusable, and exactly then the fallback
takes the place of a reply, whatever model gave it. -/
theorem fallback_iff_unusable :
    (∀ code : Text, repair code = [] ↔ Unusable (source code)) ∧
      ∀ {σ : Type} (g : Generator σ) (r : DiagramRequest) (state : σ) (c : Completion),
        Succeeds (g.calls r state) c →
          ((g.generate r state).1.diagramCode =
              String.ofList (Fallback.diagram r.description.toList) ↔
            Unusable (source (Fence.extract c.text.toList))) := by
  refine ⟨repair_eq_nil_iff_unusable, fun g r state c hc => ?_⟩
  rw [diagramCode_eq_fallback_iff hc, repair_eq_nil_iff_unusable]

theorem fallback_iff_unusable_ends :
    let g := scripted Options.standard
    let r : DiagramRequest := ⟨"login", none⟩
    let reply := "\x60\x60\x60mermaid\n  end\n\n\tend \n\x60\x60\x60"
    let c : Completion := ⟨[.text reply], "m", "", 0, 0⟩
    let state : Script := ⟨[.ok c], []⟩
    Succeeds (g.calls r state) c ∧ Unusable (source (Fence.extract c.text.toList)) ∧
      (g.generate r state).1.diagramCode = String.ofList (Fallback.diagram "login".toList) := by
  intro g r reply c state
  have hcalls : Succeeds (g.calls r state) c := by
    rw [calls_of_some state (by decide) (m := Script.chatModel) rfl]
    exact succeeds_singleton.2 rfl
  have hunusable : Unusable (source (Fence.extract c.text.toList)) := by decide +kernel
  exact ⟨hcalls, hunusable, (fallback_iff_unusable.2 g r state c hcalls).2 hunusable⟩

end Generator

end DiagramStudio
