import DiagramStudio.Proofs.Diagram.ClassLine

/-!
# Rebuilt class diagrams

Rebuilding a rebuilt class diagram changes nothing. The fold writes lines that it reads as what they
are: a class is written as a whole, so its header, members and closing brace stand together, and a
class without members is written without a body.

The lines that a step writes are an echo: the fold writes them again when it reads them with no
class open. A second run never has a class open where the first one has written all it read, while
both count the same scopes.

## Main definitions

- `ClassBlock.Echoes`: lines that the fold writes again when it reads them
- `ClassBlock.OpenClass.Legible`: a class whose lines will be read as what they are
-/

namespace DiagramStudio.ClassBlock

open Text

/-! ## Echoes -/

/-- A line that is read as one line with ink. -/
def Readable (line : Text) : Prop := '\n' ∉ line ∧ trim line ≠ []

/-- Lines that are written again when they are read without the blanks around them, from `n` scopes
to `m` scopes, with no class open before and after. -/
structure Echoes (n : Nat) (out : List Text) (m : Nat) : Prop where
  readable : ∀ line ∈ out, Readable line
  run_append : ∀ rest, run ⟨none, n⟩ (out.map trim ++ rest) = out ++ run ⟨none, m⟩ rest

theorem echoes_nil (n : Nat) : Echoes n [] n := ⟨by simp, fun _ => rfl⟩

theorem Echoes.append {n k m : Nat} {out out' : List Text} (h : Echoes n out k)
    (h' : Echoes k out' m) : Echoes n (out ++ out') m := by
  refine ⟨List.forall_mem_append.2 ⟨h.readable, h'.readable⟩, ?_⟩
  intro rest
  rw [List.map_append, List.append_assoc, h.run_append, h'.run_append, List.append_assoc]

/-- A line that is written in the step that reads it. -/
theorem echoes_singleton {n m : Nat} {written : Text} (hread : Readable written)
    (hstep : step ⟨none, n⟩ (trim written) = (⟨none, m⟩, [written])) : Echoes n [written] m := by
  refine ⟨List.forall_mem_singleton.2 hread, ?_⟩
  intro rest
  rw [List.map_singleton, List.singleton_append, run, hstep]

theorem Echoes.inkedLines_joinLines {n m : Nat} {out : List Text} (h : Echoes n out m) :
    inkedLines (joinLines out) = out.map trim := by
  rw [ClassBlock.inkedLines_joinLines fun line hline => (h.readable line hline).1,
    List.filter_eq_self]
  intro line hline
  obtain ⟨written, hwritten, rfl⟩ := List.mem_map.1 hline
  simpa using (h.readable written hwritten).2

/-! ## Indented lines -/

theorem Inked.readable {line : Text} (h : Inked line) : Readable line := by
  refine ⟨h.newline, ?_⟩
  rw [h.trimmed]
  exact h.ne_nil

theorem Inked.readable_statement {line : Text} (h : Inked line) : Readable (statement line) := by
  constructor
  · rw [statement, List.mem_append, not_or]
    exact ⟨by decide, h.newline⟩
  · rw [trim_statement h]
    exact h.ne_nil

theorem Inked.readable_memberLine {line : Text} (h : Inked line) : Readable (memberLine line) := by
  constructor
  · rw [memberLine, List.mem_append, not_or]
    exact ⟨by decide, h.newline⟩
  · rw [trim_memberLine h]
    exact h.ne_nil

theorem echoes_statement {n m : Nat} {line : Text} (h : Inked line)
    (hstep : step ⟨none, n⟩ line = (⟨none, m⟩, [statement line])) :
    Echoes n [statement line] m :=
  echoes_singleton h.readable_statement ((trim_statement h).symm ▸ hstep)

/-! ## Open classes -/

/-- An open class whose lines will be read as what they are. -/
structure OpenClass.Legible (c : OpenClass) : Prop where
  word : isClassName c.name = true
  header : LineKind.of ("class ".toList ++ (c.name ++ [' ', '{'])) = .header c.name
  bare : LineKind.of ("class ".toList ++ c.name) = .bare c.name
  members : ∀ line ∈ c.members, Inked line ∧ LineKind.of line = .member

/-- The members of a body gather in the open class. -/
theorem run_members {members : List Text} (h : ∀ line ∈ members, LineKind.of line = .member)
    (name : Text) (before : List Text) (n : Nat) (rest : List Text) :
    run ⟨some ⟨name, before⟩, n⟩ (members ++ rest) =
      run ⟨some ⟨name, before ++ members⟩, n⟩ rest := by
  induction members generalizing before with
  | nil => simp
  | cons line members ih =>
    rw [List.forall_mem_cons] at h
    rw [List.cons_append, run, step, h.1]
    dsimp only
    rw [ih h.2, List.nil_append, List.append_assoc, List.singleton_append]

theorem echoes_bare {name : Text} (hword : isClassName name = true)
    (hbare : LineKind.of ("class ".toList ++ name) = .bare name) (n : Nat) :
    Echoes n [statement ("class ".toList ++ name)] n := by
  refine echoes_statement (inked_bareLine hword) ?_
  rw [step, hbare]
  rfl

/-- The lines of a class that has a body. -/
theorem OpenClass.written_of_ne_nil {c : OpenClass} (h : c.members ≠ []) :
    c.written = ClassBlock.statement ("class ".toList ++ (c.name ++ [' ', '{'])) ::
      (c.members.map memberLine ++ [ClassBlock.statement ['}']]) := by
  rw [written, if_neg (by simpa using h), List.append_assoc]
  rfl

theorem OpenClass.Legible.map_trim_written {c : OpenClass} (h : c.Legible)
    (hmembers : c.members ≠ []) :
    c.written.map trim =
      ("class ".toList ++ (c.name ++ [' ', '{'])) :: (c.members ++ [['}']]) := by
  have htrim : (c.members.map memberLine).map trim = c.members := by
    rw [List.map_map, List.map_congr_left (g := id)]
    · exact List.map_id _
    · exact fun line hline => trim_memberLine (h.members line hline).1
  rw [written_of_ne_nil hmembers, List.map_cons, List.map_append, htrim,
    trim_statement (inked_headerLine h.word), List.map_singleton, trim_statement inked_closer]

/-- A class is written as lines that are read as this class. -/
theorem OpenClass.Legible.echoes {c : OpenClass} (h : c.Legible) (n : Nat) :
    Echoes n c.written n := by
  by_cases hmembers : c.members = []
  · rw [written, if_pos (by simpa using hmembers)]
    exact echoes_bare h.word h.bare n
  · constructor
    · rw [written_of_ne_nil hmembers, List.forall_mem_cons, List.forall_mem_append,
        List.forall_mem_map, List.forall_mem_singleton]
      exact ⟨(inked_headerLine h.word).readable_statement,
        fun line hline => (h.members line hline).1.readable_memberLine,
        inked_closer.readable_statement⟩
    · intro rest
      rw [h.map_trim_written hmembers, written_of_ne_nil hmembers, List.cons_append, run, step,
        h.header, List.append_assoc]
      dsimp only [State.flushed]
      rw [run_members fun line hline => (h.members line hline).2, List.singleton_append, run, step,
        kind_closer, ← written_of_ne_nil hmembers]
      rfl

/-! ## The second run -/

/-- A state whose open class is legible. -/
def State.Legible (s : State) : Prop := ∀ c ∈ s.block, c.Legible

theorem legible_none (n : Nat) : State.Legible ⟨none, n⟩ := by
  intro c hc
  simp at hc

theorem State.Legible.echoes {s : State} (h : s.Legible) : Echoes s.scopes s.flushed s.scopes := by
  rw [flushed]
  cases hblock : s.block with
  | none => exact echoes_nil _
  | some c => exact (h c hblock).echoes _

/-- What a step writes is an echo, and what it keeps will be one. -/
theorem echoes_step {s : State} {line : Text} (hs : s.Legible) (hline : Inked line) :
    (step s line).1.Legible ∧ Echoes s.scopes (step s line).2 (step s line).1.scopes := by
  have hflushed := hs.echoes
  rw [step]
  cases hkind : LineKind.of line with
  | directive =>
    refine ⟨hs, echoes_singleton hline.readable ?_⟩
    rw [hline.trimmed, step, hkind]
  | aside =>
    refine ⟨hs, echoes_statement hline ?_⟩
    rw [step, hkind]
  | header name =>
    refine ⟨?_, hflushed⟩
    intro c hc
    obtain rfl := Option.some.inj hc
    obtain ⟨hheader, hbare⟩ := kind_of_kind_header hkind
    exact ⟨(eq_of_kind_header hkind).1, hheader, hbare, by simp⟩
  | bare name =>
    exact ⟨legible_none _,
      hflushed.append (echoes_bare (eq_of_kind_bare hkind).1 (kind_of_kind_bare hkind) _)⟩
  | otherClass =>
    refine ⟨legible_none _, hflushed.append (echoes_statement hline ?_)⟩
    rw [step, hkind]
    rfl
  | closer =>
    cases hblock : s.block with
    | some c => exact ⟨legible_none _, hflushed⟩
    | none =>
      dsimp only
      split
      · exact ⟨hs, echoes_nil _⟩
      · next hne =>
        refine ⟨legible_none _, echoes_statement hline ?_⟩
        rw [step, hkind]
        exact if_neg hne
  | member =>
    cases hblock : s.block with
    | some c =>
      refine ⟨?_, echoes_nil _⟩
      intro c' hc'
      obtain rfl := Option.some.inj hc'
      obtain ⟨hword, hheader, hbare, hmembers⟩ := hs c hblock
      exact ⟨hword, hheader, hbare,
        List.forall_mem_append.2 ⟨hmembers, List.forall_mem_singleton.2 ⟨hline, hkind⟩⟩⟩
    | none =>
      refine ⟨legible_none _, echoes_statement hline ?_⟩
      rw [step, hkind]
      rfl
  | other =>
    cases hblock : s.block with
    | some c => exact ⟨hs, echoes_nil _⟩
    | none =>
      refine ⟨legible_none _, echoes_statement hline ?_⟩
      rw [step, hkind]
      rfl

theorem echoes_run {s : State} {lines : List Text} (hs : s.Legible)
    (h : ∀ line ∈ lines, Inked line) : ∃ m, Echoes s.scopes (run s lines) m := by
  induction lines generalizing s with
  | nil => exact ⟨s.scopes, hs.echoes⟩
  | cons line lines ih =>
    rw [List.forall_mem_cons] at h
    obtain ⟨hnext, hwritten⟩ := echoes_step hs h.1
    obtain ⟨m, hrest⟩ := ih hnext h.2
    exact ⟨m, hwritten.append hrest⟩

/-- A rebuilt diagram stays as it is. -/
theorem rebuild_rebuild (code : Text) : rebuild (rebuild code) = rebuild code := by
  have hinked : ∀ line ∈ inkedLines code, Inked line := fun _ => inked_of_mem_inkedLines
  obtain ⟨m, h⟩ := echoes_run (legible_none 0) hinked
  have hrun := h.run_append []
  rw [List.append_nil] at hrun
  change joinLines (run .start (inkedLines (rebuild code))) =
    joinLines (run .start (inkedLines code))
  rw [rebuild, State.start, h.inkedLines_joinLines, hrun]
  exact congrArg joinLines (List.append_nil _)

/-- What stands in a body besides members is written before it or dropped, and stays so. -/
example :
    rebuild "classDiagram\nclass\tFoo\x7b\nprose\nid: int\nFoo <|-- Bar".toList =
      "classDiagram\n    Foo <|-- Bar\n    class Foo \x7b\n        id: int\n    \x7d".toList := by
  decide +kernel

end DiagramStudio.ClassBlock
