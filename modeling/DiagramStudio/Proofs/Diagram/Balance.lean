import DiagramStudio.Diagram.Block
import DiagramStudio.Proofs.Diagram.Layout

/-!
# Balanced blocks

Balancing drops a line exactly if it is an `end` and no block is open. A second pass finds nothing
to drop, because the first one kept every line that changes the depth.
-/

namespace DiagramStudio

open Text

namespace Block

/-- How many blocks are open after a line that is kept. -/
def depthAfter (dialect : Option Dialect) (depth : Nat) (line : Text) : Nat :=
  if isEnd line then depth - 1 else if opens dialect line then depth + 1 else depth

/-- A line is dropped if it closes nothing, and kept otherwise. -/
theorem balanceFrom_cons (dialect : Option Dialect) (depth : Nat) (line : Text)
    (rest : List Text) :
    balanceFrom dialect depth (line :: rest) =
      if isEnd line = true ∧ depth = 0 then balanceFrom dialect 0 rest
      else line :: balanceFrom dialect (depthAfter dialect depth line) rest := by
  cases depth with
  | zero =>
    cases h : isEnd line <;> cases ho : opens dialect line <;> simp [balanceFrom, depthAfter, h, ho]
  | succ depth =>
    cases h : isEnd line <;> cases ho : opens dialect line <;> simp [balanceFrom, depthAfter, h, ho]

/-- Balancing a second time changes nothing. -/
theorem balanceFrom_balanceFrom (dialect : Option Dialect) (depth : Nat) (lines : List Text) :
    balanceFrom dialect depth (balanceFrom dialect depth lines) =
      balanceFrom dialect depth lines := by
  induction lines generalizing depth with
  | nil => rfl
  | cons line lines ih =>
    rw [balanceFrom_cons]
    split
    · next h =>
      rw [h.2]
      exact ih 0
    · next h => rw [balanceFrom_cons, if_neg h, ih]

theorem balance_balance (dialect : Option Dialect) (lines : List Text) :
    balance dialect (balance dialect lines) = balance dialect lines :=
  balanceFrom_balanceFrom dialect 0 lines

theorem balanceFrom_sublist (dialect : Option Dialect) (depth : Nat) (lines : List Text) :
    (balanceFrom dialect depth lines).Sublist lines := by
  induction lines generalizing depth with
  | nil => exact .slnil
  | cons line lines ih =>
    rw [balanceFrom_cons]
    split
    · exact (ih 0).cons line
    · exact (ih _).cons_cons line

theorem balance_sublist (dialect : Option Dialect) (lines : List Text) :
    (balance dialect lines).Sublist lines :=
  balanceFrom_sublist dialect 0 lines

/-- A line that closes nothing is kept at the start. -/
theorem balance_cons_of_not_isEnd (dialect : Option Dialect) {line : Text}
    (h : isEnd line = false) (rest : List Text) :
    ∃ kept, balance dialect (line :: rest) = line :: kept := by
  refine ⟨balanceFrom dialect (depthAfter dialect 0 line) rest, ?_⟩
  rw [balance, balanceFrom_cons, if_neg (by simp [h])]

/-- A directive closes nothing. -/
theorem isEnd_of_ofDirective? {line : Text} {dialect : Dialect}
    (h : Dialect.ofDirective? line = some dialect) : isEnd line = false := by
  cases hend : isEnd line with
  | false => rfl
  | true =>
    have htrim : trim line = "end".toList := by simpa [isEnd] using hend
    have hnone : (Dialect.all.find? fun d => startsWithWord d.keyword "end".toList) = none := by
      decide
    rw [Dialect.ofDirective?, htrim, hnone] at h
    simp at h

theorem mem_of_isEnd {line : Text} (h : isEnd line = true) {c : Char} (hc : c ∈ line) :
    isBlank c = true ∨ c ∈ ['e', 'n', 'd'] := by
  obtain ⟨w, v, hw, hv, hline, -⟩ := exists_trim line
  have hend : trim line = "end".toList := by simpa [isEnd] using h
  rw [hline, hend] at hc
  rcases List.mem_append.1 hc with hc | hc
  · exact .inl (hw c hc)
  · rcases List.mem_append.1 hc with hc | hc
    · exact .inr hc
    · exact .inl (hv c hc)

theorem idle_of_isEnd {line : Text} (h : isEnd line = true) : Span.Idle line := by
  intro c hc
  rcases mem_of_isEnd h hc with hb | hc
  · exact Span.not_mem_marks_of_isBlank hb
  · have hletters : ['e', 'n', 'd'].all (fun c => !Span.marks.contains c) = true := by decide
    simpa using List.all_eq_true.1 hletters c hc

end Block

namespace Span

open Block

/-- Dropping ends is a rework, here after lines `x` that were dropped. -/
theorem rework_balanceFrom (dialect : Option Dialect) (depth : Nat) (pieces : List Text) {x : Text}
    (hx : Idle x) (hn : '\n' ∈ x) (b : Bool) :
    Rework dropLines b (x ++ terminated pieces)
      ('\n' :: terminated (balanceFrom dialect depth pieces)) := by
  induction pieces generalizing depth x b with
  | nil => exact .drop (fun _ _ _ _ => id) hx hn (fun b => .nil b) b
  | cons line pieces ih =>
    rw [balanceFrom_cons]
    split
    · next h =>
      have := ih 0 (hx.append ((idle_of_isEnd h.1).append idle_newline)) (by simp [hn]) b
      simpa using this
    · have rest := ih (depthAfter dialect depth line) idle_newline (by simp)
      rw [terminated_cons, terminated_cons]
      exact .drop (fun _ _ _ _ => id) hx hn (Rework.keep_append line rest) b

end Span

end DiagramStudio
