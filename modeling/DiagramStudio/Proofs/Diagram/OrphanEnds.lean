import DiagramStudio.Proofs.Diagram.Content
import DiagramStudio.Proofs.Diagram.WellFormed
import Mathlib.Order.Bounds.Basic

/-!
# Orphan ends

Balancing looks at one line after the other and never back, yet it drops as few ends as can be
dropped. Every list of lines has a worst front, in which ends outnumber openers by as much as in no
other front. So many ends must go before its last line, whichever they are, because openers stay,
and the pass drops exactly so many.

## Main definitions

- `Block.Matched`: lines in which every end has an opener before it
- `Block.surplus`: by how much ends outnumber openers
- `Block.Excess`: how many ends too many a list of lines has when some blocks are open before it
- `Block.LeastRemoval`: lines without their orphan ends
-/

namespace DiagramStudio

open Text Block

/-! ## Lines without some of their ends -/

namespace DropsEnds

variable {pieces kept : List Text}

theorem sublist (h : DropsEnds pieces kept) : kept.Sublist pieces := by
  induction h with
  | nil => exact .slnil
  | keep line _ ih => exact ih.cons_cons line
  | drop _ _ ih => exact ih.cons _

/-- An end opens nothing, so all openers are kept. -/
theorem countP_opens (h : DropsEnds pieces kept) (dialect : Option Dialect) :
    kept.countP (opens dialect) = pieces.countP (opens dialect) := by
  induction h with
  | nil => rfl
  | keep line _ ih => rw [List.countP_cons, List.countP_cons, ih]
  | drop hend _ ih =>
    have hopens := opens_of_isEnd dialect hend
    rw [List.countP_cons_of_neg (by simp [hopens]), ih]

/-- Every line that is dropped is an end. -/
theorem length_add_countP (h : DropsEnds pieces kept) :
    pieces.length + kept.countP isEnd = kept.length + pieces.countP isEnd := by
  induction h with
  | nil => rfl
  | keep line _ ih =>
    simp only [List.length_cons, List.countP_cons]
    omega
  | drop hend _ ih =>
    simp only [List.length_cons, List.countP_cons, hend, if_true]
    omega

/-- What is kept of two lists of lines is what is kept of each. -/
theorem exists_of_append {front rest : List Text} (h : DropsEnds (front ++ rest) kept) :
    ∃ front' rest', kept = front' ++ rest' ∧ DropsEnds front front' ∧ DropsEnds rest rest' := by
  induction front generalizing kept with
  | nil => exact ⟨[], kept, rfl, .nil, h⟩
  | cons line front ih =>
    cases h with
    | keep _ h =>
      obtain ⟨front', rest', rfl, hfront, hrest⟩ := ih h
      exact ⟨line :: front', rest', rfl, .keep line hfront, hrest⟩
    | drop hend h =>
      obtain ⟨front', rest', rfl, hfront, hrest⟩ := ih h
      exact ⟨front', rest', rfl, .drop hend hfront, hrest⟩

end DropsEnds

namespace Block

variable {dialect : Option Dialect}

/-! ## Matched lines -/

/-- Lines of which no front has more ends than openers. -/
def Matched (dialect : Option Dialect) (lines : List Text) : Prop :=
  ∀ front, front <+: lines → front.countP isEnd ≤ front.countP (opens dialect)

instance (dialect : Option Dialect) (lines : List Text) : Decidable (Matched dialect lines) :=
  decidable_of_iff (∀ front ∈ lines.inits, front.countP isEnd ≤ front.countP (opens dialect))
    (by simp only [Matched, List.mem_inits])

/-- By how much ends outnumber openers; negative if there are more openers. -/
def surplus (dialect : Option Dialect) (lines : List Text) : ℤ :=
  lines.countP isEnd - lines.countP (opens dialect)

/-- `LeastRemoval dialect lines kept` says that `kept` are the lines without some ends, and that as
few of these are gone as must go. -/
structure LeastRemoval (dialect : Option Dialect) (lines kept : List Text) : Prop where
  drops : DropsEnds lines kept
  matched : Matched dialect kept
  /-- As many lines are dropped as ends outnumber openers in the worst front. The empty front is one
  of them, so that is never less than zero. -/
  removed : IsGreatest {n : ℤ | ∃ front, front <+: lines ∧ surplus dialect front = n}
    ((lines.length : ℤ) - kept.length)
  least : ∀ other, DropsEnds lines other → Matched dialect other → other.length ≤ kept.length
  unchanged : kept = lines ↔ Matched dialect lines

/-! ## The worst front -/

/-- `Excess dialect depth lines n` says that `n` ends too many stand in the worst front of the
lines, where `depth` blocks are open before them; or none, if there are too many in no front. -/
structure Excess (dialect : Option Dialect) (depth : Nat) (lines : List Text) (n : Nat) :
    Prop where
  bound : ∀ front, front <+: lines →
    front.countP isEnd ≤ n + depth + front.countP (opens dialect)
  attained : n = 0 ∨ ∃ front, front <+: lines ∧
    front.countP isEnd = n + depth + front.countP (opens dialect)

theorem excess_nil (dialect : Option Dialect) (depth : Nat) : Excess dialect depth [] 0 :=
  ⟨by simp, .inl rfl⟩

/-- Where no block is open before the lines, the empty front has no end too many. -/
theorem Excess.exists_front {lines : List Text} {n : Nat} (h : Excess dialect 0 lines n) :
    ∃ front, front <+: lines ∧ front.countP isEnd = n + front.countP (opens dialect) := by
  rcases h.attained with rfl | hfront
  · exact ⟨[], List.nil_prefix, rfl⟩
  · exact hfront

/-- An end without an open block makes every front worse by one. -/
theorem Excess.cons_dropped {line : Text} {lines : List Text} {n : Nat} (hend : isEnd line = true)
    (h : Excess dialect 0 lines n) : Excess dialect 0 (line :: lines) (n + 1) := by
  have hopens := opens_of_isEnd dialect hend
  refine ⟨?_, .inr ?_⟩
  · intro front hfront
    rcases List.prefix_cons_iff.1 hfront with rfl | ⟨rest, rfl, hrest⟩
    · simp
    · have := h.bound rest hrest
      simp only [List.countP_cons, hend, hopens, if_true, Bool.false_eq_true, if_false]
      omega
  · obtain ⟨rest, hrest, heq⟩ := h.exists_front
    refine ⟨line :: rest, List.cons_prefix_cons.2 ⟨rfl, hrest⟩, ?_⟩
    simp only [List.countP_cons, hend, hopens, if_true, Bool.false_eq_true, if_false]
    omega

/-- A line that is kept moves the depth by what it adds to openers and ends. -/
theorem add_countP_opens (dialect : Option Dialect) {depth : Nat} {line : Text}
    (h : ¬ (isEnd line = true ∧ depth = 0)) :
    depth + [line].countP (opens dialect) =
      depthAfter dialect depth line + [line].countP isEnd := by
  rw [depthAfter]
  cases hend : isEnd line with
  | true =>
    have hdepth : depth ≠ 0 := fun hzero => h ⟨hend, hzero⟩
    simp only [List.countP_singleton, opens_of_isEnd dialect hend, hend, if_true,
      Bool.false_eq_true, if_false]
    omega
  | false => by_cases hopens : opens dialect line = true <;> simp [hend, hopens]

/-- A line that is kept makes no front worse than the depth tells. -/
theorem Excess.cons_kept {depth : Nat} {line : Text} {lines : List Text} {n : Nat}
    (hkept : ¬ (isEnd line = true ∧ depth = 0))
    (h : Excess dialect (depthAfter dialect depth line) lines n) :
    Excess dialect depth (line :: lines) n := by
  have hstep := add_countP_opens dialect hkept
  refine ⟨?_, ?_⟩
  · intro front hfront
    rcases List.prefix_cons_iff.1 hfront with rfl | ⟨rest, rfl, hrest⟩
    · simp
    · have := h.bound rest hrest
      rw [← List.singleton_append, List.countP_append, List.countP_append]
      omega
  · refine h.attained.imp_right ?_
    rintro ⟨rest, hrest, heq⟩
    refine ⟨line :: rest, List.cons_prefix_cons.2 ⟨rfl, hrest⟩, ?_⟩
    rw [← List.singleton_append, List.countP_append, List.countP_append]
    omega

/-- As many lines are dropped as there are ends too many. -/
theorem exists_excess (dialect : Option Dialect) (depth : Nat) (lines : List Text) :
    ∃ n, Excess dialect depth lines n ∧
      lines.length = (balanceFrom dialect depth lines).length + n := by
  induction lines generalizing depth with
  | nil => exact ⟨0, excess_nil dialect depth, rfl⟩
  | cons line lines ih =>
    rw [balanceFrom_cons]
    by_cases h : isEnd line = true ∧ depth = 0
    · obtain ⟨n, hexcess, hlength⟩ := ih 0
      obtain ⟨hend, rfl⟩ := h
      refine ⟨n + 1, hexcess.cons_dropped hend, ?_⟩
      rw [if_pos ⟨hend, rfl⟩, List.length_cons, hlength, Nat.add_assoc]
    · obtain ⟨n, hexcess, hlength⟩ := ih (depthAfter dialect depth line)
      refine ⟨n, hexcess.cons_kept h, ?_⟩
      rw [if_neg h, List.length_cons, List.length_cons]
      omega

/-- Of every front as many ends must be dropped as it has too many. -/
theorem length_add_countP_le {lines other front : List Text} (h : DropsEnds lines other)
    (hmatched : Matched dialect other) (hfront : front <+: lines) :
    other.length + front.countP isEnd ≤ lines.length + front.countP (opens dialect) := by
  obtain ⟨rest, rfl⟩ := hfront
  obtain ⟨front', rest', rfl, hfront', hrest'⟩ := h.exists_of_append
  have hends := hmatched front' (List.prefix_append front' rest')
  have hopens := hfront'.countP_opens dialect
  have hlength := hfront'.length_add_countP
  have hle := hrest'.sublist.length_le
  rw [List.length_append, List.length_append]
  omega

theorem matched_balance (dialect : Option Dialect) (lines : List Text) :
    Matched dialect (balance dialect lines) := by
  intro front hfront
  have := countP_isEnd_le hfront
  omega

/-- Balancing drops exactly as many ends as must go. -/
theorem leastRemoval_balance (dialect : Option Dialect) (lines : List Text) :
    LeastRemoval dialect lines (balance dialect lines) := by
  have hdrops := dropsEnds_balance dialect lines
  obtain ⟨n, hexcess, hlength⟩ := exists_excess dialect 0 lines
  obtain ⟨worst, hworst, heq⟩ := hexcess.exists_front
  rw [← balance] at hlength
  have hleast : ∀ other, DropsEnds lines other → Matched dialect other →
      other.length ≤ (balance dialect lines).length := by
    intro other hother hmatched
    have := length_add_countP_le hother hmatched hworst
    omega
  refine ⟨hdrops, matched_balance dialect lines, ⟨⟨worst, hworst, ?_⟩, ?_⟩, hleast, ?_, ?_⟩
  · rw [surplus]
    omega
  · rintro m ⟨front, hfront, rfl⟩
    have := hexcess.bound front hfront
    rw [surplus]
    omega
  · intro h
    rw [← h]
    exact matched_balance dialect lines
  · intro h
    exact hdrops.sublist.eq_of_length_le (hleast lines (.refl lines) h)

/-- The worst front ends with the second of the ends that are dropped. -/
example : balance none ["end".toList, "subgraph A".toList, "end".toList, " end".toList,
      "subgraph B".toList, "end".toList] =
    ["subgraph A".toList, "end".toList, "subgraph B".toList, "end".toList] := by decide +kernel

end Block

end DiagramStudio
