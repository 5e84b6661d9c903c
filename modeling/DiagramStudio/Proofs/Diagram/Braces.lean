import DiagramStudio.Proofs.Diagram.ClassLine
import DiagramStudio.Proofs.Diagram.SingleLine

/-!
# Curly braces

`level` counts the braces that are open after a text, and fails where one is closed that was not
opened. Blanks and separators do not matter to it, so every pass of a repair but the fold over class
diagrams and alignment keeps it: `braces_repair` says which braces a repaired diagram has.

## Main definitions

- `Braces.level`: the braces open after a text
- `Braces.Balanced`: texts that close each brace they open
- `Braces.braces`: the braces of a text alone
-/

namespace DiagramStudio

open Text

namespace Braces

/-- How many braces are open after `c`, unless `c` closes a brace and none is open. -/
def after (n : Nat) (c : Char) : Option Nat :=
  if c = '{' then some (n + 1)
  else if c = '}' then
    if n = 0 then none else some (n - 1)
  else some n

/-- How many braces are open after a text with `n` open before it, if none is closed too often. -/
def level (n : Nat) (t : Text) : Option Nat := t.foldlM after n

/-- A text that closes each brace it opens and no other. -/
def Balanced (t : Text) : Prop :=
  t.count '{' = t.count '}' ∧ ∀ front, front <+: t → front.count '}' ≤ front.count '{'

/-- The braces of a text alone. -/
def braces (t : Text) : Text := t.filter fun c => c == '{' || c == '}'

/-! ## Levels -/

@[simp]
theorem level_nil (n : Nat) : level n [] = some n := rfl

theorem level_cons (n : Nat) (c : Char) (t : Text) :
    level n (c :: t) = (after n c).bind fun m => level m t := List.foldlM_cons ..

theorem level_append (n : Nat) (t u : Text) :
    level n (t ++ u) = (level n t).bind fun m => level m u := List.foldlM_append ..

theorem after_of_ne {c : Char} (ho : c ≠ '{') (hc : c ≠ '}') (n : Nat) : after n c = some n := by
  rw [after, if_neg ho, if_neg hc]

/-- Braces that are open before a text stay open. -/
theorem level_add {n m : Nat} {t : Text} (h : level n t = some m) (k : Nat) :
    level (n + k) t = some (m + k) := by
  induction t generalizing n with
  | nil =>
    obtain rfl := Option.some.inj h
    rfl
  | cons c t ih =>
    rw [level_cons, Option.bind_eq_some_iff] at h ⊢
    obtain ⟨j, hj, h⟩ := h
    refine ⟨j + k, ?_, ih h⟩
    rw [after] at hj ⊢
    split at hj
    · next ho =>
      have : j = n + 1 := (Option.some.inj hj).symm
      rw [if_pos ho, show n + k + 1 = j + k by omega]
    · next ho =>
      rw [if_neg ho]
      split at hj
      · next hc =>
        split at hj
        · simp at hj
        · have : j = n - 1 := (Option.some.inj hj).symm
          rw [if_pos hc, if_neg (by omega), show n + k - 1 = j + k by omega]
      · next hc => rw [if_neg hc, ← Option.some.inj hj]

theorem level_of_level_zero {k : Nat} {t : Text} (h : level 0 t = some k) (n : Nat) :
    level n t = some (n + k) := by
  have := level_add h n
  rwa [Nat.zero_add, Nat.add_comm k n] at this

theorem forall_prefix_cons {P : Text → Prop} {c : Char} {t : Text} :
    (∀ front, front <+: c :: t → P front) ↔ P [] ∧ ∀ front, front <+: t → P (c :: front) := by
  constructor
  · intro h
    exact ⟨h [] List.nil_prefix, fun front hf => h _ (List.cons_prefix_cons.2 ⟨rfl, hf⟩)⟩
  · rintro ⟨hnil, h⟩ front hf
    rcases List.prefix_cons_iff.1 hf with rfl | ⟨rest, rfl, hrest⟩
    · exact hnil
    · exact h rest hrest

/-- Levels count braces. -/
theorem level_eq_some_iff {n m : Nat} {t : Text} :
    level n t = some m ↔ n + t.count '{' = m + t.count '}' ∧
      ∀ front, front <+: t → front.count '}' ≤ n + front.count '{' := by
  induction t generalizing n with
  | nil => simp
  | cons c t ih =>
    rw [level_cons, forall_prefix_cons]
    by_cases ho : c = '{'
    · subst ho
      have hcomm : ∀ a : Nat, n + 1 + a = n + (a + 1) := by omega
      rw [after, if_pos rfl, Option.bind_some, ih]
      simp [hcomm]
    · by_cases hc : c = '}'
      · subst hc
        rw [after, if_neg ho, if_pos rfl]
        split
        · next hn =>
          -- The first prefix closes a brace that was never opened.
          constructor
          · simp
          · rintro ⟨-, -, h⟩
            have := h [] List.nil_prefix
            simp [hn] at this
        · next hn =>
          obtain ⟨k, rfl⟩ := Nat.exists_eq_succ_of_ne_zero hn
          have hcount : ∀ a b : Nat, a + 1 ≤ k + 1 + b ↔ a ≤ k + b := by omega
          have htotal : ∀ a b : Nat, k + 1 + a = m + (b + 1) ↔ k + a = m + b := by omega
          rw [Option.bind_some, Nat.succ_sub_one, ih]
          simp [hcount, htotal]
      · rw [after_of_ne ho hc, Option.bind_some, ih]
        simp [ho, hc]

theorem balanced_iff {t : Text} : Balanced t ↔ level 0 t = some 0 := by
  rw [level_eq_some_iff, Balanced]
  simp

/-! ## Braces alone -/

theorem level_braces (n : Nat) (t : Text) : level n (braces t) = level n t := by
  induction t generalizing n with
  | nil => rfl
  | cons c t ih =>
    rw [braces, List.filter_cons, ← braces]
    split
    · rw [level_cons, level_cons]
      congr 1
      funext m
      exact ih m
    · next hc =>
      simp only [Bool.or_eq_true, beq_iff_eq, not_or] at hc
      rw [level_cons, after_of_ne hc.1 hc.2, Option.bind_some, ih]

@[simp]
theorem braces_append (t u : Text) : braces (t ++ u) = braces t ++ braces u := List.filter_append ..

theorem braces_of_forall {t : Text} (h : ∀ c ∈ t, c ≠ '{' ∧ c ≠ '}') : braces t = [] := by
  rw [braces, List.filter_eq_nil_iff]
  intro c hc
  simp [h c hc]

theorem braces_of_idle {t : Text} (h : Span.Idle t) : braces t = [] := by
  apply braces_of_forall
  intro c hc
  constructor
  · rintro rfl
    exact absurd (h _ hc) (by decide)
  · rintro rfl
    exact absurd (h _ hc) (by decide)

theorem braces_of_blank {t : Text} (h : ∀ c ∈ t, isBlank c = true) : braces t = [] :=
  braces_of_idle (Span.idle_of_blank h)

theorem braces_trim (t : Text) : braces (trim t) = braces t := by
  obtain ⟨w, v, hw, hv, ht, -⟩ := exists_trim t
  conv_rhs => rw [ht, braces_append, braces_append, braces_of_blank hw, braces_of_blank hv]
  simp

theorem braces_terminated (pieces : List Text) :
    braces (terminated pieces) = pieces.flatMap braces := by
  induction pieces with
  | nil => rfl
  | cons piece pieces ih =>
    have hnewline : braces ['\n'] = [] := by decide
    rw [terminated_cons, ← List.singleton_append, braces_append, braces_append, hnewline, ih]
    rfl

theorem braces_joinLines (pieces : List Text) :
    braces (joinLines pieces) = pieces.flatMap braces := by
  cases pieces with
  | nil => rfl
  | cons piece pieces =>
    have hnewline : braces ['\n'] = [] := by decide
    rw [← braces_terminated, ← joinLines_append_newline (by simp), braces_append, hnewline,
      List.append_nil]

/-- Passes that leave delimiters alone keep the braces. -/
theorem braces_of_rework {R : Span.Change} (hR : Span.Inert R) {b : Bool} {t u : Text}
    (h : Span.Rework R b t u) : braces u = braces t := by
  induction h with
  | nil => rfl
  | keep b c _ ih => rw [← List.singleton_append, braces_append, ih, ← braces_append]; rfl
  | change hr _ ih =>
    obtain ⟨⟨hx, -⟩, hy, -⟩ := hR _ _ _ _ hr
    rw [braces_append, braces_append, braces_of_idle hx, braces_of_idle hy, ih]

theorem braces_normalize (dialect : Option Dialect) (t : Text) :
    braces (Label.normalize dialect t) = braces t := by
  have hcollapse := Label.collapseAll_keeps (f := braces)
    (fun d t => braces_of_rework Span.inert_respell (Span.rework_collapse d false t)) dialect t
  have hedges := braces_of_rework Span.inert_respell (Label.rework_edges dialect t false)
  rw [hedges, hcollapse]

end Braces

namespace Repair

open Braces Layout Block

theorem braces_newline_cons (t : Text) : braces ('\n' :: t) = braces t := rfl

theorem braces_compactLines (dialect : Option Dialect) (source : Text) :
    (compactLines dialect source).flatMap braces = braces (rebuilt dialect source) := by
  have h := braces_of_rework Span.inert_edit (rework_compactLines dialect source false)
  rw [braces_newline_cons, braces_newline_cons, braces_terminated, braces_append,
    braces_normalize] at h
  rw [h]
  exact List.append_nil _

/-- Only alignment drops braces. -/
theorem braces_repair (code : Text) :
    braces (repair code) =
      (align (compactLines (Dialect.detect? (source code)) (source code))).flatMap braces := by
  have h := braces_of_rework Span.inert_dropLines (rework_balance (Dialect.detect? (source code))
    (align (compactLines (Dialect.detect? (source code)) (source code))) false)
  rw [braces_newline_cons, braces_newline_cons, braces_terminated, braces_terminated] at h
  rw [repair_eq, braces_trim, braces_joinLines]
  exact h

end Repair
end DiagramStudio
