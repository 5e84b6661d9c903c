import DiagramStudio.Proofs.Diagram.Label

/-!
# Normalized texts

The passes for labels run one after the other, each over spans that the others cut across. Their
results hold together all the same: in a normalized text every blank of every closed span is a lone
space, whatever delimiter the span belongs to, and normalizing once more changes nothing.

## Main definitions

- `Span.LoneSpaces`: a text whose blanks are spaces without blanks beside them
-/

namespace DiagramStudio

open Text Span

namespace Span

/-- A text in which every blank is a space and no blank stands beside another one. -/
structure LoneSpaces (t : Text) : Prop where
  space : ∀ c ∈ t, isBlank c = true → c = ' '
  apart : ∀ front b c rest, t = front ++ b :: c :: rest → isBlank b = false ∨ isBlank c = false

theorem loneSpaces_nil : LoneSpaces [] where
  space := by simp
  apart := by simp

theorem LoneSpaces.cons {c : Char} {t : Text} (ht : LoneSpaces t) (hc : isBlank c = true → c = ' ')
    (hnext : isBlank c = true → ∀ n, t.head? = some n → isBlank n = false) :
    LoneSpaces (c :: t) where
  space := by
    intro b hb
    rcases List.mem_cons.1 hb with rfl | hb
    · exact hc
    · exact ht.space b hb
  apart := by
    intro front a b rest h
    cases front with
    | nil =>
      obtain ⟨rfl, rfl⟩ := List.cons.inj h
      cases hb : isBlank c with
      | false => exact .inl rfl
      | true => exact .inr (hnext hb b rfl)
    | cons _ front =>
      obtain ⟨-, rfl⟩ := List.cons.inj h
      exact ht.apart front a b rest rfl

/-- A neat text has lone spaces, and none of them at its start if a blank stands before it. -/
theorem loneSpaces_of_neat {d : Delimiter} {p : Cursor} {gap : Bool} {t : Text}
    (h : neat d p gap t = true) :
    LoneSpaces t ∧ (gap = true → ∀ c, t.head? = some c → isBlank c = false) := by
  induction t generalizing p gap with
  | nil => exact ⟨loneSpaces_nil, by simp⟩
  | cons c t ih =>
    cases hb : isBlank c with
    | true =>
      rw [neat_cons_of_blank hb] at h
      simp only [Bool.and_eq_true, beq_iff_eq, Bool.not_eq_eq_eq_not, Bool.not_true] at h
      obtain ⟨⟨hspace, rfl⟩, h⟩ := h
      obtain ⟨ht, hnext⟩ := ih h
      exact ⟨ht.cons (fun _ => hspace) fun _ => hnext rfl, by simp⟩
    | false =>
      rw [neat_cons_of_not_blank hb, Bool.and_eq_true] at h
      obtain ⟨ht, -⟩ := ih h.2
      refine ⟨ht.cons (by simp [hb]) (by simp [hb]), ?_⟩
      rintro - n hn
      obtain rfl : c = n := by simpa using hn
      exact hb

end Span

namespace Label

/-- Curly braces enclose no labels in class diagrams, all other delimiters always do. -/
theorem mem_delimiters_iff {dialect : Option Dialect} {d : Delimiter} :
    d ∈ delimiters dialect ↔ (d = .curly → dialect ≠ some .classes) := by
  by_cases h : dialect = some .classes
  · cases d <;> simp [delimiters, h]
  · cases d <;> simp [delimiters, h]

/-- In the closed spans of a normalized text every blank is a lone space. -/
theorem loneSpaces_normalize {dialect : Option Dialect} {d : Delimiter}
    (hd : d = .curly → dialect ≠ some .classes) (code : Text) :
    ∀ span ∈ closedSpans d (normalize dialect code), LoneSpaces span ∧ '\n' ∉ span := by
  intro span hspan
  have hneat := neatSpans_normalize (mem_delimiters_iff.2 hd) code span hspan
  obtain ⟨hspaces, -⟩ := loneSpaces_of_neat hneat
  refine ⟨hspaces, fun hn => ?_⟩
  exact absurd (hspaces.space '\n' hn isBlank_newline) (by decide)

/-- The square pass joins the lines of a brace that it cuts across, the curly pass the rest. -/
theorem loneSpaces_normalize_crossing :
    (Delimiter.curly = .curly → some Dialect.flowchart ≠ some .classes) ∧
      closedSpans .curly (normalize (some .flowchart) "A\x7bx\n[y &\n \x7d\n z] B\x7b\n\t\x7d".toList) =
        ["\x7bx [y and \x7d".toList, "\x7b \x7d".toList] ∧
      ∀ span ∈ closedSpans .curly
        (normalize (some .flowchart) "A\x7bx\n[y &\n \x7d\n z] B\x7b\n\t\x7d".toList),
        LoneSpaces span ∧ '\n' ∉ span :=
  ⟨by decide, by decide +kernel, loneSpaces_normalize (by decide) _⟩

/-- Normalizing a second time changes nothing. -/
theorem normalize_normalize (dialect : Option Dialect) (code : Text) :
    normalize dialect (normalize dialect code) = normalize dialect code := by
  apply normalize_of_neat
  · intro d hd
    exact neatSpans_normalize hd code
  · intro line hline
    exact clean_of_mem_segmentLines hline

end Label

end DiagramStudio
