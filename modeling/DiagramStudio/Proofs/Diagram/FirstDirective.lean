import DiagramStudio.Proofs.Diagram.SingleLine
import Mathlib.Data.List.Nodup
import Mathlib.Data.List.TakeWhile

/-!
# The first directive

A dialect is found in a text, whose lines may end in carriage returns, and lines are aligned in a
list. Both searches stop at the same line. Which dialect a line declares is said here without the
order in which the keywords are tried: of two keywords that the line starts with the longer counts.

## Main definitions

- `Dialect.Names`: the keyword of a dialect is the first word of a line
- `Dialect.Declares`: no longer keyword is so
-/

namespace DiagramStudio

open Text

namespace Text

theorem startsWithWord_iff {word t : Text} :
    startsWithWord word t = true ↔
      ∃ rest, t = word ++ rest ∧ ∀ c, rest.head? = some c → isWordChar c = false := by
  rw [startsWithWord]
  cases h : stripStart? word t with
  | none =>
    rw [stripStart?_eq_none_iff] at h
    refine ⟨by simp, ?_⟩
    rintro ⟨rest, rfl, -⟩
    exact absurd (List.prefix_append word rest) h
  | some rest =>
    obtain rfl := stripStart?_eq_some_iff.1 h
    cases rest with
    | nil => simp
    | cons c rest => simp

end Text

namespace Dialect

/-- The line starts with the keyword of the dialect, behind its indentation, and the keyword ends
where a word ends. -/
def Names (dialect : Dialect) (line : Text) : Prop :=
  ∃ indent rest, (∀ c ∈ indent, isBlank c = true) ∧ line = indent ++ (dialect.keyword ++ rest) ∧
    ∀ c, rest.head? = some c → isWordChar c = false

/-- The line declares the dialect: it names no other one with a longer keyword. -/
structure Declares (dialect : Dialect) (line : Text) : Prop where
  names : dialect.Names line
  longest : ∀ other : Dialect, other.Names line → other.keyword.length ≤ dialect.keyword.length

variable {dialect : Dialect} {line : Text}

/-! ## Keywords -/

theorem mem_all (dialect : Dialect) : dialect ∈ all := by
  cases dialect <;> decide

theorem nodup_map_keyword : (all.map keyword).Nodup := by decide

theorem pairwise_all :
    all.Pairwise fun first second => second.keyword.length ≤ first.keyword.length := by
  decide

theorem trimmed_keyword (dialect : Dialect) : Trimmed dialect.keyword := by
  have hink : dialect.keyword.all (fun c => !isBlank c) = true := by cases dialect <;> decide
  exact trimmed_of_ink fun c hc => by simpa using List.all_eq_true.1 hink c hc

theorem keyword_ne_nil (dialect : Dialect) : dialect.keyword ≠ [] := by
  cases dialect <;> decide

/-- Of the blanks around a line none belongs to its first word. -/
theorem names_iff : dialect.Names line ↔ startsWithWord dialect.keyword (trim line) = true := by
  rw [startsWithWord_iff]
  constructor
  · rintro ⟨indent, rest, hindent, rfl, hrest⟩
    obtain ⟨v, hv, hsplit, hlast⟩ := exists_trimEnd rest
    refine ⟨trimEnd rest, ?_, fun c hc => hrest c ?_⟩
    · have htrimmed := (trimmed_keyword dialect).append (keyword_ne_nil dialect) hlast
      conv_lhs =>
        rw [trim_blank_append hindent, hsplit, ← List.append_assoc, trim_append_blank hv,
          htrimmed.trim_eq]
    · rw [hsplit, List.head?_append, hc, Option.some_or]
  · rintro ⟨rest, htrim, hrest⟩
    obtain ⟨w, v, hw, hv, hline, -⟩ := exists_trim line
    rw [htrim, List.append_assoc] at hline
    refine ⟨w, rest ++ v, hw, hline, fun c hc => ?_⟩
    cases rest with
    | nil => exact isWordChar_of_isBlank (hv c (List.mem_of_mem_head? hc))
    | cons c' rest => exact hrest c hc

/-! ## Declared dialects -/

theorem Declares.of_ofDirective? (h : ofDirective? line = some dialect) :
    dialect.Declares line := by
  obtain ⟨hnamed, before, after, hall, hbefore⟩ := List.find?_eq_some_iff_append.1 h
  refine ⟨names_iff.2 hnamed, fun other hother => ?_⟩
  have hmem := mem_all other
  have hsorted := pairwise_all
  rw [hall] at hmem hsorted
  rcases List.mem_append.1 hmem with hmem | hmem
  · have hskipped := hbefore other hmem
    rw [names_iff.1 hother] at hskipped
    simp at hskipped
  · rcases List.mem_cons.1 hmem with rfl | hmem
    · exact Nat.le_refl _
    · exact List.rel_of_pairwise_cons (List.pairwise_append.1 hsorted).2.1 hmem

/-- A line declares one dialect only: two keywords of one length do not both start it. -/
theorem Declares.unique {other : Dialect} (h : dialect.Declares line)
    (hother : other.Declares line) : dialect = other := by
  obtain ⟨rest, hrest, -⟩ := startsWithWord_iff.1 (names_iff.1 h.names)
  obtain ⟨rest', hrest', -⟩ := startsWithWord_iff.1 (names_iff.1 hother.names)
  have hlength : dialect.keyword.length = other.keyword.length :=
    Nat.le_antisymm (hother.longest dialect h.names) (h.longest other hother.names)
  have hkeyword := List.append_inj_left (hrest.symm.trans hrest') hlength
  exact List.inj_on_of_nodup_map nodup_map_keyword (mem_all dialect) (mem_all other) hkeyword

theorem ofDirective?_eq_some_iff : ofDirective? line = some dialect ↔ dialect.Declares line := by
  refine ⟨.of_ofDirective?, fun h => ?_⟩
  cases hfound : ofDirective? line with
  | none =>
    have hskipped := List.find?_eq_none.1 hfound dialect (mem_all dialect)
    exact absurd (names_iff.1 h.names) hskipped
  | some found => rw [(Declares.of_ofDirective? hfound).unique h]

theorem ofDirective?_eq_none_iff :
    ofDirective? line = none ↔ ∀ dialect : Dialect, ¬ dialect.Declares line := by
  simp only [Option.eq_none_iff_forall_ne_some, ne_eq, ofDirective?_eq_some_iff]

end Dialect

/-! ## Both searches -/

namespace Layout

open Dialect

variable {pieces : List Text}

theorem detect?_joinLines (h : ∀ line ∈ pieces, '\n' ∉ line) :
    detect? (joinLines pieces) = pieces.findSome? ofDirective? := by
  cases pieces with
  | nil => rfl
  | cons line pieces => rw [detect?_eq, segmentLines_joinLines (List.cons_ne_nil line pieces) h]

theorem findSome?_eq_some_iff_align {dialect : Dialect} :
    pieces.findSome? ofDirective? = some dialect ↔
      ∃ first rest, align pieces = first :: rest ∧ dialect.Declares first := by
  simp only [← ofDirective?_eq_some_iff]
  refine ⟨align_of_findSome?, ?_⟩
  rintro ⟨first, rest, halign, hfirst⟩
  cases hfound : pieces.findSome? ofDirective? with
  | none =>
    rw [align_of_findSome?_eq_none hfound] at halign
    have hnone := List.findSome?_eq_none_iff.1 hfound first (by simp [halign])
    exact hnone.symm.trans hfirst
  | some found =>
    obtain ⟨first', rest', halign', hfirst'⟩ := align_of_findSome? hfound
    obtain ⟨rfl, -⟩ := List.cons.inj (halign.symm.trans halign')
    exact hfirst'.symm.trans hfirst

theorem not_declares_of_mem_preamble {line : Text} (h : line ∈ preamble pieces)
    (dialect : Dialect) : ¬ dialect.Declares line := by
  rw [preamble] at h
  split at h
  · have hskipped := List.mem_takeWhile_imp h
    have hnone : ofDirective? line = none := by simpa [isDirective] using hskipped
    exact ofDirective?_eq_none_iff.1 hnone dialect
  · simp at h

/-- The dialect that is found in joined lines is the one that the first aligned line declares. Only
lines that declare nothing are dropped before it, and none is if no line declares a dialect. -/
theorem detect?_joinLines_iff_align (pieces : List Text) (h : ∀ line ∈ pieces, '\n' ∉ line) :
    (∀ dialect, detect? (joinLines pieces) = some dialect ↔
        ∃ first rest, align pieces = first :: rest ∧ dialect.Declares first) ∧
      (∀ dialect, detect? (joinLines pieces) = some dialect →
        ∃ dropped, dropped ++ align pieces = pieces ∧
          ∀ line ∈ dropped, ∀ other : Dialect, ¬ other.Declares line) ∧
      (detect? (joinLines pieces) = none ↔
        ∀ line ∈ pieces, ∀ dialect : Dialect, ¬ dialect.Declares line) ∧
      (detect? (joinLines pieces) = none → align pieces = pieces) := by
  simp only [detect?_joinLines h]
  refine ⟨fun dialect => findSome?_eq_some_iff_align, fun _ _ => ?_, ?_,
    align_of_findSome?_eq_none⟩
  · exact ⟨preamble pieces, preamble_append_align pieces, fun _ => not_declares_of_mem_preamble⟩
  · rw [List.findSome?_eq_none_iff]
    simp only [ofDirective?_eq_none_iff]

/-- The longer one of two keywords, with carriage returns and behind a word that starts with a
keyword. -/
theorem detect?_joinLines_iff_align_states : ∃ pieces : List Text,
    pieces = ["Sure:\r".toList, [], "graphql --> api\r".toList, "\tstateDiagram-v2\r".toList,
      "graph TD".toList] ∧
    (∀ line ∈ pieces, '\n' ∉ line) ∧ detect? (joinLines pieces) = some .statesV2 ∧
    (∃ first rest, align pieces = first :: rest ∧ statesV2.Declares first) ∧
    ∃ dropped, dropped ++ align pieces = pieces ∧
      ∀ line ∈ dropped, ∀ other : Dialect, ¬ other.Declares line := by
  refine ⟨_, rfl, ?_⟩
  generalize hpieces : ["Sure:\r".toList, [], "graphql --> api\r".toList,
    "\tstateDiagram-v2\r".toList, "graph TD".toList] = pieces
  have hlines : ∀ line ∈ pieces, '\n' ∉ line := by
    subst hpieces
    decide
  have hfound : detect? (joinLines pieces) = some .statesV2 := by
    subst hpieces
    decide +kernel
  obtain ⟨hfirst, hdropped, -⟩ := detect?_joinLines_iff_align pieces hlines
  exact ⟨hlines, hfound, (hfirst _).1 hfound, hdropped _ hfound⟩

end Layout

end DiagramStudio
