/-!
# Texts

A text is the list of its characters. This module holds the searches and cuts that every
other part of the library is written with: cutting at a mark, splitting at separators,
dropping a trailing run.
-/

namespace DiagramStudio

/-- A text as the list of its characters, so that passes over it are structural. -/
abbrev Text := List Char

namespace Text

/-- The pieces of a text between the characters that satisfy `sep`. There is always at
least one piece, and every separator starts a new one. -/
def segments (sep : Char → Bool) : Text → List Text
  | [] => [[]]
  | c :: t =>
    if sep c then [] :: segments sep t
    else
      match segments sep t with
      | [] => [[c]]
      | piece :: pieces => (c :: piece) :: pieces

/-- What follows `start` in a text that starts so. -/
def stripStart? : (start t : Text) → Option Text
  | [], t => some t
  | _ :: _, [] => none
  | s :: start, c :: t => if s = c then stripStart? start t else none

/-- `t` without the ending `ending`, if it has it. -/
def stripEnd? (ending t : Text) : Option Text :=
  (stripStart? ending.reverse t.reverse).map List.reverse

/-- What stands before and after the first occurrence of `mark`. -/
def cut? (mark : Text) : Text → Option (Text × Text)
  | [] => (stripStart? mark []).map fun rest => ([], rest)
  | c :: t =>
    match stripStart? mark (c :: t) with
    | some rest => some ([], rest)
    | none => (cut? mark t).map fun parts => (c :: parts.1, parts.2)

/-- What stands before and after the last occurrence of the character `mark`. -/
def cutLast? (mark : Char) : Text → Option (Text × Text)
  | [] => none
  | c :: t =>
    match cutLast? mark t with
    | some parts => some (c :: parts.1, parts.2)
    | none => if c = mark then some ([], t) else none

/-- The text before the first character that satisfies `stop`, and the rest from there. -/
def breakAt (stop : Char → Bool) (t : Text) : Text × Text :=
  (t.takeWhile fun c => !stop c, t.dropWhile fun c => !stop c)

/-- `t` without its longest trailing run of characters that satisfy `p`. -/
def dropTrailing (p : Char → Bool) (t : Text) : Text :=
  (t.reverse.dropWhile p).reverse

/-- ASCII letters in lower case, all other characters unchanged. -/
def lowercase (t : Text) : Text := t.map Char.toLower

/-! ## Small facts -/

theorem stripStart?_eq_some_iff {start t rest : Text} :
    stripStart? start t = some rest ↔ t = start ++ rest := by
  induction start generalizing t with
  | nil => simp [stripStart?]
  | cons s start ih =>
    cases t with
    | nil => simp [stripStart?]
    | cons c t =>
      by_cases h : s = c
      · simp [stripStart?, h, ih]
      · simp [stripStart?, h, Ne.symm h]

theorem stripStart?_eq_none_iff {start t : Text} :
    stripStart? start t = none ↔ ¬ start <+: t := by
  rw [Option.eq_none_iff_forall_ne_some]
  constructor
  · rintro h ⟨rest, hrest⟩
    exact h rest (stripStart?_eq_some_iff.2 hrest.symm)
  · intro h rest hrest
    exact h ⟨rest, (stripStart?_eq_some_iff.1 hrest).symm⟩

theorem stripEnd?_eq_some_iff {ending t rest : Text} :
    stripEnd? ending t = some rest ↔ t = rest ++ ending := by
  rw [stripEnd?, Option.map_eq_some_iff]
  constructor
  · rintro ⟨front, h, rfl⟩
    simpa using congrArg List.reverse (stripStart?_eq_some_iff.1 h)
  · rintro rfl
    exact ⟨rest.reverse, stripStart?_eq_some_iff.2 (by simp), by simp⟩

theorem stripEnd?_eq_none_iff {ending t : Text} :
    stripEnd? ending t = none ↔ ¬ ending <:+ t := by
  rw [stripEnd?, Option.map_eq_none_iff, stripStart?_eq_none_iff, List.reverse_prefix]

/-- The parts and the mark make up the text. -/
theorem cut?_eq_some {mark t before after : Text} (h : cut? mark t = some (before, after)) :
    t = before ++ mark ++ after := by
  induction t generalizing before after with
  | nil =>
    obtain ⟨rest, hr, h⟩ := Option.map_eq_some_iff.1 h
    simp_all [stripStart?_eq_some_iff]
  | cons c t ih =>
    rw [cut?] at h
    split at h
    · simp_all [stripStart?_eq_some_iff]
    · obtain ⟨parts, hp, h⟩ := Option.map_eq_some_iff.1 h
      obtain ⟨rfl, rfl⟩ := Prod.mk.inj h
      simp [ih hp]

/-- A mark does not begin before its first character. -/
theorem cut?_append_of_not_mem {c : Char} {t : Text} (h : c ∉ t) (m u : Text) :
    cut? (c :: m) (t ++ u) = (cut? (c :: m) u).map fun parts => (t ++ parts.1, parts.2) := by
  induction t with
  | nil => simp
  | cons d t ih =>
    rw [List.mem_cons, not_or] at h
    have hstrip : stripStart? (c :: m) (d :: (t ++ u)) = none := by
      rw [stripStart?, if_neg h.1]
    rw [List.cons_append, cut?, hstrip]
    dsimp only
    rw [ih h.2, Option.map_map]
    rfl

theorem prefix_append_cases {α : Type} {front u t : List α} (h : front <+: u ++ t) :
    front <+: u ∨ ∃ rest, rest <+: t ∧ front = u ++ rest := by
  obtain ⟨after, hafter⟩ := h
  rcases List.append_eq_append_iff.1 hafter with ⟨rest, rfl, -⟩ | ⟨rest, rfl, hrest⟩
  · exact .inl (List.prefix_append front rest)
  · exact .inr ⟨rest, ⟨after, hrest.symm⟩, rfl⟩

/-- A prefix ends before an element of the list, or it holds all up to that element. -/
theorem prefix_append_cons_cases {α : Type} {front u t : List α} {c : α}
    (h : front <+: u ++ c :: t) : front <+: u ∨ ∃ rest, rest <+: t ∧ front = u ++ c :: rest := by
  rcases prefix_append_cases h with hfront | ⟨rest, hrest, rfl⟩
  · exact .inl hfront
  · rcases List.prefix_cons_iff.1 hrest with rfl | ⟨rest, rfl, ht⟩
    · exact .inl (by simp)
    · exact .inr ⟨rest, ht, rfl⟩

/-- A mark within two texts is within the second one, if the first one lacks its first
character. -/
theorem infix_of_append_left {c : Char} {m u t : Text} (hu : c ∉ u) (h : c :: m <:+: u ++ t) :
    c :: m <:+: t := by
  induction u with
  | nil => exact h
  | cons d u ih =>
    rw [List.mem_cons, not_or] at hu
    rw [List.cons_append, List.infix_cons_iff, List.cons_prefix_cons] at h
    rcases h with ⟨hc, -⟩ | h
    · exact absurd hc hu.1
    · exact ih hu.2 h

theorem cut?_of_not_mem {c : Char} {t : Text} (h : c ∉ t) (m : Text) : cut? (c :: m) t = none := by
  have hcut := cut?_append_of_not_mem h m []
  rwa [List.append_nil] at hcut

theorem cut?_append_cons {c : Char} {t : Text} (h : c ∉ t) (u : Text) :
    cut? [c] (t ++ c :: u) = some (t, u) := by
  rw [cut?_append_of_not_mem h, cut?]
  simp [stripStart?]

/-- Only a text without the mark cannot be cut. -/
theorem cutLast?_eq_none_iff {mark : Char} {t : Text} : cutLast? mark t = none ↔ mark ∉ t := by
  induction t with
  | nil => simp [cutLast?]
  | cons c t ih =>
    rw [cutLast?]
    split
    · next parts hp =>
      have : mark ∈ t := by
        apply Classical.byContradiction
        intro h
        simp [ih.2 h] at hp
      simp [this]
    · next hn =>
      have : mark ∉ t := ih.1 hn
      by_cases hc : c = mark
      · simp [hc]
      · simp [hc, this, Ne.symm hc]

/-- The parts and the mark make up the text, and no mark follows. -/
theorem cutLast?_eq_some {mark : Char} {t before after : Text}
    (h : cutLast? mark t = some (before, after)) :
    t = before ++ mark :: after ∧ mark ∉ after := by
  induction t generalizing before after with
  | nil => simp [cutLast?] at h
  | cons c t ih =>
    rw [cutLast?] at h
    split at h
    · next parts hp =>
      obtain ⟨rfl, rfl⟩ := Prod.mk.inj (Option.some.inj h)
      simpa using ih hp
    · next hn =>
      split at h
      · next hc =>
        obtain ⟨rfl, rfl⟩ := Prod.mk.inj (Option.some.inj h)
        exact ⟨by simp [hc], cutLast?_eq_none_iff.1 hn⟩
      · simp at h

theorem segments_ne_nil (sep : Char → Bool) (t : Text) : segments sep t ≠ [] := by
  cases t with
  | nil => simp [segments]
  | cons c t =>
    rw [segments]
    split
    · simp
    · split <;> simp

theorem segments_of_forall {sep : Char → Bool} {t : Text} (h : ∀ c ∈ t, sep c = false) :
    segments sep t = [t] := by
  induction t with
  | nil => rfl
  | cons c t ih =>
    have ht := ih fun d hd => h d (List.mem_cons_of_mem c hd)
    simp [segments, h c (List.mem_cons_self ..), ht]

/-- The first separator ends the first piece. -/
theorem segments_append_cons {sep : Char → Bool} {p t : Text} {c : Char} (hc : sep c = true)
    (h : ∀ d ∈ p, sep d = false) : segments sep (p ++ c :: t) = p :: segments sep t := by
  induction p with
  | nil => simp [segments, hc]
  | cons d p ih =>
    have hp := ih fun e he => h e (List.mem_cons_of_mem d he)
    simp [segments, h d (List.mem_cons_self ..), hp]

theorem dropWhile_dropWhile (p : Char → Bool) (t : Text) :
    (t.dropWhile p).dropWhile p = t.dropWhile p := by
  induction t with
  | nil => rfl
  | cons c t ih =>
    by_cases h : p c
    · simpa [h] using ih
    · simp [h]

/-- What is dropped at the end satisfies the test. -/
theorem exists_dropTrailing (p : Char → Bool) (t : Text) :
    ∃ v, (∀ c ∈ v, p c = true) ∧ t = dropTrailing p t ++ v := by
  refine ⟨(t.reverse.takeWhile p).reverse, ?_, ?_⟩
  · intro c hc
    exact List.all_eq_true.1 List.all_takeWhile c (List.mem_reverse.1 hc)
  · rw [dropTrailing, ← List.reverse_append, List.takeWhile_append_dropWhile, List.reverse_reverse]

theorem getLast?_dropTrailing {p : Char → Bool} {t : Text} {c : Char}
    (h : (dropTrailing p t).getLast? = some c) : p c = false := by
  have hhead := List.head?_dropWhile_not p t.reverse
  rw [dropTrailing, List.getLast?_reverse] at h
  simpa [h] using hhead

theorem dropTrailing_append_of_forall {p : Char → Bool} {v : Text} (hv : ∀ c ∈ v, p c = true)
    (t : Text) : dropTrailing p (t ++ v) = dropTrailing p t := by
  rw [dropTrailing, dropTrailing, List.reverse_append]
  congr 1
  exact List.dropWhile_append_of_pos fun c hc => hv c (List.mem_reverse.1 hc)

theorem dropTrailing_of_last {p : Char → Bool} {t : Text}
    (h : ∀ c, t.getLast? = some c → p c = false) : dropTrailing p t = t := by
  rw [← List.head?_reverse] at h
  rw [dropTrailing, List.reverse_eq_iff]
  cases ht : t.reverse with
  | nil => rfl
  | cons c u => exact List.dropWhile_cons_of_neg (by simp [h c (by rw [ht]; rfl)])

theorem dropTrailing_dropTrailing (p : Char → Bool) (t : Text) :
    dropTrailing p (dropTrailing p t) = dropTrailing p t :=
  dropTrailing_of_last fun _ => getLast?_dropTrailing

end Text

end DiagramStudio
